import BindTrace.Channel.Basic

/-!
# Rings measured in bytes

A ring of a fixed number of bytes.  A slot takes the bytes of one record from its reservation until
the record is popped or the slot is given back; a reservation that does not fit is refused.
-/

namespace BindTrace

structure ByteRing where
  capacity : Nat
  reserved : Nat := 0
  ready : List Event := []
  discarded : Nat := 0
  residue : Block Event.size := Block.zero Event.size

namespace ByteRing

def reserve? (ring : ByteRing) : Option (Block Event.size × ByteRing) :=
  if ring.reserved + Event.size ≤ ring.capacity then
    some (ring.residue, { ring with reserved := ring.reserved + Event.size })
  else
    none

def publish (ring : ByteRing) (record : Event) : ByteRing :=
  { ring with ready := ring.ready ++ [record] }

def discard (ring : ByteRing) (slot : Block Event.size) : ByteRing :=
  { ring with
    reserved := ring.reserved - Event.size
    discarded := ring.discarded + 1
    residue := slot }

/-- The oldest record, whose slot is free again and keeps its bytes. -/
def pop? (ring : ByteRing) : Option (Event × ByteRing) :=
  match ring.ready with
  | [] => none
  | record :: rest =>
      some (record, { ring with
        reserved := ring.reserved - Event.size
        ready := rest
        residue := record.toBlock })

instance : RecordChannel ByteRing where
  reserve? := reserve?
  publish := publish
  discard := discard
  pop? := pop?

end ByteRing

end BindTrace
