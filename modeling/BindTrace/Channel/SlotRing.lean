import BindTrace.Channel.Basic

/-!
# Rings measured in slots

The ring that the probes share with the agent, counted in whole records.  A slot is taken from its
reservation until the record is popped or the slot is given back.
-/

namespace BindTrace

structure SlotRing where
  slots : Nat
  taken : Nat := 0
  ready : List Event := []
  discarded : Nat := 0
  residue : Block Event.size := Block.zero Event.size

namespace SlotRing

def reserve? (ring : SlotRing) : Option (Block Event.size × SlotRing) :=
  if ring.taken < ring.slots then
    some (ring.residue, { ring with taken := ring.taken + 1 })
  else
    none

def publish (ring : SlotRing) (record : Event) : SlotRing :=
  { ring with ready := ring.ready ++ [record] }

def discard (ring : SlotRing) (slot : Block Event.size) : SlotRing :=
  { ring with
    taken := ring.taken - 1
    discarded := ring.discarded + 1
    residue := slot }

def pop? (ring : SlotRing) : Option (Event × SlotRing) :=
  match ring.ready with
  | [] => none
  | record :: rest =>
      some (record, { ring with
        taken := ring.taken - 1
        ready := rest
        residue := record.toBlock })

instance : RecordChannel SlotRing where
  reserve? := reserve?
  publish := publish
  discard := discard
  pop? := pop?

end SlotRing

end BindTrace
