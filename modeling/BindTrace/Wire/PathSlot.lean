import BindTrace.Wire.Basic

/-!
# Path slots

Storing a string in a path slot keeps at most `pathCapacity` bytes of it, and reading a slot never
runs past its bytes, whatever length it claims.
-/

namespace BindTrace

def storedLength (length : Nat) : Nat :=
  min length pathCapacity

namespace PathSlot

def zero : PathSlot where
  length := 0
  bytes := Block.zero pathCapacity

/--
Stores the string, cut to the capacity, over the bytes in the slot.  Bytes behind it stay as they
were.
-/
def store (slot : PathSlot) (source : List UInt8) : PathSlot where
  length := UInt32.ofNat (storedLength source.length)
  bytes := slot.bytes.write 0 (source.take pathCapacity)

def contents (slot : PathSlot) : List UInt8 :=
  slot.bytes.toList.take (storedLength slot.length.toNat)

end PathSlot

end BindTrace
