import BindTrace.Bytes.LittleEndian

/-!
# Memory that may be unmapped

A memory tells for each address which byte is there, if one is mapped.  A read of several bytes
succeeds when all of them are mapped.  Pointers are 64-bit words, and adding an offset to one wraps.
-/

namespace BindTrace

structure Memory where
  byte? : Nat → Option UInt8

namespace Memory

def empty : Memory where
  byte? := fun _ => none

def map (memory : Memory) (base : Nat) (bytes : Array UInt8) : Memory where
  byte? := fun address =>
    if base ≤ address ∧ address < base + bytes.size then bytes[address - base]?
    else memory.byte? address

def unmap (memory : Memory) (base length : Nat) : Memory where
  byte? := fun address =>
    if base ≤ address ∧ address < base + length then none
    else memory.byte? address

def ofRun (base : Nat) (bytes : Array UInt8) : Memory :=
  empty.map base bytes

def Mapped (memory : Memory) (address : UInt64) (n : Nat) : Prop :=
  ∀ i : Fin n, (memory.byte? (address.toNat + i.val)).isSome

instance (memory : Memory) (address : UInt64) (n : Nat) :
    Decidable (memory.Mapped address n) :=
  inferInstanceAs (Decidable (∀ i : Fin n, (memory.byte? (address.toNat + i.val)).isSome))

def read? (memory : Memory) (address : UInt64) (n : Nat) : Option (Block n) :=
  if h : memory.Mapped address n then
    some (Vector.ofFn fun i => (memory.byte? (address.toNat + i.val)).get (h i))
  else
    none

def word16? (memory : Memory) (address : UInt64) : Option UInt16 :=
  (memory.read? address 2).map Block.toUInt16

def word32? (memory : Memory) (address : UInt64) : Option UInt32 :=
  (memory.read? address 4).map Block.toUInt32

def word64? (memory : Memory) (address : UInt64) : Option UInt64 :=
  (memory.read? address 8).map Block.toUInt64

def pointer? (memory : Memory) (address : UInt64) : Option UInt64 :=
  (memory.word64? address).filter (· ≠ 0)

theorem read?_isSome {memory : Memory} {address : UInt64} {n : Nat} :
    (memory.read? address n).isSome ↔ memory.Mapped address n := by
  unfold read?
  split <;> simp_all

/-- A read returns the block exactly when each of its bytes is mapped where it should be. -/
theorem read?_eq_some_iff {memory : Memory} {address : UInt64} {n : Nat} {block : Block n} :
    memory.read? address n = some block ↔
      ∀ i (h : i < n), memory.byte? (address.toNat + i) = some block[i] := by
  unfold read?
  constructor
  · intro hread i hi
    split at hread
    · next hmapped =>
        cases hread
        simp
    · simp at hread
  · intro hbytes
    have hmapped : memory.Mapped address n := fun i => by simp [hbytes i.val i.isLt]
    rw [dif_pos hmapped]
    congr 1
    ext i hi
    simp [hbytes i hi]

end Memory

end BindTrace
