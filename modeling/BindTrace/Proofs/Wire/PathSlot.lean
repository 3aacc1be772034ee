import BindTrace.Proofs.Bytes.Slices
import BindTrace.Wire.PathSlot

/-! # Strings stored in a path slot

A string is stored up to the capacity of the slot, and the stored length says
how much of it is there, whatever the slot held before. Over zeros, zeros follow
it to the end.
-/

namespace BindTrace

theorem Block.toList_zero (n : Nat) : (Block.zero n).toList = List.replicate n 0 := by
  unfold Block.zero Block.fill
  exact Vector.toList_replicate

namespace PathSlot

/-- The slot holds the beginning of a string and nothing else. -/
structure Holds (slot : PathSlot) (source : List UInt8) : Prop where
  length_eq : slot.length.toNat = min source.length pathCapacity
  bytes_eq : slot.bytes.toList =
    source.take pathCapacity ++ List.replicate (pathCapacity - source.length) 0

theorem length_store (slot : PathSlot) (source : List UInt8) :
    (slot.store source).length.toNat = min source.length pathCapacity := by
  have hcapacity : min source.length pathCapacity ≤ 256 := Nat.min_le_right _ _
  rw [store, storedLength, UInt32.toNat_ofNat']
  exact Nat.mod_eq_of_lt (by omega)

theorem holds_store (source : List UInt8) : (zero.store source).Holds source := by
  have hfits : 0 + (source.take pathCapacity).length ≤ pathCapacity := by
    rw [Nat.zero_add]
    exact List.length_take_le _ _
  refine ⟨length_store zero source, ?_⟩
  rw [store, zero, Block.toList_write _ _ _ hfits, Block.toList_zero, List.take_zero,
    List.nil_append, List.drop_replicate, Nat.zero_add, List.length_take]
  congr 2
  omega

theorem contents_store {slot : PathSlot} (source : List UInt8) :
    (slot.store source).contents = source.take pathCapacity := by
  have hlength : (source.take pathCapacity).length = min source.length pathCapacity := by
    rw [List.length_take, Nat.min_comm]
  rw [contents, length_store, storedLength, Nat.min_eq_left (Nat.min_le_right _ _), ← hlength,
    store]
  exact Block.take_write_front _ _ (List.length_take_le _ _)

/-- Storing what a slot holds already changes nothing. -/
theorem store_contents_store (slot : PathSlot) (source : List UInt8) :
    (slot.store source).store (slot.store source).contents = slot.store source := by
  have htwice : (source.take pathCapacity).take pathCapacity = source.take pathCapacity := by
    rw [List.take_take, Nat.min_self]
  have hlength : storedLength (source.take pathCapacity).length = storedLength source.length := by
    rw [storedLength, storedLength, List.length_take, Nat.min_comm, ← Nat.min_assoc, Nat.min_self,
      Nat.min_comm]
  rw [contents_store, store, hlength, htwice]
  simp only [store, Block.write_write]

end PathSlot

end BindTrace
