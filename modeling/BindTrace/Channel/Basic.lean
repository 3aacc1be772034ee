import BindTrace.Wire.Image

/-!
# Channels of record slots

A probe asks a channel for a slot, fills it, and either publishes the record or gives the slot back.
A new slot holds whatever bytes its memory was left with, so it is cleared into a draft before
anything is written: a draft starts as the record of zero bytes, and only its own writes change it.
-/

namespace BindTrace

/-- A bounded channel that hands out slots of one record each. -/
class RecordChannel (ρ : Type) where
  reserve? : ρ → Option (Block Event.size × ρ)
  publish : ρ → Event → ρ
  discard : ρ → Block Event.size → ρ
  pop? : ρ → Option (Event × ρ)

structure Draft where
  record : Event

namespace Draft

def clear (slot : Block Event.size) : Draft where
  record := Event.ofBlock (slot.map fun _ => 0)

/-- A draft does not tell what its slot held before. -/
theorem clear_eq (slot : Block Event.size) :
    clear slot = { record := Event.ofBlock (Block.zero Event.size) } := by
  unfold clear
  congr 2
  ext i hi
  simp

end Draft

end BindTrace
