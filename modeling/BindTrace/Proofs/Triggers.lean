import BindTrace.Triggers

/-! # Counting one firing

A firing raises the cell of its own processor and no other, and with it the
total, both as 64-bit words.
-/

namespace BindTrace

namespace Triggers

theorem sumCells_cons (value : UInt64) (cells : List UInt64) :
    sumCells (value :: cells) = value + sumCells cells := by
  have hfold : ∀ (cells : List UInt64) (start : UInt64),
      cells.foldl (· + ·) start = start + cells.foldl (· + ·) 0 := by
    intro cells
    induction cells with
    | nil => simp
    | cons cell rest ih =>
        intro start
        rw [List.foldl_cons, List.foldl_cons, ih, ih (0 + cell), UInt64.zero_add, UInt64.add_assoc]
  unfold sumCells
  rw [List.foldl_cons, hfold, UInt64.zero_add]

theorem sumCells_bump (processor : UInt32) (cells : List (UInt32 × UInt64)) :
    sumCells ((bump processor cells).map fun cell => cell.2) =
      sumCells (cells.map fun cell => cell.2) + 1 := by
  induction cells with
  | nil => rfl
  | cons cell rest ih =>
      unfold bump
      split
      · rw [List.map_cons, List.map_cons, sumCells_cons, sumCells_cons]
        ac_rfl
      · rw [List.map_cons, List.map_cons, sumCells_cons, sumCells_cons, ih]
        ac_rfl

/-- One more firing, on whatever processor, is one more in the total. -/
theorem total_count (triggers : Triggers) (processor : UInt32) :
    (triggers.count processor).total = triggers.total + 1 :=
  sumCells_bump processor triggers.cells

private theorem lookup_cons_ite (processor owner : UInt32) (value : UInt64)
    (rest : List (UInt32 × UInt64)) :
    ((owner, value) :: rest).lookup processor =
      if processor = owner then some value else rest.lookup processor := by
  rw [List.lookup_cons]
  by_cases h : processor = owner
  · simp [h]
  · simp [h, beq_eq_false_iff_ne.mpr h]

/-- Only the cell of the processor that fired is raised. -/
theorem cell_count (triggers : Triggers) (fired processor : UInt32) :
    (triggers.count fired).cell processor =
      triggers.cell processor + if processor = fired then 1 else 0 := by
  unfold count cell
  induction triggers.cells with
  | nil =>
      rw [bump, lookup_cons_ite]
      by_cases h : processor = fired <;> simp [h]
  | cons cell rest ih =>
      obtain ⟨owner, value⟩ := cell
      by_cases hfired : owner = fired
      · subst hfired
        rw [bump, if_pos rfl, lookup_cons_ite, lookup_cons_ite]
        by_cases h : processor = owner <;> simp [h]
      · rw [bump, if_neg hfired, lookup_cons_ite, lookup_cons_ite]
        by_cases h : processor = owner
        · subst h
          simp [hfired]
        · simpa [h] using ih

end Triggers

end BindTrace
