/-! # Runs of a system that answers step by step

A run keeps every turn: the state before it, the step taken, and the answer
given. Equal turns at different places stay apart, so counting over the turns
counts occurrences. A property of the turns so far and of the state reached
holds after every run as soon as one step preserves it.
-/

namespace BindTrace

structure Turn (σ ι α : Type) where
  before : σ
  step : ι
  answer : α

/-- The turns of a run, oldest first, and the state that it reached. -/
structure Run (σ ι α : Type) where
  turns : List (Turn σ ι α)
  final : σ

namespace Run

variable {σ ι α : Type}

def turn (next : σ → ι → α × σ) (state : σ) (step : ι) : Turn σ ι α :=
  ⟨state, step, (next state step).1⟩

def of (next : σ → ι → α × σ) (start : σ) : List ι → Run σ ι α
  | [] => ⟨[], start⟩
  | step :: rest =>
      let later := of next (next start step).2 rest
      ⟨turn next start step :: later.turns, later.final⟩

private theorem invariant_from {next : σ → ι → α × σ} {P : List (Turn σ ι α) → σ → Prop}
    (preserved : ∀ turns state step, P turns state →
      P (turns ++ [turn next state step]) (next state step).2)
    (steps : List ι) (turns : List (Turn σ ι α)) (state : σ) (h : P turns state) :
    P (turns ++ (of next state steps).turns) (of next state steps).final := by
  induction steps generalizing turns state with
  | nil => simpa [of] using h
  | cons step steps ih =>
      have hstep := preserved turns state step h
      have hrest := ih (turns ++ [turn next state step]) (next state step).2 hstep
      simpa [of] using hrest

/-- What one step preserves, whatever came before it, holds after every run. -/
theorem invariant {next : σ → ι → α × σ} {P : List (Turn σ ι α) → σ → Prop} {start : σ}
    (initial : P [] start)
    (preserved : ∀ turns state step, P turns state →
      P (turns ++ [turn next state step]) (next state step).2)
    (steps : List ι) : P (of next start steps).turns (of next start steps).final := by
  simpa using invariant_from preserved steps [] start initial

/-- What a turn in order preserves and guarantees holds of every run of such turns. -/
theorem safe {next : σ → ι → α × σ} {inOrder holds : Turn σ ι α → Prop} {I : σ → Prop}
    (preserved : ∀ state step, inOrder (turn next state step) → I state →
      holds (turn next state step) ∧ I (next state step).2)
    (steps : List ι) {start : σ} (initial : I start)
    (ordered : ∀ t ∈ (of next start steps).turns, inOrder t) :
    (∀ t ∈ (of next start steps).turns, holds t) ∧ I (of next start steps).final := by
  induction steps generalizing start with
  | nil => exact ⟨(fun t h => nomatch h), initial⟩
  | cons step steps ih =>
      have hfirst := preserved start step (ordered _ List.mem_cons_self) initial
      have hrest := ih hfirst.2 fun t h => ordered t (List.mem_cons_of_mem _ h)
      exact ⟨List.forall_mem_cons.mpr ⟨hfirst.1, hrest.1⟩, hrest.2⟩

/-- Every turn of a run is the turn that its step takes. -/
theorem eq_turn {next : σ → ι → α × σ} {start : σ} {steps : List ι} {t : Turn σ ι α}
    (h : t ∈ (of next start steps).turns) : t = turn next t.before t.step := by
  induction steps generalizing start with
  | nil => cases h
  | cons step steps ih =>
      rcases List.mem_cons.mp h with rfl | later
      · rfl
      · exact ih later

/-- A run takes the steps that it was given. -/
theorem map_step_of (next : σ → ι → α × σ) (start : σ) (steps : List ι) :
    (of next start steps).turns.map Turn.step = steps := by
  induction steps generalizing start with
  | nil => rfl
  | cons step steps ih => simp [of, turn, ih]

/-- A run can be split anywhere. -/
theorem of_append (next : σ → ι → α × σ) (start : σ) (steps later : List ι) :
    of next start (steps ++ later) =
      ⟨(of next start steps).turns ++ (of next (of next start steps).final later).turns,
        (of next (of next start steps).final later).final⟩ := by
  induction steps generalizing start with
  | nil => rfl
  | cons step steps ih =>
      rw [List.cons_append, of, ih]
      rfl

end Run

end BindTrace
