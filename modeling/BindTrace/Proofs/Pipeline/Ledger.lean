import BindTrace.Proofs.Pipeline.Firing

/-! # The ledger of the pipeline

Firings, losses, records taken in and records given out are counted over the
turns of a run, and the ring is compared with the counts after every run from
an empty ring. What one step does to the ring keeps the two in balance, so no
slot is lost, freed twice, or handed out beyond the capacity.
-/

namespace BindTrace

namespace Pipeline

/-! ## Counting over a run -/

namespace Turn

def recorded? (turn : Pipeline.Turn) : Option Event :=
  match turn.step, turn.answer with
  | .entry args, .fired (.ok ()) => some (turn.before.entryEvent args)
  | .exit result, .fired (.ok ()) => some (turn.before.exitEvent result)
  | _, _ => none

def popped? (turn : Pipeline.Turn) : Option Event :=
  match turn.answer with
  | .popped event => event
  | _ => none

/-- A firing that had a slot but could not fill it. -/
def fails (turn : Pipeline.Turn) : Bool :=
  match turn.answer with
  | .fired (.error .metadataMissing) => turn.fires
  | .fired (.error .scratchExhausted) => turn.fires
  | _ => false

def abandons (turn : Pipeline.Turn) : Bool :=
  match turn.step, turn.answer with
  | .abandon _, .fired (.ok ()) => true
  | _, _ => false

/-- What a turn counts as is what it does to the ring. -/
theorem effect_counted (turn : Pipeline.Turn) :
    turn.effect.accepted? = turn.recorded? ∧ turn.effect.released? = turn.popped? ∧
      turn.effect.isLoss.toNat = turn.fails.toNat + turn.abandons.toNat := by
  obtain ⟨before, step, answer⟩ := turn
  rcases answer with _ | (error | done) | answer | (_ | event)
  · cases step <;> exact ⟨rfl, rfl, rfl⟩
  · cases step <;> cases error <;> exact ⟨rfl, rfl, rfl⟩
  · cases step <;> exact ⟨rfl, rfl, rfl⟩
  · cases step <;> exact ⟨rfl, rfl, rfl⟩
  · cases step <;> exact ⟨rfl, rfl, rfl⟩
  · cases step <;> exact ⟨rfl, rfl, rfl⟩

end Turn

/-- What holds after a run that began on an empty ring of the given capacity. -/
structure Ledger (capacity : Nat) (turns : List Pipeline.Turn) (final : Pipeline) : Prop where
  capacity_eq : final.site.channel.capacity = capacity
  triggers_eq : final.site.triggers.total = UInt64.ofNat (turns.countP Turn.fires)
  popped_le : (turns.filterMap Turn.popped?).length ≤ (turns.filterMap Turn.recorded?).length
  reserved_eq : final.site.channel.reserved = Event.size *
    ((turns.filterMap Turn.recorded?).length - (turns.filterMap Turn.popped?).length)
  reserved_le : final.site.channel.reserved ≤ capacity
  discarded_eq : final.site.channel.discarded =
    turns.countP Turn.fails + turns.countP Turn.abandons
  in_order : turns.filterMap Turn.popped? ++ final.site.channel.ready =
    turns.filterMap Turn.recorded?
  answers : ∀ turn ∈ turns, turn.fires = true → turn.answer = .fired turn.before.verdict

namespace Ledger

variable {capacity : Nat} {turns : List Pipeline.Turn} {pipeline : Pipeline}

theorem balanced (ledger : Ledger capacity turns pipeline) :
    pipeline.site.channel.Balanced (turns.filterMap Turn.recorded?)
      (turns.filterMap Turn.popped?) (turns.countP Turn.fails + turns.countP Turn.abandons) := by
  obtain ⟨hcapacity, _, _, hreserved, hwithin, hdiscarded, horder, _⟩ := ledger
  refine ⟨?_, ?_, hdiscarded, horder⟩
  · rw [hreserved, ← horder, List.length_append, Nat.add_sub_cancel_left]
  · rw [hcapacity]
    exact hwithin

private theorem countP_snoc (p : Pipeline.Turn → Bool) (turn : Pipeline.Turn) :
    (turns ++ [turn]).countP p = turns.countP p + (p turn).toNat := by
  rw [List.countP_append, List.countP_singleton]
  cases p turn <;> rfl

private theorem filterMap_snoc (f : Pipeline.Turn → Option Event) (turn : Pipeline.Turn) :
    (turns ++ [turn]).filterMap f = turns.filterMap f ++ (f turn).toList := by
  rw [List.filterMap_append]
  cases h : f turn with
  | none => rw [List.filterMap_cons_none h]; rfl
  | some event => rw [List.filterMap_cons_some h]; rfl

/-- One more turn keeps the books in order. -/
theorem step (ledger : Ledger capacity turns pipeline) (step : Step) :
    Ledger capacity (turns ++ [Run.turn Pipeline.step pipeline step]) (pipeline.step step).2 := by
  have hmoves := pipeline.step_moves step
  obtain ⟨hrecorded, hpopped, hloss⟩ :=
    Turn.effect_counted (Run.turn Pipeline.step pipeline step)
  have hbalanced := ledger.balanced.moves hmoves
  rw [hrecorded, hpopped, hloss, ← filterMap_snoc, ← filterMap_snoc] at hbalanced
  obtain ⟨hreserved, hwithin, hdiscarded, horder⟩ := hbalanced
  have hcapacity := hmoves.capacity_eq.trans ledger.capacity_eq
  have hlength := congrArg List.length horder
  rw [List.length_append] at hlength
  refine ⟨hcapacity, ?_, ?_, ?_, ?_, ?_, horder, ?_⟩
  · rw [pipeline.step_triggers, ledger.triggers_eq, countP_snoc, UInt64.ofNat_add]
    cases Turn.fires (Run.turn Pipeline.step pipeline step) <;> rfl
  · omega
  · rw [hreserved, ← hlength, Nat.add_sub_cancel_left]
  · rw [← hcapacity]
    exact hwithin
  · rw [hdiscarded, countP_snoc, countP_snoc]
    omega
  · intro turn hturn hfires
    rcases List.mem_append.mp hturn with before | last
    · exact ledger.answers turn before hfires
    · rw [List.mem_singleton.mp last] at hfires ⊢
      exact pipeline.step_verdict step hfires

end Ledger

def fresh (capacity : Nat) (settings : Settings) (memory : Memory) (config : SelfFilter)
    (clock : UInt64) (scratch : Scratch) (residue : Block Event.size) : Pipeline where
  settings := settings
  memory := memory
  config := config
  site := {
    channel := { capacity := capacity, residue := residue }
    clock := clock
    scratch := scratch }

/-- The books are in order after every run, whatever changes between the steps. -/
theorem ledger_of_run (capacity : Nat) (settings : Settings) (memory : Memory)
    (config : SelfFilter) (clock : UInt64) (scratch : Scratch) (residue : Block Event.size)
    (steps : List Step) :
    let run := Run.of Pipeline.step
      (fresh capacity settings memory config clock scratch residue) steps
    Ledger capacity run.turns run.final := by
  apply Run.invariant
  · exact ⟨rfl, rfl, Nat.le_refl 0, rfl, Nat.zero_le capacity, rfl, rfl, fun _ h => nomatch h⟩
  · intro turns state step ledger
    exact ledger.step step

end Pipeline

end BindTrace
