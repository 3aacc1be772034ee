import BindTrace.Agent.Counter
import BindTrace.Proofs.Probes.Turn

/-! # Counting over runs of the probes

Whatever becomes of a firing, it raises the cell of its own processor by one and
leaves the cells of the others alone. Over a run each cell therefore grows by the
firings on its processor, and the sum that the agent reads by all of them, in
whatever order they came. A counter that cannot be reached costs the count and
nothing else.
-/

namespace BindTrace

/-! ## Cells of several processors -/

namespace Triggers

def readOn (triggers : Triggers) (processors : List UInt32) : CellReading :=
  .ok (processors.map triggers.cell)

theorem sumCells_count {processors : List UInt32} (distinct : processors.Nodup)
    (triggers : Triggers) (fired : UInt32) :
    sumCells (processors.map (triggers.count fired).cell) =
      sumCells (processors.map triggers.cell) + if fired ∈ processors then 1 else 0 := by
  induction processors with
  | nil => rfl
  | cons processor rest ih =>
      obtain ⟨hnew, hrest⟩ := List.nodup_cons.mp distinct
      rw [List.map_cons, List.map_cons, sumCells_cons, sumCells_cons, ih hrest, cell_count]
      by_cases hfired : processor = fired
      · subst hfired
        rw [if_pos rfl, if_neg hnew, if_pos List.mem_cons_self]
        ac_rfl
      · have hmem : fired ∈ processor :: rest ↔ fired ∈ rest := by
          simp [Ne.symm hfired]
        simp only [if_neg hfired, UInt64.add_zero, hmem, UInt64.add_assoc]

/-- The cells have counted firings on these processors. -/
structure Counted (before after : Triggers) (fired : List UInt32) : Prop where
  cell_eq : ∀ processor,
    after.cell processor = before.cell processor + UInt64.ofNat (fired.count processor)
  total_eq : ∀ processors : List UInt32, processors.Nodup → (∀ p ∈ fired, p ∈ processors) →
    ∃ total, (before.readOn processors).total = .ok total ∧
      (after.readOn processors).total = .ok (total + UInt64.ofNat fired.length)

namespace Counted

variable {before after : Triggers} {fired : List UInt32}

theorem refl (triggers : Triggers) : Counted triggers triggers [] := by
  constructor
  · intro processor
    exact (UInt64.add_zero _).symm
  · intro processors _ _
    exact ⟨_, rfl, congrArg Except.ok (UInt64.add_zero _).symm⟩

theorem snoc (counted : Counted before after fired) (processor : UInt32) :
    Counted before (after.count processor) (fired ++ [processor]) := by
  constructor
  · intro other
    rw [cell_count, counted.cell_eq, List.count_append, UInt64.ofNat_add, UInt64.add_assoc]
    by_cases h : other = processor
    · subst h
      simp
    · simp [h, Ne.symm h]
  · intro processors distinct covered
    have hmem : processor ∈ processors := covered processor (by simp)
    obtain ⟨total, hbefore, hafter⟩ := counted.total_eq processors distinct fun p hp =>
      covered p (List.mem_append_left _ hp)
    refine ⟨total, hbefore, ?_⟩
    have hsum : sumCells (processors.map after.cell) = total + UInt64.ofNat fired.length :=
      Except.ok.inj hafter
    change Except.ok (sumCells (processors.map (after.count processor).cell)) = _
    rw [sumCells_count distinct, hsum, if_pos hmem, List.length_append, UInt64.ofNat_add,
      UInt64.add_assoc]
    rfl

end Counted

end Triggers

/-! ## Without a counter -/

namespace Surroundings

def uncounted (env : Surroundings) : Surroundings :=
  { env with counterAvailable := false }

end Surroundings

namespace Site

variable {ρ : Type} [RecordChannel ρ]

theorem openDraft_uncounted (site : Site ρ) (config : SelfFilter) (env : Surroundings)
    (kind : Kind) :
    site.openDraft config env.uncounted kind =
      ((site.openDraft config env kind).1,
        { (site.openDraft config env kind).2 with triggers := site.triggers }) := by
  have hcount : ∃ triggers, site.count env = { site with triggers := triggers } := by
    unfold count
    split
    · exact ⟨_, rfl⟩
    · exact ⟨_, rfl⟩
  obtain ⟨triggers, hcount⟩ := hcount
  have huncounted : site.count env.uncounted = site := rfl
  have hfill : env.uncounted.fill = env.fill := rfl
  have htgid : env.uncounted.hostTgid = env.hostTgid := rfl
  unfold openDraft
  rw [hcount, huncounted, hfill, htgid]
  cases config.admits env.hostTgid with
  | false => rfl
  | true =>
      dsimp only
      cases RecordChannel.reserve? site.channel with
      | none => rfl
      | some reserved =>
          obtain ⟨slot, channel⟩ := reserved
          dsimp only
          cases (env.fill kind site.clock site.scratch (Draft.clear slot).record).2 with
          | error error => rfl
          | ok record => rfl

theorem capture_uncounted (site : Site ρ) (config : SelfFilter) (env : Surroundings)
    (kind : Kind) (finish : Header → Header) :
    site.capture config env.uncounted kind finish =
      ((site.capture config env kind finish).1,
        { (site.capture config env kind finish).2 with triggers := site.triggers }) := by
  unfold capture
  rw [openDraft_uncounted]
  rcases site.openDraft config env kind with ⟨error | draft, later⟩
  · rfl
  · rfl

end Site

namespace ProbeSite

/-- The probes on a machine whose counter cannot be reached. -/
def uncounted (probes : ProbeSite) : ProbeSite :=
  { probes with machine := { probes.machine with counterAvailable := false } }

def Turn.counted? (turn : ProbeSite.Turn) : Option UInt32 :=
  if turn.fires && turn.before.machine.counterAvailable then some turn.before.machine.processor
  else none

/-- A change of settings leaves the cells as they are. -/
def Turn.KeepsCells (turn : ProbeSite.Turn) : Prop :=
  ∀ machine site, turn.step = .configure machine site → site.triggers = turn.before.site.triggers

theorem triggers_of_fired {probes : ProbeSite} {kind : Kind} {syscall : Int32}
    {paths : PathKind → List UInt8} {finish : Header → Header}
    {ended : Except CaptureFailure Unit × Site SlotRing}
    (ends : probes.site.Ends probes.machine.config (probes.machine.surroundings syscall) kind paths
      (Site.publishWith finish) ended) :
    ended.2.triggers = if probes.machine.counterAvailable then
      probes.site.triggers.count probes.machine.processor else probes.site.triggers := by
  rw [ends.triggers (Site.triggers_publishWith finish), Site.triggers_count]
  rfl

/-- A turn counts on its own processor or nowhere. -/
theorem triggers_step (probes : ProbeSite) (step : Step)
    (kept : Turn.KeepsCells (Run.turn ProbeSite.step probes step)) :
    (probes.step step).2.site.triggers =
      (Turn.counted? (Run.turn ProbeSite.step probes step)).elim probes.site.triggers
        probes.site.triggers.count := by
  have hfired : ∀ available : Bool,
      (if available then probes.site.triggers.count probes.machine.processor
        else probes.site.triggers) =
      (if available then some probes.machine.processor else none).elim probes.site.triggers
        probes.site.triggers.count := by
    intro available
    cases available with
    | false => rfl
    | true => rfl
  cases step with
  | entry pointer => exact (triggers_of_fired (probes.entry_ends pointer)).trans (hfired _)
  | exit returned => exact (triggers_of_fired (probes.exit_ends returned)).trans (hfired _)
  | configure machine site => exact kept machine site rfl
  | pop => exact Site.triggers_pop _

theorem counted_of_run (start : ProbeSite) (steps : List Step)
    (kept : ∀ turn ∈ (Run.of ProbeSite.step start steps).turns, Turn.KeepsCells turn) :
    Triggers.Counted start.site.triggers
      (Run.of ProbeSite.step start steps).final.site.triggers
      ((Run.of ProbeSite.step start steps).turns.filterMap Turn.counted?) := by
  refine Run.invariant (P := fun turns state => (∀ turn ∈ turns, Turn.KeepsCells turn) →
    Triggers.Counted start.site.triggers state.site.triggers (turns.filterMap Turn.counted?))
    ?_ ?_ steps kept
  · intro _
    exact .refl _
  · intro turns state step counted kept
    have hcounted := counted fun turn h => kept turn (List.mem_append_left _ h)
    have hstep := state.triggers_step step (kept _ (List.mem_append_right _ List.mem_cons_self))
    rw [hstep, List.filterMap_append, List.filterMap_cons]
    cases Turn.counted? (Run.turn ProbeSite.step state step) with
    | none =>
        rw [List.filterMap_nil, List.append_nil]
        exact hcounted
    | some processor => exact hcounted.snoc processor

theorem fireEntry_uncounted (probes : ProbeSite) (pointer : Option UInt64) :
    probes.uncounted.fireEntry pointer =
      ((probes.fireEntry pointer).1,
        { (probes.fireEntry pointer).2 with triggers := probes.site.triggers }) :=
  Site.capture_uncounted probes.site probes.machine.config
    (probes.machine.surroundings (probes.entrySyscall pointer)) .entry
    ((probes.entryArguments pointer).fill probes.machine.userMemory)

theorem fireExit_uncounted (probes : ProbeSite) (returned : Option Int64) :
    probes.uncounted.fireExit returned =
      ((probes.fireExit returned).1,
        { (probes.fireExit returned).2 with triggers := probes.site.triggers }) :=
  Site.capture_uncounted probes.site probes.machine.config
    (probes.machine.surroundings bindSyscall) .exit
    fun header => { header with result := (returned.getD 0).toInt32 }

/-- Only the count is lost with the counter. -/
theorem step_uncounted (probes : ProbeSite) (step : Step)
    (fires : Turn.fires (Run.turn ProbeSite.step probes step) = true) :
    probes.uncounted.step step =
      ((probes.step step).1,
        { machine := probes.uncounted.machine
          site := { (probes.step step).2.site with triggers := probes.site.triggers } }) := by
  cases step with
  | entry pointer =>
      simp only [ProbeSite.step, fireEntry_uncounted]
  | exit returned =>
      simp only [ProbeSite.step, fireExit_uncounted]
  | configure machine site => cases fires
  | pop => cases fires

end ProbeSite

end BindTrace
