import BindTrace.Proofs.Pipeline.Agreement
import BindTrace.Proofs.Pipeline.Ledger
import BindTrace.Proofs.Probes.Turn

/-! # Runs without the agent's own calls

The filter reads the process that fires, and the record is tagged by a second
reading of it. As long as the agent's pid stays what it is, both readings go
together: what the agent does itself is counted and leaves no other trace, and
what anybody else does is never taken for it, be it a thread whose number
happens to be the agent's pid. An unknown pid suppresses nothing.
-/

namespace BindTrace

/-! ## One firing -/

/-- A firing was counted, if the counter could be reached, and nothing else has changed. -/
structure Site.OnlyCounted {ρ : Type} (before after : Site ρ) (reachable : Bool) : Prop where
  kept : after = { before with triggers := after.triggers }
  counted : after.triggers.total = before.triggers.total + if reachable then 1 else 0

theorem Site.onlyCounted_count {ρ : Type} (site : Site ρ) (env : Surroundings) :
    site.OnlyCounted (site.count env) env.counterAvailable := by
  unfold count
  cases env.counterAvailable with
  | false => exact ⟨rfl, (UInt64.add_zero _).symm⟩
  | true => exact ⟨rfl, Triggers.total_count _ _⟩

namespace SelfFilter

/-- The agent's pid is known and is that of a process. -/
def Names (config : SelfFilter) (tgid : UInt32) : Prop :=
  config.rawPid ≠ absentPid ∧ config.rawPid = tgid

theorem admits_of_names {config : SelfFilter} {tgid : UInt32} (names : config.Names tgid) :
    config.admits tgid = false :=
  (config.admits_eq_false_iff tgid).mpr names

theorem admits_of_not_names {config : SelfFilter} {tgid : UInt32} (h : ¬ config.Names tgid) :
    config.admits tgid = true :=
  (config.admits_eq_true_iff tgid).mpr h

end SelfFilter

def Without (tgid : UInt32) (events : List Event) : Prop :=
  ∀ event ∈ events, event.context.identity.hostTgid ≠ tgid

namespace Without

variable {tgid : UInt32} {events : List Event}

theorem snoc (h : Without tgid events) {event : Event}
    (other : event.context.identity.hostTgid ≠ tgid) : Without tgid (events ++ [event]) := by
  intro e he
  rcases List.mem_append.mp he with old | new
  · exact h e old
  · rw [List.mem_singleton.mp new]
    exact other

end Without

namespace Site

variable {ρ : Type} [RecordChannel ρ] [QueuedChannel ρ]

/-- A firing of the agent itself adds no record, and any other adds none of the agent. -/
theorem Ends.without {site : Site ρ} {config : SelfFilter} {env : Surroundings} {kind : Kind}
    {paths : PathKind → List UInt8} {close : Site ρ → Draft → Site ρ}
    {ended : Except CaptureFailure Unit × Site ρ}
    (ends : site.Ends config env kind paths close ended) {tgid : UInt32}
    (closes : ∀ opened record, record.context.identity.hostTgid ≠ tgid →
      Without tgid opened.ready → Without tgid (close opened { record := record }).ready)
    (known : config.Names tgid) (h : Without tgid site.ready) : Without tgid ended.2.ready := by
  rcases hended : ended.1 with error | done
  · rw [ends.ready_of_error hended]
    exact h
  · obtain ⟨opened, task, node, hready, -, -, hclosed⟩ := ends.closed_of_ok hended
    have hother : env.hostTgid ≠ tgid := by
      rintro rfl
      rw [ends.of_own (SelfFilter.admits_of_names known)] at hended
      cases hended
    rw [hclosed]
    exact closes opened _ hother (hready ▸ h)

theorem without_publishWith {tgid : UInt32} (finish : Header → Header) (opened : Site ρ)
    (record : Event) (other : record.context.identity.hostTgid ≠ tgid)
    (h : Without tgid opened.ready) :
    Without tgid (publishWith finish opened { record := record }).ready := by
  rw [ready_publishWith]
  exact h.snoc other

theorem without_abandon {tgid : UInt32} (opened : Site ρ) (record : Event)
    (h : Without tgid opened.ready) : Without tgid (opened.abandon { record := record }).ready := by
  rw [ready_abandon]
  exact h

theorem without_pop {tgid : UInt32} {site : Site ρ} (h : Without tgid site.ready) :
    (∀ event, site.pop.1 = some event → event.context.identity.hostTgid ≠ tgid) ∧
      Without tgid site.pop.2.ready := by
  rw [← site.pop_ready] at h
  constructor
  · intro event hpopped
    apply h event
    rw [hpopped]
    exact List.mem_append_left _ List.mem_cons_self
  · intro event hevent
    exact h event (List.mem_append_right _ hevent)

end Site

/-- A record is read with the process that it was tagged with. -/
theorem Record.hostTgid_of_ofBytes {event : Event} {skew : Nat} {rest : List UInt8}
    {record : Record} (read : Record.ofBytes skew (event.toBlock.toList ++ rest) = .ok record) :
    record.hostTgid = event.context.identity.hostTgid := by
  by_cases aligned : skew % 8 = 0
  · rw [ofBytes_toBlock event aligned, ofEvent] at read
    cases hkind : event.kind? with
    | none => rw [hkind] at read; cases read
    | some kind => rw [hkind] at read; cases read; rfl
  · rw [ofBytes, if_neg aligned] at read
    cases read

/-! ## Systems with a filter -/

/-- A system in which processes fire and records are popped, as far as a filter is concerned. -/
structure Tracer (σ ι α : Type) where
  next : σ → ι → α × σ
  rawPid : σ → UInt32
  caller : σ → UInt32
  ready : σ → List Event
  fires : Turn σ ι α → Bool
  popped? : Turn σ ι α → Option Event

namespace Tracer

variable {σ ι α : Type}

/-- What a run amounts to in which the agent's pid stays the same. -/
structure LeavesOut (tracer : Tracer σ ι α) (silent traced : Turn σ ι α → Prop) (pid : UInt32)
    (turns : List (Turn σ ι α)) : Prop where
  popped : pid ≠ absentPid → ∀ turn ∈ turns, ∀ event, tracer.popped? turn = some event →
    event.context.identity.hostTgid ≠ pid ∧
      ∀ skew rest record, Record.ofBytes skew (event.toBlock.toList ++ rest) = .ok record →
        record.hostTgid ≠ pid
  own : pid ≠ absentPid → ∀ turn ∈ turns, tracer.fires turn = true →
    tracer.caller turn.before = pid → silent turn
  other : ∀ turn ∈ turns, tracer.fires turn = true →
    (pid = absentPid ∨ tracer.caller turn.before ≠ pid) → traced turn

/-- What every step guarantees, and on what condition it adds no record of the agent. -/
structure Filters (tracer : Tracer σ ι α) (silent traced ordered : Turn σ ι α → Prop) : Prop where
  own (state : σ) (step : ι) : tracer.fires (Run.turn tracer.next state step) = true →
    (tracer.rawPid state ≠ absentPid ∧ tracer.rawPid state = tracer.caller state) →
      silent (Run.turn tracer.next state step)
  other (state : σ) (step : ι) : tracer.fires (Run.turn tracer.next state step) = true →
    ¬ (tracer.rawPid state ≠ absentPid ∧ tracer.rawPid state = tracer.caller state) →
      traced (Run.turn tracer.next state step)
  without (state : σ) (step : ι) : ordered (Run.turn tracer.next state step) →
    tracer.rawPid state ≠ absentPid → Without (tracer.rawPid state) (tracer.ready state) →
      (∀ event, tracer.popped? (Run.turn tracer.next state step) = some event →
        event.context.identity.hostTgid ≠ tracer.rawPid state) ∧
        Without (tracer.rawPid state) (tracer.ready (tracer.next state step).2)

variable {tracer : Tracer σ ι α} {silent traced ordered : Turn σ ι α → Prop}

theorem popped_without (filters : tracer.Filters silent traced ordered) {start : σ} {pid : UInt32}
    (steps : List ι) (known : pid ≠ absentPid) (h : Without pid (tracer.ready start))
    (kept : ∀ turn ∈ (Run.of tracer.next start steps).turns,
      tracer.rawPid turn.before = pid ∧ ordered turn) :
    ∀ turn ∈ (Run.of tracer.next start steps).turns, ∀ event,
      tracer.popped? turn = some event → event.context.identity.hostTgid ≠ pid := by
  refine (Run.safe (I := fun state => Without pid (tracer.ready state)) ?_ steps h kept).1
  rintro state step ⟨rfl, inOrder⟩ hstate
  exact filters.without state step inOrder known hstate

/-- What each step guarantees, a run of steps amounts to. -/
theorem leavesOut_of_run (filters : tracer.Filters silent traced ordered) {start : σ}
    {pid : UInt32} (steps : List ι) (h : Without pid (tracer.ready start))
    (kept : ∀ turn ∈ (Run.of tracer.next start steps).turns,
      tracer.rawPid turn.before = pid ∧ ordered turn) :
    tracer.LeavesOut silent traced pid (Run.of tracer.next start steps).turns := by
  refine ⟨?_, ?_, ?_⟩
  · intro known turn hturn event hpopped
    have htgid := popped_without filters steps known h kept turn hturn event hpopped
    exact ⟨htgid, fun skew rest record read => Record.hostTgid_of_ofBytes read ▸ htgid⟩
  · intro known turn hturn fires hcaller
    have hpid := (kept turn hturn).1
    rw [Run.eq_turn hturn] at fires ⊢
    refine filters.own turn.before turn.step fires ?_
    rw [hpid, hcaller]
    exact ⟨known, rfl⟩
  · intro turn hturn fires hother
    have hpid := (kept turn hturn).1
    rw [Run.eq_turn hturn] at fires ⊢
    refine filters.other turn.before turn.step fires ?_
    rw [hpid]
    rintro ⟨known, hcaller⟩
    rcases hother with unknown | hother
    · exact known unknown
    · exact hother hcaller.symm

end Tracer

/-! ## The pipeline -/

namespace Pipeline

def tracer : Tracer Pipeline Step Answer where
  next := Pipeline.step
  rawPid pipeline := pipeline.config.rawPid
  caller pipeline := highWord pipeline.settings.pidTgid
  ready pipeline := pipeline.site.ready
  fires := Turn.fires
  popped? := Turn.popped?

namespace Turn

def Silent (turn : Pipeline.Turn) : Prop :=
  turn.answer = .fired (.error .selfEvent) ∧
    ∃ site, (turn.before.step turn.step).2 = { turn.before with site := site } ∧
      turn.before.site.OnlyCounted site true

def Traced (turn : Pipeline.Turn) : Prop :=
  ∃ outcome, turn.answer = .fired outcome ∧ outcome ≠ .error .selfEvent

end Turn

theorem step_own (pipeline : Pipeline) (step : Step)
    (fires : Turn.fires (Run.turn Pipeline.step pipeline step) = true)
    (own : pipeline.config.Names (highWord pipeline.settings.pidTgid)) :
    pipeline.step step = (.fired (.error .selfEvent),
      { pipeline with site := pipeline.site.count pipeline.settings.surroundings }) := by
  have hown := SelfFilter.admits_of_names own
  cases step with
  | entry args =>
      have hended := (pipeline.entry_ends args).of_own hown
      rw [Pipeline.step, hended]
  | exit result =>
      have hended := (pipeline.exit_ends result).of_own hown
      rw [Pipeline.step, hended]
  | abandon kind =>
      have hended := (pipeline.abandon_ends kind).of_own hown
      rw [Pipeline.step, hended]
  | admits => cases fires
  | configure settings clock? => cases fires
  | remap memory => cases fires
  | agent config => cases fires
  | pop => cases fires

theorem step_other (pipeline : Pipeline) (step : Step)
    (fires : Turn.fires (Run.turn Pipeline.step pipeline step) = true)
    (other : ¬ pipeline.config.Names (highWord pipeline.settings.pidTgid)) :
    ∃ outcome, (pipeline.step step).1 = .fired outcome ∧ outcome ≠ .error .selfEvent := by
  have hother := SelfFilter.admits_of_not_names other
  cases step with
  | entry args => exact ⟨_, rfl, (pipeline.entry_ends args).of_other hother⟩
  | exit result => exact ⟨_, rfl, (pipeline.exit_ends result).of_other hother⟩
  | abandon kind => exact ⟨_, rfl, (pipeline.abandon_ends kind).of_other hother⟩
  | admits => cases fires
  | configure settings clock? => cases fires
  | remap memory => cases fires
  | agent config => cases fires
  | pop => cases fires

/-- A turn hands out no record of the agent and leaves none behind. -/
theorem step_without (pipeline : Pipeline) (step : Step)
    (known : pipeline.config.rawPid ≠ absentPid)
    (h : Without pipeline.config.rawPid pipeline.site.ready) :
    (∀ event, Turn.popped? (Run.turn Pipeline.step pipeline step) = some event →
        event.context.identity.hostTgid ≠ pipeline.config.rawPid) ∧
      Without pipeline.config.rawPid (pipeline.step step).2.site.ready := by
  cases step with
  | entry args =>
      refine ⟨nofun, (pipeline.entry_ends args).without ?_ ⟨known, rfl⟩ h⟩
      exact fun opened record => Site.without_publishWith _ opened record
  | exit result =>
      refine ⟨nofun, (pipeline.exit_ends result).without ?_ ⟨known, rfl⟩ h⟩
      exact fun opened record => Site.without_publishWith _ opened record
  | abandon kind =>
      refine ⟨nofun, (pipeline.abandon_ends kind).without ?_ ⟨known, rfl⟩ h⟩
      exact fun opened record _ => Site.without_abandon opened record
  | admits => exact ⟨nofun, h⟩
  | configure settings clock? => exact ⟨nofun, h⟩
  | remap memory => exact ⟨nofun, h⟩
  | agent config => exact ⟨nofun, h⟩
  | pop => exact Site.without_pop h

theorem filters : tracer.Filters Turn.Silent Turn.Traced fun _ => True where
  own pipeline step fires names := by
    have hstep := pipeline.step_own step fires names
    refine ⟨congrArg Prod.fst hstep, _, congrArg Prod.snd hstep, ?_⟩
    exact Site.onlyCounted_count _ _
  other pipeline step fires other := pipeline.step_other step fires other
  without pipeline step _ known h := pipeline.step_without step known h

end Pipeline

/-! ## The probes -/

theorem Firing.status_ne_zero {error : CaptureFailure} (other : error ≠ .selfEvent) :
    (Firing.ofOutcome (.error error)).status ≠ 0 := by
  cases error with
  | selfEvent => exact absurd rfl other
  | channelFull => decide
  | scratchExhausted => decide
  | metadataMissing => decide

namespace ProbeSite

def tracer : Tracer ProbeSite Step Answer where
  next := ProbeSite.step
  rawPid probes := probes.machine.config.rawPid
  caller probes := highWord probes.machine.pidTgid
  ready probes := probes.site.ready
  fires := Turn.fires
  popped? := Turn.popped?

namespace Turn

def Silent (turn : ProbeSite.Turn) : Prop :=
  turn.answer = .fired { status := 0, lines := [] } ∧
    ∃ site, (turn.before.step turn.step).2 = { turn.before with site := site } ∧
      turn.before.site.OnlyCounted site turn.before.machine.counterAvailable

/-- The firing returned the status of a failure, or left a record of its own. -/
def Traced (turn : ProbeSite.Turn) : Prop :=
  ∃ firing, turn.answer = .fired firing ∧ (firing.status ≠ 0 ∨
    ∃ event, (turn.before.step turn.step).2.site.channel.ready =
        turn.before.site.channel.ready ++ [event] ∧
      event.context.identity.hostTgid = highWord turn.before.machine.pidTgid)

end Turn

theorem step_own (probes : ProbeSite) (step : Step)
    (fires : Turn.fires (Run.turn ProbeSite.step probes step) = true)
    (own : probes.machine.config.Names (highWord probes.machine.pidTgid)) :
    ∃ syscall, probes.step step = (.fired { status := 0, lines := [] },
      { probes with site := probes.site.count (probes.machine.surroundings syscall) }) := by
  have hown := SelfFilter.admits_of_names own
  cases step with
  | entry pointer =>
      have hended := (probes.entry_ends pointer).of_own hown
      refine ⟨probes.entrySyscall pointer, ?_⟩
      rw [ProbeSite.step, hended]
      rfl
  | exit returned =>
      have hended := (probes.exit_ends returned).of_own hown
      refine ⟨bindSyscall, ?_⟩
      rw [ProbeSite.step, hended]
      rfl
  | configure machine site => cases fires
  | pop => cases fires

/-- Whoever else fires gets a status that tells of a failure, or a record of its own. -/
theorem seen_of_other {probes : ProbeSite} {kind : Kind} {syscall : Int32}
    {paths : PathKind → List UInt8} {finish : Header → Header}
    {ended : Except CaptureFailure Unit × Site SlotRing}
    (ends : probes.site.Ends probes.machine.config (probes.machine.surroundings syscall) kind paths
      (Site.publishWith finish) ended)
    (other : probes.machine.config.admits (highWord probes.machine.pidTgid) = true) :
    (Firing.ofOutcome ended.1).status ≠ 0 ∨
      ∃ event : Event, ended.2.channel.ready = probes.site.channel.ready ++ [event] ∧
        event.context.identity.hostTgid = highWord probes.machine.pidTgid := by
  have hother := ends.of_other other
  rcases hended : ended.1 with error | done
  · rw [hended] at hother
    exact .inl (Firing.status_ne_zero fun h => hother (congrArg Except.error h))
  · exact .inr (ready_of_fired ends hended)

theorem step_other (probes : ProbeSite) (step : Step)
    (fires : Turn.fires (Run.turn ProbeSite.step probes step) = true)
    (other : ¬ probes.machine.config.Names (highWord probes.machine.pidTgid)) :
    ∃ firing, (probes.step step).1 = .fired firing ∧ (firing.status ≠ 0 ∨
      ∃ event, (probes.step step).2.site.channel.ready =
          probes.site.channel.ready ++ [event] ∧
        event.context.identity.hostTgid = highWord probes.machine.pidTgid) := by
  have hother := SelfFilter.admits_of_not_names other
  cases step with
  | entry pointer => exact ⟨_, rfl, seen_of_other (probes.entry_ends pointer) hother⟩
  | exit returned => exact ⟨_, rfl, seen_of_other (probes.exit_ends returned) hother⟩
  | configure machine site => cases fires
  | pop => cases fires

theorem step_without (probes : ProbeSite) (step : Step)
    (undisturbed : Turn.Undisturbed (Run.turn ProbeSite.step probes step))
    (known : probes.machine.config.rawPid ≠ absentPid)
    (h : Without probes.machine.config.rawPid probes.site.ready) :
    (∀ event, Turn.popped? (Run.turn ProbeSite.step probes step) = some event →
        event.context.identity.hostTgid ≠ probes.machine.config.rawPid) ∧
      Without probes.machine.config.rawPid (probes.step step).2.site.ready := by
  cases step with
  | entry pointer =>
      refine ⟨nofun, (probes.entry_ends pointer).without ?_ ⟨known, rfl⟩ h⟩
      exact fun opened record => Site.without_publishWith _ opened record
  | exit returned =>
      refine ⟨nofun, (probes.exit_ends returned).without ?_ ⟨known, rfl⟩ h⟩
      exact fun opened record => Site.without_publishWith _ opened record
  | configure machine site =>
      have hchannel := (undisturbed machine site rfl).1
      have hready : site.ready = probes.site.ready := congrArg SlotRing.ready hchannel
      exact ⟨nofun, hready ▸ h⟩
  | pop => exact Site.without_pop h

/-- The agent's pid is this one, and nobody interferes. -/
def Turn.Keeps (pid : UInt32) (turn : ProbeSite.Turn) : Prop :=
  turn.before.machine.config.rawPid = pid ∧ turn.Undisturbed

theorem filters : tracer.Filters Turn.Silent Turn.Traced Turn.Undisturbed where
  own probes step fires names := by
    obtain ⟨syscall, hstep⟩ := probes.step_own step fires names
    refine ⟨congrArg Prod.fst hstep, _, congrArg Prod.snd hstep, ?_⟩
    exact Site.onlyCounted_count _ _
  other probes step fires other := probes.step_other step fires other
  without probes step undisturbed known h := probes.step_without step undisturbed known h

end ProbeSite

/-! ## Whole runs -/

/-- While the agent's pid stays the same, exactly its own calls are left out of the trace. -/
theorem own_calls_left_out (pid : UInt32) :
    (∀ (capacity : Nat) (settings : Settings) (memory : Memory) (config : SelfFilter)
      (clock : UInt64) (scratch : Scratch) (residue : Block Event.size)
      (steps : List Pipeline.Step),
      let run := Run.of Pipeline.step
        (Pipeline.fresh capacity settings memory config clock scratch residue) steps
      (∀ turn ∈ run.turns, turn.before.config.rawPid = pid) →
        Pipeline.tracer.LeavesOut Pipeline.Turn.Silent Pipeline.Turn.Traced pid run.turns) ∧
    ∀ (slots : Nat) (machine : Machine) (clock : UInt64) (scratch : Scratch)
      (residue : Block Event.size) (steps : List ProbeSite.Step),
      let run := Run.of ProbeSite.step (ProbeSite.fresh slots machine clock scratch residue) steps
      (∀ turn ∈ run.turns, ProbeSite.Turn.Keeps pid turn) →
        ProbeSite.tracer.LeavesOut ProbeSite.Turn.Silent ProbeSite.Turn.Traced pid run.turns := by
  constructor
  · intro capacity settings memory config clock scratch residue steps run kept
    exact Tracer.leavesOut_of_run Pipeline.filters steps (fun event h => nomatch h)
      fun turn hturn => ⟨kept turn hturn, trivial⟩
  · intro slots machine clock scratch residue steps run kept
    exact Tracer.leavesOut_of_run ProbeSite.filters steps (fun event h => nomatch h) kept

/-- A thread of another process in turn with the agent, whose pid is that thread's number. -/
def Pipeline.twoCallers : Run Pipeline Pipeline.Step Pipeline.Answer :=
  Run.of Pipeline.step
    (fresh (2 * Event.size) (Settings.webServer 0x100000001001) Memory.empty ⟨0x1001⟩ 0
      (Block.zero scratchSize) (Block.zero Event.size))
    [.entry {}, .configure (Settings.webServer 0x100100002002) none, .exit 0, .pop]

def ProbeSite.caller (pidTgid : UInt64) : Machine where
  kernelMemory := readableKernel
  task := 4096
  pidTgid := pidTgid
  config := ⟨0x1001⟩

def ProbeSite.twoCallers : Run ProbeSite ProbeSite.Step ProbeSite.Answer :=
  let start := fresh 2 (caller 0x100000001001) 0 (Block.zero scratchSize) (Block.zero Event.size)
  Run.of ProbeSite.step start
    [.entry none, .configure (caller 0x100100002002) (start.step (.entry none)).2.site,
      .exit none, .pop]

/-- The thread is recorded and the agent is not. -/
theorem two_callers_told_apart :
    (∀ turn ∈ Pipeline.twoCallers.turns, turn.before.config.rawPid = 0x1001) ∧
      Pipeline.twoCallers.turns.map (fun turn => turn.answer matches .fired (.error .selfEvent)) =
        [false, false, true, false] ∧
      Pipeline.tracer.LeavesOut Pipeline.Turn.Silent Pipeline.Turn.Traced 0x1001
        Pipeline.twoCallers.turns ∧
      (∀ turn ∈ ProbeSite.twoCallers.turns, ProbeSite.Turn.Keeps 0x1001 turn) ∧
      ProbeSite.tracer.LeavesOut ProbeSite.Turn.Silent ProbeSite.Turn.Traced 0x1001
        ProbeSite.twoCallers.turns := by
  have hpipeline : ∀ turn ∈ Pipeline.twoCallers.turns, turn.before.config.rawPid = 0x1001 := by
    decide
  have hprobes : ∀ turn ∈ ProbeSite.twoCallers.turns, ProbeSite.Turn.Keeps 0x1001 turn := by
    refine List.forall_mem_cons.mpr ⟨⟨rfl, ProbeSite.Turn.undisturbed_of_step nofun⟩, ?_⟩
    refine List.forall_mem_cons.mpr ⟨⟨rfl, ?_⟩, ?_⟩
    · intro machine site h
      cases h
      exact ⟨rfl, rfl⟩
    refine List.forall_mem_cons.mpr ⟨⟨rfl, ProbeSite.Turn.undisturbed_of_step nofun⟩, ?_⟩
    refine List.forall_mem_cons.mpr ⟨⟨rfl, ProbeSite.Turn.undisturbed_of_step nofun⟩, ?_⟩
    exact fun turn h => nomatch h
  refine ⟨hpipeline, rfl, ?_, hprobes, ?_⟩
  · exact (own_calls_left_out 0x1001).1 _ _ _ _ _ _ _ _ hpipeline
  · exact (own_calls_left_out 0x1001).2 _ _ _ _ _ _ hprobes

end BindTrace
