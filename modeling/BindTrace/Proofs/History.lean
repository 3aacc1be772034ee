import BindTrace.Proofs.Capture.Clean
import BindTrace.Proofs.Pipeline.Ledger
import BindTrace.Proofs.Probes.Turn

/-! # Records that tell nothing of the past

Slots and the scratch buffer are used again and again. What a firing publishes
is nevertheless made from what it finds when it fires: after any two histories
that end with the same inputs the same firing publishes the same bytes, and no
byte of them is left over from an earlier record or path.
-/

namespace BindTrace

/-- The same firing after two runs publishes the same bytes, and clean ones. -/
def Forgets {σ ι α : Type} (next : σ → ι → α × σ) (same : σ → σ → Prop)
    (publishes : σ → ι → Kind → Event → Prop) (paths : σ → PathKind → List UInt8) : Prop :=
  ∀ (start other : σ) (steps others : List ι) (step : ι) (kind : Kind) (first second : Event),
    same (Run.of next start steps).final (Run.of next other others).final →
    publishes (Run.of next start steps).final step kind first →
    publishes (Run.of next other others).final step kind second →
      first.toBlock = second.toBlock ∧
        first.Clean kind (paths (Run.of next start steps).final)

/-! ## The pipeline -/

namespace Pipeline

def Step.kind? : Step → Option Kind
  | .entry _ => some .entry
  | .exit _ => some .exit
  | _ => none

def Publishes (pipeline : Pipeline) (step : Step) (kind : Kind) (event : Event) : Prop :=
  step.kind? = some kind ∧
    (pipeline.step step).2.site.channel.ready = pipeline.site.channel.ready ++ [event]

structure SameInputs (left right : Pipeline) : Prop where
  settings_eq : left.settings = right.settings
  memory_eq : left.memory = right.memory
  clock_eq : left.site.clock = right.site.clock

theorem Publishes.event_eq {pipeline : Pipeline} {step : Step} {kind : Kind} {event : Event}
    (publishes : pipeline.Publishes step kind event) :
    (∃ args, step = .entry args ∧ kind = .entry ∧ event = pipeline.entryEvent args) ∨
      ∃ result, step = .exit result ∧ kind = .exit ∧ event = pipeline.exitEvent result := by
  obtain ⟨hkind, hready⟩ := publishes
  have heffect := (pipeline.step_moves step).of_appended hready
  cases step with
  | entry args =>
      have haccept := Effect.ofOutcome_eq_accept heffect
      cases hkind
      cases haccept
      exact .inl ⟨args, rfl, rfl, rfl⟩
  | exit result =>
      have haccept := Effect.ofOutcome_eq_accept heffect
      cases hkind
      cases haccept
      exact .inr ⟨result, rfl, rfl, rfl⟩
  | abandon kind => cases hkind
  | admits => cases hkind
  | configure settings clock? => cases hkind
  | remap memory => cases hkind
  | agent config => cases hkind
  | pop => cases hkind

theorem SameInputs.event_eq {left right : Pipeline} (same : left.SameInputs right) (kind : Kind) :
    left.event kind = right.event kind := by
  rw [event, event, same.settings_eq, same.clock_eq]

theorem SameInputs.entryEvent_eq {left right : Pipeline} (same : left.SameInputs right)
    (args : CallArguments) : left.entryEvent args = right.entryEvent args := by
  rw [entryEvent, entryEvent, same.event_eq, same.memory_eq]

theorem SameInputs.exitEvent_eq {left right : Pipeline} (same : left.SameInputs right)
    (result : Int32) : left.exitEvent result = right.exitEvent result := by
  rw [exitEvent, exitEvent, same.event_eq]

theorem forgets : Forgets Pipeline.step SameInputs Publishes fun pipeline =>
    pipeline.settings.resolved := by
  intro start other steps others step kind first second same published again
  rcases published.event_eq with ⟨args, rfl, rfl, rfl⟩ | ⟨result, rfl, rfl, rfl⟩
  · rcases again.event_eq with ⟨_, hstep, -, rfl⟩ | ⟨_, hstep, -, -⟩
    · cases hstep
      refine ⟨congrArg Event.toBlock (same.entryEvent_eq args), ?_⟩
      exact Surroundings.event_clean _ _ _ _ _ _ (args.clean_fill _)
    · cases hstep
  · rcases again.event_eq with ⟨_, hstep, -, -⟩ | ⟨_, hstep, -, rfl⟩
    · cases hstep
    · cases hstep
      refine ⟨congrArg Event.toBlock (same.exitEvent_eq result), ?_⟩
      exact Surroundings.event_clean _ _ _ _ _ _ (.exit result rfl)

end Pipeline

/-! ## The probes -/

/-- A record behind those that were ready is the record of a firing that found everything. -/
theorem Site.Ends.of_appended {site : Site SlotRing} {config : SelfFilter} {env : Surroundings}
    {kind : Kind} {paths : PathKind → List UInt8} {finish : Header → Header}
    {ended : Except CaptureFailure Unit × Site SlotRing} {event : Event}
    (ends : site.Ends config env kind paths (Site.publishWith finish) ended)
    (h : ended.2.channel.ready = site.channel.ready ++ [event]) :
    ∃ task node, env.task? = some task ∧ env.node? = some node ∧
      event =
        { env.event kind site.clock task node paths with
          header := finish (env.event kind site.clock task node paths).header } := by
  have hkept : ∀ {ready : List Event}, ready = site.channel.ready →
      ready ≠ site.channel.ready ++ [event] := by
    intro ready hready happended
    have hlength := congrArg List.length (hready.symm.trans happended)
    rw [List.length_append, List.length_singleton] at hlength
    omega
  cases ends with
  | suppressed own => exact absurd h (hkept (congrArg SlotRing.ready (channel_count _ _)))
  | full other noRoom => exact absurd h (hkept (congrArg SlotRing.ready (channel_count _ _)))
  | unreadable other room missing =>
      obtain ⟨_, _, rfl⟩ := SlotRing.reserve?_eq_some_iff.mp room
      exact absurd h (hkept rfl)
  | exhausted other room htask hnode noScratch =>
      obtain ⟨_, _, rfl⟩ := SlotRing.reserve?_eq_some_iff.mp room
      exact absurd h (hkept rfl)
  | closed other room htask hnode hscratch later =>
      obtain ⟨_, _, rfl⟩ := SlotRing.reserve?_eq_some_iff.mp room
      have hlast := List.append_cancel_left h
      cases hlast
      exact ⟨_, _, htask, hnode, rfl⟩

namespace ProbeSite

/-- The probes find the same, and the clock shows the same. -/
structure SameInputs (left right : ProbeSite) : Prop where
  kernelMemory_eq : left.machine.kernelMemory = right.machine.kernelMemory
  userMemory_eq : left.machine.userMemory = right.machine.userMemory
  task_eq : left.machine.task = right.machine.task
  processor_eq : left.machine.processor = right.machine.processor
  pidTgid_eq : left.machine.pidTgid = right.machine.pidTgid
  uidGid_eq : left.machine.uidGid = right.machine.uidGid
  cgroupId_eq : left.machine.cgroupId = right.machine.cgroupId
  comm_eq : left.machine.comm? = right.machine.comm?
  clock_eq : left.site.clock = right.site.clock

def event (probes : ProbeSite) (kind : Kind) (syscall : Int32) (task : TaskView) (node : Node) :
    Event :=
  (probes.machine.surroundings syscall).event kind probes.site.clock task node
    (probes.machine.kernelMemory.resolvedPath probes.machine.task)

def entryEvent (probes : ProbeSite) (pointer : Option UInt64) (task : TaskView) (node : Node) :
    Event :=
  let event := probes.event .entry (probes.entrySyscall pointer) task node
  { event with
    header := (probes.entryArguments pointer).fill probes.machine.userMemory event.header }

def exitEvent (probes : ProbeSite) (returned : Option Int64) (task : TaskView) (node : Node) :
    Event :=
  let event := probes.event .exit bindSyscall task node
  { event with header := { event.header with result := (returned.getD 0).toInt32 } }

theorem Publishes.event_eq {probes : ProbeSite} {step : Step} {kind : Kind} {event : Event}
    (publishes : probes.Publishes step kind event) :
    ∃ task node, probes.machine.kernelMemory.view? probes.machine.task = some task ∧
      probes.machine.kernelMemory.node? probes.machine.task = some node ∧
      ((∃ pointer, step = .entry pointer ∧ kind = .entry ∧
          event = probes.entryEvent pointer task node) ∨
        ∃ returned, step = .exit returned ∧ kind = .exit ∧
          event = probes.exitEvent returned task node) := by
  obtain ⟨hkind, hready⟩ := publishes
  cases step with
  | entry pointer =>
      obtain ⟨task, node, htask, hnode, hevent⟩ := (probes.entry_ends pointer).of_appended hready
      cases hkind
      exact ⟨task, node, htask, hnode, .inl ⟨pointer, rfl, rfl, hevent⟩⟩
  | exit returned =>
      obtain ⟨task, node, htask, hnode, hevent⟩ := (probes.exit_ends returned).of_appended hready
      cases hkind
      exact ⟨task, node, htask, hnode, .inr ⟨returned, rfl, rfl, hevent⟩⟩
  | configure machine site => cases hkind
  | pop => cases hkind

theorem SameInputs.event_eq {left right : ProbeSite} (same : left.SameInputs right) (kind : Kind)
    (syscall : Int32) (task : TaskView) (node : Node) :
    left.event kind syscall task node = right.event kind syscall task node := by
  simp only [event, Surroundings.event, Surroundings.fillContext, Surroundings.fillStamp,
    Surroundings.fillIdentity, Surroundings.hostTgid, Machine.surroundings, same.processor_eq,
    same.pidTgid_eq, same.uidGid_eq, same.cgroupId_eq, same.comm_eq, same.clock_eq,
    same.kernelMemory_eq, same.task_eq]

theorem SameInputs.entryEvent_eq {left right : ProbeSite} (same : left.SameInputs right)
    (pointer : Option UInt64) (task : TaskView) (node : Node) :
    left.entryEvent pointer task node = right.entryEvent pointer task node := by
  rw [entryEvent, entryEvent, same.event_eq, entrySyscall, entrySyscall, entryArguments,
    entryArguments, same.kernelMemory_eq, same.userMemory_eq]

theorem SameInputs.exitEvent_eq {left right : ProbeSite} (same : left.SameInputs right)
    (returned : Option Int64) (task : TaskView) (node : Node) :
    left.exitEvent returned task node = right.exitEvent returned task node := by
  rw [exitEvent, exitEvent, same.event_eq]

theorem forgets : Forgets ProbeSite.step SameInputs Publishes fun probes =>
    probes.machine.kernelMemory.resolvedPath probes.machine.task := by
  intro start other steps others step kind first second same published again
  obtain ⟨task, node, htask, hnode, hfirst⟩ := published.event_eq
  obtain ⟨task', node', htask', hnode', hsecond⟩ := again.event_eq
  rw [← same.kernelMemory_eq, ← same.task_eq, htask] at htask'
  rw [← same.kernelMemory_eq, ← same.task_eq, hnode] at hnode'
  cases htask'
  cases hnode'
  rcases hfirst with ⟨pointer, rfl, rfl, rfl⟩ | ⟨returned, rfl, rfl, rfl⟩
  · rcases hsecond with ⟨_, hstep, -, rfl⟩ | ⟨_, hstep, -, -⟩
    · cases hstep
      refine ⟨congrArg Event.toBlock (same.entryEvent_eq pointer task node), ?_⟩
      exact Surroundings.event_clean _ _ _ _ _ _ (CallArguments.clean_fill _ _)
    · cases hstep
  · rcases hsecond with ⟨_, hstep, -, -⟩ | ⟨_, hstep, -, rfl⟩
    · cases hstep
    · cases hstep
      refine ⟨congrArg Event.toBlock (same.exitEvent_eq returned task node), ?_⟩
      exact Surroundings.event_clean _ _ _ _ _ _ (.exit _ rfl)

end ProbeSite

/-- Neither on the pipeline nor on the probes do old bytes reach the consumer. -/
theorem published_forgets_history :
    (Forgets Pipeline.step Pipeline.SameInputs Pipeline.Publishes fun pipeline =>
      pipeline.settings.resolved) ∧
    Forgets ProbeSite.step ProbeSite.SameInputs ProbeSite.Publishes fun probes =>
      probes.machine.kernelMemory.resolvedPath probes.machine.task :=
  ⟨Pipeline.forgets, ProbeSite.forgets⟩

/-- A run from slots and a scratch buffer that hold nothing but one byte. -/
def Pipeline.littered (byte : UInt8) (steps : List Pipeline.Step) : Run Pipeline Step Answer :=
  Run.of Pipeline.step
    (fresh (2 * Event.size) (Settings.webServer 0x100000001000) Memory.empty SelfFilter.unknown 0
      (Block.fill scratchSize byte) (Block.fill Event.size byte))
    steps

namespace ProbeSite

def littered (byte : UInt8) (steps : List ProbeSite.Step) : Run ProbeSite Step Answer :=
  Run.of ProbeSite.step
    (fresh 2 { kernelMemory := readableKernel, task := 4096 } 0 (Block.fill scratchSize byte)
      (Block.fill Event.size byte))
    steps

/-- An exit leaves a free slot behind. -/
theorem littered_exit (byte : UInt8) (returned : Option Int64) :
    let probes := (littered byte [.exit returned]).final
    probes.machine = { kernelMemory := readableKernel, task := 4096 } ∧ probes.site.clock = 1 ∧
      probes.site.channel.taken < probes.site.channel.slots := by
  have hfinal : (littered byte [.exit returned]).final =
      ((littered byte []).final.step (.exit returned)).2 := rfl
  have hfound : ¬ (littered byte []).final.machine.kernelMemory.MetadataLost
      (littered byte []).final.machine.task :=
    not_metadataLost_readableKernel (show (4096 : UInt64) ≠ 0 by decide)
  have decided := (littered byte []).final.fire_decided.2 returned
  obtain ⟨event, published⟩ :=
    decided.published_of_found hfound rfl (fun own => own.1 rfl) Nat.zero_lt_two
  dsimp only
  rw [hfinal, decided.machine_eq, published.clock_eq, published.taken_eq, published.slots_eq]
  exact ⟨rfl, rfl, Nat.one_lt_two⟩

end ProbeSite

/--
An exit after a recorded exit, and the same one after an abandoned entry or after another exit amid
litter.
-/
theorem exits_forget_litter :
    ((Pipeline.littered 0 [.exit 1]).final.SameInputs
        (Pipeline.littered 0xAB [.abandon .entry]).final ∧
      ∃ left right, (Pipeline.littered 0 [.exit 1]).final.Publishes (.exit 3) .exit left ∧
        (Pipeline.littered 0xAB [.abandon .entry]).final.Publishes (.exit 3) .exit right ∧
        left.toBlock = right.toBlock) ∧
    (ProbeSite.littered 0 [.exit (some 1)]).final.SameInputs
        (ProbeSite.littered 0xAB [.exit none]).final ∧
      ∃ left right,
        (ProbeSite.littered 0 [.exit (some 1)]).final.Publishes (.exit (some 3)) .exit left ∧
        (ProbeSite.littered 0xAB [.exit none]).final.Publishes (.exit (some 3)) .exit right ∧
        left.toBlock = right.toBlock := by
  obtain ⟨hpipeline, hprobes⟩ := published_forgets_history
  constructor
  · have hsame : (Pipeline.littered 0 [.exit 1]).final.SameInputs
        (Pipeline.littered 0xAB [.abandon .entry]).final := ⟨rfl, rfl, rfl⟩
    have hfirst : ((Pipeline.littered 0 [.exit 1]).final.step (.exit 3)).1 = .fired (.ok ()) := rfl
    have hsecond : ((Pipeline.littered 0xAB [.abandon .entry]).final.step (.exit 3)).1 =
        .fired (.ok ()) := rfl
    have hleft : (Pipeline.littered 0 [.exit 1]).final.Publishes (.exit 3) .exit _ :=
      ⟨rfl, Pipeline.ready_of_exit hfirst⟩
    have hright :
        (Pipeline.littered 0xAB [.abandon .entry]).final.Publishes (.exit 3) .exit _ :=
      ⟨rfl, Pipeline.ready_of_exit hsecond⟩
    have hbytes := (hpipeline _ _ _ _ _ _ _ _ hsame hleft hright).1
    exact ⟨hsame, _, _, hleft, hright, hbytes⟩
  · have hpublishes : ∀ byte returned, ∃ event,
        (ProbeSite.littered byte [.exit returned]).final.Publishes (.exit (some 3)) .exit
          event := by
      intro byte returned
      obtain ⟨hmachine, -, hfree⟩ := ProbeSite.littered_exit byte returned
      have hfound := ProbeSite.not_metadataLost_readableKernel (show (4096 : UInt64) ≠ 0 by decide)
      exact ProbeSite.publishes_exit_of_found (hmachine ▸ hfound) (hmachine ▸ rfl) (hmachine ▸ rfl)
        hfree (some 3)
    have hsame : (ProbeSite.littered 0 [.exit (some 1)]).final.SameInputs
        (ProbeSite.littered 0xAB [.exit none]).final := by
      obtain ⟨hmachine, hclock, -⟩ := ProbeSite.littered_exit 0 (some 1)
      obtain ⟨hother, hlater, -⟩ := ProbeSite.littered_exit 0xAB none
      constructor
      case clock_eq => exact hclock.trans hlater.symm
      all_goals rw [hmachine, hother]
    obtain ⟨left, hleft⟩ := hpublishes 0 (some 1)
    obtain ⟨right, hright⟩ := hpublishes 0xAB none
    have hbytes := (hprobes _ _ _ _ _ _ _ _ hsame hleft hright).1
    exact ⟨hsame, left, right, hleft, hright, hbytes⟩

end BindTrace
