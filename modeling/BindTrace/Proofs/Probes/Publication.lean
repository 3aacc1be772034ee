import BindTrace.Proofs.Kernel.Path
import BindTrace.Proofs.Kernel.Readable

/-! # What a firing of a probe comes to

Each firing is counted on its own processor and has one of five outcomes. Which
one it is depends on the agent's pid, on a free slot, on the reads that every
record needs, and on the scratch buffer, in this order. Nothing else that fails
to be read changes the outcome, and whatever is not published leaves the
records in the ring as they were.
-/

namespace BindTrace

/-! ## Rings measured in slots -/

namespace SlotRing

theorem reserve?_eq_none_iff {ring : SlotRing} :
    RecordChannel.reserve? ring = none ↔ ring.slots ≤ ring.taken := by
  change reserve? ring = none ↔ _
  unfold reserve?
  split <;> simp <;> omega

theorem reserve?_eq_some_iff {ring later : SlotRing} {slot : Block Event.size} :
    RecordChannel.reserve? ring = some (slot, later) ↔
      ring.taken < ring.slots ∧ ring.residue = slot ∧
        { ring with taken := ring.taken + 1 } = later := by
  change reserve? ring = some (slot, later) ↔ _
  unfold reserve?
  by_cases hfree : ring.taken < ring.slots
  · rw [if_pos hfree, Option.some.injEq, Prod.mk.injEq]
    exact ⟨fun h => ⟨hfree, h⟩, fun h => h.2⟩
  · rw [if_neg hfree]
    constructor
    · intro h
      cases h
    · intro h
      exact absurd h.1 hfree

end SlotRing

namespace ProbeSite

/-! ## Outcomes -/

def Own (probes : ProbeSite) : Prop :=
  probes.machine.config.rawPid ≠ absentPid ∧
    probes.machine.config.rawPid = highWord probes.machine.pidTgid

/-- The ring was not touched and the clock was not read. -/
structure Untouched (before after : ProbeSite) : Prop where
  channel_eq : after.site.channel = before.site.channel
  clock_eq : after.site.clock = before.site.clock
  scratch_eq : after.site.scratch = before.site.scratch

/-- A slot was taken and given back with nothing published. -/
structure GivenBack (before after : ProbeSite) : Prop where
  slots_eq : after.site.channel.slots = before.site.channel.slots
  taken_eq : after.site.channel.taken = before.site.channel.taken
  ready_eq : after.site.channel.ready = before.site.channel.ready
  discarded_eq : after.site.channel.discarded = before.site.channel.discarded + 1
  clock_eq : after.site.clock = before.site.clock + 1
  scratch_eq : after.site.scratch = before.site.scratch

/-- One record was published, in a slot of its own. -/
structure Published (before : ProbeSite) (event : Event) (after : ProbeSite) : Prop where
  slots_eq : after.site.channel.slots = before.site.channel.slots
  taken_eq : after.site.channel.taken = before.site.channel.taken + 1
  ready_eq : after.site.channel.ready = before.site.channel.ready ++ [event]
  discarded_eq : after.site.channel.discarded = before.site.channel.discarded
  clock_eq : after.site.clock = before.site.clock + 1

inductive Verdict where
  | own
  | full
  | lost
  | exhausted
  | published

def Verdict.firing : Verdict → Firing
  | own => { status := 0, lines := [] }
  | full =>
      { status := (-1 : Int32).toUInt32
        lines := [{ level := .debug, text := "ring buffer full, bind event dropped" }] }
  | lost =>
      { status := (-3 : Int32).toUInt32
        lines := [{ level := .error, text := "bind event dropped, status -3" }] }
  | exhausted =>
      { status := (-2 : Int32).toUInt32
        lines := [{ level := .error, text := "bind event dropped, status -2" }] }
  | published => { status := 0, lines := [] }

/-- When a firing has which verdict, and what it leaves behind. -/
inductive Outcome (before : ProbeSite) (kind : Kind) : Verdict → ProbeSite → Prop
  | own {after : ProbeSite} (own : before.Own) (untouched : Untouched before after) :
      Outcome before kind .own after
  | full {after : ProbeSite} (other : ¬ before.Own)
      (noSlot : before.site.channel.slots ≤ before.site.channel.taken)
      (untouched : Untouched before after) : Outcome before kind .full after
  | lost {after : ProbeSite} (other : ¬ before.Own)
      (slot : before.site.channel.taken < before.site.channel.slots)
      (lost : before.machine.kernelMemory.MetadataLost before.machine.task)
      (givenBack : GivenBack before after) : Outcome before kind .lost after
  | exhausted {after : ProbeSite} (other : ¬ before.Own)
      (slot : before.site.channel.taken < before.site.channel.slots)
      (found : ¬ before.machine.kernelMemory.MetadataLost before.machine.task)
      (noScratch : before.machine.scratchAvailable = false) (givenBack : GivenBack before after) :
      Outcome before kind .exhausted after
  | published {after : ProbeSite} {event : Event} (other : ¬ before.Own)
      (slot : before.site.channel.taken < before.site.channel.slots)
      (found : ¬ before.machine.kernelMemory.MetadataLost before.machine.task)
      (hscratch : before.machine.scratchAvailable = true) (hkind : event.kind? = some kind)
      (htime : event.context.stamp.time = before.site.clock)
      (published : Published before event after) : Outcome before kind .published after

/-- The conditions of two verdicts exclude each other. -/
theorem Outcome.unique {before after later : ProbeSite} {kind : Kind} {first second : Verdict}
    (left : Outcome before kind first after) (right : Outcome before kind second later) :
    first = second := by
  -- Of two verdicts the later one in the order of the checks has passed the check of the other.
  cases left with
  | own own =>
      cases right with
      | own => rfl
      | full other | lost other | exhausted other | published other => exact absurd own other
  | full other noSlot =>
      cases right with
      | own own => exact absurd own other
      | full => rfl
      | lost _ slot | exhausted _ slot | published _ slot =>
          exact absurd noSlot (Nat.not_le_of_lt slot)
  | lost other slot lost =>
      cases right with
      | own own => exact absurd own other
      | full _ noSlot => exact absurd noSlot (Nat.not_le_of_lt slot)
      | lost => rfl
      | exhausted _ _ found | published _ _ found => exact absurd lost found
  | exhausted other slot found noScratch =>
      cases right with
      | own own => exact absurd own other
      | full _ noSlot => exact absurd noSlot (Nat.not_le_of_lt slot)
      | lost _ _ lost => exact absurd lost found
      | exhausted => rfl
      | published _ _ _ hscratch => cases noScratch.symm.trans hscratch
  | published other slot found hscratch =>
      cases right with
      | own own => exact absurd own other
      | full _ noSlot => exact absurd noSlot (Nat.not_le_of_lt slot)
      | lost _ _ lost => exact absurd lost found
      | exhausted _ _ _ noScratch => cases noScratch.symm.trans hscratch
      | published => rfl

/-- What a firing of a probe answers and leaves behind. -/
structure Decided (before : ProbeSite) (kind : Kind) (answer : Answer) (after : ProbeSite) :
    Prop where
  machine_eq : after.machine = before.machine
  counted : ∀ processor, after.site.triggers.cell processor =
    before.site.triggers.cell processor +
      if before.machine.counterAvailable = true ∧ processor = before.machine.processor then 1
      else 0
  outcome : ∃ verdict, answer = .fired verdict.firing ∧ Outcome before kind verdict after ∧
    ∀ other later, Outcome before kind other later → other = verdict

/-! ## Every firing has its outcome -/

theorem own_iff {probes : ProbeSite} {syscall : Int32} :
    probes.machine.config.admits (probes.machine.surroundings syscall).hostTgid = false ↔
      probes.Own :=
  SelfFilter.admits_eq_false_iff _ _

theorem not_own {probes : ProbeSite} {syscall : Int32}
    (other : probes.machine.config.admits (probes.machine.surroundings syscall).hostTgid = true) :
    ¬ probes.Own :=
  (SelfFilter.admits_eq_true_iff _ _).mp other

theorem metadataLost_iff (probes : ProbeSite) (syscall : Int32) :
    probes.machine.kernelMemory.MetadataLost probes.machine.task ↔
      (probes.machine.surroundings syscall).task? = none ∨
        (probes.machine.surroundings syscall).node? = none :=
  KernelMemory.metadataLost_iff

theorem not_metadataLost {probes : ProbeSite} {syscall : Int32} {task : TaskView} {node : Node}
    (htask : (probes.machine.surroundings syscall).task? = some task)
    (hnode : (probes.machine.surroundings syscall).node? = some node) :
    ¬ probes.machine.kernelMemory.MetadataLost probes.machine.task := by
  rw [metadataLost_iff probes syscall]
  exact Surroundings.not_missing_of_some htask hnode

/-- A slot that is reserved and given back at once. -/
theorem givenBack_discard {probes : ProbeSite} {site : Site SlotRing} {channel : SlotRing}
    {slot bytes : Block Event.size}
    (room : RecordChannel.reserve? probes.site.channel = some (slot, channel))
    (hchannel : site.channel = RecordChannel.discard channel bytes)
    (hclock : site.clock = probes.site.clock + 1) (hscratch : site.scratch = probes.site.scratch) :
    GivenBack probes { probes with site := site } := by
  obtain ⟨_, _, rfl⟩ := SlotRing.reserve?_eq_some_iff.mp room
  have hfreed : site.channel = { probes.site.channel with
      discarded := probes.site.channel.discarded + 1
      residue := bytes } := hchannel
  refine ⟨?_, ?_, ?_, ?_, hclock, hscratch⟩
  · exact (congrArg SlotRing.slots hfreed).trans rfl
  · exact (congrArg SlotRing.taken hfreed).trans rfl
  · exact (congrArg SlotRing.ready hfreed).trans rfl
  · exact (congrArg SlotRing.discarded hfreed).trans rfl

theorem outcome_of_ends {probes : ProbeSite} {syscall : Int32} {kind : Kind}
    {paths : PathKind → List UInt8} {finish : Header → Header}
    {ended : Except CaptureFailure Unit × Site SlotRing}
    (ends : probes.site.Ends probes.machine.config (probes.machine.surroundings syscall) kind paths
      (Site.publishWith finish) ended)
    (hfinish : ∀ header, (finish header).kind = header.kind) :
    ∃ verdict, Firing.ofOutcome ended.1 = verdict.firing ∧
      Outcome probes kind verdict { probes with site := ended.2 } := by
  cases ends with
  | suppressed own =>
      refine ⟨.own, rfl, .own (own_iff.mp own) ⟨?_, ?_, ?_⟩⟩
      · exact Site.channel_count _ _
      · exact Site.clock_count _ _
      · exact Site.scratch_count _ _
  | full other noRoom =>
      have hfull := SlotRing.reserve?_eq_none_iff.mp noRoom
      refine ⟨.full, rfl, .full (not_own other) hfull ⟨?_, ?_, ?_⟩⟩
      · exact Site.channel_count _ _
      · exact Site.clock_count _ _
      · exact Site.scratch_count _ _
  | unreadable other room missing =>
      have hfree := (SlotRing.reserve?_eq_some_iff.mp room).1
      refine ⟨.lost, rfl, .lost (not_own other) hfree ((metadataLost_iff _ _).mpr missing) ?_⟩
      exact givenBack_discard room rfl rfl (Site.scratch_count _ _)
  | exhausted other room htask hnode noScratch =>
      have hfree := (SlotRing.reserve?_eq_some_iff.mp room).1
      have hfound := not_metadataLost htask hnode
      refine ⟨.exhausted, rfl, .exhausted (not_own other) hfree hfound noScratch ?_⟩
      exact givenBack_discard room rfl rfl (Site.scratch_count _ _)
  | closed other room htask hnode hscratch later =>
      obtain ⟨hfree, _, rfl⟩ := SlotRing.reserve?_eq_some_iff.mp room
      have hfound := not_metadataLost htask hnode
      refine ⟨.published, rfl, .published (not_own other) hfree hfound hscratch ?_ rfl
        ⟨rfl, rfl, rfl, rfl, rfl⟩⟩
      rw [Event.kind?, hfinish]
      exact Kind.ofCode?_code kind

theorem decided_of_ends {probes : ProbeSite} {syscall : Int32} {kind : Kind}
    {paths : PathKind → List UInt8} {finish : Header → Header}
    {ended : Except CaptureFailure Unit × Site SlotRing}
    (ends : probes.site.Ends probes.machine.config (probes.machine.surroundings syscall) kind paths
      (Site.publishWith finish) ended)
    (hfinish : ∀ header, (finish header).kind = header.kind) :
    Decided probes kind (.fired (Firing.ofOutcome ended.1)) { probes with site := ended.2 } := by
  obtain ⟨verdict, hfiring, houtcome⟩ := outcome_of_ends ends hfinish
  refine ⟨rfl, ?_, verdict, congrArg Answer.fired hfiring, houtcome,
    fun _ _ other => other.unique houtcome⟩
  intro processor
  have htriggers := ends.triggers (Site.triggers_publishWith finish)
  dsimp only
  rw [htriggers, Site.triggers_count]
  by_cases hcounter : (probes.machine.surroundings syscall).counterAvailable = true
  · rw [if_pos hcounter]
    change (probes.site.triggers.count probes.machine.processor).cell processor = _
    rw [Triggers.cell_count]
    by_cases hprocessor : processor = probes.machine.processor
    · rw [if_pos hprocessor, if_pos ⟨hcounter, hprocessor⟩]
    · rw [if_neg hprocessor, if_neg fun h => hprocessor h.2]
  · rw [if_neg hcounter, if_neg fun h => hcounter h.1]
    exact (UInt64.add_zero _).symm

def entrySyscall (probes : ProbeSite) (pointer : Option UInt64) : Int32 :=
  ((Registers.read? probes.machine.kernelMemory pointer).map Registers.syscall).getD bindSyscall

def entryArguments (probes : ProbeSite) (pointer : Option UInt64) : CallArguments :=
  ((Registers.read? probes.machine.kernelMemory pointer).map Registers.callArguments).getD {}

theorem entry_ends (probes : ProbeSite) (pointer : Option UInt64) :
    probes.site.Ends probes.machine.config
      (probes.machine.surroundings (probes.entrySyscall pointer)) .entry
      (probes.machine.kernelMemory.resolvedPath probes.machine.task)
      (Site.publishWith ((probes.entryArguments pointer).fill probes.machine.userMemory))
      (probes.fireEntry pointer) := by
  rw [fireEntry, Site.recordEntry, Site.capture_eq_concluded]
  exact Site.concluded_ends _ _ _ _ (probes.machine.surroundings_assembles _) _

theorem exit_ends (probes : ProbeSite) (returned : Option Int64) :
    probes.site.Ends probes.machine.config (probes.machine.surroundings bindSyscall)
      .exit (probes.machine.kernelMemory.resolvedPath probes.machine.task)
      (Site.publishWith fun header => { header with result := (returned.getD 0).toInt32 })
      (probes.fireExit returned) := by
  rw [fireExit, Site.recordExit, Site.capture_eq_concluded]
  exact Site.concluded_ends _ _ _ _ (probes.machine.surroundings_assembles _) _

/-- Both probes decide alike, whatever they find. -/
theorem fire_decided (probes : ProbeSite) :
    (∀ pointer, Decided probes .entry (probes.step (.entry pointer)).1
      (probes.step (.entry pointer)).2) ∧
    ∀ returned, Decided probes .exit (probes.step (.exit returned)).1
      (probes.step (.exit returned)).2 := by
  constructor
  · intro pointer
    exact decided_of_ends (probes.entry_ends pointer) fun header =>
      ((probes.entryArguments pointer).fill_fields probes.machine.userMemory header).1
  · intro returned
    exact decided_of_ends (probes.exit_ends returned) fun _ => rfl

end ProbeSite

end BindTrace
