import BindTrace.Pipeline
import BindTrace.Proofs.Capture.Ending
import BindTrace.Proofs.Channel.ByteRing
import BindTrace.Proofs.Run

/-! # One step of the pipeline

What a step does to the ring follows from the step and its answer alone. A
firing is counted whatever comes of it, its answer is the first refusal that
applies where it fires, and a call that is recorded puts a record made from the
settings of the kernel behind those that are ready.
-/

namespace BindTrace

/-! ## What an outcome does to a ring -/

namespace Effect

/-- The effect of a firing that would have had the given one, had it not failed. -/
def ofOutcome (closing : Effect) : Except CaptureFailure Unit → Effect
  | .ok () => closing
  | .error .selfEvent => keep
  | .error .channelFull => keep
  | .error .scratchExhausted => lose
  | .error .metadataMissing => lose

theorem ofOutcome_eq_accept {closing : Effect} {outcome : Except CaptureFailure Unit}
    {event : Event} (h : closing.ofOutcome outcome = .accept event) : closing = .accept event := by
  rcases outcome with error | done
  · cases error <;> cases h
  · exact h

def ofPop : Option Event → Effect
  | some event => release event
  | none => keep

end Effect

namespace Site

/-- A firing moves the ring as its outcome tells. -/
theorem Ends.moves {site : Site ByteRing} {config : SelfFilter} {env : Surroundings} {kind : Kind}
    {paths : PathKind → List UInt8} {close : Site ByteRing → Draft → Site ByteRing}
    {ended : Except CaptureFailure Unit × Site ByteRing}
    (ends : site.Ends config env kind paths close ended) (closing : Effect)
    (closes : ∀ (task : TaskView) (node : Node) (opened : Site ByteRing),
      site.channel.reserved + Event.size ≤ site.channel.capacity →
      env.task? = some task → env.node? = some node →
      opened.channel = { site.channel with reserved := site.channel.reserved + Event.size } →
      site.channel.Moves closing
        (close opened { record := env.event kind site.clock task node paths }).channel) :
    site.channel.Moves (closing.ofOutcome ended.1) ended.2.channel := by
  cases ends with
  | suppressed own =>
      rw [channel_count]
      exact .keep
  | full other noRoom =>
      rw [channel_count]
      exact .keep
  | unreadable other room missing =>
      obtain ⟨_, _, rfl⟩ := ByteRing.reserve?_eq_some_iff.mp room
      exact ByteRing.discard_reserved _ _
  | exhausted other room htask hnode noScratch =>
      obtain ⟨_, _, rfl⟩ := ByteRing.reserve?_eq_some_iff.mp room
      exact ByteRing.discard_reserved _ _
  | closed other room htask hnode hscratch later =>
      obtain ⟨hfits, _, hchannel⟩ := ByteRing.reserve?_eq_some_iff.mp room
      exact closes _ _ _ hfits htask hnode hchannel.symm

/-- A record that is finished and published takes the room of its slot. -/
theorem moves_publishWith {channel : ByteRing} {opened : Site ByteRing}
    (room : channel.reserved + Event.size ≤ channel.capacity)
    (hopened : opened.channel = { channel with reserved := channel.reserved + Event.size })
    (finish : Header → Header) (record : Event) :
    channel.Moves (.accept { record with header := finish record.header })
      (publishWith finish opened { record := record }).channel := by
  have hpublished : (publishWith finish opened { record := record }).channel =
      opened.channel.publish { record with header := finish record.header } := rfl
  rw [hpublished, hopened]
  exact .accept _ room

theorem moves_abandon {channel : ByteRing} {opened : Site ByteRing}
    (hopened : opened.channel = { channel with reserved := channel.reserved + Event.size })
    (draft : Draft) : channel.Moves .lose (opened.abandon draft).channel := by
  have hgiven : (opened.abandon draft).channel =
      RecordChannel.discard opened.channel draft.record.toBlock := rfl
  rw [hgiven, hopened]
  exact ByteRing.discard_reserved _ _

theorem moves_pop (site : Site ByteRing) :
    site.channel.Moves (.ofPop site.pop.1) site.pop.2.channel := by
  cases hready : site.channel.ready with
  | nil =>
      have hempty : RecordChannel.pop? site.channel = none := by
        change site.channel.pop? = none
        rw [ByteRing.pop?, hready]
      rw [pop, hempty]
      exact .keep
  | cons event rest =>
      have holdest : RecordChannel.pop? site.channel =
          some (event, { site.channel with
            reserved := site.channel.reserved - Event.size
            ready := rest
            residue := event.toBlock }) := by
        change site.channel.pop? = _
        rw [ByteRing.pop?, hready]
      rw [pop, holdest]
      exact .release hready

end Site

/-! ## A kernel given by its answers -/

namespace Settings

/-- A path as the kernel tells it, cut to what the scratch buffer holds. -/
def resolved (settings : Settings) (path : PathKind) : List UInt8 :=
  (settings.source path).take scratchSize

theorem surroundings_assembles (settings : Settings) :
    settings.surroundings.Assembles settings.resolved := by
  intro path scratch
  have hfits : ((settings.source path).take scratchSize).length ≤ scratchSize :=
    List.length_take_le _ _
  exact Block.take_write_front scratch _ hfits

theorem unreadable_iff (settings : Settings) :
    settings.surroundings.task? = none ∨ settings.surroundings.node? = none ↔
      settings.taskReadable = false ∨ settings.nodeReadable = false := by
  simp [surroundings]

theorem readable_of_some {settings : Settings} {task : TaskView} {node : Node}
    (htask : settings.surroundings.task? = some task)
    (hnode : settings.surroundings.node? = some node) :
    ¬ (settings.taskReadable = false ∨ settings.nodeReadable = false) := by
  rw [← unreadable_iff]
  exact Surroundings.not_missing_of_some htask hnode

theorem task_of_readable {settings : Settings} {task : TaskView}
    (h : settings.surroundings.task? = some task) : settings.task = task := by
  simp [surroundings] at h
  exact h.2

theorem node_of_readable {settings : Settings} {node : Node}
    (h : settings.surroundings.node? = some node) : settings.node = node := by
  simp [surroundings] at h
  exact h.2

end Settings

namespace Pipeline

def event (pipeline : Pipeline) (kind : Kind) : Event :=
  pipeline.settings.surroundings.event kind pipeline.site.clock pipeline.settings.task
    pipeline.settings.node pipeline.settings.resolved

def entryEvent (pipeline : Pipeline) (args : CallArguments) : Event :=
  let event := pipeline.event .entry
  { event with header := args.fill pipeline.memory event.header }

def exitEvent (pipeline : Pipeline) (result : Int32) : Event :=
  let event := pipeline.event .exit
  { event with header := { event.header with result := result } }

/-- The first refusal that applies to a firing here, if any does. -/
def verdict (pipeline : Pipeline) : Except CaptureFailure Unit :=
  if pipeline.config.rawPid ≠ absentPid ∧
      pipeline.config.rawPid = highWord pipeline.settings.pidTgid then
    .error .selfEvent
  else if pipeline.site.channel.capacity < pipeline.site.channel.reserved + Event.size then
    .error .channelFull
  else if pipeline.settings.taskReadable = false ∨ pipeline.settings.nodeReadable = false then
    .error .metadataMissing
  else if pipeline.settings.scratchAvailable = false then
    .error .scratchExhausted
  else
    .ok ()

end Pipeline

namespace Site

/-- A firing ends with the first refusal that applies. -/
theorem Ends.verdict {pipeline : Pipeline} {kind : Kind} {paths : PathKind → List UInt8}
    {close : Site ByteRing → Draft → Site ByteRing}
    {ended : Except CaptureFailure Unit × Site ByteRing}
    (ends : pipeline.site.Ends pipeline.config pipeline.settings.surroundings kind paths close
      ended) : ended.1 = pipeline.verdict := by
  have hown : pipeline.config.admits pipeline.settings.surroundings.hostTgid = false ↔
      pipeline.config.rawPid ≠ absentPid ∧
        pipeline.config.rawPid = highWord pipeline.settings.pidTgid :=
    SelfFilter.admits_eq_false_iff _ _
  have hother : pipeline.config.admits pipeline.settings.surroundings.hostTgid = true ↔
      ¬ (pipeline.config.rawPid ≠ absentPid ∧
        pipeline.config.rawPid = highWord pipeline.settings.pidTgid) :=
    SelfFilter.admits_eq_true_iff _ _
  unfold Pipeline.verdict
  cases ends with
  | suppressed own => rw [if_pos (hown.mp own)]
  | full other noRoom =>
      rw [if_neg (hother.mp other), if_pos (ByteRing.reserve?_eq_none_iff.mp noRoom)]
  | unreadable other room missing =>
      have hfits := (ByteRing.reserve?_eq_some_iff.mp room).1
      have hunread := pipeline.settings.unreadable_iff.mp missing
      rw [if_neg (hother.mp other), if_neg (by omega), if_pos hunread]
  | exhausted other room htask hnode noScratch =>
      have hfits := (ByteRing.reserve?_eq_some_iff.mp room).1
      have hread := Settings.readable_of_some htask hnode
      have hscratch : pipeline.settings.scratchAvailable = false := noScratch
      rw [if_neg (hother.mp other), if_neg (by omega), if_neg hread, if_pos hscratch]
  | closed other room htask hnode hscratch later =>
      have hfits := (ByteRing.reserve?_eq_some_iff.mp room).1
      have hread := Settings.readable_of_some htask hnode
      have hwritable : ¬ pipeline.settings.scratchAvailable = false := by
        rw [show pipeline.settings.scratchAvailable = true from hscratch]
        exact Bool.noConfusion
      rw [if_neg (hother.mp other), if_neg (by omega), if_neg hread, if_neg hwritable]

end Site

/-! ## One turn -/

namespace Pipeline

abbrev Turn := BindTrace.Turn Pipeline Step Answer

namespace Turn

def fires (turn : Pipeline.Turn) : Bool :=
  match turn.step with
  | .entry _ => true
  | .exit _ => true
  | .abandon _ => true
  | _ => false

def effect (turn : Pipeline.Turn) : Effect :=
  match turn.step, turn.answer with
  | .entry args, .fired outcome => .ofOutcome (.accept (turn.before.entryEvent args)) outcome
  | .exit result, .fired outcome => .ofOutcome (.accept (turn.before.exitEvent result)) outcome
  | .abandon _, .fired outcome => .ofOutcome .lose outcome
  | _, .popped popped => .ofPop popped
  | _, _ => .keep

end Turn

theorem entry_ends (pipeline : Pipeline) (args : CallArguments) :
    pipeline.site.Ends pipeline.config pipeline.settings.surroundings .entry
      pipeline.settings.resolved (Site.publishWith (args.fill pipeline.memory))
      (pipeline.site.recordEntry pipeline.config pipeline.settings.surroundings pipeline.memory
        args) := by
  rw [Site.recordEntry, Site.capture_eq_concluded]
  exact Site.concluded_ends _ _ _ _ pipeline.settings.surroundings_assembles _

theorem exit_ends (pipeline : Pipeline) (result : Int32) :
    pipeline.site.Ends pipeline.config pipeline.settings.surroundings .exit
      pipeline.settings.resolved (Site.publishWith fun header => { header with result := result })
      (pipeline.site.recordExit pipeline.config pipeline.settings.surroundings result) := by
  rw [Site.recordExit, Site.capture_eq_concluded]
  exact Site.concluded_ends _ _ _ _ pipeline.settings.surroundings_assembles _

theorem abandon_ends (pipeline : Pipeline) (kind : Kind) :
    pipeline.site.Ends pipeline.config pipeline.settings.surroundings kind
      pipeline.settings.resolved Site.abandon
      (pipeline.site.recordAbandoned pipeline.config pipeline.settings.surroundings kind) := by
  rw [Site.recordAbandoned_eq_concluded]
  exact Site.concluded_ends _ _ _ _ pipeline.settings.surroundings_assembles _

/-- A turn moves the ring as its step and its answer tell. -/
theorem step_moves (pipeline : Pipeline) (step : Step) :
    pipeline.site.channel.Moves (Turn.effect (Run.turn Pipeline.step pipeline step))
      (pipeline.step step).2.site.channel := by
  cases step with
  | entry args =>
      refine (pipeline.entry_ends args).moves (.accept (pipeline.entryEvent args)) ?_
      intro task node opened room htask hnode hopened
      obtain rfl := Settings.task_of_readable htask
      obtain rfl := Settings.node_of_readable hnode
      exact Site.moves_publishWith room hopened _ (pipeline.event .entry)
  | exit result =>
      refine (pipeline.exit_ends result).moves (.accept (pipeline.exitEvent result)) ?_
      intro task node opened room htask hnode hopened
      obtain rfl := Settings.task_of_readable htask
      obtain rfl := Settings.node_of_readable hnode
      exact Site.moves_publishWith room hopened (fun header => { header with result := result })
        (pipeline.event .exit)
  | abandon kind =>
      refine (pipeline.abandon_ends kind).moves .lose ?_
      intro task node opened room htask hnode hopened
      exact Site.moves_abandon hopened _
  | admits => exact .keep
  | configure settings clock? => exact .keep
  | remap memory => exact .keep
  | agent config => exact .keep
  | pop => exact pipeline.site.moves_pop

/-- A firing is counted whatever comes of it, and nothing else is counted. -/
theorem step_triggers (pipeline : Pipeline) (step : Step) :
    (pipeline.step step).2.site.triggers.total =
      pipeline.site.triggers.total +
        if Turn.fires (Run.turn Pipeline.step pipeline step) then 1 else 0 := by
  have hcounted : (pipeline.site.count pipeline.settings.surroundings).triggers.total =
      pipeline.site.triggers.total + 1 := Triggers.total_count _ _
  cases step with
  | entry args =>
      have hends := (pipeline.entry_ends args).triggers (Site.triggers_publishWith _)
      exact (congrArg Triggers.total hends).trans hcounted
  | exit result =>
      have hends := (pipeline.exit_ends result).triggers (Site.triggers_publishWith _)
      exact (congrArg Triggers.total hends).trans hcounted
  | abandon kind =>
      have hends := (pipeline.abandon_ends kind).triggers Site.triggers_abandon
      exact (congrArg Triggers.total hends).trans hcounted
  | admits => exact (UInt64.add_zero _).symm
  | configure settings clock? => exact (UInt64.add_zero _).symm
  | remap memory => exact (UInt64.add_zero _).symm
  | agent config => exact (UInt64.add_zero _).symm
  | pop =>
      rw [show (pipeline.step .pop).2.site = pipeline.site.pop.2 from rfl, Site.triggers_pop]
      exact (UInt64.add_zero _).symm

/-- A firing is answered with the first refusal that applies where it fires. -/
theorem step_verdict (pipeline : Pipeline) (step : Step)
    (fires : Turn.fires (Run.turn Pipeline.step pipeline step) = true) :
    (pipeline.step step).1 = .fired pipeline.verdict := by
  cases step with
  | entry args => exact congrArg Answer.fired (pipeline.entry_ends args).verdict
  | exit result => exact congrArg Answer.fired (pipeline.exit_ends result).verdict
  | abandon kind => exact congrArg Answer.fired (pipeline.abandon_ends kind).verdict
  | admits => cases fires
  | configure settings clock? => cases fires
  | remap memory => cases fires
  | agent config => cases fires
  | pop => cases fires

/-- An entry that is recorded puts its record behind those that are ready. -/
theorem ready_of_entry {pipeline : Pipeline} {args : CallArguments}
    (recorded : (pipeline.step (.entry args)).1 = .fired (.ok ())) :
    (pipeline.step (.entry args)).2.site.channel.ready =
      pipeline.site.channel.ready ++ [pipeline.entryEvent args] := by
  have hmoves := pipeline.step_moves (.entry args)
  rw [Run.turn, recorded] at hmoves
  exact ByteRing.Moves.ready_eq hmoves

theorem ready_of_exit {pipeline : Pipeline} {result : Int32}
    (recorded : (pipeline.step (.exit result)).1 = .fired (.ok ())) :
    (pipeline.step (.exit result)).2.site.channel.ready =
      pipeline.site.channel.ready ++ [pipeline.exitEvent result] := by
  have hmoves := pipeline.step_moves (.exit result)
  rw [Run.turn, recorded] at hmoves
  exact ByteRing.Moves.ready_eq hmoves

end Pipeline

end BindTrace
