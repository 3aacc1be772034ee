import BindTrace.Capture.Site
import BindTrace.Proofs.Triggers
import BindTrace.Proofs.Wire.RoundTrip

/-! # How a firing ends

A firing that closes its draft publishes a record made of zero bytes and of
what the probe learned, whatever the slot and the scratch buffer held before.
`Site.Ends` lists the five ways in which a firing can end with all that each of
them requires and changes; recording an entry, an exit, and an abandoned call
are the same firing closed in different ways.
-/

namespace BindTrace

/-! ## Filling a cleared record -/

namespace Surroundings

/-- The paths that assembling gives, whatever the buffer holds. -/
def Assembles (env : Surroundings) (paths : PathKind → List UInt8) : Prop :=
  ∀ path scratch, (env.assemblePath path scratch).2 = paths path

def event (env : Surroundings) (kind : Kind) (now : UInt64) (task : TaskView) (node : Node)
    (paths : PathKind → List UInt8) : Event where
  header := { Header.zero with kind := kind.code }
  context := env.fillContext now task node Context.zero
  cwd := PathSlot.zero.store (paths .cwd)
  exe := PathSlot.zero.store (paths .exe)

/-- Filling starts from zero bytes, so nothing that was there before survives it. -/
theorem fill_clear {env : Surroundings} {paths : PathKind → List UInt8} {task : TaskView}
    {node : Node} (assembles : env.Assembles paths) (htask : env.task? = some task)
    (hnode : env.node? = some node) (hscratch : env.scratchAvailable = true) (kind : Kind)
    (now : UInt64) (scratch : Scratch) (slot : Block Event.size) :
    ∃ later, env.fill kind now scratch (Draft.clear slot).record =
      (later, .ok (env.event kind now task node paths)) := by
  refine ⟨(env.assemblePath .exe (env.assemblePath .cwd scratch).1).1, ?_⟩
  rw [Draft.clear_eq, Event.ofBlock_zero]
  simp [fill, htask, hnode, hscratch, fillPaths, assembles _ _, event, Event.withKind, Event.zero]

theorem not_missing_of_some {env : Surroundings} {task : TaskView} {node : Node}
    (htask : env.task? = some task) (hnode : env.node? = some node) :
    ¬ (env.task? = none ∨ env.node? = none) := by
  rw [htask, hnode]
  rintro (h | h) <;> cases h

theorem fill_of_missing {env : Surroundings} (missing : env.task? = none ∨ env.node? = none)
    (kind : Kind) (now : UInt64) (scratch : Scratch) (record : Event) :
    env.fill kind now scratch record = (scratch, .error .metadataMissing) := by
  unfold fill
  cases htask : env.task? with
  | none => rfl
  | some task =>
      cases hnode : env.node? with
      | none => rfl
      | some node => simp [htask, hnode] at missing

theorem fill_of_exhausted {env : Surroundings} {task : TaskView} {node : Node}
    (htask : env.task? = some task) (hnode : env.node? = some node)
    (hscratch : env.scratchAvailable = false) (kind : Kind) (now : UInt64) (scratch : Scratch)
    (record : Event) :
    env.fill kind now scratch record = (scratch, .error .scratchExhausted) := by
  simp [fill, htask, hnode, hscratch]

end Surroundings

/-! ## The five endings -/

namespace Site

variable {ρ : Type}

@[simp]
theorem channel_count (site : Site ρ) (env : Surroundings) :
    (site.count env).channel = site.channel := by
  unfold count
  split <;> rfl

@[simp]
theorem clock_count (site : Site ρ) (env : Surroundings) :
    (site.count env).clock = site.clock := by
  unfold count
  split <;> rfl

@[simp]
theorem scratch_count (site : Site ρ) (env : Surroundings) :
    (site.count env).scratch = site.scratch := by
  unfold count
  split <;> rfl

theorem triggers_count (site : Site ρ) (env : Surroundings) :
    (site.count env).triggers =
      if env.counterAvailable then site.triggers.count env.processor else site.triggers := by
  unfold count
  split <;> rfl

variable [RecordChannel ρ]

/-- The ways in which a firing that closes its draft by `close` can end. -/
inductive Ends (site : Site ρ) (config : SelfFilter) (env : Surroundings) (kind : Kind)
    (paths : PathKind → List UInt8) (close : Site ρ → Draft → Site ρ) :
    Except CaptureFailure Unit × Site ρ → Prop
  | suppressed (own : config.admits env.hostTgid = false) :
      Ends site config env kind paths close (.error .selfEvent, site.count env)
  | full (other : config.admits env.hostTgid = true)
      (noRoom : RecordChannel.reserve? site.channel = none) :
      Ends site config env kind paths close (.error .channelFull, site.count env)
  | unreadable {slot : Block Event.size} {channel : ρ}
      (other : config.admits env.hostTgid = true)
      (room : RecordChannel.reserve? site.channel = some (slot, channel))
      (missing : env.task? = none ∨ env.node? = none) :
      Ends site config env kind paths close (.error .metadataMissing,
        { site.count env with
          clock := site.clock + 1
          channel := RecordChannel.discard channel (Block.zero Event.size) })
  | exhausted {slot : Block Event.size} {channel : ρ} {task : TaskView} {node : Node}
      (other : config.admits env.hostTgid = true)
      (room : RecordChannel.reserve? site.channel = some (slot, channel))
      (htask : env.task? = some task) (hnode : env.node? = some node)
      (noScratch : env.scratchAvailable = false) :
      Ends site config env kind paths close (.error .scratchExhausted,
        { site.count env with
          clock := site.clock + 1
          channel := RecordChannel.discard channel (Block.zero Event.size) })
  | closed {slot : Block Event.size} {channel : ρ} {task : TaskView} {node : Node}
      (other : config.admits env.hostTgid = true)
      (room : RecordChannel.reserve? site.channel = some (slot, channel))
      (htask : env.task? = some task) (hnode : env.node? = some node)
      (hscratch : env.scratchAvailable = true) (later : Scratch) :
      Ends site config env kind paths close (.ok (),
        close
          { site.count env with clock := site.clock + 1, scratch := later, channel := channel }
          { record := env.event kind site.clock task node paths })

def concluded (site : Site ρ) (config : SelfFilter) (env : Surroundings) (kind : Kind)
    (close : Site ρ → Draft → Site ρ) : Except CaptureFailure Unit × Site ρ :=
  match site.openDraft config env kind with
  | (.error error, later) => (.error error, later)
  | (.ok draft, later) => (.ok (), close later draft)

/-- One of the five endings is reached, and no other. -/
theorem concluded_ends (site : Site ρ) (config : SelfFilter) (env : Surroundings) (kind : Kind)
    {paths : PathKind → List UInt8} (assembles : env.Assembles paths)
    (close : Site ρ → Draft → Site ρ) :
    Ends site config env kind paths close (site.concluded config env kind close) := by
  unfold concluded openDraft
  cases hadmits : config.admits env.hostTgid with
  | false => exact .suppressed hadmits
  | true =>
      simp only [if_true, channel_count, clock_count, scratch_count]
      cases hroom : RecordChannel.reserve? site.channel with
      | none => exact .full hadmits hroom
      | some reserved =>
          obtain ⟨slot, channel⟩ := reserved
          have hblank : (Draft.clear slot).record.toBlock = Block.zero Event.size := by
            rw [Draft.clear_eq, Event.toBlock_ofBlock]
          by_cases missing : env.task? = none ∨ env.node? = none
          · simp only [Surroundings.fill_of_missing missing, hblank]
            simpa only [scratch_count] using
              Ends.unreadable hadmits hroom missing
          · obtain ⟨task, htask⟩ := Option.ne_none_iff_exists'.mp fun h => missing (.inl h)
            obtain ⟨node, hnode⟩ := Option.ne_none_iff_exists'.mp fun h => missing (.inr h)
            cases hscratch : env.scratchAvailable with
            | false =>
                simp only [Surroundings.fill_of_exhausted htask hnode hscratch, hblank]
                simpa only [scratch_count] using
                  Ends.exhausted hadmits hroom htask hnode hscratch
            | true =>
                obtain ⟨later, hfill⟩ := Surroundings.fill_clear assembles htask hnode hscratch
                  kind site.clock site.scratch slot
                simp only [hfill]
                exact .closed hadmits hroom htask hnode hscratch later

/-- However a firing ends, it is counted once. -/
theorem Ends.triggers {site : Site ρ} {config : SelfFilter} {env : Surroundings} {kind : Kind}
    {paths : PathKind → List UInt8} {close : Site ρ → Draft → Site ρ}
    {ended : Except CaptureFailure Unit × Site ρ}
    (ends : site.Ends config env kind paths close ended)
    (hclose : ∀ opened draft, (close opened draft).triggers = opened.triggers) :
    ended.2.triggers = (site.count env).triggers := by
  cases ends with
  | suppressed own => rfl
  | full other noRoom => rfl
  | unreadable other room missing => rfl
  | exhausted other room htask hnode noScratch => rfl
  | closed other room htask hnode hscratch later => exact hclose _ _

theorem triggers_pop (site : Site ρ) : site.pop.2.triggers = site.triggers := by
  unfold pop
  cases RecordChannel.pop? site.channel with
  | none => rfl
  | some popped => rfl

/-! ## Entries, exits and abandoned calls -/

def publishWith (finish : Header → Header) (site : Site ρ) (draft : Draft) : Site ρ :=
  site.publish { record := { draft.record with header := finish draft.record.header } }

theorem triggers_publishWith (finish : Header → Header) (site : Site ρ) (draft : Draft) :
    (publishWith finish site draft).triggers = site.triggers := rfl

theorem triggers_abandon (site : Site ρ) (draft : Draft) :
    (site.abandon draft).triggers = site.triggers := rfl

theorem capture_eq_concluded (site : Site ρ) (config : SelfFilter) (env : Surroundings)
    (kind : Kind) (finish : Header → Header) :
    site.capture config env kind finish =
      site.concluded config env kind (publishWith finish) := by
  unfold capture concluded
  rcases site.openDraft config env kind with ⟨error | draft, later⟩ <;> rfl

theorem recordAbandoned_eq_concluded (site : Site ρ) (config : SelfFilter) (env : Surroundings)
    (kind : Kind) :
    site.recordAbandoned config env kind = site.concluded config env kind abandon := by
  unfold recordAbandoned concluded
  rcases site.openDraft config env kind with ⟨error | draft, later⟩ <;> rfl

end Site

namespace CallArguments

/-- The arguments are in the header, and the fields of the other probe are not. -/
theorem fill_fields (args : CallArguments) (memory : Memory) (header : Header) :
    (args.fill memory header).kind = header.kind ∧ (args.fill memory header).fd = args.fd ∧
      (args.fill memory header).addrLength = args.addrLength ∧
      (args.fill memory header).result = header.result := by
  unfold fill
  cases SocketAddress.decode? memory args.address with
  | none => exact ⟨rfl, rfl, rfl, rfl⟩
  | some address => cases address <;> exact ⟨rfl, rfl, rfl, rfl⟩

end CallArguments

end BindTrace
