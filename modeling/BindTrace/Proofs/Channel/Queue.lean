import BindTrace.Channel.ByteRing
import BindTrace.Channel.SlotRing
import BindTrace.Proofs.Capture.Ending

/-! # Channels seen as queues

Seen from the consumer a channel is the queue of its ready records. Reserving a
slot and giving it back leave the queue alone, publishing puts a record behind
it, and popping takes the first. A firing therefore adds its own record or
nothing, whichever way the capacity is measured.
-/

namespace BindTrace

/-- A channel with the records that are ready in it, the oldest first. -/
class QueuedChannel (ρ : Type) [RecordChannel ρ] where
  ready : ρ → List Event
  ready_reserve {channel later : ρ} {slot : Block Event.size} :
    RecordChannel.reserve? channel = some (slot, later) → ready later = ready channel
  ready_publish (channel : ρ) (event : Event) :
    ready (RecordChannel.publish channel event) = ready channel ++ [event]
  ready_discard (channel : ρ) (bytes : Block Event.size) :
    ready (RecordChannel.discard channel bytes) = ready channel
  pop_eq (channel : ρ) :
    (RecordChannel.pop? channel).elim [] (fun popped => popped.1 :: ready popped.2) = ready channel

namespace QueuedChannel

variable {ρ : Type} [RecordChannel ρ] [QueuedChannel ρ] {channel later : ρ}

theorem pop_some {event : Event} (popped : RecordChannel.pop? channel = some (event, later)) :
    ready channel = event :: ready later := by
  rw [← pop_eq channel, popped]
  rfl

end QueuedChannel

/-! ## Rings that keep their records in a list -/

section Ring

variable {ρ : Type} {ready : ρ → List Event}

theorem ready_of_granted {free : Prop} [Decidable free] {slot slot' : Block Event.size}
    {ring granted later : ρ}
    (h : (if free then some (slot, granted) else none) = some (slot', later))
    (kept : ready granted = ready ring) : ready later = ready ring := by
  cases (Option.ite_none_right_eq_some.mp h).2
  exact kept

theorem elim_first (records : List Event) {taken : Event → List Event → ρ}
    (kept : ∀ event rest, ready (taken event rest) = rest) :
    Option.elim
      (match records with
        | [] => none
        | event :: rest => some (event, taken event rest))
      [] (fun popped => popped.1 :: ready popped.2) = records := by
  cases records with
  | nil => rfl
  | cons event rest => exact congrArg (event :: ·) (kept event rest)

end Ring

instance : QueuedChannel ByteRing where
  ready := ByteRing.ready
  ready_reserve granted := ready_of_granted granted rfl
  ready_publish _ _ := rfl
  ready_discard ring bytes := by
    change (ring.discard bytes).ready = _
    rw [ByteRing.discard]
  pop_eq ring := elim_first ring.ready fun _ _ => rfl

instance : QueuedChannel SlotRing where
  ready := SlotRing.ready
  ready_reserve granted := ready_of_granted granted rfl
  ready_publish _ _ := rfl
  ready_discard _ _ := rfl
  pop_eq ring := elim_first ring.ready fun _ _ => rfl

namespace Site

variable {ρ : Type} [RecordChannel ρ] {site : Site ρ} {config : SelfFilter} {env : Surroundings}
  {kind : Kind} {paths : PathKind → List UInt8} {close : Site ρ → Draft → Site ρ}
  {ended : Except CaptureFailure Unit × Site ρ}

theorem Ends.of_own (ends : site.Ends config env kind paths close ended)
    (own : config.admits env.hostTgid = false) : ended = (.error .selfEvent, site.count env) := by
  cases ends with
  | suppressed _ => rfl
  | full other noRoom => rw [own] at other; cases other
  | unreadable other room missing => rw [own] at other; cases other
  | exhausted other room htask hnode noScratch => rw [own] at other; cases other
  | closed other room htask hnode hscratch later => rw [own] at other; cases other

theorem Ends.of_other (ends : site.Ends config env kind paths close ended)
    (other : config.admits env.hostTgid = true) : ended.1 ≠ .error .selfEvent := by
  cases ends with
  | suppressed own => rw [other] at own; cases own
  | full other noRoom => nofun
  | unreadable other room missing => nofun
  | exhausted other room htask hnode noScratch => nofun
  | closed other room htask hnode hscratch later => nofun

variable [QueuedChannel ρ]

def ready (site : Site ρ) : List Event :=
  QueuedChannel.ready site.channel

/-- What is popped and what stays ready is what was ready. -/
theorem pop_ready (site : Site ρ) : site.pop.1.toList ++ site.pop.2.ready = site.ready := by
  unfold pop
  cases hpop : RecordChannel.pop? site.channel with
  | none => rfl
  | some popped =>
      obtain ⟨event, later⟩ := popped
      exact (QueuedChannel.pop_some hpop).symm

theorem Ends.ready_of_error (ends : site.Ends config env kind paths close ended)
    {error : CaptureFailure} (failed : ended.1 = .error error) : ended.2.ready = site.ready := by
  cases ends with
  | suppressed own => exact congrArg QueuedChannel.ready (channel_count site env)
  | full other noRoom => exact congrArg QueuedChannel.ready (channel_count site env)
  | unreadable other room missing =>
      exact (QueuedChannel.ready_discard _ _).trans (QueuedChannel.ready_reserve room)
  | exhausted other room htask hnode noScratch =>
      exact (QueuedChannel.ready_discard _ _).trans (QueuedChannel.ready_reserve room)
  | closed other room htask hnode hscratch later => cases failed

/-- A firing that succeeds closes a draft on a ring with the same records ready. -/
theorem Ends.closed_of_ok (ends : site.Ends config env kind paths close ended)
    (done : ended.1 = .ok ()) :
    ∃ opened task node, opened.ready = site.ready ∧ env.task? = some task ∧
      env.node? = some node ∧
      ended.2 = close opened { record := env.event kind site.clock task node paths } := by
  cases ends with
  | suppressed own => cases done
  | full other noRoom => cases done
  | unreadable other room missing => cases done
  | exhausted other room htask hnode noScratch => cases done
  | closed other room htask hnode hscratch later =>
      exact ⟨_, _, _, QueuedChannel.ready_reserve room, htask, hnode, rfl⟩

theorem ready_publishWith (finish : Header → Header) (opened : Site ρ) (draft : Draft) :
    (publishWith finish opened draft).ready =
      opened.ready ++ [{ draft.record with header := finish draft.record.header }] :=
  QueuedChannel.ready_publish _ _

theorem ready_abandon (opened : Site ρ) (draft : Draft) :
    (opened.abandon draft).ready = opened.ready :=
  QueuedChannel.ready_discard _ _

end Site

end BindTrace
