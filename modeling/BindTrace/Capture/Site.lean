import BindTrace.Address.Decode
import BindTrace.Capture.Surroundings
import BindTrace.Channel.Basic
import BindTrace.SelfFilter
import BindTrace.Triggers

/-!
# Capturing a call

What a probe does when it fires: it counts the firing, leaves the agent's own calls out, reserves
and clears a slot, fills in the context, and adds the arguments of the call or its result.  Once a
slot is reserved, every failure gives it back, and only a complete record is published.
-/

namespace BindTrace

structure CallArguments where
  fd : Int32 := 0
  address : UInt64 := 0
  addrLength : Int32 := 0
deriving DecidableEq

namespace CallArguments

def fill (args : CallArguments) (memory : Memory) (header : Header) : Header :=
  let plain := { header with fd := args.fd, addrLength := args.addrLength }
  match SocketAddress.decode? memory args.address with
  | some address => plain.setAddress address
  | none => plain

end CallArguments

/-- The state that outlives one firing. -/
structure Site (ρ : Type) where
  channel : ρ
  triggers : Triggers := {}
  clock : UInt64 := 0
  scratch : Scratch := Block.zero scratchSize

namespace Site

variable {ρ : Type} [RecordChannel ρ]

def count (site : Site ρ) (env : Surroundings) : Site ρ :=
  if env.counterAvailable then
    { site with triggers := site.triggers.count env.processor }
  else
    site

/--
Opens a draft with the context filled in.  The clock is read once a slot is reserved, also if the
slot is given back afterwards.
-/
def openDraft (site : Site ρ) (config : SelfFilter) (env : Surroundings) (kind : Kind) :
    Except CaptureFailure Draft × Site ρ :=
  let counted := site.count env
  if config.admits env.hostTgid then
    match RecordChannel.reserve? counted.channel with
    | none => (.error .channelFull, counted)
    | some (slot, channel) =>
        let draft := Draft.clear slot
        let filled := env.fill kind counted.clock counted.scratch draft.record
        let later := { counted with clock := counted.clock + 1, scratch := filled.1 }
        match filled.2 with
        | .error error =>
            (.error error,
              { later with channel := RecordChannel.discard channel draft.record.toBlock })
        | .ok record => (.ok { record := record }, { later with channel := channel })
  else
    (.error .selfEvent, counted)

def publish (site : Site ρ) (draft : Draft) : Site ρ :=
  { site with channel := RecordChannel.publish site.channel draft.record }

def abandon (site : Site ρ) (draft : Draft) : Site ρ :=
  { site with channel := RecordChannel.discard site.channel draft.record.toBlock }

def pop (site : Site ρ) : Option Event × Site ρ :=
  match RecordChannel.pop? site.channel with
  | some (record, channel) => (some record, { site with channel := channel })
  | none => (none, site)

/-- Captures a call with a last change to the header, and publishes it. -/
def capture (site : Site ρ) (config : SelfFilter) (env : Surroundings) (kind : Kind)
    (finish : Header → Header) : Except CaptureFailure Unit × Site ρ :=
  match site.openDraft config env kind with
  | (.error error, later) => (.error error, later)
  | (.ok draft, later) =>
      let record := { draft.record with header := finish draft.record.header }
      (.ok (), later.publish { record := record })

def recordEntry (site : Site ρ) (config : SelfFilter) (env : Surroundings) (memory : Memory)
    (args : CallArguments) : Except CaptureFailure Unit × Site ρ :=
  site.capture config env .entry (args.fill memory)

def recordExit (site : Site ρ) (config : SelfFilter) (env : Surroundings) (result : Int32) :
    Except CaptureFailure Unit × Site ρ :=
  site.capture config env .exit fun header => { header with result := result }

/-- Opens a draft and gives its slot back. -/
def recordAbandoned (site : Site ρ) (config : SelfFilter) (env : Surroundings) (kind : Kind) :
    Except CaptureFailure Unit × Site ρ :=
  match site.openDraft config env kind with
  | (.error error, later) => (.error error, later)
  | (.ok draft, later) => (.ok (), later.abandon draft)

end Site

end BindTrace
