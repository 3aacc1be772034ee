import BindTrace.Agent.RecordQueue
import BindTrace.Log

/-!
# From the ring to the log

The relay has two ends.  The reading end takes items from the ring until it is empty, decodes them
and sends the records on; an item that is no record costs a warning and nothing else.  It stops for
good when it cannot send, and leaves the items behind in the ring.  The logging end logs each record
it receives.
-/

namespace BindTrace

/-- Bytes of one item in the ring, which starts at an 8-byte boundary. -/
abbrev Item := List UInt8

def recordLine (record : Record) : LogLine where
  level := .info
  target := "bind"
  message := record.text

def malformedLine (error : DecodeError) : LogLine where
  level := .warn
  target := "kestrel::worker"
  message := "failed to parse bind event: " ++ error.message

def stoppedLine (failure : AgentFailure) : LogLine where
  level := .warn
  target := "kestrel::worker"
  message := "ring buffer worker stopped: " ++ failure.message

structure Drained where
  queue : RecordQueue
  lines : List LogLine := []
  unread : List Item := []
  stopped : Bool := false

namespace Drained

def logFirst (drained : Drained) (line : LogLine) : Drained :=
  { drained with lines := line :: drained.lines }

end Drained

/-- Reads items until none is left or a record cannot be sent. -/
def drain (queue : RecordQueue) : List Item → Drained
  | [] => { queue := queue }
  | item :: rest =>
      match Record.ofBytes 0 item with
      | .error error => (drain queue rest).logFirst (malformedLine error)
      | .ok record =>
          match queue.send record with
          | .ok later => drain later rest
          | .error failure =>
              { queue := queue, lines := [stoppedLine failure], unread := rest, stopped := true }

def logWaiting (queue : RecordQueue) : List LogLine × RecordQueue :=
  let received := queue.receiveAll
  (received.1.map recordLine, received.2)

structure Relay where
  queue : RecordQueue := {}
  unread : List Item := []
  stopped : Bool := false

namespace Relay

/-- A relay whose logging end may be missing from the start. -/
def start (receiver : Bool) : Relay where
  queue := { receiver := receiver }

def read (relay : Relay) : List LogLine × Relay :=
  if relay.stopped then ([], relay)
  else
    let drained := drain relay.queue relay.unread
    (drained.lines,
      { queue := drained.queue, unread := drained.unread, stopped := drained.stopped })

def log (relay : Relay) : List LogLine × Relay :=
  if relay.queue.receiver then
    let logged := logWaiting relay.queue
    (logged.1, { relay with queue := logged.2 })
  else
    ([], relay)

/-- Items arrive in the ring, and both ends do what they can. -/
def batch (relay : Relay) (items : List Item) : List LogLine × Relay :=
  let arrived := { relay with unread := relay.unread ++ items }
  let afterRead := arrived.read
  let afterLog := afterRead.2.log
  (afterRead.1 ++ afterLog.1, afterLog.2)

end Relay

end BindTrace
