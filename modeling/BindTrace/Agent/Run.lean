import BindTrace.Agent.Counter
import BindTrace.Agent.Installation
import BindTrace.Agent.Relay

/-!
# A run of the agent

Everything the agent does once its arguments are known: it loads and attaches the probes, passes the
items that arrive in the ring through its relay batch by batch, and then, if asked to, reports the
trigger count period by period.  A run tells how far it came, what it logged in between, and which
calls it made.
-/

namespace BindTrace

structure AgentSetup where
  object : ProbeObject
  pid : UInt32
  symbol : String
  receiver : Bool := true
  batches : List (List Item) := []
  -- Seconds; zero turns the reports off.
  interval : UInt64 := 0
  reading : CounterReading := some []
  readings : List CounterReading := []

inductive Stage where
  | load
  | probes
  | counter
  | done
deriving DecidableEq, Repr

structure BatchReport where
  before : List LogLine
  lines : List LogLine
  unread : Nat

structure CountReport where
  total : Except AgentFailure UInt64
  -- Up to each moment at which the log was looked at, earlier lines included.
  lines : List (List LogLine)

structure AgentRun where
  stage : Stage
  error? : Option AgentFailure := none
  calls : List Call
  batches? : Option (List BatchReport) := none
  count? : Option CountReport := none
  lines : List LogLine

namespace Relay

/-- Passes batches through the relay; the lines given were logged before the first. -/
def runBatches (relay : Relay) (before : List LogLine) :
    List (List Item) → List BatchReport × List LogLine
  | [] => ([], before)
  | items :: rest =>
      let passed := relay.batch items
      let later := passed.2.runBatches [] rest
      ({ before := before, lines := passed.1, unread := passed.2.unread.length } :: later.1,
        later.2)

end Relay

namespace AgentSetup

def reporter (setup : AgentSetup) : Reporter where
  period := 1000 * setup.interval.toNat

/-- The moments at which the log is looked at, one in the middle of each period. -/
def moments (setup : AgentSetup) : List (Nat × CellReading) :=
  ((setup.reading :: setup.readings).map CounterReading.cells).mapIdx fun i reading =>
    ((2 * i + 1) * (500 * setup.interval.toNat), reading)

def runRelay (setup : AgentSetup) (trace : Trace) : AgentRun :=
  let passed := (Relay.start setup.receiver).runBatches trace.lines setup.batches
  if setup.interval = 0 then
    { stage := .done, calls := trace.calls, batches? := some passed.1, lines := passed.2 }
  else
    match (setup.object.takeCounter.run).run trace with
    | (.error error, later) =>
        { stage := .counter
          error? := some error
          calls := later.calls
          batches? := some passed.1
          lines := passed.2 }
    | (.ok (), later) =>
        let followed := setup.reporter.follow setup.moments
        { stage := .done
          calls := later.calls
          batches? := some passed.1
          count? := some {
            total := setup.reading.cells.total
            lines := (passed.2 ++ followed.headD []) :: followed.tail }
          lines := [] }

def run (setup : AgentSetup) : AgentRun :=
  match ((setup.object.load setup.pid).run).run {} with
  | (.error error, trace) =>
      { stage := .load, error? := some error, calls := trace.calls, lines := trace.lines }
  | (.ok (), trace) =>
      match ((setup.object.attachProbes setup.symbol).run).run trace with
      | (.error error, later) =>
          { stage := .probes, error? := some error, calls := later.calls, lines := later.lines }
      | (.ok (), later) => setup.runRelay later

end AgentSetup

end BindTrace
