import BindTrace.Agent.Failure
import BindTrace.Log
import BindTrace.Triggers

/-!
# Reporting the trigger count

The agent reads the trigger cells of all processors and logs their sum at the end of each period.  A
read that fails costs a warning, and the next period is reported as usual.  Times are milliseconds
since reporting started.
-/

namespace BindTrace

/-- The cells of all processors at one moment, or why they could not be read. -/
abbrev CellReading := Except AgentFailure (List UInt64)

namespace CellReading

def total (reading : CellReading) : Except AgentFailure UInt64 :=
  match reading with
  | .ok cells => .ok (sumCells cells)
  | .error error => .error error

def report (reading : CellReading) : LogLine :=
  match reading.total with
  | .ok total =>
      { level := .info
        target := "stats"
        message := "bind probe triggers"
        fields := [("triggers", toString total.toNat)] }
  | .error error =>
      { level := .warn
        target := "kestrel::stats"
        message := "failed to read trigger counter: " ++ error.message }

end CellReading

/-- The cells that a map holds, if it holds any. -/
abbrev CounterReading := Option (List UInt64)

def CounterReading.cells (reading : CounterReading) : CellReading :=
  match reading with
  | some cells => .ok cells
  | none => .error .elementMissing

structure Reporter where
  period : Nat
  reported : Nat := 0

namespace Reporter

/--
The lines logged when time has come to a moment, at which the cells are read.  Periods that ended
unreported are made up for, one line each.
-/
def advance (reporter : Reporter) (now : Nat) (reading : CellReading) :
    List LogLine × Reporter :=
  let ended := now / reporter.period
  (List.replicate (ended - reporter.reported) reading.report,
    { reporter with reported := max reporter.reported ended })

/-- The lines logged up to each of several moments, apart. -/
def follow (reporter : Reporter) : List (Nat × CellReading) → List (List LogLine)
  | [] => []
  | moment :: rest =>
      let advanced := reporter.advance moment.1 moment.2
      advanced.1 :: advanced.2.follow rest

end Reporter

end BindTrace
