/-!
# Counting probe firings

Each processor counts the firings on it in a cell of its own, so that no two probes write the same
word at once.  The agent adds the cells up.  Cells and sums wrap at 64 bits.
-/

namespace BindTrace

def sumCells (cells : List UInt64) : UInt64 :=
  cells.foldl (· + ·) 0

/-- One cell for each processor that has counted something; all other cells hold zero. -/
structure Triggers where
  cells : List (UInt32 × UInt64) := []

namespace Triggers

def bump (processor : UInt32) : List (UInt32 × UInt64) → List (UInt32 × UInt64)
  | [] => [(processor, 1)]
  | cell :: rest =>
      if cell.1 = processor then (processor, cell.2 + 1) :: rest
      else cell :: bump processor rest

def count (triggers : Triggers) (processor : UInt32) : Triggers where
  cells := bump processor triggers.cells

def only (processor : UInt32) (value : UInt64) : Triggers where
  cells := [(processor, value)]

def cell (triggers : Triggers) (processor : UInt32) : UInt64 :=
  (triggers.cells.lookup processor).getD 0

def total (triggers : Triggers) : UInt64 :=
  sumCells (triggers.cells.map fun cell => cell.2)

end Triggers

end BindTrace
