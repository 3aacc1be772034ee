import BindTrace.Bytes.LittleEndian

/-!
# Leaving the agent out of its own trace

The agent's pid is fixed once, when the probes are loaded.  A probe that fires in the agent itself
is suppressed, for otherwise the agent would trace its own work.  As long as the pid is not known,
nothing is suppressed.
-/

namespace BindTrace

/-- The number that stands for an agent whose pid is not known. -/
def absentPid : UInt32 := 0xFFFFFFFF

structure SelfFilter where
  rawPid : UInt32
deriving DecidableEq

namespace SelfFilter

def size : Nat := 4

def unknown : SelfFilter where
  rawPid := absentPid

/-- The process of the agent, if it is known. -/
def pid? (config : SelfFilter) : Option UInt32 :=
  if config.rawPid = absentPid then none else some config.rawPid

/-- A probe in this process is to be recorded. -/
def admits (config : SelfFilter) (tgid : UInt32) : Bool :=
  config.pid? != some tgid

def toBlock (config : SelfFilter) : Block 4 :=
  Block.ofUInt32 config.rawPid

@[simp]
theorem admits_eq_false_iff (config : SelfFilter) (tgid : UInt32) :
    config.admits tgid = false ↔ config.rawPid ≠ absentPid ∧ config.rawPid = tgid := by
  unfold admits pid?
  split <;> simp_all

theorem admits_eq_true_iff (config : SelfFilter) (tgid : UInt32) :
    config.admits tgid = true ↔ ¬ (config.rawPid ≠ absentPid ∧ config.rawPid = tgid) := by
  rw [← admits_eq_false_iff, Bool.not_eq_false]

end SelfFilter

end BindTrace
