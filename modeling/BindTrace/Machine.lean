import BindTrace.Channel.SlotRing
import BindTrace.Kernel.Dentry
import BindTrace.Kernel.Registers
import BindTrace.Log

/-!
# The probes

Two probes sit on `bind(2)`, one where the call is entered and one where it returns.  A machine is
what they find when they fire: the memory of the kernel and of the caller, the current task and what
the kernel's helpers tell about it.  Neither probe ever disturbs the call: a firing that publishes
nothing returns a status and may log a line.
-/

namespace BindTrace

/-- What a probe finds when it fires. -/
structure Machine where
  kernelMemory : KernelMemory := Memory.empty
  userMemory : Memory := Memory.empty
  task : UInt64 := 0
  processor : UInt32 := 0
  pidTgid : UInt64 := 0
  uidGid : UInt64 := 0
  cgroupId : UInt64 := 0
  comm? : Option (Block commSize) := some (Block.zero commSize)
  counterAvailable : Bool := true
  scratchAvailable : Bool := true
  config : SelfFilter := SelfFilter.unknown

namespace Machine

def surroundings (machine : Machine) (syscall : Int32) : Surroundings where
  syscall := syscall
  processor := machine.processor
  pidTgid := machine.pidTgid
  uidGid := machine.uidGid
  cgroupId := machine.cgroupId
  comm := machine.comm?.getD (Block.zero commSize)
  task? := machine.kernelMemory.view? machine.task
  node? := machine.kernelMemory.node? machine.task
  counterAvailable := machine.counterAvailable
  scratchAvailable := machine.scratchAvailable
  assemblePath := machine.kernelMemory.assemblePath machine.task

end Machine

structure ProbeLine where
  level : Level
  text : String
deriving DecidableEq

namespace CaptureFailure

def lines (error : CaptureFailure) : List ProbeLine :=
  if error.isFault then
    match error with
    | channelFull => [{ level := .debug, text := "ring buffer full, bind event dropped" }]
    | _ =>
        [{ level := .error
           text := "bind event dropped, status " ++ toString error.status.toInt }]
  else
    []

end CaptureFailure

structure Firing where
  status : UInt32
  lines : List ProbeLine

namespace Firing

def ofOutcome : Except CaptureFailure Unit → Firing
  | .ok () => { status := 0, lines := [] }
  | .error error =>
      { status := error.status.toUInt32, lines := error.lines }

end Firing

structure ProbeSite where
  machine : Machine := {}
  site : Site SlotRing := { channel := { slots := 8 } }

namespace ProbeSite

inductive Step where
  | entry (registers : Option UInt64)
  | exit (returned : Option Int64)
  | configure (machine : Machine) (site : Site SlotRing)
  | pop

inductive Answer where
  | done
  | fired (firing : Firing)
  | popped (event : Option Event)

/-- The entry probe.  Without the caller's registers it records a call with all arguments zero. -/
def fireEntry (probes : ProbeSite) (pointer : Option UInt64) :
    Except CaptureFailure Unit × Site SlotRing :=
  let registers := Registers.read? probes.machine.kernelMemory pointer
  let syscall := (registers.map Registers.syscall).getD bindSyscall
  let args := (registers.map Registers.callArguments).getD {}
  probes.site.recordEntry probes.machine.config (probes.machine.surroundings syscall)
    probes.machine.userMemory args

/-- The exit probe.  A missing return value counts as zero. -/
def fireExit (probes : ProbeSite) (returned : Option Int64) :
    Except CaptureFailure Unit × Site SlotRing :=
  probes.site.recordExit probes.machine.config (probes.machine.surroundings bindSyscall)
    (returned.getD 0).toInt32

def step (probes : ProbeSite) : Step → Answer × ProbeSite
  | .entry pointer =>
      let fired := probes.fireEntry pointer
      (.fired (Firing.ofOutcome fired.1), { probes with site := fired.2 })
  | .exit returned =>
      let fired := probes.fireExit returned
      (.fired (Firing.ofOutcome fired.1), { probes with site := fired.2 })
  | .configure machine site => (.done, { machine := machine, site := site })
  | .pop =>
      let popped := probes.site.pop
      (.popped popped.1, { probes with site := popped.2 })

end ProbeSite

end BindTrace
