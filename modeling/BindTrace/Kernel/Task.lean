import BindTrace.Capture.Surroundings
import BindTrace.Kernel.Layout
import BindTrace.Memory
import BindTrace.Wire.Image

/-!
# Walking the current task

A view follows pointers from the current task to its group leader, its parent, the parent's group
leader and its namespaces.  The walk fails if a pointer that all of it hangs on cannot be read.  A
number at the end of a chain is zero if a pointer on its own chain is null or cannot be read.
-/

namespace BindTrace

abbrev KernelMemory := Memory

namespace KernelMemory

def startTime (memory : KernelMemory) (task : UInt64) : UInt64 :=
  if task = 0 then 0
  else (memory.word64? (task + Layout.taskStartTime)).getD 0

/-- Process number of a task as the host sees it, or zero. -/
def processNumber (memory : KernelMemory) (task : UInt64) : UInt32 :=
  if task = 0 then 0
  else (memory.word32? (task + Layout.taskTgid)).getD 0

def pidNumber? (memory : KernelMemory) (pid : UInt64) (level : UInt32) : Option UInt32 :=
  memory.word32? (pid + Layout.pidNumbers + level.toUInt64 * Layout.pidNumberStride)

/--
Number of a task in its own pid namespace, or zero.  A level that cannot be read counts as the
outermost, and one that is too deep to be true gives no number.
-/
def nsNumber (memory : KernelMemory) (task : UInt64) : UInt32 :=
  if task = 0 then 0
  else
    match memory.pointer? (task + Layout.taskThreadPid) with
    | none => 0
    | some pid =>
        let level := (memory.word32? (pid + Layout.pidLevel)).getD 0
        if Layout.pidLevelLimit ≤ level then 0
        else (memory.pidNumber? pid level).getD 0

/-- The number, at an offset, of the namespace that a member of a proxy points at, or zero. -/
def namespaceId (memory : KernelMemory) (member number nsproxy : UInt64) : UInt64 :=
  if nsproxy = 0 then 0
  else
    match memory.pointer? (nsproxy + member) with
    | none => 0
    | some ns => ((memory.word32? (ns + number)).map UInt32.toUInt64).getD 0

def mountNsId (memory : KernelMemory) (nsproxy : UInt64) : UInt64 :=
  memory.namespaceId Layout.nsproxyMnt Layout.mntNsNumber nsproxy

def pidNsId (memory : KernelMemory) (nsproxy : UInt64) : UInt64 :=
  memory.namespaceId Layout.nsproxyPidForChildren Layout.pidNsNumber nsproxy

/-- Group leader of the parent, which is null if there is no parent. -/
def parentLeader? (memory : KernelMemory) (parent : UInt64) : Option UInt64 :=
  if parent = 0 then some 0
  else memory.word64? (parent + Layout.taskGroupLeader)

def view? (memory : KernelMemory) (task : UInt64) : Option TaskView :=
  if task = 0 then none
  else do
    let leader ← memory.word64? (task + Layout.taskGroupLeader)
    let parent ← memory.word64? (task + Layout.taskRealParent)
    let parentLeader ← memory.parentLeader? parent
    let nsproxy ← memory.word64? (task + Layout.taskNsproxy)
    some {
      startTime := memory.startTime task
      leaderStartTime := memory.startTime leader
      hostPpid := memory.processNumber parent
      parentStartTime := memory.startTime parentLeader
      nsPid := memory.nsNumber task
      nsTgid := memory.nsNumber leader
      nsPpid := memory.nsNumber parentLeader
      mountNsId := memory.mountNsId nsproxy
      pidNsId := memory.pidNsId nsproxy }

def node? (memory : KernelMemory) (task : UInt64) : Option Node :=
  if task = 0 then none
  else do
    let nsproxy ← memory.pointer? (task + Layout.taskNsproxy)
    let uts ← memory.pointer? (nsproxy + Layout.nsproxyUts)
    (memory.read? (uts + Layout.utsNames) 390).map Node.ofBlock

end KernelMemory

end BindTrace
