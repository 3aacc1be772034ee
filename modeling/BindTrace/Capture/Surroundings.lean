import BindTrace.Capture.Failure
import BindTrace.Lifetime
import BindTrace.Wire.PathSlot

/-!
# What a probe can learn

Everything that a probe learns about the thread it runs on is collected in `Surroundings`.  A record
is filled in from it in one order: kind, context, working directory, executable.  Task, node and
scratch buffer are asked for first, so a record that cannot be completed is not even begun.
-/

namespace BindTrace

def bindSyscall : Int32 := 49

/-- Bytes in the buffer in which paths are put together. -/
abbrev scratchSize : Nat := 4096

abbrev Scratch := Block scratchSize

inductive PathKind where
  | cwd
  | exe
deriving DecidableEq

structure TaskView where
  startTime : UInt64
  leaderStartTime : UInt64
  hostPpid : UInt32
  parentStartTime : UInt64
  nsPid : UInt32
  nsTgid : UInt32
  nsPpid : UInt32
  mountNsId : UInt64
  pidNsId : UInt64
deriving DecidableEq

/-- What a probe can learn about the thread it runs on. -/
structure Surroundings where
  syscall : Int32
  processor : UInt32
  -- The process and the group are in the high halves of these two.
  pidTgid : UInt64
  uidGid : UInt64
  cgroupId : UInt64
  comm : Block commSize
  task? : Option TaskView
  node? : Option Node
  counterAvailable : Bool
  scratchAvailable : Bool
  assemblePath : PathKind → Scratch → Scratch × List UInt8

def highWord (word : UInt64) : UInt32 :=
  (word >>> 32).toUInt32

def lowWord (word : UInt64) : UInt32 :=
  word.toUInt32

theorem toNat_highWord (word : UInt64) : (highWord word).toNat = word.toNat / 4294967296 := by
  have hword := word.toNat_lt
  rw [highWord, UInt64.toNat_toUInt32, UInt64.toNat_shiftRight, Nat.shiftRight_eq_div_pow]
  change word.toNat / 4294967296 % 4294967296 = word.toNat / 4294967296
  omega

theorem toNat_lowWord (word : UInt64) : (lowWord word).toNat = word.toNat % 4294967296 :=
  word.toNat_toUInt32

namespace Surroundings

def hostTgid (env : Surroundings) : UInt32 :=
  highWord env.pidTgid

def fillStamp (env : Surroundings) (now : UInt64) (stamp : Stamp) : Stamp :=
  { stamp with
    time := now
    syscall := env.syscall
    processor := env.processor.toUInt16 }

def fillIdentity (env : Surroundings) (task : TaskView) (identity : Identity) : Identity :=
  { identity with
    startTime := task.startTime
    hostPid := lowWord env.pidTgid
    hostTgid := env.hostTgid
    hostPpid := task.hostPpid
    pid := task.nsPid
    tgid := task.nsTgid
    ppid := task.nsPpid
    uid := lowWord env.uidGid
    gid := highWord env.uidGid
    cgroupId := env.cgroupId
    mountNsId := task.mountNsId
    pidNsId := task.pidNsId
    lifetimeId := lifetimeId env.hostTgid task.leaderStartTime
    parentLifetimeId := lifetimeId task.hostPpid task.parentStartTime
    comm := env.comm }

def fillContext (env : Surroundings) (now : UInt64) (task : TaskView) (node : Node)
    (context : Context) : Context :=
  { context with
    stamp := env.fillStamp now context.stamp
    identity := env.fillIdentity task context.identity
    node := node }

/--
Fills in both paths.  They are put together one after the other in the same buffer, so the first is
stored before the second is looked up.
-/
def fillPaths (env : Surroundings) (scratch : Scratch) (record : Event) : Scratch × Event :=
  let cwd := env.assemblePath .cwd scratch
  let exe := env.assemblePath .exe cwd.1
  (exe.1, { record with cwd := record.cwd.store cwd.2, exe := record.exe.store exe.2 })

/--
Fills in a record of a kind, as far as the kernel can be read.  The scratch buffer is returned
because its contents change.
-/
def fill (env : Surroundings) (kind : Kind) (now : UInt64) (scratch : Scratch) (record : Event) :
    Scratch × Except CaptureFailure Event :=
  match env.task?, env.node? with
  | some task, some node =>
      if env.scratchAvailable then
        let marked := record.withKind kind
        let placed := { marked with context := env.fillContext now task node marked.context }
        let filled := env.fillPaths scratch placed
        (filled.1, .ok filled.2)
      else
        (scratch, .error .scratchExhausted)
  | _, _ => (scratch, .error .metadataMissing)

end Surroundings

end BindTrace
