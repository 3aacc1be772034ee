import BindTrace.Agent.Failure
import BindTrace.Log
import BindTrace.SelfFilter

/-!
# Installing the probes

The agent loads the probe object with its own pid baked in, attaches both programs to a kernel
symbol and takes the event ring out of the object's maps.  Every call on the object is recorded,
and the first that fails ends the work.
-/

namespace BindTrace

def configName : String := "AGENT_CONFIG"

def eventMapName : String := "EVT_MAP"

def counterMapName : String := "STATS_MAP"

def scratchMapName : String := "SCRATCH_MAP"

def eventRingBytes : Nat := 262144

def entryProgram : String := "sys_bind_entry"

def exitProgram : String := "sys_bind_exit"

inductive ProgramKind where
  | probe
  | loaded
  | attached
  | foreign
deriving DecidableEq, Repr

inductive MapKind where
  | ring
  | perCpu
  | foreign
deriving DecidableEq, Repr

structure ProbeObject where
  bytes : List UInt8
  accepted : Bool := true
  programs : List (String × ProgramKind)
  maps : List (String × MapKind)

inductive Call where
  | setGlobal (name : String) (value : List UInt8) (mustExist : Bool)
  | load (size : Nat)
  | program (name : String)
  | loadProgram (name : String)
  | attach (name symbol : String) (offset : Nat)
  | takeMap (name : String)
deriving DecidableEq

structure Trace where
  calls : List Call := []
  lines : List LogLine := []

/-- Work that may fail, and leaves its trace all the same. -/
abbrev Install := ExceptT AgentFailure (StateM Trace)

namespace Install

def call (c : Call) : Install Unit :=
  modify fun trace => { trace with calls := trace.calls ++ [c] }

def log (level : Level) (message : String) : Install Unit :=
  modify fun trace =>
    { trace with
      lines := trace.lines ++
        [{ level := level, target := "kestrel::loader", message := message }] }

def require (condition : Bool) (error : AgentFailure) : Install Unit :=
  if condition then pure () else throw error

end Install

namespace ProbeObject

def load (object : ProbeObject) (pid : UInt32) : Install Unit := do
  Install.require (!object.bytes.isEmpty) .objectEmpty
  Install.call (.setGlobal configName (SelfFilter.mk pid).toBlock.toList true)
  Install.call (.load object.bytes.length)
  Install.require object.accepted .objectRefused
  Install.log .debug ("loaded eBPF object, agent pid " ++ toString pid.toNat)

def attachProgram (object : ProbeObject) (symbol name : String) : Install Unit := do
  Install.call (.program name)
  match object.programs.lookup name with
  | none => throw .programMissing
  | some kind =>
      Install.require (kind != .foreign) .programKindMismatch
      Install.call (.loadProgram name)
      Install.require (kind != .loaded) .programLoaded
      Install.call (.attach name symbol 0)
      Install.require (kind != .attached) .programAttached

def takeMap (object : ProbeObject) (name : String) (kind : MapKind) : Install Unit := do
  Install.call (.takeMap name)
  match object.maps.lookup name with
  | none => throw (.mapMissing name)
  | some found => Install.require (found == kind) .mapKindMismatch

def attachProbes (object : ProbeObject) (symbol : String) : Install Unit := do
  object.attachProgram symbol entryProgram
  object.attachProgram symbol exitProgram
  Install.log .info ("bind probes attached to " ++ symbol)
  object.takeMap eventMapName .ring

def takeCounter (object : ProbeObject) : Install Unit :=
  object.takeMap counterMapName .perCpu

end ProbeObject

end BindTrace
