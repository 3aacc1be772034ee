import BindTrace.Capture.Site
import BindTrace.Channel.ByteRing

/-!
# The pipeline on given answers

The whole way of a call, from the probe to the consumer, on a ring in memory and a kernel whose
answers are settings.  Settings, memory and agent may change between any two firings.
-/

namespace BindTrace

def textBytes (text : String) : List UInt8 :=
  text.toUTF8.data.toList

/-- A kernel given by its answers. -/
structure Settings where
  pidTgid : UInt64
  uidGid : UInt64
  cgroupId : UInt64
  comm : Block commSize
  task : TaskView
  taskReadable : Bool := true
  node : Node
  nodeReadable : Bool := true
  scratchAvailable : Bool := true
  cwd : List UInt8
  exe : List UInt8
  processor : UInt32 := 3
  syscall : Int32 := bindSyscall

namespace Settings

def webServer (pidTgid : UInt64) : Settings where
  pidTgid := pidTgid
  uidGid := ((100 : UInt64) <<< 32) ||| 1000
  cgroupId := 0x5eed
  comm := Block.ofPadded commSize (textBytes "nginx")
  task := {
    startTime := 9000
    leaderStartTime := 8000
    hostPpid := 1
    parentStartTime := 10
    nsPid := highWord pidTgid % 100 + 1
    nsTgid := highWord pidTgid % 100 + 1
    nsPpid := 0
    mountNsId := 4026531841
    pidNsId := 4026531836 }
  node := {
    sysname := Block.ofPadded nodeNameSize (textBytes "Linux")
    nodename := Block.ofPadded nodeNameSize (textBytes "node-a")
    release := Block.ofPadded nodeNameSize (textBytes "6.8.0")
    version := Block.zero nodeNameSize
    machine := Block.ofPadded nodeNameSize (textBytes "x86_64")
    domainname := Block.zero nodeNameSize }
  cwd := textBytes "/srv/www"
  exe := textBytes "/usr/sbin/nginx"

def source (settings : Settings) : PathKind → List UInt8
  | .cwd => settings.cwd
  | .exe => settings.exe

/-- Writes as much of a path as fits to the front of the buffer, and reads it back from there. -/
def assemblePath (settings : Settings) (path : PathKind) (scratch : Scratch) :
    Scratch × List UInt8 :=
  let bytes := (settings.source path).take scratchSize
  let written := scratch.write 0 bytes
  (written, written.toList.take bytes.length)

def surroundings (settings : Settings) : Surroundings where
  syscall := settings.syscall
  processor := settings.processor
  pidTgid := settings.pidTgid
  uidGid := settings.uidGid
  cgroupId := settings.cgroupId
  comm := settings.comm
  task? := if settings.taskReadable then some settings.task else none
  node? := if settings.nodeReadable then some settings.node else none
  counterAvailable := true
  scratchAvailable := settings.scratchAvailable
  assemblePath := settings.assemblePath

end Settings

structure Pipeline where
  settings : Settings
  memory : Memory
  config : SelfFilter
  site : Site ByteRing

namespace Pipeline

inductive Step where
  | entry (args : CallArguments)
  | exit (result : Int32)
  | abandon (kind : Kind)
  | admits
  | configure (settings : Settings) (clock? : Option UInt64)
  | remap (memory : Memory)
  | agent (config : SelfFilter)
  | pop

inductive Answer where
  | done
  | fired (outcome : Except CaptureFailure Unit)
  | admitted (answer : Bool)
  | popped (event : Option Event)

def step (pipeline : Pipeline) : Step → Answer × Pipeline
  | .entry args =>
      let fired := pipeline.site.recordEntry pipeline.config pipeline.settings.surroundings
        pipeline.memory args
      (.fired fired.1, { pipeline with site := fired.2 })
  | .exit result =>
      let fired := pipeline.site.recordExit pipeline.config pipeline.settings.surroundings result
      (.fired fired.1, { pipeline with site := fired.2 })
  | .abandon kind =>
      let fired := pipeline.site.recordAbandoned pipeline.config pipeline.settings.surroundings kind
      (.fired fired.1, { pipeline with site := fired.2 })
  | .admits =>
      (.admitted (pipeline.config.admits pipeline.settings.surroundings.hostTgid), pipeline)
  | .configure settings clock? =>
      (.done, { pipeline with
        settings := settings
        site := { pipeline.site with clock := clock?.getD pipeline.site.clock } })
  | .remap memory => (.done, { pipeline with memory := memory })
  | .agent config => (.done, { pipeline with config := config })
  | .pop =>
      let popped := pipeline.site.pop
      (.popped popped.1, { pipeline with site := popped.2 })

end Pipeline

end BindTrace
