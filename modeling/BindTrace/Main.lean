import BindTrace.Agent.Relay
import BindTrace.CommandLine.Parse

/-!
# The command line program

Reads records as they come out of the event ring from standard input and prints the lines that the
agent logs for them.
-/

namespace BindTrace

/-- Bytes cut into items of one record each; the last may be shorter. -/
def cutItems (bytes : ByteArray) : List Item :=
  (List.range ((bytes.size + Event.size - 1) / Event.size)).map fun i =>
    (bytes.extract (i * Event.size) ((i + 1) * Event.size)).data.toList

partial def readToEnd (stream : IO.FS.Stream) (sofar : ByteArray) : IO ByteArray := do
  let more ← stream.read 65536
  if more.isEmpty then return sofar
  else readToEnd stream (sofar ++ more)

end BindTrace

open BindTrace in
def main (args : List String) : IO UInt32 := do
  match CommandLine.parse args with
  | .error .helpRequested =>
      IO.print CommandLine.help
      return 0
  | .error error =>
      IO.eprint error.message
      return 2
  | .ok _ =>
      let bytes ← readToEnd (← IO.getStdin) ByteArray.empty
      for line in ((Relay.start true).batch (cutItems bytes)).1 do
        IO.println line.text
      return 0
