import BindTrace.Record
import BindTrace.Text.Quoted

/-!
# Errors of the agent

Why the agent cannot go on, by cause, and the text that tells a user.
-/

namespace BindTrace

namespace DecodeError

def message : DecodeError → String
  | misaligned => "InvalidEventAlign"
  | tooShort => "InvalidEventSize"
  | unknownKind raw => "UnknownEventKind(" ++ toString raw.toInt ++ ")"

end DecodeError

inductive AgentFailure where
  | custom (text : String)
  | receiverGone
  | sendersGone
  | programMissing
  | mapMissing (name : String)
  | objectEmpty
  | undecodable (error : DecodeError)
  | objectRefused
  | elementMissing
  | mapKindMismatch
  | programKindMismatch
  | programLoaded
  | programAttached
  | io (text : String)
deriving DecidableEq

namespace AgentFailure

def message : AgentFailure → String
  | custom text => "Custom(" ++ Text.quote text ++ ")"
  | receiverGone => "EventSend(" ++ Text.quote "sending on a closed channel" ++ ")"
  | sendersGone => "EventRecv(Disconnected)"
  | programMissing => "EbpfProgNotFound"
  | mapMissing name => "eBPF map '" ++ name ++ "' not found"
  | objectEmpty => "eBPF object is empty, was bpf-linker installed at build time?"
  | undecodable error => error.message
  | objectRefused => "AyaEbpf(NoBTF)"
  | elementMissing => "AyaMaps(ElementNotFound)"
  | mapKindMismatch => "AyaMaps(InvalidMapType \x7b map_type: 0 \x7d)"
  | programKindMismatch => "AyaProgram(UnexpectedProgramType)"
  | programLoaded => "AyaProgram(AlreadyLoaded)"
  | programAttached => "AyaProgram(AlreadyAttached)"
  | io text => "Io(Custom \x7b kind: Other, error: " ++ Text.quote text ++ " \x7d)"

end AgentFailure

end BindTrace
