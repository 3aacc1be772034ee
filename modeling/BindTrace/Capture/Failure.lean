/-!
# Why a call is not recorded

A firing that publishes no record ends in one of four ways.  A negative status tells the kernel that
something went wrong; leaving the agent out is no fault.
-/

namespace BindTrace

/-- Why a firing published no record. -/
inductive CaptureFailure where
  | selfEvent
  | channelFull
  | scratchExhausted
  | metadataMissing
deriving DecidableEq, Repr

namespace CaptureFailure

def status : CaptureFailure → Int32
  | selfEvent => 0
  | channelFull => -1
  | scratchExhausted => -2
  | metadataMissing => -3

def isFault : CaptureFailure → Bool
  | selfEvent => false
  | _ => true

def text : CaptureFailure → String
  | selfEvent => "FilterIgnored"
  | channelFull => "ReservationFailed"
  | scratchExhausted => "ScratchSpaceExhausted"
  | metadataMissing => "NullMetadata"

end CaptureFailure

end BindTrace
