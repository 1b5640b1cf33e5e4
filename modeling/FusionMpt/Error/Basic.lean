import FusionMpt.Error.Bus
import FusionMpt.Transfer.Direction

/-!
# Errors

Everything an operation of the library can fail with. An error is its cause,
not its wording: what was asked for and is not offered (`Feature`), which value
was refused (`Parameter`), which rule of the protocol the adapter broke
(`DeviceError`), at which step the bring-up stopped (`BringUpStep`). The
wording is in one function per type.

An error may stand on another one. `Error.causes` lists the messages of the
errors below the outermost; a bus error that reaches the caller as it is has
none, since its message is already the outermost.

## Main definitions

* `DeviceError`: A breach of the queue protocol.
* `BringUpStep`: The steps that bring an adapter up, in order.
* `Feature`, `Parameter`: What is unsupported, and what is refused.
* `Error`: Any failure of an operation.
* `Error.message`: What is said about it.
* `Error.causes`: What is said about the errors below it.
-/

namespace FusionMpt

/-- A breach of the queue protocol, which leaves the adapter's state
    unknown. -/
inductive DeviceError where
  /-- The request did not reach the adapter. -/
  | submission (cause : BusError)
  /-- The reply queue held more than the one reply a request may have. -/
  | desync (token next : UInt32)
  /-- The reply is neither for the request nor an error frame. -/
  | unexpectedReply (token : UInt32)
deriving DecidableEq, Repr

namespace DeviceError

/-- What is said about a breach of the protocol. -/
def message : DeviceError → String
  | .submission cause => "request submission failed: " ++ cause.message
  | .desync token next =>
    "reply queue desynchronized: token " ++ hexadecimal 8 token.toNat ++ " followed by "
      ++ hexadecimal 8 next.toNat
  | .unexpectedReply token => "unexpected reply token " ++ hexadecimal 8 token.toNat

/-- What is said about the error below it, if there is one. -/
def causes : DeviceError → List String
  | .submission cause => [cause.message]
  | .desync .. | .unexpectedReply .. => []

end DeviceError

/-- The steps that bring an adapter up, in the order they are taken. -/
inductive BringUpStep where
  | reset
  | maskInterrupts
  | clearInterruptStatus
  | sendInitRequest
  | drainInitReply
  | acknowledgeInitReply
  | armErrorReply
deriving DecidableEq, Repr

namespace BringUpStep

/-- Every step, in order. -/
def all : List BringUpStep :=
  [reset, maskInterrupts, clearInterruptStatus, sendInitRequest, drainInitReply,
    acknowledgeInitReply, armErrorReply]

/-- The name a message calls the step by. -/
def name : BringUpStep → String
  | .reset => "Reset"
  | .maskInterrupts => "MaskInterrupts"
  | .clearInterruptStatus => "ClearInterruptStatus"
  | .sendInitRequest => "SendInitRequest"
  | .drainInitReply => "DrainInitReply"
  | .acknowledgeInitReply => "AcknowledgeInitReply"
  | .armErrorReply => "ArmErrorReplySlot"

end BringUpStep

/-- What an operation would need and the library does not offer. -/
inductive Feature where
  | bidirectionalTransfer
  | longCommand
  | foreignPathNode
  | channelReset
  | targetReset
  | foreignFunction
  /-- Anything else, under the name it goes by. -/
  | named (name : String)
deriving DecidableEq, Repr

/-- The feature as a message names it. -/
def Feature.text : Feature → String
  | .bidirectionalTransfer => "bidirectional transfers"
  | .longCommand => "cdb longer than 16 bytes"
  | .foreignPathNode => "device path node is not a SCSI node"
  | .channelReset => "channel reset"
  | .targetReset => "target reset"
  | .foreignFunction => "not an LSI Fusion-MPT SCSI function"
  | .named name => name

/-- A value that an operation refuses. -/
inductive Parameter where
  | shortRegion
  | wrappingRegion
  | splitRegion
  | timeoutWithoutStall
  | target
  | lun
  | inLength
  | outLength
  | senseLength
  | truncatedPathNode
  | addressRange
  | targetRange
  /-- Anything else, under the complaint made about it. -/
  | named (complaint : String)
deriving DecidableEq, Repr

/-- The complaint that a message makes about the value. -/
def Parameter.text : Parameter → String
  | .shortRegion => "dma buffer is smaller than the controller's dma region"
  | .wrappingRegion => "dma region wraps the address space"
  | .splitRegion => "dma region crosses a 4 GiB boundary"
  | .timeoutWithoutStall => "poll timeout requires a non-zero stall per poll"
  | .target => "target does not exist"
  | .lun => "lun does not exist"
  | .inLength => "in transfer length exceeds the input buffer"
  | .outLength => "out transfer length exceeds the output buffer"
  | .senseLength => "sense length exceeds the sense buffer"
  | .truncatedPathNode => "truncated device path node"
  | .addressRange => "target or lun out of range"
  | .targetRange => "target out of range"
  | .named complaint => complaint

/-- Any failure of an operation. -/
inductive Error where
  | unsupported (feature : Feature)
  | invalidParameter (parameter : Parameter)
  /-- The transfer does not fit the data slot. The packet's lengths have been
      cut to `capacity`, so that it can be issued again. -/
  | bufferTooSmall (direction : Direction) (requested capacity : UInt32)
  | bus (cause : BusError)
  | device (cause : DeviceError)
  /-- No reply came in the time allowed. -/
  | timeout (micros : UInt64)
  | notFound
  | bringUp (step : BringUpStep) (cause : BusError)
deriving DecidableEq, Repr

namespace Error

/-- What is said about an error. -/
def message : Error → String
  | .unsupported feature => "unsupported: " ++ feature.text
  | .invalidParameter parameter => "invalid parameter: " ++ parameter.text
  | .bufferTooSmall direction requested capacity =>
    direction.name ++ s!" transfer of {requested} bytes exceeds the {capacity}-byte data buffer"
  | .bus cause => cause.message
  | .device cause => "device error: " ++ cause.message
  | .timeout micros => s!"no reply after {micros} us of polling"
  | .notFound => "not found"
  | .bringUp step _ => "controller initialization failed at " ++ step.name

/-- What is said about the errors below an error, the nearest first. -/
def causes : Error → List String
  | .device cause => cause.message :: cause.causes
  | .bringUp _ cause => [cause.message]
  | .unsupported .. | .invalidParameter .. | .bufferTooSmall .. | .bus .. | .timeout ..
  | .notFound => []

end Error

end FusionMpt
