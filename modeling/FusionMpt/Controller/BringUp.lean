import FusionMpt.Channel.Doorbell
import FusionMpt.Channel.Queue
import FusionMpt.Frame.InitReply
import FusionMpt.Frame.InitRequest
import FusionMpt.Region.Basic

/-!
# Bringing an Adapter Up

The sequence that takes an adapter from whatever state it is in to one where
it accepts requests. It is a straight line with no retry: the first access
that fails ends it, and the error says at which step.

Its first three steps quiet the adapter: it is reset, so that it touches
neither queue nor memory any more, and all its reasons for attention are
masked and withdrawn. They are also the way to shut an adapter down.

The adapter's answer is read because the exchange is not complete otherwise.
It is not judged.

## Main definitions

* `BringUp.quiesce`: Reset the adapter and quiet it.
* `BringUp.request`: The frame that starts it.
* `BringUp.sequence`: The whole sequence.
-/

namespace FusionMpt

namespace BringUp

/-- Every reason for attention that the adapter may have. -/
def everyReason : InterruptStatus :=
  InterruptStatus.doorbell ||| InterruptStatus.reply

/-- Reset the adapter and leave it with every reason for attention masked and
    withdrawn. -/
def quiesce : Attempt Unit := do
  Doorbell.reset.during .reset
  (Bus.writeRegister Register.interruptMask (.ofBitVec everyReason.bits)).during .maskInterrupts
  Register.acknowledge.during .clearInterruptStatus

/-- The frame that starts the adapter: one device on one bus, and the upper
    half of every address in the region. -/
def request (region : Region) : InitRequest where
  whoInit := InitRequest.bootFirmware
  function := InitRequest.functionCode
  maxDevices := 1
  maxBuses := 1
  replyFrameSize := UInt16.ofNat ErrorReply.size
  frameHighAddress := region.highAddress
  senseHighAddress := region.highAddress

/-- Bring the adapter up, and return its answer. -/
def sequence (region : Region) : Attempt InitReply := do
  quiesce
  (Doorbell.handshake (request region).words.toList (by simp)).during .sendInitRequest
  let answer ← (Doorbell.drain 10).during .drainInitReply
  Register.acknowledge.during .acknowledgeInitReply
  (Queue.arm (region.lowAddress .errorReply)).during .armErrorReply
  return InitReply.decode (LittleEndian.spread answer)

end BringUp

end FusionMpt
