import FusionMpt.Channel.Queue
import FusionMpt.Region.Basic
import FusionMpt.Transfer.Packet

/-!
# Completion

A reply token becomes the results of a packet. First everything the device may
have returned is copied back: the sense data, and the data when the packet
reads. Only then is the token looked at.

* The context of the request says that it succeeded.
* Any other token without its top bit belongs to no request, and breaks the
  protocol.
* A token with its top bit set says that the adapter has filled in the error
  frame. Its status decides the host status, and the frame is handed back to
  the adapter for the next time. The target status stays what it was: the
  sense data tells more.

Each step may fail, and what it did to the packet before then stays done.

## Main definitions

* `Exchange`: A program that fills in a packet and may fail.
* `Packet.copyBack`: Copy back what the device returned.
* `Packet.complete`: Finish a packet by the token of its reply.
-/

namespace FusionMpt

/-- A program that fills in a packet and may fail; the packet is kept either
    way. -/
abbrev Exchange := ExceptT Error (StateT Packet Program)

/-- An attempt that leaves the packet alone. -/
def Attempt.exchange {α : Type} (attempt : Attempt α) : Exchange α :=
  fun p => do
    let outcome ← attempt.run
    return (outcome, p)

/-- Replies that say a request succeeded are its context; of the others, those
    with this bit point at an error frame. -/
def replyAddressFlag : UInt32 := 0x80000000

namespace Packet

/-- Copy back the sense data. It is read even when no byte of it is wanted. -/
def copySense : Exchange Unit := do
  let p ← get
  if p.senseData.length < p.senseLength.toNat then
    throw (.invalidParameter .senseLength)
  else
    let bytes ← (Slot.sense.read 0 p.senseLength.toNat).attempt.exchange
    set { p with senseData := bytes.toList ++ p.senseData.drop p.senseLength.toNat }

/-- Copy back the data that the device returned, if the packet reads any. -/
def copyData : Exchange Unit := do
  let p ← get
  match p.dataPhase with
  | .none | .toDevice _ => return ()
  | .toHost length =>
    if p.inData.length < length.toNat then
      throw (.invalidParameter .inLength)
    else
      let bytes ← (Slot.data.read 0 length.toNat).attempt.exchange
      set { p with inData := bytes.toList ++ p.inData.drop length.toNat }

/-- Copy back what the device returned. -/
def copyBack : Exchange Unit := do
  copySense
  copyData

/-- Take the results of a failed request from the error frame, and hand the
    frame back. -/
def completeFailed (region : Region) : Exchange Unit := do
  let bytes ← (Slot.errorReply.read 0 32).attempt.exchange
  let reply := ErrorReply.decode bytes
  modify fun p => { p with hostStatus := .ofReplyStatus reply.status }
  (Queue.arm (region.lowAddress .errorReply)).attempt.exchange

/-- Finish a packet by the token of its reply. -/
def complete (region : Region) (token : UInt32) : Exchange Unit := do
  copyBack
  if token = IoRequest.context then
    modify fun p => { p with hostStatus := .ok, targetStatus := .good }
  else if token &&& replyAddressFlag = 0 then
    throw (.device (.unexpectedReply token))
  else
    completeFailed region

end Packet

end FusionMpt
