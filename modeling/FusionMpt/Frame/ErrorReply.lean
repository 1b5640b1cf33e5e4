import FusionMpt.Wire.LittleEndian

/-!
# The Error Reply

The frame that the adapter writes into host memory when a request did not
simply succeed. A successful request is answered by its context alone; any
other outcome by the address of this frame.

Of its fields only the status decides anything. The top bit of the status word
is not part of the status: it says whether the log field means something.

## Main definitions

* `ErrorReply`: The fields of the frame.
* `ErrorReply.encode`, `ErrorReply.decode`: The frame and its 32 bytes.
* `ErrorReply.outcome`: The status without its top bit.

## Theorems

* `ErrorReply.decode_encode`: The bytes of a frame spell it.
-/

namespace FusionMpt

open LittleEndian

/-- Status words of reply frames. -/
structure ReplyStatus where
  word : UInt16
deriving DecidableEq, Repr

namespace ReplyStatus

/-- The bits that hold the status; the one above them is a flag of its own. -/
def mask : UInt16 := 0x7fff

/-- Nothing went wrong. -/
def success : ReplyStatus := ⟨0x0000⟩

/-- No device answers at the address. -/
def deviceNotThere : ReplyStatus := ⟨0x0043⟩

/-- The status with the flag above it cleared. -/
def masked (word : UInt16) : ReplyStatus :=
  ⟨word &&& mask⟩

end ReplyStatus

/-- The adapter's account of a request that did not simply succeed. -/
@[ext]
structure ErrorReply where
  targetId : UInt8 := 0
  bus : UInt8 := 0
  messageLength : UInt8 := 0
  function : UInt8 := 0
  cdbLength : UInt8 := 0
  senseLength : UInt8 := 0
  messageFlags : UInt8 := 0
  messageContext : UInt32 := 0
  scsiStatus : UInt8 := 0
  scsiState : UInt8 := 0
  status : UInt16 := 0
  logInfo : UInt32 := 0
  transferCount : UInt32 := 0
  senseCount : UInt32 := 0
  responseInfo : UInt32 := 0
deriving DecidableEq, Repr

namespace ErrorReply

/-- The number of bytes of the frame. -/
def size : Nat := 32

/-- The bytes of the frame. -/
def encode (r : ErrorReply) : Vector UInt8 32 :=
  let context := r.messageContext.toNat
  let status := r.status.toNat
  let logInfo := r.logInfo.toNat
  let transferred := r.transferCount.toNat
  let sensed := r.senseCount.toNat
  let response := r.responseInfo.toNat
  #v[r.targetId, r.bus, r.messageLength, r.function,
    r.cdbLength, r.senseLength, 0, r.messageFlags,
    octet context 0, octet context 1, octet context 2, octet context 3,
    r.scsiStatus, r.scsiState, octet status 0, octet status 1,
    octet logInfo 0, octet logInfo 1, octet logInfo 2, octet logInfo 3,
    octet transferred 0, octet transferred 1, octet transferred 2, octet transferred 3,
    octet sensed 0, octet sensed 1, octet sensed 2, octet sensed 3,
    octet response 0, octet response 1, octet response 2, octet response 3]

/-- The frame that 32 bytes spell; the reserved byte says nothing. -/
def decode (bytes : Vector UInt8 32) : ErrorReply where
  targetId := bytes[0]
  bus := bytes[1]
  messageLength := bytes[2]
  function := bytes[3]
  cdbLength := bytes[4]
  senseLength := bytes[5]
  messageFlags := bytes[7]
  messageContext := word32At bytes 8
  scsiStatus := bytes[12]
  scsiState := bytes[13]
  status := word16At bytes 14
  logInfo := word32At bytes 16
  transferCount := word32At bytes 20
  senseCount := word32At bytes 24
  responseInfo := word32At bytes 28

/-- How the request ended, by the frame. -/
def outcome (r : ErrorReply) : ReplyStatus :=
  .masked r.status

theorem decode_encode (r : ErrorReply) : decode r.encode = r := by
  cases r
  simp [decode, encode, word32At, word16At, word32_octet, word16_octet]

end ErrorReply

end FusionMpt
