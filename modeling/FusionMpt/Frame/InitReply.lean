import FusionMpt.Wire.LittleEndian

/-!
# The Initialization Reply

What the adapter answers to an initialization request. It comes back through
the doorbell, of which only the lower 16 bits of each read carry payload, so
the frame arrives as ten 16-bit words.

Nothing in it is acted on: an adapter that reports a status other than success
is brought up all the same. It has to be read to complete the exchange, and it
is kept for whoever wants to look.

## Main definitions

* `InitReply`: The fields of the frame.
* `InitReply.encode`, `InitReply.decode`: The frame and its 20 bytes.

## Theorems

* `InitReply.decode_encode`: The bytes of a frame spell it.
-/

namespace FusionMpt

open LittleEndian

/-- The adapter's answer to being started. -/
@[ext]
structure InitReply where
  whoInit : UInt8 := 0
  messageLength : UInt8 := 0
  function : UInt8 := 0
  flags : UInt8 := 0
  maxDevices : UInt8 := 0
  maxBuses : UInt8 := 0
  messageFlags : UInt8 := 0
  messageContext : UInt32 := 0
  status : UInt16 := 0
  logInfo : UInt32 := 0
deriving DecidableEq, Repr

namespace InitReply

/-- The number of bytes of the frame. -/
def size : Nat := 20

/-- The bytes of the frame. -/
def encode (r : InitReply) : Vector UInt8 20 :=
  let context := r.messageContext.toNat
  let status := r.status.toNat
  let logInfo := r.logInfo.toNat
  #v[r.whoInit, 0, r.messageLength, r.function,
    r.flags, r.maxDevices, r.maxBuses, r.messageFlags,
    octet context 0, octet context 1, octet context 2, octet context 3,
    0, 0, octet status 0, octet status 1,
    octet logInfo 0, octet logInfo 1, octet logInfo 2, octet logInfo 3]

/-- The frame that 20 bytes spell; reserved bytes say nothing. -/
def decode (bytes : Vector UInt8 20) : InitReply where
  whoInit := bytes[0]
  messageLength := bytes[2]
  function := bytes[3]
  flags := bytes[4]
  maxDevices := bytes[5]
  maxBuses := bytes[6]
  messageFlags := bytes[7]
  messageContext := word32At bytes 8
  status := word16At bytes 14
  logInfo := word32At bytes 16

theorem decode_encode (r : InitReply) : decode r.encode = r := by
  cases r
  simp [decode, encode, word32At, word16At, word32_octet, word16_octet]

end InitReply

end FusionMpt
