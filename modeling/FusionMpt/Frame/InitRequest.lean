import FusionMpt.Wire.LittleEndian

/-!
# The Initialization Request

The frame that tells a freshly reset adapter how it will be driven: how many
devices and buses to expect, how long an error reply may be, and the upper
halves of the addresses that later requests give by their lower 32 bits only.

It is sent through the doorbell, a 32-bit word at a time, so beside its bytes
it has its words.

## Main definitions

* `InitRequest`: The fields of the frame.
* `InitRequest.encode`, `InitRequest.decode`: The frame and its 24 bytes.
* `InitRequest.words`: The six words that the doorbell carries.

## Theorems

* `InitRequest.decode_encode`: The bytes of a frame spell it.
-/

namespace FusionMpt

open LittleEndian

/-- The frame that starts an adapter. -/
@[ext]
structure InitRequest where
  whoInit : UInt8 := 0
  function : UInt8 := 0
  flags : UInt8 := 0
  maxDevices : UInt8 := 0
  maxBuses : UInt8 := 0
  messageFlags : UInt8 := 0
  messageContext : UInt32 := 0
  replyFrameSize : UInt16 := 0
  /-- The upper half of every request frame's address. -/
  frameHighAddress : UInt32 := 0
  /-- The upper half of every sense buffer's address. -/
  senseHighAddress : UInt32 := 0
deriving DecidableEq, Repr

namespace InitRequest

/-- The number of bytes of the frame. -/
def size : Nat := 24

/-- The function code of the frame. -/
def functionCode : UInt8 := 0x02

/-- The code by which firmware of the boot path introduces itself. -/
def bootFirmware : UInt8 := 0x02

/-- The bytes of the frame. -/
def encode (r : InitRequest) : Vector UInt8 24 :=
  let context := r.messageContext.toNat
  let replySize := r.replyFrameSize.toNat
  let frameHigh := r.frameHighAddress.toNat
  let senseHigh := r.senseHighAddress.toNat
  #v[r.whoInit, 0, 0, r.function,
    r.flags, r.maxDevices, r.maxBuses, r.messageFlags,
    octet context 0, octet context 1, octet context 2, octet context 3,
    octet replySize 0, octet replySize 1, 0, 0,
    octet frameHigh 0, octet frameHigh 1, octet frameHigh 2, octet frameHigh 3,
    octet senseHigh 0, octet senseHigh 1, octet senseHigh 2, octet senseHigh 3]

/-- The frame that 24 bytes spell; reserved bytes say nothing. -/
def decode (bytes : Vector UInt8 24) : InitRequest where
  whoInit := bytes[0]
  function := bytes[3]
  flags := bytes[4]
  maxDevices := bytes[5]
  maxBuses := bytes[6]
  messageFlags := bytes[7]
  messageContext := word32At bytes 8
  replyFrameSize := word16At bytes 12
  frameHighAddress := word32At bytes 16
  senseHighAddress := word32At bytes 20

/-- The words that the doorbell carries, in order. -/
def words (r : InitRequest) : Vector UInt32 6 :=
  let bytes := r.encode
  #v[word32At bytes 0, word32At bytes 4, word32At bytes 8, word32At bytes 12,
    word32At bytes 16, word32At bytes 20]

theorem decode_encode (r : InitRequest) : decode r.encode = r := by
  cases r
  simp [decode, encode, word32At, word16At, word32_octet, word16_octet]

end InitRequest

end FusionMpt
