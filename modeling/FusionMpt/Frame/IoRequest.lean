import FusionMpt.Frame.ScatterGather

/-!
# The SCSI I/O Request

The frame that carries one SCSI command to the adapter: the address of the
device, the command descriptor block, where to put sense data, and one
scatter-gather element for the data.

The command block has sixteen bytes on the wire, and a length that says how
many of them count. The logical unit number has eight, of which the adapter
looks at the second.

## Main definitions

* `IoRequest`: The fields of the frame.
* `IoRequest.encode`, `IoRequest.decode`: The frame and its 60 bytes.
* `IoRequest.command`: The bytes of the command block that count.
* `TransferControl`: The control words for the three ways of moving data.
-/

namespace FusionMpt

open LittleEndian

/-- Control words: which way the data phase goes, seen from the adapter. -/
structure TransferControl where
  word : UInt32
deriving DecidableEq, Repr

namespace TransferControl

/-- There is no data phase. -/
def none : TransferControl := ⟨0x00000000⟩

/-- Data goes to the device. -/
def write : TransferControl := ⟨0x01000000⟩

/-- Data comes from the device. -/
def read : TransferControl := ⟨0x02000000⟩

end TransferControl

/-- The frame of one SCSI command. -/
@[ext]
structure IoRequest where
  targetId : UInt8
  bus : UInt8
  chainOffset : UInt8
  function : UInt8
  cdbLength : UInt8
  senseLength : UInt8
  messageFlags : UInt8
  messageContext : UInt32
  lun : Vector UInt8 8
  control : TransferControl
  cdb : Vector UInt8 16
  dataLength : UInt32
  /-- The lower half of the sense buffer's address; the upper half was given
      when the adapter was started. -/
  senseLowAddress : UInt32
  sg : ScatterGather
deriving DecidableEq

namespace IoRequest

/-- The function code of the frame. -/
def functionCode : UInt8 := 0x00

/-- The context of every request. One request at most is under way, so a
    constant is enough to know its reply by. -/
def context : UInt32 := 1

/-- The number of bytes before the scatter-gather element. -/
def headerSize : Nat := 48

/-- The number of bytes of the frame. -/
def size : Nat := headerSize + ScatterGather.size

/-- The bytes of the frame as they lie in memory. -/
def encode (r : IoRequest) : Vector UInt8 60 :=
  let context := r.messageContext.toNat
  let control := r.control.word.toNat
  let dataLength := r.dataLength.toNat
  let senseLow := r.senseLowAddress.toNat
  let element := r.sg.control.toNat
  let address := r.sg.address.toNat
  #v[r.targetId, r.bus, r.chainOffset, r.function,
    r.cdbLength, r.senseLength, 0, r.messageFlags,
    octet context 0, octet context 1, octet context 2, octet context 3,
    r.lun[0], r.lun[1], r.lun[2], r.lun[3],
    r.lun[4], r.lun[5], r.lun[6], r.lun[7],
    octet control 0, octet control 1, octet control 2, octet control 3,
    r.cdb[0], r.cdb[1], r.cdb[2], r.cdb[3],
    r.cdb[4], r.cdb[5], r.cdb[6], r.cdb[7],
    r.cdb[8], r.cdb[9], r.cdb[10], r.cdb[11],
    r.cdb[12], r.cdb[13], r.cdb[14], r.cdb[15],
    octet dataLength 0, octet dataLength 1, octet dataLength 2, octet dataLength 3,
    octet senseLow 0, octet senseLow 1, octet senseLow 2, octet senseLow 3,
    octet element 0, octet element 1, octet element 2, octet element 3,
    octet address 0, octet address 1, octet address 2, octet address 3,
    octet address 4, octet address 5, octet address 6, octet address 7]

/-- The frame that 60 bytes spell; the reserved byte says nothing. -/
def decode (bytes : Vector UInt8 60) : IoRequest where
  targetId := bytes[0]
  bus := bytes[1]
  chainOffset := bytes[2]
  function := bytes[3]
  cdbLength := bytes[4]
  senseLength := bytes[5]
  messageFlags := bytes[7]
  messageContext := word32At bytes 8
  lun := bytes.extract 12 20
  control := ⟨word32At bytes 20⟩
  cdb := bytes.extract 24 40
  dataLength := word32At bytes 40
  senseLowAddress := word32At bytes 44
  sg := .ofControl (word32At bytes 48) (word64At bytes 52)

/-- The bytes of the command block that count. -/
def command (r : IoRequest) : List UInt8 :=
  r.cdb.toList.take r.cdbLength.toNat

end IoRequest

end FusionMpt
