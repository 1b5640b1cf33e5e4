import FusionMpt.Frame.IoRequest
import FusionMpt.Region.Basic
import FusionMpt.Platform.Attempt
import FusionMpt.Transfer.Admission

/-!
# Placement

A packet becomes a request: its frame and, when it writes, its data are put
into the shared memory where the adapter will look for them.

What the frame says depends on the packet and on where the memory is, and on
nothing else. The data goes in first, then the whole slot of the frame is
zeroed, then the frame is written over the zeros; so nothing of an earlier
request is left in the slot.

The element always names the start of the data slot, also when no data is
moved; its length is zero then.

## Main definitions

* `IoRequest.ofPacket`: The frame of a packet.
* `Packet.place`: Put a packet's data and its frame into shared memory.
* `Packet.stage`: Admit a packet and place it.
-/

namespace FusionMpt

namespace DataPhase

/-- The control word for the phase. -/
def control : DataPhase → TransferControl
  | .none => .none
  | .toHost _ => .read
  | .toDevice _ => .write

/-- The flags of the element for the phase: one simple element with a 64-bit
    address, the last in every respect; and when the device is to read the
    memory, that it holds data. -/
def scatterFlags : DataPhase → ScatterFlags
  | .none | .toHost _ => single
  | .toDevice _ => single.union ScatterFlags.bufferContainsData
where
  /-- The flags of a single simple element. -/
  single : ScatterFlags :=
    ScatterFlags.endOfList ||| ScatterFlags.address64 ||| ScatterFlags.simple
      ||| ScatterFlags.endOfBuffer ||| ScatterFlags.lastElement

end DataPhase

/-- The bytes of a command block, with zeros behind. -/
def IoRequest.padCommand (cdb : List UInt8) : Vector UInt8 16 :=
  Vector.ofFn fun i => cdb.getD i.val 0

/-- The bytes of a logical unit number, of which the adapter looks at the
    second. -/
def IoRequest.lunField (lun : UInt64) : Vector UInt8 8 :=
  #v[0, lun.toUInt8, 0, 0, 0, 0, 0, 0]

/-- The frame that asks for what a packet says. -/
def IoRequest.ofPacket (region : Region) (target : Target) (lun : UInt64) (p : Packet) :
    IoRequest where
  targetId := target.number
  bus := 0
  chainOffset := 0
  function := functionCode
  cdbLength := UInt8.ofNat p.cdb.length
  senseLength := p.senseLength
  messageFlags := 0
  messageContext := context
  lun := lunField lun
  control := p.dataPhase.control
  cdb := padCommand p.cdb
  dataLength := p.dataPhase.length
  senseLowAddress := region.lowAddress .sense
  sg :=
    { length := p.dataPhase.length
      flags := p.dataPhase.scatterFlags
      address := region.address .data }

namespace Packet

/-- Put the data that the device is to read into its slot, if there is any. -/
def placeData (p : Packet) : Bus Unit :=
  match p.dataPhase with
  | .toDevice length => Slot.data.write 0 (p.outData.take length.toNat)
  | .none | .toHost _ => pure ()

/-- Put a packet's data and its frame into shared memory. -/
def place (p : Packet) (request : IoRequest) : Bus Unit := do
  p.placeData
  Slot.request.zero
  Slot.request.write 0 request.encode.toList

/-- Admit a packet and place it. With the outcome comes the packet, which a
    refusal may change. -/
def stage (p : Packet) (region : Region) (target : Target) (lun : UInt64) :
    Program (Except Error IoRequest × Packet) :=
  match p.check target lun with
  | .error refusal => return (.error refusal, p.refused refusal)
  | .ok () => do
    let request := IoRequest.ofPacket region target lun p
    let placed ← (p.place request).attempt.run
    return (placed.map fun _ => request, p)

end Packet

end FusionMpt
