import FusionMpt.Region.Slot
import FusionMpt.Transfer.Direction
import FusionMpt.Transfer.Status

/-!
# Packets

A SCSI command as the caller has it, with the buffers its results go into.

How much to move is said apart from the buffers. Going in, a length says how
many bytes of its buffer take part, and the buffer must have that many; coming
back, it says how many of them mean anything. So an outcome of which nothing
is known is reported by lengths of zero, with the buffers left as they are.

A length that does not fit the data slot is cut to it, so that the same packet
can be issued again.

## Main definitions

* `Packet`: A command and its results.
* `Packet.noData`, `Packet.read`, `Packet.write`, `Packet.withSense`: Packets
  for the usual commands.
* `Packet.dataIn`, `Packet.sense`: The results that mean something.
* `DataPhase`: What a packet moves, and how much.
* `Packet.undelivered`, `Packet.clamped`, `Packet.aborted`: The packet after
  the three ways to fail.
-/

namespace FusionMpt

/-- A SCSI command and its results. -/
@[ext]
structure Packet where
  direction : Direction := .none
  /-- The command descriptor block. -/
  cdb : List UInt8 := []
  inData : List UInt8 := []
  inLength : UInt32 := 0
  outData : List UInt8 := []
  outLength : UInt32 := 0
  senseData : List UInt8 := []
  senseLength : UInt8 := 0
  hostStatus : HostStatus := .ok
  targetStatus : TargetStatus := .good
deriving DecidableEq, Repr

/-- What a command moves, and how many bytes. -/
inductive DataPhase where
  | none
  | toHost (length : UInt32)
  | toDevice (length : UInt32)
deriving DecidableEq, Repr

namespace DataPhase

/-- The number of bytes moved. -/
def length : DataPhase → UInt32
  | .none => 0
  | .toHost length => length
  | .toDevice length => length

end DataPhase

namespace Packet

/-- The most bytes that one command can move. -/
def capacity : UInt32 :=
  UInt32.ofNat (Slot.size .data)

/-- The most bytes that a command block has. -/
def maxCommand : Nat := 16

/-- A command that moves no data. -/
def noData (cdb : List UInt8) : Packet where
  cdb := cdb

/-- A command that reads `length` bytes. -/
def read (cdb : List UInt8) (length : UInt32) : Packet where
  direction := .read
  cdb := cdb
  inData := List.replicate length.toNat 0
  inLength := length

/-- A command that writes `data`. The length is 32 bits wide and wraps for
    more data than that. -/
def write (cdb data : List UInt8) : Packet where
  direction := .write
  cdb := cdb
  outData := data
  outLength := UInt32.ofNat data.length

/-- The packet with a buffer for `length` bytes of sense data. -/
def withSense (p : Packet) (length : UInt8) : Packet :=
  { p with senseData := List.replicate length.toNat 0, senseLength := length }

/-- The bytes that the device returned. -/
def dataIn (p : Packet) : List UInt8 :=
  p.inData.take p.inLength.toNat

/-- The sense bytes that the device returned. -/
def sense (p : Packet) : List UInt8 :=
  p.senseData.take p.senseLength.toNat

/-- What the packet moves. A length of zero moves nothing, whatever the
    direction, and so does a length of the other direction. -/
def dataPhase (p : Packet) : DataPhase :=
  match p.direction with
  | .read => if p.inLength = 0 then .none else .toHost p.inLength
  | .write => if p.outLength = 0 then .none else .toDevice p.outLength
  | .none | .bidirectional => .none

/-- The packet after a request that never reached the adapter. -/
def undelivered (p : Packet) : Packet :=
  { p with
    inLength := 0
    outLength := 0
    senseLength := 0
    hostStatus := .other
    targetStatus := .good }

/-- The packet after a refusal because a length exceeds the data slot: both
    lengths are cut to fit. -/
def clamped (p : Packet) : Packet :=
  { p with
    inLength := min p.inLength capacity
    outLength := min p.outLength capacity
    senseLength := 0
    hostStatus := .dataOverrunUnderrun
    targetStatus := .good }

/-- The packet after a request that failed under way, of whose outcome nothing
    is known. A host status that already says what went wrong is kept. -/
def aborted (p : Packet) : Packet :=
  { p with
    inLength := 0
    outLength := 0
    senseLength := 0
    hostStatus := if p.hostStatus = .ok then .other else p.hostStatus
    targetStatus := .taskAborted }

end Packet

end FusionMpt
