import FusionMpt.Topology.Address
import FusionMpt.Transfer.Packet

/-!
# Admission

Which packets are let through to the adapter. A packet is refused for the
first of these that holds of it: it moves data both ways; its command is too
long; nothing is at the address; a length exceeds the data slot, of either
direction and whichever way the packet goes; the length of its own direction
exceeds its buffer; the sense length exceeds its buffer.

A refusal leaves the packet as it is, but for a length that exceeds the data
slot: then the lengths are cut to fit.

## Main definitions

* `Packet.check`: Let a packet through, or say why not.
* `Packet.refused`: The packet after a refusal.
-/

namespace FusionMpt

namespace Packet

/-- Refuse a command that no adapter of the family can be given. -/
def checkCommand (p : Packet) : Except Error Unit :=
  if p.direction = .bidirectional then .error (.unsupported .bidirectionalTransfer)
  else if maxCommand < p.cdb.length then .error (.unsupported .longCommand)
  else .ok ()

/-- Refuse lengths that exceed the data slot. Of two such lengths the one in
    is reported. -/
def checkCapacity (p : Packet) : Except Error Unit :=
  if capacity < p.inLength then .error (.bufferTooSmall .read p.inLength capacity)
  else if capacity < p.outLength then .error (.bufferTooSmall .write p.outLength capacity)
  else .ok ()

/-- Refuse lengths that exceed the caller's own buffers. -/
def checkBuffers (p : Packet) : Except Error Unit :=
  if p.direction = .read ∧ p.inData.length < p.inLength.toNat then
    .error (.invalidParameter .inLength)
  else if p.direction = .write ∧ p.outData.length < p.outLength.toNat then
    .error (.invalidParameter .outLength)
  else if p.senseData.length < p.senseLength.toNat then
    .error (.invalidParameter .senseLength)
  else .ok ()

/-- Let a packet through to a device, or say why not. -/
def check (p : Packet) (target : Target) (lun : UInt64) : Except Error Unit := do
  p.checkCommand
  checkAddress target lun
  p.checkCapacity
  p.checkBuffers

/-- The packet after it was refused for a reason. -/
def refused (p : Packet) : Error → Packet
  | .bufferTooSmall .. => p.clamped
  | _ => p

end Packet

end FusionMpt
