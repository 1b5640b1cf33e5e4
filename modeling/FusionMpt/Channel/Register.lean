import FusionMpt.Platform.Program

/-!
# Registers

The adapter's 32-bit registers, by their offsets in its window. Nothing is
remembered of a register between two accesses: reading one may change it, and
another party may change it at any time.

The interrupt-status register says why the adapter wants attention. Interrupts
are masked throughout, but the register shows the reasons all the same, and
that is what polling reads. Writing zero to it acknowledges all of them.

## Main definitions

* `Register.doorbell` and its siblings: The offsets.
* `InterruptStatus`: The reasons for attention, a flag word.
* `Register.interruptReasons`: Read them.
* `Register.acknowledge`: Withdraw them all.
-/

namespace FusionMpt

/-- The reasons an adapter has for attention. -/
def interruptStatusTable : FlagTable 32 where
  entries := [("DOORBELL", 0x00000001#32), ("REPLY", 0x00000008#32)]

/-- The interrupt-status word, which is laid out like the mask that goes with
    it. -/
abbrev InterruptStatus := FlagSet interruptStatusTable

namespace InterruptStatus

/-- The doorbell has something to say. -/
def doorbell : InterruptStatus := ⟨0x00000001#32⟩

/-- The reply queue holds a reply. -/
def reply : InterruptStatus := ⟨0x00000008#32⟩

end InterruptStatus

namespace Register

/-- Commands outside the queues, and their payload. -/
def doorbell : UInt32 := 0x00

/-- The unlocking sequence of the diagnostic register. -/
def writeSequence : UInt32 := 0x04

/-- Diagnostics. -/
def hostDiagnostic : UInt32 := 0x08

/-- The reasons for attention. -/
def interruptStatus : UInt32 := 0x30

/-- The reasons that do not interrupt. -/
def interruptMask : UInt32 := 0x34

/-- Written: the address of a request frame. -/
def requestQueue : UInt32 := 0x40

/-- Read: the next reply. Written: the address of a frame for an error
    reply. -/
def replyQueue : UInt32 := 0x44

/-- What the reply queue reads as when it holds no reply. -/
def noReply : UInt32 := 0xffffffff

/-- The reasons the adapter has for attention at this moment. -/
def interruptReasons : Bus InterruptStatus := do
  let word ← Bus.readRegister interruptStatus
  return .truncate word.toBitVec

/-- Withdraw every reason for attention. -/
def acknowledge : Bus Unit :=
  Bus.writeRegister interruptStatus 0

end Register

end FusionMpt
