import FusionMpt.Duration
import FusionMpt.Error.Bus
import FusionMpt.Platform.Pci

/-!
# Accesses

The whole boundary between the engine and the machine it runs on. The engine
reaches an adapter in eleven ways, and in no other: it reads and writes
registers and shared memory, it lets time pass, and it asks the platform about
the PCI function and for the resources behind it.

Each access has a type of answers. All but letting time pass may fail, with a
`BusError`; a read of shared memory that does not fail gives exactly as many
bytes as it asked for. An access with its answer is an `Event`, and what a
piece of the engine did is the list of its events.

## Main definitions

* `Buffer`: Shared memory as the platform hands it out.
* `Access`: One thing asked of the machine.
* `Access.Answer`: What it may answer.
* `Event`: An access and its answer.
-/

namespace FusionMpt

/-- Memory shared with the adapter: the bus address of its first byte, and the
    size the platform reports. -/
structure Buffer where
  address : UInt64
  size : Nat
deriving DecidableEq, Repr

/-- One thing that the engine asks of the machine. -/
inductive Access where
  /-- Read a 32-bit register. The read may change the adapter. -/
  | readRegister (offset : UInt32)
  | writeRegister (offset value : UInt32)
  /-- Read shared memory; offsets count from the start of the buffer. -/
  | readMemory (offset len : Nat)
  | writeMemory (offset : Nat) (bytes : List UInt8)
  /-- Let time pass. -/
  | stall (time : Duration)
  | identity
  | attributes
  /-- Switch attributes on and leave the others alone. -/
  | enable (attributes : PciAttributes)
  /-- Set every attribute at once. -/
  | assign (attributes : PciAttributes)
  /-- Make the adapter's registers accessible. -/
  | mapRegisters
  /-- Get shared memory of at least this size. -/
  | allocate (len : Nat)
deriving DecidableEq

/-- What an access may be answered. -/
@[reducible]
def Access.Answer : Access → Type
  | .readRegister _ => Except BusError UInt32
  | .writeRegister .. => Except BusError Unit
  | .readMemory _ len => Except BusError (Vector UInt8 len)
  | .writeMemory .. => Except BusError Unit
  | .stall _ => Unit
  | .identity => Except BusError PciIdentity
  | .attributes => Except BusError PciAttributes
  | .enable _ => Except BusError Unit
  | .assign _ => Except BusError Unit
  | .mapRegisters => Except BusError Unit
  | .allocate _ => Except BusError Buffer

/-- An access and the answer it got. -/
structure Event where
  access : Access
  answer : access.Answer

end FusionMpt
