import FusionMpt.Frame.ErrorReply
import FusionMpt.Frame.IoRequest
import FusionMpt.Platform.Program

/-!
# Slots

One stretch of shared memory serves an adapter for as long as it is driven.
Since at most one request is under way, it need hold only one of everything:
an error reply, a request frame, sense data and the data of the transfer. Those
are its four slots. They lie one behind the other without gaps; the two that
hold frames are rounded up to whole groups of eight bytes.

Every access to shared memory goes through a slot and stays inside it. One
that would not is refused before the platform sees it, and the error names the
place it aimed at, counted from the start of the memory as everywhere else.
That place has to be a 64-bit number. For an offset near the top of the range it
is none, and the program ends with neither a value nor an error.

## Main definitions

* `Slot`: The four parts of shared memory.
* `Slot.offset`, `Slot.size`: Where a slot lies.
* `Slot.total`: The bytes of all slots together.
* `Slot.refuse`: What becomes of an access that leaves its slot.
* `Slot.read`, `Slot.write`, `Slot.zero`: Access to a slot.

## Theorems

* `Slot.end_le_total`: Every slot lies within the total.
* `Slot.read_start`, `Slot.write_start`: Access from the start of a slot.
-/

namespace FusionMpt

/-- The parts of the memory shared with an adapter. -/
inductive Slot where
  /-- The frame the adapter fills in when a request fails. -/
  | errorReply
  /-- The frame of the request under way. -/
  | request
  /-- Sense data of the device. -/
  | sense
  /-- The data of the transfer, either way. -/
  | data
deriving DecidableEq, Repr

namespace Slot

/-- Every slot, in the order in which they lie. -/
def all : List Slot :=
  [errorReply, request, sense, data]

/-- The name of the slot. -/
def name : Slot → String
  | .errorReply => "ErrorReply"
  | .request => "Request"
  | .sense => "Sense"
  | .data => "Data"

/-- The least multiple of eight that is not below `n`. -/
def roundUp (n : Nat) : Nat :=
  (n + 7) / 8 * 8

/-- The bytes of a slot. -/
def size : Slot → Nat
  | .errorReply => roundUp ErrorReply.size
  | .request => roundUp IoRequest.size
  | .sense => 255
  | .data => 8192

/-- Where a slot starts, counted from the start of the memory. -/
def offset : Slot → Nat
  | .errorReply => 0
  | .request => size .errorReply
  | .sense => size .errorReply + size .request
  | .data => size .errorReply + size .request + size .sense

/-- The bytes of all slots together. -/
def total : Nat :=
  offset .data + size .data

/-- What is reported of an access that leaves the slot. -/
def outside (slot : Slot) (offset : UInt64) (len : Nat) : BusError :=
  .outOfBounds (slot.offset + offset.toNat) len (slot.offset + slot.size)

/-- Refuse an access that leaves the slot. If the place it aimed at is no 64-bit
    number, there is nothing to report it with. -/
def refuse {α : Type} (slot : Slot) (offset : UInt64) (len : Nat) : Bus α :=
  if slot.offset + offset.toNat < UInt64.size then throw (slot.outside offset len)
  else Program.halt .overflow

/-- The `len` bytes from `offset` of the slot on. -/
def read (slot : Slot) (offset : UInt64) (len : Nat) : Bus (Vector UInt8 len) :=
  if offset.toNat + len ≤ slot.size then Bus.readMemory (slot.offset + offset.toNat) len
  else slot.refuse offset len

/-- Store `bytes` from `offset` of the slot on. -/
def write (slot : Slot) (offset : UInt64) (bytes : List UInt8) : Bus Unit :=
  if offset.toNat + bytes.length ≤ slot.size then
    Bus.writeMemory (slot.offset + offset.toNat) bytes
  else slot.refuse offset bytes.length

/-- Store zeros all over the slot. -/
def zero (slot : Slot) : Bus Unit :=
  Bus.writeMemory slot.offset (List.replicate slot.size 0)

theorem end_le_total (slot : Slot) : slot.offset + slot.size ≤ total := by
  cases slot <;> decide

/-- Reading from the start of a slot, as far as the slot goes. -/
theorem read_start (slot : Slot) {len : Nat} (h : len ≤ slot.size) :
    slot.read 0 len = Bus.readMemory slot.offset len := by
  unfold read
  exact if_pos (by simpa only [UInt64.toNat_zero, Nat.zero_add] using h)

/-- Writing from the start of a slot, as far as the slot goes. -/
theorem write_start (slot : Slot) {bytes : List UInt8} (h : bytes.length ≤ slot.size) :
    slot.write 0 bytes = Bus.writeMemory slot.offset bytes := by
  unfold write
  exact if_pos (by simpa only [UInt64.toNat_zero, Nat.zero_add] using h)

end Slot

end FusionMpt
