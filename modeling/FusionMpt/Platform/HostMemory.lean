import FusionMpt.Platform.Access

/-!
# Host Memory

Shared memory that is plain memory of the host, at a bus address the caller
gives. It serves where the bus maps host memory as it is, and where the
adapter is emulated in the same process.

Reading and writing are checked against its size: an access that reaches past
the end fails as a whole and changes nothing. An access of no bytes is checked
like any other, and succeeds up to and including the end.

## Main definitions

* `HostMemory`: Bytes at a bus address.
* `HostMemory.zeroed`: Memory of a given size, all zero.
* `HostMemory.read`, `HostMemory.write`: Checked access.
* `HostMemory.buffer`: The memory as a platform hands it out.

## Theorems

* `HostMemory.length_write`: Writing keeps the size.
-/

namespace FusionMpt

/-- Bytes of the host, with the bus address of the first. -/
structure HostMemory where
  address : UInt64
  bytes : List UInt8
deriving DecidableEq

namespace HostMemory

/-- Memory of `size` zero bytes. -/
def zeroed (address : UInt64) (size : Nat) : HostMemory :=
  ⟨address, List.replicate size 0⟩

/-- The number of bytes. -/
def size (m : HostMemory) : Nat :=
  m.bytes.length

/-- There is no byte at all. -/
def isEmpty (m : HostMemory) : Bool :=
  m.bytes.isEmpty

/-- The memory as a platform hands it out. -/
def buffer (m : HostMemory) : Buffer :=
  ⟨m.address, m.size⟩

/-- The `len` bytes from `offset` on. -/
def read (m : HostMemory) (offset len : Nat) : Except BusError (Vector UInt8 len) :=
  if h : offset + len ≤ m.bytes.length then
    .ok ⟨((m.bytes.drop offset).take len).toArray, by simp; omega⟩
  else .error (.outOfBounds offset len m.size)

/-- The memory with `data` stored from `offset` on. -/
def write (m : HostMemory) (offset : Nat) (data : List UInt8) : Except BusError HostMemory :=
  if offset + data.length ≤ m.bytes.length then
    .ok { m with bytes := m.bytes.take offset ++ data ++ m.bytes.drop (offset + data.length) }
  else .error (.outOfBounds offset data.length m.size)

/-- The memory with every byte set to `byte`. -/
def fill (m : HostMemory) (byte : UInt8) : HostMemory :=
  { m with bytes := List.replicate m.bytes.length byte }

theorem length_write {m m' : HostMemory} {offset : Nat} {data : List UInt8}
    (h : m.write offset data = .ok m') : m'.size = m.size := by
  unfold write at h
  split at h
  · rename_i hle
    cases h
    simp only [size, List.length_append, List.length_take, List.length_drop]
    omega
  · exact absurd h (by simp)

end HostMemory

end FusionMpt
