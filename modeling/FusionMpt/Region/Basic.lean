import FusionMpt.Error.Basic
import FusionMpt.Region.Slot

/-!
# Regions

Shared memory that an adapter can be driven with. The adapter is told the upper
half of the memory's address once, when it is started, and the lower halves
with every frame, so all slots must share one upper half. A `Region` is a
buffer for which that has been checked, together with its being long enough
and not reaching past the last address there is.

The checks are in the type. Whoever has a region may split any slot's address
into halves and put it together again without a carry being lost.

## Main definitions

* `Region`: A buffer that the slots fit into.
* `Region.ofBuffer`: The check.
* `Region.address`: The bus address of a slot.
* `Region.highAddress`, `Region.lowAddress`: The halves of it.

## Theorems

* `Region.toNat_address`: The address of a slot, as a number.
* `Region.join_address`: The halves put together are the address.
-/

namespace FusionMpt

/-- A buffer that the slots fit into, with one upper half for all addresses. -/
structure Region where
  buffer : Buffer
  /-- The buffer is long enough. -/
  total_le : Slot.total ≤ buffer.size
  /-- The last byte has an address. -/
  last_lt : buffer.address.toNat + (Slot.total - 1) < UInt64.size
  /-- The first and the last byte share the upper half of their address. -/
  high_eq : buffer.address.toNat / UInt32.size = (buffer.address.toNat + (Slot.total - 1)) / UInt32.size
deriving DecidableEq

namespace Region

/-- Take a buffer for the slots, if it serves. -/
def ofBuffer (buffer : Buffer) : Except Error Region :=
  if total_le : Slot.total ≤ buffer.size then
    if last_lt : buffer.address.toNat + (Slot.total - 1) < UInt64.size then
      if high_eq :
          buffer.address.toNat / UInt32.size = (buffer.address.toNat + (Slot.total - 1)) / UInt32.size then
        .ok { buffer, total_le, last_lt, high_eq }
      else .error (.invalidParameter .splitRegion)
    else .error (.invalidParameter .wrappingRegion)
  else .error (.invalidParameter .shortRegion)

/-- The bus address of the first byte. -/
def base (region : Region) : UInt64 :=
  region.buffer.address

/-- The upper half of every slot's address. -/
def highAddress (region : Region) : UInt32 :=
  (region.base >>> 32).toUInt32

/-- The bus address of a slot. -/
def address (region : Region) (slot : Slot) : UInt64 :=
  region.base + UInt64.ofNat slot.offset

/-- The lower half of a slot's address, as the 32-bit queue registers take
    it. -/
def lowAddress (region : Region) (slot : Slot) : UInt32 :=
  (region.address slot).toUInt32

theorem toNat_address (region : Region) (slot : Slot) :
    (region.address slot).toNat = region.base.toNat + slot.offset := by
  have hlast : region.base.toNat + (Slot.total - 1) < 18446744073709551616 := region.last_lt
  have hslot : slot.offset ≤ Slot.total - 1 := by cases slot <;> decide
  have htotal : Slot.total = 8543 := by decide
  simp only [address, UInt64.toNat_add, UInt64.toNat_ofNat']
  omega

theorem join_address (region : Region) (slot : Slot) :
    region.highAddress.toNat * UInt32.size + (region.lowAddress slot).toNat =
      (region.address slot).toNat := by
  have haddress := toNat_address region slot
  have hhigh : region.base.toNat / 4294967296 =
      (region.base.toNat + (Slot.total - 1)) / 4294967296 := region.high_eq
  have hslot : slot.offset ≤ Slot.total - 1 := by cases slot <;> decide
  have hlt := (region.address slot).toNat_lt
  have hbase := region.base.toNat_lt
  -- the slot lies between two addresses with one upper half
  have hdiv : (region.address slot).toNat / 4294967296 = region.base.toNat / 4294967296 := by
    rw [haddress]
    omega
  simp only [UInt32.size, highAddress, lowAddress, UInt64.toNat_toUInt32, UInt64.toNat_shiftRight,
    Nat.shiftRight_eq_div_pow]
  simp
  omega

end Region

end FusionMpt
