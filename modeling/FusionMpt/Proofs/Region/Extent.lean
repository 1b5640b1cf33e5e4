import FusionMpt.Proofs.Transfer.Layout
import Mathlib.Data.Set.Lattice
import Mathlib.Order.CompletePartialOrder
import Mathlib.Order.Interval.Set.Basic

/-!
# Where the Slots Lie on the Bus

A buffer serves as a region if it is long enough, if its last byte has an
address, and if that address begins like the first. From then on the adapter
knows one upper half and is told lower halves only, so an address is put
together from two registers that were written at different times. That is safe
as long as no carry gets from the lower half into the upper one, for the first
byte of a slot and for every byte behind it.

Every byte of a slot lies between the first and the last byte of the region.
Those two share their upper half, and so does whatever lies between them; a
lower half that grows by less than what is left of it does not overflow. Both
are said of an address in the region first, and of the bytes of a slot then.

The four slots leave no byte out and share none. On offsets this is arithmetic,
and the base only moves it.

## Main definitions

* `Region.extent`: The addresses of a slot.
* `Region.Splits`: The address of a byte of a slot is what its halves say.

## Theorems

* `Region.exists_ofBuffer_iff`: Which buffers serve.
* `Region.div_eq_highAddress`: Every address in the region has the one upper half.
* `Region.splits`: No carry is lost in a slot.
* `Region.pairwise_disjoint_extent`, `Region.iUnion_extent`: The slots are the
  region.
* `Region.ofBuffer_splits`: All of it, for a buffer.
-/

namespace FusionMpt

-- The slot that a byte of the region is in, by the offsets where slots begin.
theorem Slot.exists_offset_le {i : Nat} (h : i < total) :
    ∃ slot : Slot, slot.offset ≤ i ∧ i < slot.offset + slot.size := by
  have hrequest : offset .request = offset .errorReply + size .errorReply := rfl
  have hsense : offset .sense = offset .request + size .request := rfl
  have hdata : offset .data = offset .sense + size .sense := rfl
  have htotal : total = offset .data + size .data := rfl
  have hzero : offset .errorReply = 0 := rfl
  rcases (by omega : i < offset .request ∨ (offset .request ≤ i ∧ i < offset .sense) ∨
    (offset .sense ≤ i ∧ i < offset .data) ∨ offset .data ≤ i) with hi | hi | hi | hi
  · exact ⟨.errorReply, by omega⟩
  · exact ⟨.request, by omega⟩
  · exact ⟨.sense, by omega⟩
  · exact ⟨.data, by omega⟩

namespace Region

variable {buffer : Buffer} {region : Region}

/-- The addresses of a slot's bytes. -/
def extent (region : Region) (slot : Slot) : Set Nat :=
  Set.Ico (region.address slot).toNat ((region.address slot).toNat + slot.size)

/-- The byte at `i` of a slot has an address, which is what its two halves say:
    the upper half of the region, and the lower half of the slot with `i`
    added. -/
structure Splits (region : Region) (slot : Slot) (i : Nat) : Prop where
  address_lt : (region.address slot).toNat + i < UInt64.size
  high_eq : ((region.address slot).toNat + i) / UInt32.size = region.highAddress.toNat
  low_lt : (region.lowAddress slot).toNat + i < UInt32.size
  low_eq : (region.lowAddress slot).toNat + i =
    ((region.address slot).toNat + i) % UInt32.size

theorem ofBuffer_buffer (region : Region) : ofBuffer region.buffer = .ok region := by
  unfold ofBuffer
  rw [dif_pos region.total_le, dif_pos region.last_lt, dif_pos region.high_eq]

/-- The region that a buffer serves as is that buffer. -/
theorem buffer_eq_of_ofBuffer (h : ofBuffer buffer = .ok region) : region.buffer = buffer := by
  unfold ofBuffer at h
  split at h
  · split at h
    · split at h
      · rw [← Except.ok.inj h]
      · exact nomatch h
    · exact nomatch h
  · exact nomatch h

/-- A buffer serves as a region if it is long enough, if its last byte has an
    address, and if that has the upper half of the first. -/
theorem exists_ofBuffer_iff (buffer : Buffer) :
    (∃ region, ofBuffer buffer = .ok region) ↔
      Slot.total ≤ buffer.size ∧
      buffer.address.toNat + (Slot.total - 1) ≤ UInt64.size - 1 ∧
      buffer.address.toNat / UInt32.size =
        (buffer.address.toNat + (Slot.total - 1)) / UInt32.size := by
  have hpos : 0 < UInt64.size := by
    decide
  constructor
  · rintro ⟨region, h⟩
    rw [← buffer_eq_of_ofBuffer h]
    exact ⟨region.total_le, Nat.le_sub_one_of_lt region.last_lt, region.high_eq⟩
  · rintro ⟨total_le, hlast, high_eq⟩
    have last_lt : buffer.address.toNat + (Slot.total - 1) < UInt64.size := by
      omega
    exact ⟨_, ofBuffer_buffer ⟨buffer, total_le, last_lt, high_eq⟩⟩

/-! ## The halves of an address -/

theorem toNat_highAddress (region : Region) :
    region.highAddress.toNat = region.base.toNat / UInt32.size := by
  have hbase := region.base.toNat_lt
  have hsize : UInt32.size = 2 ^ 32 := rfl
  unfold highAddress
  rw [UInt64.toNat_toUInt32, UInt64.toNat_shiftRight, Nat.shiftRight_eq_div_pow, hsize]
  exact Nat.mod_eq_of_lt (Nat.div_lt_of_lt_mul hbase)

theorem toNat_lowAddress (region : Region) (slot : Slot) :
    (region.lowAddress slot).toNat = (region.address slot).toNat % UInt32.size :=
  UInt64.toNat_toUInt32 _

/-- An address between the first and the last of the region has their upper
    half. -/
theorem div_eq_highAddress {address : Nat} (hfirst : region.base.toNat ≤ address)
    (hlast : address ≤ region.base.toNat + (Slot.total - 1)) :
    address / UInt32.size = region.highAddress.toNat := by
  have hhigh : region.base.toNat / UInt32.size =
      (region.base.toNat + (Slot.total - 1)) / UInt32.size := region.high_eq
  rw [toNat_highAddress]
  refine Nat.le_antisymm ?_ (Nat.div_le_div_right hfirst)
  rw [hhigh]
  exact Nat.div_le_div_right hlast

-- The bytes of a slot are bytes of the region.
theorem address_add_le (region : Region) {slot : Slot} {i : Nat} (hi : i < slot.size) :
    region.base.toNat ≤ (region.address slot).toNat + i ∧
      (region.address slot).toNat + i ≤ region.base.toNat + (Slot.total - 1) := by
  have hend := slot.end_le_total
  rw [toNat_address]
  omega

/-- No byte of a slot has a carry between the halves of its address. -/
theorem splits (region : Region) {slot : Slot} {i : Nat} (hi : i < slot.size) :
    region.Splits slot i := by
  have hwithin := region.address_add_le hi
  have hstart := region.address_add_le (Nat.zero_lt_of_lt hi)
  have hlast : region.base.toNat + (Slot.total - 1) < UInt64.size := region.last_lt
  have hhigh := div_eq_highAddress hwithin.1 hwithin.2
  have hhighStart : (region.address slot).toNat / UInt32.size = region.highAddress.toNat :=
    div_eq_highAddress hstart.1 hstart.2
  have hbyte := Nat.div_add_mod ((region.address slot).toNat + i) UInt32.size
  have hslot := Nat.div_add_mod (region.address slot).toNat UInt32.size
  -- with one quotient for both, what is added is added to the remainder
  have hlow : (region.lowAddress slot).toNat + i =
      ((region.address slot).toNat + i) % UInt32.size := by
    rw [hhigh] at hbyte
    rw [hhighStart] at hslot
    rw [toNat_lowAddress]
    omega
  refine ⟨Nat.lt_of_le_of_lt hwithin.2 hlast, hhigh, ?_, hlow⟩
  rw [hlow]
  exact Nat.mod_lt _ (by decide)

/-! ## The slots and the region -/

theorem mem_extent_iff {slot : Slot} {address : Nat} :
    address ∈ region.extent slot ↔
      region.base.toNat + slot.offset ≤ address ∧
        address < region.base.toNat + slot.offset + slot.size := by
  unfold extent
  rw [toNat_address]
  exact Set.mem_Ico

theorem pairwise_disjoint_extent (region : Region) :
    Pairwise fun slot slot' => Disjoint (region.extent slot) (region.extent slot') := by
  intro slot slot' hne
  rw [Set.disjoint_left]
  intro address hmem hmem'
  rw [mem_extent_iff] at hmem hmem'
  rcases Slot.apart hne with h | h <;> omega

theorem iUnion_extent (region : Region) :
    ⋃ slot, region.extent slot =
      Set.Icc region.base.toNat (region.base.toNat + (Slot.total - 1)) := by
  have hpos : 0 < Slot.total := by
    decide
  ext address
  rw [Set.mem_iUnion, Set.mem_Icc]
  constructor
  · rintro ⟨slot, hmem⟩
    rw [mem_extent_iff] at hmem
    have hend := slot.end_le_total
    omega
  · rintro ⟨hfirst, hlast⟩
    rcases Slot.exists_offset_le (i := address - region.base.toNat) (by omega) with
      ⟨slot, hoffset, hsize⟩
    refine ⟨slot, ?_⟩
    rw [mem_extent_iff]
    omega

/-- A buffer is taken as a region exactly when the slots fit into it and the last
    of their addresses exists and has the upper half of the first. Then the
    address of every byte of a slot is what its halves say, and the slots, none of
    which overlaps another, are the addresses from the first to the last. -/
theorem ofBuffer_splits (buffer : Buffer) :
    ((∃ region, ofBuffer buffer = .ok region) ↔
      Slot.total ≤ buffer.size ∧
      buffer.address.toNat + (Slot.total - 1) ≤ UInt64.size - 1 ∧
      buffer.address.toNat / UInt32.size =
        (buffer.address.toNat + (Slot.total - 1)) / UInt32.size) ∧
    ∀ region, ofBuffer buffer = .ok region →
      region.base = buffer.address ∧
      (∀ slot, ∀ i < slot.size, region.Splits slot i) ∧
      (Pairwise fun slot slot' => Disjoint (region.extent slot) (region.extent slot')) ∧
      ⋃ slot, region.extent slot =
        Set.Icc buffer.address.toNat (buffer.address.toNat + (Slot.total - 1)) := by
  refine ⟨exists_ofBuffer_iff buffer, fun region h => ?_⟩
  have hbase : region.base = buffer.address := congrArg Buffer.address (buffer_eq_of_ofBuffer h)
  refine ⟨hbase, fun _ _ hi => region.splits hi, region.pairwise_disjoint_extent, ?_⟩
  rw [← hbase]
  exact region.iUnion_extent

-- The last buffer that there is room for ends with the last address. One byte
-- further on there is none.
theorem ofBuffer_splits_at_the_top :
    (∃ region, ofBuffer ⟨0xffffffffffffdea1, 8543⟩ = .ok region ∧ region.Splits .data 8191) ∧
    ¬ ∃ region, ofBuffer ⟨0xffffffffffffdea2, 8543⟩ = .ok region := by
  constructor
  · rcases (ofBuffer_splits ⟨0xffffffffffffdea1, 8543⟩).1.mpr (by decide) with ⟨region, h⟩
    have hsplits := ((ofBuffer_splits ⟨0xffffffffffffdea1, 8543⟩).2 region h).2.1
    exact ⟨region, h, hsplits .data 8191 (by decide)⟩
  · intro h
    exact absurd ((ofBuffer_splits ⟨0xffffffffffffdea2, 8543⟩).1.mp h).2.1 (by decide)

end Region

end FusionMpt
