import FusionMpt.Platform.HostMemory

/-!
# Reading What Was Written

Memory of the host as a list of bytes has the usual laws: what was written is
read back, and a write leaves the rest alone. They are stated for segments, the
bytes of a range, and then for reads, which give a segment when it lies inside.

The adapter knows memory by bus addresses. `HostMemory.at?` is what it finds
there: the bytes from an address on, if the memory has them.

## Main definitions

* `HostMemory.segment`: The bytes of a range.
* `HostMemory.stored`: The memory with some bytes replaced.
* `HostMemory.at?`: The bytes at a bus address.

## Theorems

* `HostMemory.getElem?_stored`: A byte after a write.
* `HostMemory.segment_eq_iff`: Ranges with the same bytes.
* `HostMemory.segment_stored`, `HostMemory.segment_stored_front`,
  `HostMemory.segment_stored_of_disjoint`: What is read after a write.
* `HostMemory.stored_stored`: A write over the front of another.
* `HostMemory.read_eq_ok_iff`, `HostMemory.write_eq_ok`: When access succeeds.
* `HostMemory.at?_eq_some_iff`: Bus addresses and offsets.
-/

namespace FusionMpt

namespace HostMemory

variable {m : HostMemory} {offset offset' len : Nat} {data : List UInt8}

/-- The bytes of a range. -/
def segment (m : HostMemory) (offset len : Nat) : List UInt8 :=
  (m.bytes.drop offset).take len

theorem length_segment (h : offset + len ≤ m.size) : (m.segment offset len).length = len := by
  unfold segment
  unfold size at h
  rw [List.length_take, List.length_drop]
  omega

-- The front of a range is a range.
theorem take_segment {k : Nat} (h : k ≤ len) :
    (m.segment offset len).take k = m.segment offset k := by
  unfold segment
  rw [List.take_take, Nat.min_eq_left h]

/-- The memory with bytes replaced from `offset` on. -/
def stored (m : HostMemory) (offset : Nat) (data : List UInt8) : HostMemory :=
  { m with bytes := m.bytes.take offset ++ data ++ m.bytes.drop (offset + data.length) }

theorem write_eq_ok (h : offset + data.length ≤ m.size) :
    m.write offset data = .ok (m.stored offset data) := by
  unfold write
  exact if_pos h

theorem read_eq_ok_iff {bytes : Vector UInt8 len} :
    m.read offset len = .ok bytes ↔ offset + len ≤ m.size ∧ bytes.toList = m.segment offset len := by
  unfold read
  by_cases h : offset + len ≤ m.bytes.length
  · rw [dif_pos h, Except.ok.injEq]
    constructor
    · intro heq
      rw [← heq]
      exact ⟨h, rfl⟩
    · intro hall
      exact Vector.toList_inj.mp hall.2.symm
  · rw [dif_neg h]
    exact ⟨fun heq => absurd heq (by simp only [reduceCtorEq, not_false_eq_true]),
      fun hall => absurd hall.1 h⟩

-- What is stored has the size of what it replaces.
theorem buffer_stored (h : offset + data.length ≤ m.size) :
    (m.stored offset data).buffer = m.buffer := by
  have hsize := length_write (write_eq_ok h)
  unfold buffer
  rw [hsize]
  rfl

theorem size_stored (h : offset + data.length ≤ m.size) : (m.stored offset data).size = m.size :=
  congrArg Buffer.size (buffer_stored h)

theorem length_take_bytes (h : offset ≤ m.size) : (m.bytes.take offset).length = offset := by
  unfold size at h
  rw [List.length_take, Nat.min_eq_left h]

-- Storing nothing changes nothing.
theorem stored_nil (m : HostMemory) (offset : Nat) : m.stored offset [] = m := by
  unfold stored
  rw [List.append_nil, List.length_nil, Nat.add_zero, List.take_append_drop]

/-- A write to the front of a range leaves the rest of the range. -/
theorem segment_stored_front (h : offset + data.length ≤ m.size) (hle : data.length ≤ len) :
    (m.stored offset data).segment offset len =
      data ++ m.segment (offset + data.length) (len - data.length) := by
  have hfront : (m.bytes.take offset).length = offset := length_take_bytes (by omega)
  unfold segment stored
  rw [List.append_assoc, List.drop_left' hfront, List.take_append, List.take_of_length_le hle]

/-- What was written is read back. -/
theorem segment_stored (h : offset + data.length ≤ m.size) :
    (m.stored offset data).segment offset data.length = data := by
  have hnothing : m.segment (offset + data.length) 0 = [] := List.take_zero
  rw [segment_stored_front h (Nat.le_refl _), Nat.sub_self, hnothing, List.append_nil]

/-- A write over the front of an earlier one leaves the rest of that. -/
theorem stored_stored {first second : List UInt8} (h : offset + first.length ≤ m.size)
    (hle : second.length ≤ first.length) :
    (m.stored offset first).stored offset second =
      m.stored offset (second ++ first.drop second.length) := by
  have hfront : (m.bytes.take offset).length = offset := length_take_bytes (by omega)
  have hlength : (second ++ first.drop second.length).length = first.length := by
    rw [List.length_append, List.length_drop]
    omega
  unfold stored
  rw [hlength]
  simp only [List.append_assoc]
  rw [List.take_left' hfront, ← List.drop_drop, List.drop_left' hfront,
    List.drop_append_of_le_length hle]

-- All that lies behind a write, to the end of the memory.
theorem drop_stored {k : Nat} (h : offset + data.length ≤ m.size)
    (hbehind : offset + data.length ≤ k) :
    (m.stored offset data).bytes.drop k = m.bytes.drop k := by
  have hlength : (m.bytes.take offset ++ data).length = offset + data.length := by
    rw [List.length_append, length_take_bytes (by omega)]
  unfold stored
  rw [List.drop_append, List.drop_of_length_le (by omega), hlength, List.drop_drop,
    List.nil_append, Nat.add_sub_cancel' hbehind]

/-- A byte after a write is one of the bytes written, or what it was. -/
theorem getElem?_stored (h : offset + data.length ≤ m.size) (k : Nat) :
    (m.stored offset data).bytes[k]? =
      if offset ≤ k ∧ k < offset + data.length then data[k - offset]? else m.bytes[k]? := by
  have hfront : (m.bytes.take offset).length = offset := length_take_bytes (by omega)
  have hlength : (m.bytes.take offset ++ data).length = offset + data.length := by
    rw [List.length_append, hfront]
  unfold stored
  rcases (by omega : k < offset ∨ offset ≤ k ∧ k < offset + data.length ∨
    offset + data.length ≤ k) with hk | hk | hk
  · rw [if_neg (by omega), List.append_assoc, List.getElem?_append_left (by omega),
      List.getElem?_take, if_pos hk]
  · rw [if_pos hk, List.append_assoc, List.getElem?_append_right (by omega), hfront,
      List.getElem?_append_left (by omega)]
  · rw [if_neg (by omega), List.getElem?_append_right (by omega), hlength, List.getElem?_drop,
      Nat.add_sub_cancel' hk]

theorem getElem?_segment (m : HostMemory) (offset len i : Nat) :
    (m.segment offset len)[i]? = if i < len then m.bytes[offset + i]? else none := by
  unfold segment
  rw [List.getElem?_take, List.getElem?_drop]

/-- Ranges are the same if their bytes are. -/
theorem segment_eq_iff {m₁ m₂ : HostMemory} : m₁.segment offset len = m₂.segment offset len ↔
    ∀ k, offset ≤ k → k < offset + len → m₁.bytes[k]? = m₂.bytes[k]? := by
  constructor
  · intro h k hfrom hto
    have hbyte := congrArg (·[k - offset]?) h
    simp only [getElem?_segment] at hbyte
    rw [if_pos (by omega), if_pos (by omega), Nat.add_sub_cancel' hfrom] at hbyte
    exact hbyte
  · intro h
    apply List.ext_getElem?
    intro i
    simp only [getElem?_segment]
    by_cases hi : i < len
    · rw [if_pos hi, if_pos hi]
      exact h (offset + i) (by omega) (by omega)
    · rw [if_neg hi, if_neg hi]

/-- A write leaves what lies before it or behind it. -/
theorem segment_stored_of_disjoint (h : offset + data.length ≤ m.size)
    (hdisjoint : offset' + len ≤ offset ∨ offset + data.length ≤ offset') :
    (m.stored offset data).segment offset' len = m.segment offset' len := by
  rw [segment_eq_iff]
  intro k hfrom hto
  rw [getElem?_stored h, if_neg (by omega)]

/-- The bytes that the bus finds from an address on. -/
def at? (m : HostMemory) (address : UInt64) (len : Nat) : Option (List UInt8) :=
  if m.address.toNat ≤ address.toNat ∧ address.toNat - m.address.toNat + len ≤ m.size then
    some (m.segment (address.toNat - m.address.toNat) len)
  else none

theorem at?_eq_some_iff {address : UInt64} (h : address.toNat = m.address.toNat + offset) :
    m.at? address len = some data ↔ offset + len ≤ m.size ∧ data = m.segment offset len := by
  have hoffset : address.toNat - m.address.toNat = offset := by
    omega
  unfold at?
  rw [hoffset]
  by_cases hinside : offset + len ≤ m.size
  · rw [if_pos ⟨by omega, hinside⟩, Option.some_inj]
    exact ⟨fun heq => ⟨hinside, heq.symm⟩, fun hall => hall.2.symm⟩
  · rw [if_neg fun hall => hinside hall.2]
    exact ⟨fun heq => absurd heq (by simp only [reduceCtorEq, not_false_eq_true]),
      fun hall => absurd hall.1 hinside⟩

end HostMemory

end FusionMpt
