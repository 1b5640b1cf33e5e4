import FusionMpt.Proofs.Frame.IoRequest

/-!
# What a Frame Carries

A frame is written by one side and read by the other, and there are two ways to
ask what gets lost. One begins with the fields: written out and read back, which
of them are the same? The other begins with the bytes: read and written out
again, which of those are?

The I/O request loses something in its element only. The length and the flags
share a word there, and each is cut to its own bits when the word is taken
apart; so flags that reach below bit 24 turn up in the length, and flags that
have no name are gone. Of the bytes, one is reserved and comes back as zero, and
one bit of the shared word has no name and comes back as zero too. Everything
else is kept, either way.

To say of two frames that they have the same byte somewhere it is enough that
they have the same field there, since a field determines the bytes it was read
from.

## Theorems

* `LittleEndian.getElem_eq_of_word16At`, `LittleEndian.getElem_eq_of_word32At`,
  `LittleEndian.getElem_eq_of_word64At`: The bytes of a word that two frames
  share.
* `ScatterGather.ofControl_control_eq`: What the shared word keeps of an
  element.
* `ScatterGather.control_ofControl`: What an element keeps of the shared word.
* `IoRequest.getElem_encode_decode`: The bytes that are kept.
* `IoRequest.carried_both_ways`: What is kept and what is lost, both ways.
-/

namespace FusionMpt

namespace LittleEndian

variable {n k i : Nat} {first second : Vector UInt8 n}

theorem getElem_eq_of_word16At {hk : k + 2 ≤ n} (h : word16At first k hk = word16At second k hk)
    (hle : k ≤ i) (hlt : i < k + 2) : first[i] = second[i] := by
  unfold word16At at h
  rcases octet_word16 first[k] first[k + 1] with ⟨h₀, h₁⟩
  rcases octet_word16 second[k] second[k + 1] with ⟨g₀, g₁⟩
  rw [h] at h₀ h₁
  rcases (by omega : i = k ∨ i = k + 1) with rfl | rfl
  · exact h₀.symm.trans g₀
  · exact h₁.symm.trans g₁

theorem getElem_eq_of_word32At {hk : k + 4 ≤ n} (h : word32At first k hk = word32At second k hk)
    (hle : k ≤ i) (hlt : i < k + 4) : first[i] = second[i] := by
  unfold word32At at h
  rcases octet_word32 first[k] first[k + 1] first[k + 2] first[k + 3] with ⟨h₀, h₁, h₂, h₃⟩
  rcases octet_word32 second[k] second[k + 1] second[k + 2] second[k + 3] with ⟨g₀, g₁, g₂, g₃⟩
  rw [h] at h₀ h₁ h₂ h₃
  rcases (by omega : i = k ∨ i = k + 1 ∨ i = k + 2 ∨ i = k + 3) with rfl | rfl | rfl | rfl
  · exact h₀.symm.trans g₀
  · exact h₁.symm.trans g₁
  · exact h₂.symm.trans g₂
  · exact h₃.symm.trans g₃

theorem getElem_eq_of_word64At {hk : k + 8 ≤ n} (h : word64At first k hk = word64At second k hk)
    (hle : k ≤ i) (hlt : i < k + 8) : first[i] = second[i] := by
  unfold word64At at h
  rcases octet_word64 first[k] first[k + 1] first[k + 2] first[k + 3] first[k + 4] first[k + 5]
    first[k + 6] first[k + 7] with ⟨h₀, h₁, h₂, h₃, h₄, h₅, h₆, h₇⟩
  rcases octet_word64 second[k] second[k + 1] second[k + 2] second[k + 3] second[k + 4]
    second[k + 5] second[k + 6] second[k + 7] with ⟨g₀, g₁, g₂, g₃, g₄, g₅, g₆, g₇⟩
  rw [h] at h₀ h₁ h₂ h₃ h₄ h₅ h₆ h₇
  rcases (by omega : i = k ∨ i = k + 1 ∨ i = k + 2 ∨ i = k + 3 ∨ i = k + 4 ∨ i = k + 5 ∨
    i = k + 6 ∨ i = k + 7) with rfl | rfl | rfl | rfl | rfl | rfl | rfl | rfl
  · exact h₀.symm.trans g₀
  · exact h₁.symm.trans g₁
  · exact h₂.symm.trans g₂
  · exact h₃.symm.trans g₃
  · exact h₄.symm.trans g₄
  · exact h₅.symm.trans g₅
  · exact h₆.symm.trans g₆
  · exact h₇.symm.trans g₇

theorem getElem_eq_of_extract {stop : Nat} (h : first.extract k stop = second.extract k stop)
    (hle : k ≤ i) (hlt : i < stop) (hstop : stop ≤ n) : first[i] = second[i] := by
  have hget := congrArg (fun bytes => bytes[i - k]?) h
  simp only [Vector.getElem?_eq_getElem (show i - k < min stop n - k by omega),
    Vector.getElem_extract, Nat.add_sub_cancel' hle, Option.some.injEq] at hget
  exact hget

end LittleEndian

open LittleEndian

namespace ScatterGather

/-- No flag reaches into the bits of the length. -/
theorem lengthMask_and_mask : lengthMask.toBitVec &&& scatterFlagTable.mask = 0#32 := by
  decide

/-- An element that is written to its word and read back has the bits of the
    length from both, and of the flags those that have a name. -/
theorem ofControl_control_eq (e : ScatterGather) :
    ofControl e.control e.address =
      { length := (e.length &&& lengthMask) ||| (.ofBitVec e.flags.bits &&& lengthMask)
        flags := .truncate e.flags.bits
        address := e.address } := by
  ext1
  · apply UInt32.toBitVec_inj.1
    change ((e.length.toBitVec &&& lengthMask.toBitVec) ||| e.flags.bits) &&& lengthMask.toBitVec =
      (e.length.toBitVec &&& lengthMask.toBitVec) ||| (e.flags.bits &&& lengthMask.toBitVec)
    rw [BitVec.and_or_distrib_right, BitVec.and_assoc, BitVec.and_self]
  · ext1
    change ((e.length.toBitVec &&& lengthMask.toBitVec) ||| e.flags.bits) &&& scatterFlagTable.mask
      = e.flags.bits &&& scatterFlagTable.mask
    rw [BitVec.and_or_distrib_right, BitVec.and_assoc, lengthMask_and_mask, BitVec.and_zero,
      BitVec.zero_or]
  · rfl

/-- An element comes back as it was if its length has 24 bits and its flags have
    names. -/
theorem ofControl_control_eq_self_iff (e : ScatterGather) :
    ofControl e.control e.address = e ↔
      e.length ≤ lengthMask ∧ FlagSet.truncate e.flags.bits = e.flags := by
  rw [ofControl_control_eq]
  have hlow : FlagSet.truncate e.flags.bits = e.flags →
      UInt32.ofBitVec e.flags.bits &&& lengthMask = 0 := by
    intro hflags
    apply UInt32.toBitVec_inj.1
    change e.flags.bits &&& lengthMask.toBitVec = 0#32
    rw [← congrArg FlagSet.bits hflags, FlagSet.truncate_bits, BitVec.and_assoc,
      BitVec.and_comm scatterFlagTable.mask, lengthMask_and_mask, BitVec.and_zero]
  constructor
  · intro h
    have hflags : FlagSet.truncate e.flags.bits = e.flags := congrArg flags h
    have hlength := congrArg length h
    simp only [hlow hflags, UInt32.or_zero] at hlength
    refine ⟨?_, hflags⟩
    rw [← hlength, UInt32.le_iff_toNat_le, UInt32.toNat_and]
    exact Nat.and_le_right
  · intro h
    rcases h with ⟨hlength, hflags⟩
    have hkept : e.length &&& lengthMask = e.length := by
      apply UInt32.toNat_inj.1
      rw [UInt32.toNat_and]
      exact (Nat.and_two_pow_sub_one_eq_mod _ 24).trans (Nat.mod_eq_of_lt (Nat.lt_succ_of_le hlength))
    rw [hlow hflags, hkept, UInt32.or_zero, hflags]

/-- A word that is read as an element and written again has lost the one bit
    that is neither of the length nor of a flag. -/
theorem control_ofControl (word : UInt32) (address : UInt64) :
    (ofControl word address).control = word &&& ~~~((1 : UInt32) <<< 29) := by
  apply UInt32.toBitVec_inj.1
  change ((word.toBitVec &&& lengthMask.toBitVec) &&& lengthMask.toBitVec) |||
    (word.toBitVec &&& scatterFlagTable.mask) = word.toBitVec &&& (~~~((1 : UInt32) <<< 29)).toBitVec
  rw [BitVec.and_assoc, BitVec.and_self, ← BitVec.and_or_distrib_left]
  exact congrArg (word.toBitVec &&& ·) (by decide)

end ScatterGather

/-- A word without a bit is the word itself if the bit was not set. -/
theorem and_not_bit29_eq_self_iff (word : UInt32) :
    word &&& ~~~((1 : UInt32) <<< 29) = word ↔ word.toBitVec.getLsbD 29 = false := by
  have hmask : ∀ i < 32, (~~~((1 : UInt32) <<< 29)).toBitVec.getLsbD i = decide (i ≠ 29) := by decide
  rw [← UInt32.toBitVec_inj]
  change word.toBitVec &&& (~~~((1 : UInt32) <<< 29)).toBitVec = word.toBitVec ↔ _
  constructor
  · intro h
    rw [← h, BitVec.getLsbD_and, hmask 29 (by decide)]
    exact Bool.and_false _
  · intro h
    apply BitVec.eq_of_getLsbD_eq
    intro i hi
    rw [BitVec.getLsbD_and, hmask i hi]
    by_cases hbit : i = 29
    · rw [hbit, h]
      rfl
    · rw [decide_eq_true hbit, Bool.and_true]

namespace IoRequest

theorem decode_encode_eq_self_iff (r : IoRequest) :
    decode r.encode = r ↔
      r.sg.length ≤ ScatterGather.lengthMask ∧ FlagSet.truncate r.sg.flags.bits = r.sg.flags := by
  rw [decode_encode, ← ScatterGather.ofControl_control_eq_self_iff]
  exact ⟨congrArg sg, fun h => by rw [h]⟩

/-- A byte that is neither reserved nor of the shared word comes back as it
    was. -/
theorem getElem_encode_decode (bytes : Vector UInt8 60) {i : Nat} (hi : i < 60) (hreserved : i ≠ 6)
    (hshared : i < 48 ∨ 52 ≤ i) : (decode bytes).encode[i] = bytes[i] := by
  have hcontext : word32At (decode bytes).encode 8 = word32At bytes 8 := word32_octet _
  have hcontrol : word32At (decode bytes).encode 20 = word32At bytes 20 := word32_octet _
  have hlength : word32At (decode bytes).encode 40 = word32At bytes 40 := word32_octet _
  have hsense : word32At (decode bytes).encode 44 = word32At bytes 44 := word32_octet _
  have haddress : word64At (decode bytes).encode 52 = word64At bytes 52 := word64_octet _
  -- The fields in their order; the first eight are bytes of their own.
  rcases (by omega : i < 8 ∨ 8 ≤ i ∧ i < 12 ∨ 12 ≤ i ∧ i < 20 ∨ 20 ≤ i ∧ i < 24 ∨
    24 ≤ i ∧ i < 40 ∨ 40 ≤ i ∧ i < 44 ∨ 44 ≤ i ∧ i < 48 ∨ 52 ≤ i ∧ i < 60) with
    h | h | h | h | h | h | h | h
  · rcases (by omega : i = 0 ∨ i = 1 ∨ i = 2 ∨ i = 3 ∨ i = 4 ∨ i = 5 ∨ i = 7) with
      rfl | rfl | rfl | rfl | rfl | rfl | rfl <;> rfl
  · exact getElem_eq_of_word32At hcontext h.1 h.2
  · exact getElem_eq_of_extract (extract_lun_encode (decode bytes)) h.1 h.2 (by decide)
  · exact getElem_eq_of_word32At hcontrol h.1 h.2
  · exact getElem_eq_of_extract (extract_cdb_encode (decode bytes)) h.1 h.2 (by decide)
  · exact getElem_eq_of_word32At hlength h.1 h.2
  · exact getElem_eq_of_word32At hsense h.1 h.2
  · exact getElem_eq_of_word64At haddress h.1 h.2

theorem word32At_encode_decode (bytes : Vector UInt8 60) :
    word32At (decode bytes).encode 48 = word32At bytes 48 &&& ~~~((1 : UInt32) <<< 29) :=
  (word32_octet _).trans (ScatterGather.control_ofControl _ _)

theorem encode_decode_eq_self_iff (bytes : Vector UInt8 60) :
    (decode bytes).encode = bytes ↔
      bytes[6] = 0 ∧ (word32At bytes 48).toBitVec.getLsbD 29 = false := by
  rw [← and_not_bit29_eq_self_iff, ← word32At_encode_decode]
  constructor
  · intro h
    have hreserved : (decode bytes).encode[6] = 0 := rfl
    rw [h] at hreserved
    exact ⟨hreserved, by rw [h]⟩
  · intro h
    rcases h with ⟨hreserved, hword⟩
    apply Vector.ext
    intro i hi
    by_cases hsix : i = 6
    · rcases hsix with rfl
      exact hreserved.symm
    · by_cases hshared : i < 48 ∨ 52 ≤ i
      · exact getElem_encode_decode bytes hi hsix hshared
      · exact getElem_eq_of_word32At hword (by omega) (by omega)

/-- The command that counts is the front of the command block. -/
theorem command_decode (bytes : Vector UInt8 60) :
    (decode bytes).command = (bytes.toList.extract 24 40).take (min (bytes.get 4).toNat 16) := by
  change (bytes.extract 24 40).toList.take (bytes.get 4).toNat = _
  have hblock : (bytes.extract 24 40).toList = bytes.toList.extract 24 40 := Vector.toList_extract
  have hlength : (bytes.toList.extract 24 40).length = 16 := hblock ▸ Vector.length_toList
  rw [hblock, ← hlength, List.take_eq_take_iff, Nat.min_assoc, Nat.min_self]

/-- A frame that is written and read back differs in its element alone, and
    there by what the length and the flags do to each other in their word; it is
    the same exactly when they keep out of each other's way. Bytes that are read
    and written again lose what is reserved, byte 6 and a bit of the shared
    word, and nothing else. The command is the part of its block that counts. -/
theorem carried_both_ways :
    (∀ r : IoRequest, decode r.encode =
      { r with
        sg :=
          { length := (r.sg.length &&& 0x00ffffff) ||| (.ofBitVec r.sg.flags.bits &&& 0x00ffffff)
            flags := .truncate r.sg.flags.bits
            address := r.sg.address } }) ∧
    (∀ r : IoRequest, decode r.encode = r ↔
      r.sg.length ≤ 0x00ffffff ∧ FlagSet.truncate r.sg.flags.bits = r.sg.flags) ∧
    (∀ bytes : Vector UInt8 60,
      (decode bytes).encode[6] = 0 ∧
      word32At (decode bytes).encode 48 = word32At bytes 48 &&& ~~~((1 : UInt32) <<< 29) ∧
      ∀ (i : Nat) (hi : i < 60), i ≠ 6 → i < 48 ∨ 52 ≤ i →
        (decode bytes).encode[i] = bytes[i]) ∧
    (∀ bytes : Vector UInt8 60, (decode bytes).encode = bytes ↔
      bytes[6] = 0 ∧ (word32At bytes 48).toBitVec.getLsbD 29 = false) ∧
    (∀ bytes : Vector UInt8 60,
      (decode bytes).command = (bytes.toList.extract 24 40).take (min (bytes.get 4).toNat 16)) := by
  refine ⟨fun r => ?_, decode_encode_eq_self_iff, fun bytes => ⟨rfl, word32At_encode_decode bytes,
    fun i hi => getElem_encode_decode bytes hi⟩, encode_decode_eq_self_iff, command_decode⟩
  rw [decode_encode, ScatterGather.ofControl_control_eq]
  rfl

end IoRequest

end FusionMpt
