import FusionMpt.Frame.ErrorReply
import FusionMpt.Frame.InitReply
import FusionMpt.Frame.InitRequest
import FusionMpt.Proofs.Frame.RoundTrip

/-!
# Reserved Bytes

The two frames of the start and the frame of a failure are plain tables: every
field has bytes of its own, and a few bytes belong to no field. Those are
reserved. They are written as zeros and not looked at when they are read.

So such a frame is carried by its bytes without loss, and of the bytes exactly
the reserved ones are lost. `CarriesBut` says this of an encoder and a decoder
together with the places that are reserved, and each of the three frames is an
instance. What has to be shown of a frame is where its fields lie; a byte of a
field comes back because the field does.

The request that starts an adapter has a third form, the words that the doorbell
carries. Each is spelled by four bytes of the frame, so their bytes one after
the other are the frame.

## Main definitions

* `cleared`: Bytes with zeros in some places.
* `CarriesBut`: A frame and its bytes, with the places that are lost.
* `LittleEndian.octets`: The bytes of a word.

## Theorems

* `CarriesBut.of_getElem`: A frame is carried if its bytes are, one by one.
* `InitRequest.carriesBut`, `InitReply.carriesBut`, `ErrorReply.carriesBut`: The
  three frames.
* `InitRequest.octets_words`: The words that start an adapter spell the frame.
* `plain_frames_carried`: All of this together.
-/

namespace FusionMpt

open LittleEndian

/-- The bytes with zeros in these places. -/
def cleared {n : Nat} (places : List Nat) (bytes : Vector UInt8 n) : Vector UInt8 n :=
  bytes.mapIdx fun i byte => if i ∈ places then 0 else byte

/-- Fields come back from the bytes they were written to, and bytes from the
    fields that were read from them, all but those in the reserved places. -/
structure CarriesBut {α : Type} {n : Nat} (reserved : List Nat) (encode : α → Vector UInt8 n)
    (decode : Vector UInt8 n → α) : Prop where
  decode_encode : ∀ frame, decode (encode frame) = frame
  encode_decode : ∀ bytes, encode (decode bytes) = cleared reserved bytes
  encode_decode_eq_self_iff : ∀ bytes, encode (decode bytes) = bytes ↔
    ∀ (i : Nat) (hi : i < n), i ∈ reserved → bytes[i] = 0

section

variable {α : Type} {n : Nat} {reserved : List Nat} {encode : α → Vector UInt8 n}
  {decode : Vector UInt8 n → α}

theorem getElem_cleared (bytes : Vector UInt8 n) {i : Nat} (hi : i < n) :
    (cleared reserved bytes)[i] = if i ∈ reserved then 0 else bytes[i] := by
  unfold cleared
  rw [Vector.getElem_mapIdx]

/-- Clearing changes nothing exactly if the places were clear. -/
theorem cleared_eq_self_iff (bytes : Vector UInt8 n) :
    cleared reserved bytes = bytes ↔ ∀ (i : Nat) (hi : i < n), i ∈ reserved → bytes[i] = 0 := by
  constructor
  · intro h i hi hmem
    have hget : (cleared reserved bytes)[i] = _ := getElem_cleared bytes hi
    rw [if_pos hmem] at hget
    simp only [h] at hget
    exact hget
  · intro h
    apply Vector.ext
    intro i hi
    rw [getElem_cleared]
    by_cases hmem : i ∈ reserved
    · rw [if_pos hmem, h i hi hmem]
    · rw [if_neg hmem]

/-- A frame is carried if the reserved bytes are written as zeros and every other
    byte comes back. -/
theorem CarriesBut.of_getElem (hfields : ∀ frame, decode (encode frame) = frame)
    (hzero : ∀ bytes (i : Nat) (hi : i < n), i ∈ reserved → (encode (decode bytes))[i] = 0)
    (hkept : ∀ bytes (i : Nat) (hi : i < n), i ∉ reserved → (encode (decode bytes))[i] = bytes[i]) :
    CarriesBut reserved encode decode := by
  have hcleared : ∀ bytes, encode (decode bytes) = cleared reserved bytes := by
    intro bytes
    apply Vector.ext
    intro i hi
    rw [getElem_cleared]
    by_cases hmem : i ∈ reserved
    · rw [if_pos hmem, hzero bytes i hi hmem]
    · rw [if_neg hmem, hkept bytes i hi hmem]
  refine ⟨hfields, hcleared, fun bytes => ?_⟩
  rw [hcleared, cleared_eq_self_iff]

end

/-! ## The three frames -/

namespace InitRequest

theorem getElem_encode_decode (bytes : Vector UInt8 24) {i : Nat} (hi : i < 24)
    (h : i ∉ [1, 2, 14, 15]) : (decode bytes).encode[i] = bytes[i] := by
  have hcontext : word32At (decode bytes).encode 8 = word32At bytes 8 := word32_octet _
  have hsize : word16At (decode bytes).encode 12 = word16At bytes 12 := word16_octet _
  have hframe : word32At (decode bytes).encode 16 = word32At bytes 16 := word32_octet _
  have hsense : word32At (decode bytes).encode 20 = word32At bytes 20 := word32_octet _
  simp only [List.mem_cons, List.not_mem_nil, or_false, not_or] at h
  -- The fields in their order; the first six are bytes of their own.
  rcases (by omega : i < 8 ∨ 8 ≤ i ∧ i < 12 ∨ 12 ≤ i ∧ i < 14 ∨ 16 ≤ i ∧ i < 20 ∨
    20 ≤ i ∧ i < 24) with hfield | hfield | hfield | hfield | hfield
  · rcases (by omega : i = 0 ∨ i = 3 ∨ i = 4 ∨ i = 5 ∨ i = 6 ∨ i = 7) with
      rfl | rfl | rfl | rfl | rfl | rfl <;> rfl
  · exact getElem_eq_of_word32At hcontext hfield.1 hfield.2
  · exact getElem_eq_of_word16At hsize hfield.1 hfield.2
  · exact getElem_eq_of_word32At hframe hfield.1 hfield.2
  · exact getElem_eq_of_word32At hsense hfield.1 hfield.2

theorem carriesBut : CarriesBut [1, 2, 14, 15] encode decode := by
  refine .of_getElem decode_encode (fun bytes i hi h => ?_) fun bytes _ => getElem_encode_decode bytes
  simp only [List.mem_cons, List.not_mem_nil, or_false] at h
  rcases h with rfl | rfl | rfl | rfl <;> rfl

end InitRequest

namespace InitReply

theorem getElem_encode_decode (bytes : Vector UInt8 20) {i : Nat} (hi : i < 20)
    (h : i ∉ [1, 12, 13]) : (decode bytes).encode[i] = bytes[i] := by
  have hcontext : word32At (decode bytes).encode 8 = word32At bytes 8 := word32_octet _
  have hstatus : word16At (decode bytes).encode 14 = word16At bytes 14 := word16_octet _
  have hlogInfo : word32At (decode bytes).encode 16 = word32At bytes 16 := word32_octet _
  simp only [List.mem_cons, List.not_mem_nil, or_false, not_or] at h
  rcases (by omega : i < 8 ∨ 8 ≤ i ∧ i < 12 ∨ 14 ≤ i ∧ i < 16 ∨ 16 ≤ i ∧ i < 20) with
    hfield | hfield | hfield | hfield
  · rcases (by omega : i = 0 ∨ i = 2 ∨ i = 3 ∨ i = 4 ∨ i = 5 ∨ i = 6 ∨ i = 7) with
      rfl | rfl | rfl | rfl | rfl | rfl | rfl <;> rfl
  · exact getElem_eq_of_word32At hcontext hfield.1 hfield.2
  · exact getElem_eq_of_word16At hstatus hfield.1 hfield.2
  · exact getElem_eq_of_word32At hlogInfo hfield.1 hfield.2

theorem carriesBut : CarriesBut [1, 12, 13] encode decode := by
  refine .of_getElem decode_encode (fun bytes i hi h => ?_) fun bytes _ => getElem_encode_decode bytes
  simp only [List.mem_cons, List.not_mem_nil, or_false] at h
  rcases h with rfl | rfl | rfl <;> rfl

end InitReply

namespace ErrorReply

theorem getElem_encode_decode (bytes : Vector UInt8 32) {i : Nat} (hi : i < 32) (h : i ∉ [6]) :
    (decode bytes).encode[i] = bytes[i] := by
  have hcontext : word32At (decode bytes).encode 8 = word32At bytes 8 := word32_octet _
  have hstatus : word16At (decode bytes).encode 14 = word16At bytes 14 := word16_octet _
  have hlogInfo : word32At (decode bytes).encode 16 = word32At bytes 16 := word32_octet _
  have htransferred : word32At (decode bytes).encode 20 = word32At bytes 20 := word32_octet _
  have hsensed : word32At (decode bytes).encode 24 = word32At bytes 24 := word32_octet _
  have hresponse : word32At (decode bytes).encode 28 = word32At bytes 28 := word32_octet _
  simp only [List.mem_cons, List.not_mem_nil, or_false] at h
  -- Two of the bytes that are fields of their own lie behind the first word.
  rcases (by omega : i < 8 ∨ 8 ≤ i ∧ i < 12 ∨ 12 ≤ i ∧ i < 14 ∨ 14 ≤ i ∧ i < 16 ∨
    16 ≤ i ∧ i < 20 ∨ 20 ≤ i ∧ i < 24 ∨ 24 ≤ i ∧ i < 28 ∨ 28 ≤ i ∧ i < 32) with
    hfield | hfield | hfield | hfield | hfield | hfield | hfield | hfield
  · rcases (by omega : i = 0 ∨ i = 1 ∨ i = 2 ∨ i = 3 ∨ i = 4 ∨ i = 5 ∨ i = 7) with
      rfl | rfl | rfl | rfl | rfl | rfl | rfl <;> rfl
  · exact getElem_eq_of_word32At hcontext hfield.1 hfield.2
  · rcases (by omega : i = 12 ∨ i = 13) with rfl | rfl <;> rfl
  · exact getElem_eq_of_word16At hstatus hfield.1 hfield.2
  · exact getElem_eq_of_word32At hlogInfo hfield.1 hfield.2
  · exact getElem_eq_of_word32At htransferred hfield.1 hfield.2
  · exact getElem_eq_of_word32At hsensed hfield.1 hfield.2
  · exact getElem_eq_of_word32At hresponse hfield.1 hfield.2

theorem carriesBut : CarriesBut [6] encode decode := by
  refine .of_getElem decode_encode (fun bytes i hi h => ?_) fun bytes _ => getElem_encode_decode bytes
  rcases List.mem_singleton.mp h with rfl
  rfl

end ErrorReply

/-! ## The words of the start -/

/-- The four bytes of a word, the lowest first. -/
def LittleEndian.octets (word : UInt32) : List UInt8 :=
  [octet word.toNat 0, octet word.toNat 1, octet word.toNat 2, octet word.toNat 3]

theorem LittleEndian.octets_word32At {n : Nat} (bytes : Vector UInt8 n) (k : Nat) (hk : k + 4 ≤ n) :
    octets (word32At bytes k hk) = [bytes[k]!, bytes[k + 1]!, bytes[k + 2]!, bytes[k + 3]!] := by
  rw [getElem!_pos bytes k (by omega), getElem!_pos bytes (k + 1) (by omega),
    getElem!_pos bytes (k + 2) (by omega), getElem!_pos bytes (k + 3) (by omega)]
  rcases octet_word32 bytes[k] bytes[k + 1] bytes[k + 2] bytes[k + 3] with ⟨h₀, h₁, h₂, h₃⟩
  unfold octets word32At
  rw [h₀, h₁, h₂, h₃]

/-- The words that start an adapter spell the frame. -/
theorem InitRequest.octets_words (r : InitRequest) :
    r.words.toList.flatMap octets = r.encode.toList := by
  change octets (word32At r.encode 0) ++ (octets (word32At r.encode 4) ++
    (octets (word32At r.encode 8) ++ (octets (word32At r.encode 12) ++
      (octets (word32At r.encode 16) ++ (octets (word32At r.encode 20) ++ []))))) = _
  simp only [octets_word32At]
  rfl

/-- The three plain frames lose nothing but their reserved bytes, and the words
    that the doorbell carries are the frame that starts an adapter. -/
theorem plain_frames_carried :
    CarriesBut [1, 2, 14, 15] InitRequest.encode InitRequest.decode ∧
    CarriesBut [1, 12, 13] InitReply.encode InitReply.decode ∧
    CarriesBut [6] ErrorReply.encode ErrorReply.decode ∧
    ∀ r : InitRequest, r.words.toList.flatMap octets = r.encode.toList :=
  ⟨InitRequest.carriesBut, InitReply.carriesBut, ErrorReply.carriesBut, InitRequest.octets_words⟩

end FusionMpt
