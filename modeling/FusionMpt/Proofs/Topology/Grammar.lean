import FusionMpt.Proofs.Topology.Naming

/-!
# The Grammar of Path Nodes

Which bytes are a SCSI node, and what is said about those that are not. There are
two lengths to tell apart, the one that a node claims in its third and fourth byte
and the number of bytes that are there. Both have to admit a whole node, and
neither has to be exact: what comes after the eighth byte is not looked at.

A refusal names the first thing that is wrong. The kind of a node is judged as
soon as its first four bytes are there, so a node of another kind is foreign
rather than truncated, however short it is.

Bytes are asked for one at a time, and each only after a length has been checked
that has it inside. `scan` asks in that order and has no answer if a byte is
missing. It always has one, and it is the answer of `parse`.

A node that is written again claims eight bytes and is otherwise the same.

## Main definitions

* `DevicePath.field`: The number spelled at a place of a node.
* `DevicePath.IsNode`: The bytes start with a SCSI node.
* `DevicePath.scan`: A node taken byte by byte.

## Theorems

* `DevicePath.parse_eq`: The grammar in one equation.
* `DevicePath.scan_eq`: No byte is asked for that is not there.
* `DevicePath.parse_take_append`: Only eight bytes are looked at.
* `DevicePath.encode_of_isNode`: A node written again.
* `DevicePath.parse_grammar`: All of it, for any bytes.
-/

namespace FusionMpt

open LittleEndian

namespace DevicePath

/-- The number that two bytes spell, least first. Missing bytes count nothing. -/
def field (bytes : List UInt8) (i : Nat) : Nat :=
  (bytes.getD i 0).toNat + 256 * (bytes.getD (i + 1) 0).toNat

/-- The bytes start with a SCSI node. -/
structure IsNode (bytes : List UInt8) : Prop where
  /-- All of it is there. -/
  whole : 8 ≤ bytes.length
  kind : bytes.take 2 = [0x03, 0x02]
  /-- It claims as much. -/
  claimed : 8 ≤ field bytes 2

/-- The node at the front of some bytes, one byte after the other. There is no answer
    if a byte behind the end is asked for. -/
def scan (bytes : List UInt8) : Option (Except Error DevicePath) := do
  if bytes.length < 4 then
    return .error (.invalidParameter .truncatedPathNode)
  if (← bytes[0]?) ≠ messagingType then
    return .error (.unsupported .foreignPathNode)
  if (← bytes[1]?) ≠ scsiSubtype then
    return .error (.unsupported .foreignPathNode)
  let length := word16 (← bytes[2]?) (← bytes[3]?)
  if length.toNat < size ∨ bytes.length < size then
    return .error (.invalidParameter .truncatedPathNode)
  let pun := word16 (← bytes[4]?) (← bytes[5]?)
  let lun := word16 (← bytes[6]?) (← bytes[7]?)
  return .ok ⟨pun, lun⟩

variable {bytes : List UInt8} {path : DevicePath}

/-! ## Bytes that are there -/

theorem exists_of_four_le (h : 4 ≤ bytes.length) :
    ∃ b₀ b₁ b₂ b₃ body, bytes = b₀ :: b₁ :: b₂ :: b₃ :: body := by
  match bytes, h with
  | b₀ :: b₁ :: b₂ :: b₃ :: body, _ => exact ⟨b₀, b₁, b₂, b₃, body, rfl⟩

theorem exists_of_eight_le (h : 8 ≤ bytes.length) :
    ∃ b₀ b₁ b₂ b₃ b₄ b₅ b₆ b₇ rest,
      bytes = b₀ :: b₁ :: b₂ :: b₃ :: b₄ :: b₅ :: b₆ :: b₇ :: rest := by
  rcases exists_of_four_le (Nat.le_trans (by decide) h) with ⟨b₀, b₁, b₂, b₃, body, rfl⟩
  have hbody : 4 ≤ body.length := by
    simp only [List.length_cons] at h
    omega
  rcases exists_of_four_le hbody with ⟨b₄, b₅, b₆, b₇, rest, rfl⟩
  exact ⟨b₀, b₁, b₂, b₃, b₄, b₅, b₆, b₇, rest, rfl⟩

-- What is not four bytes and more is less than four bytes.
theorem length_lt_four
    (h : ∀ b₀ b₁ b₂ b₃ body, bytes = b₀ :: b₁ :: b₂ :: b₃ :: body → False) : bytes.length < 4 := by
  by_cases hlength : bytes.length < 4
  · exact hlength
  · rcases exists_of_four_le (Nat.le_of_not_lt hlength) with ⟨b₀, b₁, b₂, b₃, body, heq⟩
    exact (h b₀ b₁ b₂ b₃ body heq).elim

/-! ## Parsing -/

-- The kind of a node, as its first two bytes.
theorem take_two_eq_iff (b₀ b₁ : UInt8) (rest : List UInt8) :
    (b₀ :: b₁ :: rest).take 2 = [0x03, 0x02] ↔ ¬ (b₀ ≠ messagingType ∨ b₁ ≠ scsiSubtype) := by
  simp [messagingType, scsiSubtype]

theorem field_cons (b : UInt8) (i : Nat) : field (b :: bytes) (i + 1) = field bytes i :=
  rfl

theorem toNat_word16_eq_field (b₀ b₁ : UInt8) (rest : List UInt8) :
    (word16 b₀ b₁).toNat = field (b₀ :: b₁ :: rest) 0 :=
  toNat_word16 b₀ b₁

theorem parse_eq (bytes : List UInt8) :
    parse bytes =
      if bytes.length < 4 then .error (.invalidParameter .truncatedPathNode)
      else if bytes.take 2 ≠ [0x03, 0x02] then .error (.unsupported .foreignPathNode)
      else if 8 ≤ bytes.length ∧ 8 ≤ field bytes 2 then
        .ok ⟨.ofNat (field bytes 4), .ofNat (field bytes 6)⟩
      else .error (.invalidParameter .truncatedPathNode) := by
  fun_cases parse bytes
  case case1 b₀ b₁ b₂ b₃ body hforeign =>
    have hkind : (b₀ :: b₁ :: b₂ :: b₃ :: body).take 2 ≠ [0x03, 0x02] := fun heq =>
      (take_two_eq_iff _ _ _).mp heq hforeign
    rw [if_neg (by simp), if_pos hkind]
  case case2 b₀ b₁ b₂ b₃ hkind b₄ b₅ b₆ b₇ rest hclaimed =>
    have hfield : field (b₀ :: b₁ :: b₂ :: b₃ :: b₄ :: b₅ :: b₆ :: b₇ :: rest) 2 < 8 := by
      rw [field_cons, field_cons, ← toNat_word16_eq_field]
      exact hclaimed
    rw [if_neg (by simp), if_neg (not_not.mpr ((take_two_eq_iff _ _ _).mpr hkind)),
      if_neg (by omega)]
  case case3 b₀ b₁ b₂ b₃ hkind b₄ b₅ b₆ b₇ rest hclaimed =>
    have hfield : 8 ≤ field (b₀ :: b₁ :: b₂ :: b₃ :: b₄ :: b₅ :: b₆ :: b₇ :: rest) 2 := by
      rw [field_cons, field_cons, ← toNat_word16_eq_field]
      exact Nat.le_of_not_lt hclaimed
    rw [if_neg (by simp), if_neg (not_not.mpr ((take_two_eq_iff _ _ _).mpr hkind)),
      if_pos ⟨by simp, hfield⟩]
    rfl
  case case4 b₀ b₁ b₂ b₃ hkind body hshort =>
    have hlength := length_lt_four hshort
    rw [if_neg (by simp), if_neg (not_not.mpr ((take_two_eq_iff _ _ _).mpr hkind)), if_neg]
    simp only [List.length_cons]
    omega
  case case5 hshort => rw [if_pos (length_lt_four hshort)]

-- Behind the kind the lengths are looked at, and behind those the numbers.
theorem scan_of_kind {b₀ b₁ : UInt8} (hkind : ¬ (b₀ ≠ messagingType ∨ b₁ ≠ scsiSubtype))
    (b₂ b₃ : UInt8) (body : List UInt8) :
    scan (b₀ :: b₁ :: b₂ :: b₃ :: body) =
      if (word16 b₂ b₃).toNat < size ∨ body.length + 4 < size then
        some (.error (.invalidParameter .truncatedPathNode))
      else do
        let pun := word16 (← body[0]?) (← body[1]?)
        let lun := word16 (← body[2]?) (← body[3]?)
        return .ok ⟨pun, lun⟩ := by
  unfold scan
  rw [if_neg (by simp)]
  change (if b₀ ≠ messagingType then _ else if b₁ ≠ scsiSubtype then _ else _) = _
  rw [if_neg (not_or.mp hkind).1, if_neg (not_or.mp hkind).2]
  rfl

/-- Every byte that is asked for is there. -/
theorem scan_eq (bytes : List UInt8) : scan bytes = some (parse bytes) := by
  fun_cases parse bytes
  case case1 b₀ b₁ b₂ b₃ body hforeign =>
    unfold scan
    rw [if_neg (by simp)]
    change (if b₀ ≠ messagingType then _ else if b₁ ≠ scsiSubtype then _ else _) = _
    by_cases h₀ : b₀ ≠ messagingType
    · rw [if_pos h₀]
      rfl
    · rw [if_neg h₀, if_pos (hforeign.resolve_left h₀)]
      rfl
  case case2 b₀ b₁ b₂ b₃ hkind b₄ b₅ b₆ b₇ rest hclaimed =>
    rw [scan_of_kind hkind, if_pos (Or.inl hclaimed)]
  case case3 b₀ b₁ b₂ b₃ hkind b₄ b₅ b₆ b₇ rest hclaimed =>
    have hwhole : ¬ (b₄ :: b₅ :: b₆ :: b₇ :: rest).length + 4 < size := by
      simp [size]
    rw [scan_of_kind hkind, if_neg (not_or.mpr ⟨hclaimed, hwhole⟩)]
    rfl
  case case4 b₀ b₁ b₂ b₃ hkind body hshort =>
    have hlength : body.length + 4 < size := Nat.add_lt_add_right (length_lt_four hshort) 4
    rw [scan_of_kind hkind, if_pos (Or.inr hlength)]
  case case5 hshort =>
    unfold scan
    rw [if_pos (length_lt_four hshort)]
    rfl

/-- What comes after the eighth byte makes no difference. -/
theorem parse_take_append (h : 8 ≤ bytes.length) (tail : List UInt8) :
    parse (bytes.take 8 ++ tail) = parse bytes := by
  rcases exists_of_eight_le h with ⟨b₀, b₁, b₂, b₃, b₄, b₅, b₆, b₇, rest, rfl⟩
  rfl

example : parse [0x01, 0x01, 0x06, 0x00, 0x00, 0x02] =
    .error (.unsupported .foreignPathNode) :=
  rfl

/-! ## Nodes -/

theorem parse_of_isNode (h : IsNode bytes) :
    parse bytes = .ok ⟨.ofNat (field bytes 4), .ofNat (field bytes 6)⟩ := by
  have hlength := h.whole
  rw [parse_eq, if_neg (by omega), if_neg (not_not.mpr h.kind), if_pos ⟨h.whole, h.claimed⟩]

/-- Only nodes are accepted. -/
theorem isNode_of_parse (h : parse bytes = .ok path) : IsNode bytes := by
  rw [parse_eq] at h
  by_cases hshort : bytes.length < 4
  · rw [if_pos hshort] at h
    nomatch h
  · by_cases hkind : bytes.take 2 = [0x03, 0x02]
    · by_cases hnode : 8 ≤ bytes.length ∧ 8 ≤ field bytes 2
      · exact ⟨hnode.1, hkind, hnode.2⟩
      · rw [if_neg hshort, if_neg (not_not.mpr hkind), if_neg hnode] at h
        nomatch h
    · rw [if_neg hshort, if_pos hkind] at h
      nomatch h

theorem field_lt (bytes : List UInt8) (i : Nat) : field bytes i < UInt16.size := by
  have hlow := (bytes.getD i 0).toNat_lt
  have hhigh := (bytes.getD (i + 1) 0).toNat_lt
  unfold field
  change _ < 65536
  omega

/-- A node that is written again claims eight bytes. -/
theorem encode_of_isNode (h : IsNode bytes) :
    (encode ⟨.ofNat (field bytes 4), .ofNat (field bytes 6)⟩).toList =
      ((bytes.take 8).set 2 8).set 3 0 := by
  rcases exists_of_eight_le h.whole with ⟨b₀, b₁, b₂, b₃, b₄, b₅, b₆, b₇, rest, rfl⟩
  rcases List.cons.inj h.kind with ⟨h₀, hrest⟩
  have h₁ : b₁ = 0x02 := (List.cons.inj hrest).1
  change [messagingType, scsiSubtype, octet size 0, octet size 1,
      octet (word16 b₄ b₅).toNat 0, octet (word16 b₄ b₅).toNat 1,
      octet (word16 b₆ b₇).toNat 0, octet (word16 b₆ b₇).toNat 1] =
    [b₀, b₁, 8, 0, b₄, b₅, b₆, b₇]
  rw [(octet_word16 b₄ b₅).1, (octet_word16 b₄ b₅).2, (octet_word16 b₆ b₇).1,
    (octet_word16 b₆ b₇).2, h₀, h₁]
  rfl

/-- Claiming eight bytes changes nothing if that is what was claimed. -/
theorem set_claimed_eq_iff (h : 8 ≤ bytes.length) :
    ((bytes.take 8).set 2 8).set 3 0 = bytes.take 8 ↔ field bytes 2 = 8 := by
  rcases exists_of_eight_le h with ⟨b₀, b₁, b₂, b₃, b₄, b₅, b₆, b₇, rest, rfl⟩
  have hlow := b₂.toNat_lt
  change [b₀, b₁, 8, 0, b₄, b₅, b₆, b₇] = [b₀, b₁, b₂, b₃, b₄, b₅, b₆, b₇] ↔
    b₂.toNat + 256 * b₃.toNat = 8
  have hbytes : 8 = b₂ ∧ 0 = b₃ ↔ b₂.toNat + 256 * b₃.toNat = 8 := by
    rw [← UInt8.toNat_inj, ← UInt8.toNat_inj]
    change 8 = b₂.toNat ∧ 0 = b₃.toNat ↔ _
    omega
  rw [← hbytes]
  simp

/-- The grammar of path nodes, for any bytes whatever. They are accepted if they start
    with a SCSI node, whose numbers are then the words behind its head. What is refused
    is truncated if its kind and length are not there, foreign if it is of another kind,
    and truncated if it is too short after all. No byte behind the end is asked for, and
    none behind the eighth matters. What was written is found in front of anything, and
    what was found is written as it was, but for the length that it claims. -/
theorem parse_grammar (bytes : List UInt8) :
    ((∃ path, parse bytes = .ok path) ↔ IsNode bytes) ∧
    (∀ path, parse bytes = .ok path →
      path.pun.toNat = field bytes 4 ∧ path.lun.toNat = field bytes 6 ∧
      path.encode.toList = ((bytes.take 8).set 2 8).set 3 0 ∧
      (path.encode.toList = bytes.take 8 ↔ field bytes 2 = 8)) ∧
    (bytes.length < 4 → parse bytes = .error (.invalidParameter .truncatedPathNode)) ∧
    (4 ≤ bytes.length → bytes.take 2 ≠ [0x03, 0x02] →
      parse bytes = .error (.unsupported .foreignPathNode)) ∧
    (4 ≤ bytes.length → bytes.take 2 = [0x03, 0x02] → ¬ IsNode bytes →
      parse bytes = .error (.invalidParameter .truncatedPathNode)) ∧
    scan bytes = some (parse bytes) ∧
    (8 ≤ bytes.length → ∀ tail, parse (bytes.take 8 ++ tail) = parse bytes) ∧
    ∀ (path : DevicePath) (tail : List UInt8), parse (path.encode.toList ++ tail) = .ok path := by
  refine ⟨?_, ?_, ?_, ?_, ?_, scan_eq bytes, parse_take_append, parse_encode⟩
  · constructor
    · intro h
      rcases h with ⟨path, hparse⟩
      exact isNode_of_parse hparse
    · exact fun h => ⟨_, parse_of_isNode h⟩
  · intro path hparse
    have hnode := isNode_of_parse hparse
    rw [parse_of_isNode hnode, Except.ok.injEq] at hparse
    rw [← hparse, encode_of_isNode hnode]
    exact ⟨UInt16.toNat_ofNat_of_lt (field_lt bytes 4), UInt16.toNat_ofNat_of_lt (field_lt bytes 6),
      rfl, set_claimed_eq_iff hnode.whole⟩
  · intro hshort
    rw [parse_eq, if_pos hshort]
  · intro hhead hkind
    rw [parse_eq, if_neg (Nat.not_lt.mpr hhead), if_pos hkind]
  · intro hhead hkind hnode
    rw [parse_eq, if_neg (Nat.not_lt.mpr hhead), if_neg (not_not.mpr hkind),
      if_neg fun h => hnode ⟨h.1, hkind, h.2⟩]

/-- A node of target five and unit seven that claims 300 bytes, with one byte behind
    it. -/
def longClaim : List UInt8 :=
  [0x03, 0x02, 0x2c, 0x01, 0x05, 0x00, 0x07, 0x00, 0xff]

/-- It is accepted, and claims eight bytes when it is written again. -/
theorem parse_grammar_of_longClaim :
    IsNode longClaim ∧ parse longClaim = .ok ⟨5, 7⟩ ∧
      (encode ⟨5, 7⟩).toList = [0x03, 0x02, 0x08, 0x00, 0x05, 0x00, 0x07, 0x00] ∧
      (encode ⟨5, 7⟩).toList ≠ longClaim.take 8 := by
  rcases parse_grammar longClaim with ⟨haccepted, hread, -⟩
  have hparse : parse longClaim = .ok ⟨5, 7⟩ := rfl
  rcases hread _ hparse with ⟨-, -, hwritten, hsame⟩
  exact ⟨haccepted.mp ⟨_, hparse⟩, hparse, hwritten, fun h => absurd (hsame.mp h) (by decide)⟩

end DevicePath

end FusionMpt
