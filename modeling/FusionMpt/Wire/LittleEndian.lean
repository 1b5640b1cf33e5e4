/-!
# Little-Endian Words

How 16, 32 and 64 bit words lie in a run of bytes. Everything the adapter
reads or writes puts the least significant octet first, so one reading of an
octet (`octet`) and one joining per width (`word16`, `word32`, `word64`)
serve every frame.

The definitions go through `Nat`: an octet is reached by dividing by 256, and a
word is built up by multiplying with it. Stated that way the two directions
undo each other by linear arithmetic alone, for all words and all octets, and
no frame codec needs to look at single bits.

## Main definitions

* `octet`: One octet of a number, counted from the least.
* `word16`, `word32`, `word64`: The word that given octets spell.
* `word16At`, `word32At`, `word64At`: The word at an offset of a byte vector.

## Theorems

* `octet_join_zero`, `octet_join_succ`: The octets of what an octet and a number spell.
* `toNat_word16`, `toNat_word32`, `toNat_word64`: The number that octets spell.
* `word16_octet`, `word32_octet`, `word64_octet`: A word is spelled by its
  own octets.
* `octet_word16`, `octet_word32`, `octet_word64`: Reading octets back out of
  the word they spell.
-/

namespace FusionMpt

namespace LittleEndian

/-- The `i`th octet of `n`, counted from the least significant. -/
def octet : Nat → Nat → UInt8
  | n, 0 => UInt8.ofNat n
  | n, i + 1 => octet (n / 256) i

/-- The 16-bit word spelled by two octets, least first. -/
def word16 (b₀ b₁ : UInt8) : UInt16 :=
  UInt16.ofNat (b₀.toNat + 256 * b₁.toNat)

/-- The 32-bit word spelled by four octets, least first. -/
def word32 (b₀ b₁ b₂ b₃ : UInt8) : UInt32 :=
  UInt32.ofNat (b₀.toNat + 256 * (b₁.toNat + 256 * (b₂.toNat + 256 * b₃.toNat)))

/-- The 64-bit word spelled by eight octets, least first. -/
def word64 (b₀ b₁ b₂ b₃ b₄ b₅ b₆ b₇ : UInt8) : UInt64 :=
  UInt64.ofNat (b₀.toNat + 256 * (b₁.toNat + 256 * (b₂.toNat + 256 * (b₃.toNat
    + 256 * (b₄.toNat + 256 * (b₅.toNat + 256 * (b₆.toNat + 256 * b₇.toNat)))))))

/-- The 16-bit word at offset `i`. -/
def word16At {n : Nat} (bytes : Vector UInt8 n) (i : Nat) (h : i + 2 ≤ n := by decide) :
    UInt16 :=
  word16 bytes[i] bytes[i + 1]

/-- The 32-bit word at offset `i`. -/
def word32At {n : Nat} (bytes : Vector UInt8 n) (i : Nat) (h : i + 4 ≤ n := by decide) :
    UInt32 :=
  word32 bytes[i] bytes[i + 1] bytes[i + 2] bytes[i + 3]

/-- The 64-bit word at offset `i`. -/
def word64At {n : Nat} (bytes : Vector UInt8 n) (i : Nat) (h : i + 8 ≤ n := by decide) :
    UInt64 :=
  word64 bytes[i] bytes[i + 1] bytes[i + 2] bytes[i + 3]
    bytes[i + 4] bytes[i + 5] bytes[i + 6] bytes[i + 7]

theorem word16_octet (w : UInt16) : word16 (octet w.toNat 0) (octet w.toNat 1) = w := by
  have hw := w.toNat_lt
  apply UInt16.toNat_inj.1
  simp [word16, octet]
  omega

theorem word32_octet (w : UInt32) :
    word32 (octet w.toNat 0) (octet w.toNat 1) (octet w.toNat 2) (octet w.toNat 3) = w := by
  have hw := w.toNat_lt
  apply UInt32.toNat_inj.1
  simp [word32, octet]
  omega

theorem word64_octet (w : UInt64) :
    word64 (octet w.toNat 0) (octet w.toNat 1) (octet w.toNat 2) (octet w.toNat 3)
      (octet w.toNat 4) (octet w.toNat 5) (octet w.toNat 6) (octet w.toNat 7) = w := by
  have hw := w.toNat_lt
  apply UInt64.toNat_inj.1
  simp [word64, octet]
  omega

/-! ## Octets read back

A word is its first octet and 256 times what the others spell, and an octet behind the
first is one of what the others spell. -/

theorem octet_toNat (b : UInt8) : octet b.toNat 0 = b :=
  UInt8.ofNat_toNat

theorem octet_join_zero (b : UInt8) (n : Nat) : octet (b.toNat + 256 * n) 0 = b := by
  have hb := b.toNat_lt
  apply UInt8.toNat_inj.1
  rw [octet, UInt8.toNat_ofNat']
  omega

theorem octet_join_succ (b : UInt8) (n i : Nat) : octet (b.toNat + 256 * n) (i + 1) = octet n i := by
  have hb := b.toNat_lt
  have hrest : (b.toNat + 256 * n) / 256 = n := by omega
  rw [octet, hrest]

theorem toNat_word16 (b₀ b₁ : UInt8) : (word16 b₀ b₁).toNat = b₀.toNat + 256 * b₁.toNat := by
  have h₀ := b₀.toNat_lt
  have h₁ := b₁.toNat_lt
  rw [word16, UInt16.toNat_ofNat']
  omega

theorem toNat_word32 (b₀ b₁ b₂ b₃ : UInt8) :
    (word32 b₀ b₁ b₂ b₃).toNat =
      b₀.toNat + 256 * (b₁.toNat + 256 * (b₂.toNat + 256 * b₃.toNat)) := by
  have h₀ := b₀.toNat_lt
  have h₁ := b₁.toNat_lt
  have h₂ := b₂.toNat_lt
  have h₃ := b₃.toNat_lt
  rw [word32, UInt32.toNat_ofNat']
  omega

theorem toNat_word64 (b₀ b₁ b₂ b₃ b₄ b₅ b₆ b₇ : UInt8) :
    (word64 b₀ b₁ b₂ b₃ b₄ b₅ b₆ b₇).toNat =
      b₀.toNat + 256 * (b₁.toNat + 256 * (b₂.toNat + 256 * (b₃.toNat
        + 256 * (b₄.toNat + 256 * (b₅.toNat + 256 * (b₆.toNat + 256 * b₇.toNat)))))) := by
  have h₀ := b₀.toNat_lt
  have h₁ := b₁.toNat_lt
  have h₂ := b₂.toNat_lt
  have h₃ := b₃.toNat_lt
  have h₄ := b₄.toNat_lt
  have h₅ := b₅.toNat_lt
  have h₆ := b₆.toNat_lt
  have h₇ := b₇.toNat_lt
  rw [word64, UInt64.toNat_ofNat']
  omega

theorem octet_word16 (b₀ b₁ : UInt8) :
    octet (word16 b₀ b₁).toNat 0 = b₀ ∧ octet (word16 b₀ b₁).toNat 1 = b₁ := by
  simp only [toNat_word16, octet_join_succ, octet_join_zero, octet_toNat, and_self]

theorem octet_word32 (b₀ b₁ b₂ b₃ : UInt8) :
    octet (word32 b₀ b₁ b₂ b₃).toNat 0 = b₀ ∧ octet (word32 b₀ b₁ b₂ b₃).toNat 1 = b₁ ∧
      octet (word32 b₀ b₁ b₂ b₃).toNat 2 = b₂ ∧ octet (word32 b₀ b₁ b₂ b₃).toNat 3 = b₃ := by
  simp only [toNat_word32, octet_join_succ, octet_join_zero, octet_toNat, and_self]

theorem octet_word64 (b₀ b₁ b₂ b₃ b₄ b₅ b₆ b₇ : UInt8) :
    let w := word64 b₀ b₁ b₂ b₃ b₄ b₅ b₆ b₇
    octet w.toNat 0 = b₀ ∧ octet w.toNat 1 = b₁ ∧ octet w.toNat 2 = b₂ ∧ octet w.toNat 3 = b₃ ∧
      octet w.toNat 4 = b₄ ∧ octet w.toNat 5 = b₅ ∧ octet w.toNat 6 = b₆ ∧
      octet w.toNat 7 = b₇ := by
  intro w
  simp only [w, toNat_word64, octet_join_succ, octet_join_zero, octet_toNat, and_self]

end LittleEndian

end FusionMpt
