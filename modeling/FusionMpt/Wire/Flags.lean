/-!
# Flag Words

Words whose bits are named flags. A `FlagTable` lists the flags that a word
declares, by name and bit, in the order of declaration; a `FlagSet` over it is
a word read that way.

A word may arrive with bits that no flag names: a status register has
reserved bits, and a platform may keep attributes this library knows nothing
of. Two readings treat them differently. `FlagSet.truncate` drops them, and
`FlagSet.ofBits?` refuses a word that has any; a set made directly from a word
keeps them.

## Main definitions

* `FlagTable`: The flags a word declares.
* `FlagTable.mask`: Every declared bit.
* `FlagSet`: A word read through a table of flags.
* `FlagSet.truncate`: The declared bits of a word.
* `FlagSet.ofBits?`: A word all of whose bits are declared.
* `FlagSet.names`: The names of the flags that are set, in declaration order.

## Theorems

* `FlagSet.truncate_bits`: What truncation keeps.
* `FlagSet.truncate_truncate`: A second truncation changes nothing.
-/

namespace FusionMpt

/-- The flags of a `w`-bit word: each with its name and its bits, in the order
    of declaration. -/
structure FlagTable (w : Nat) where
  entries : List (String × BitVec w)

/-- Every bit that some flag of the table names. -/
def FlagTable.mask {w : Nat} (table : FlagTable w) : BitVec w :=
  table.entries.foldr (fun entry bits => entry.2 ||| bits) 0

/-- A word read as a set of the flags that `table` declares. -/
@[ext]
structure FlagSet {w : Nat} (table : FlagTable w) where
  bits : BitVec w
deriving DecidableEq

namespace FlagSet

variable {w : Nat} {table : FlagTable w}

/-- The declared bits of a word; the others are dropped. -/
def truncate (bits : BitVec w) : FlagSet table :=
  ⟨bits &&& table.mask⟩

/-- The word as a set of flags, unless it has a bit that no flag names. -/
def ofBits? (bits : BitVec w) : Option (FlagSet table) :=
  if bits &&& ~~~table.mask = 0 then some ⟨bits⟩ else none

/-- Every flag of `other` is set in `flags`. -/
def contains (flags other : FlagSet table) : Bool :=
  flags.bits &&& other.bits = other.bits

/-- Some flag is set in both. -/
def intersects (flags other : FlagSet table) : Bool :=
  flags.bits &&& other.bits ≠ 0

/-- The flags set in either. -/
def union (flags other : FlagSet table) : FlagSet table :=
  ⟨flags.bits ||| other.bits⟩

/-- The flags of the first that the second lacks. -/
def difference (flags other : FlagSet table) : FlagSet table :=
  ⟨flags.bits &&& ~~~other.bits⟩

/-- Every declared flag is set. -/
def isAll (flags : FlagSet table) : Bool :=
  table.mask ||| flags.bits = flags.bits

/-- No bit is set. -/
def isEmpty (flags : FlagSet table) : Bool :=
  flags.bits = 0

/-- The names of the flags that are set, in the order of declaration. -/
def names (flags : FlagSet table) : List String :=
  (table.entries.filter fun entry => flags.contains ⟨entry.2⟩).map (·.1)

instance : OrOp (FlagSet table) := ⟨union⟩

@[simp]
theorem truncate_bits (bits : BitVec w) :
    (truncate bits : FlagSet table).bits = bits &&& table.mask :=
  rfl

theorem truncate_truncate (bits : BitVec w) :
    (truncate (truncate bits : FlagSet table).bits : FlagSet table) = truncate bits := by
  ext1
  simp [BitVec.and_assoc]

end FlagSet

end FusionMpt
