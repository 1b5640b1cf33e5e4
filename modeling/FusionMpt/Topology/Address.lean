import FusionMpt.Error.Basic

/-!
# Addresses

A device is addressed by a target, sixteen bytes of which this family of
adapters uses the first, and a 64-bit logical unit number. Just one address
has a device behind it: the target of zeros with unit zero.

## Main definitions

* `Target`: The sixteen bytes.
* `Target.zero`, `Target.unset`: The one that exists, and the one that asks an
  enumeration to begin.
* `checkAddress`: Refuse an address with no device behind it.
-/

namespace FusionMpt

/-- The bytes that name a target. -/
structure Target where
  bytes : Vector UInt8 16
deriving DecidableEq

namespace Target

/-- The one target there is. -/
def zero : Target :=
  ⟨Vector.replicate 16 0⟩

/-- The target that stands for none, where an enumeration begins. -/
def unset : Target :=
  ⟨Vector.replicate 16 0xff⟩

theorem zero_lt_size : 0 < 16 := by
  decide

/-- The byte that adapters of this family look at. -/
def number (target : Target) : UInt8 :=
  target.bytes.get ⟨0, zero_lt_size⟩

/-- The target with another number in front. -/
def withNumber (target : Target) (number : UInt8) : Target :=
  ⟨target.bytes.set 0 number zero_lt_size⟩

/-- The target of a number, with zeros behind. -/
def ofNumber (number : UInt8) : Target :=
  zero.withNumber number

theorem number_ofNumber (number : UInt8) : (ofNumber number).number = number :=
  rfl

theorem withNumber_ofNumber (m n : UInt8) : (ofNumber m).withNumber n = ofNumber n :=
  rfl

/-- No number makes a target of all ones, since there are zeros behind it. -/
theorem ofNumber_ne_unset (number : UInt8) : ofNumber number ≠ unset := by
  intro h
  have hsecond : (ofNumber number).bytes.get 1 = unset.bytes.get 1 :=
    congrArg (fun target => target.bytes.get 1) h
  change (0 : UInt8) = 0xff at hsecond
  exact absurd hsecond (by decide)

/-- The greatest target number. -/
def last : UInt8 := 0

end Target

/-- Refuse an address with no device behind it. -/
def checkAddress (target : Target) (lun : UInt64) : Except Error Unit :=
  if target ≠ .zero then .error (.invalidParameter .target)
  else if lun ≠ 0 then .error (.invalidParameter .lun)
  else .ok ()

end FusionMpt
