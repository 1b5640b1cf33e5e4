import FusionMpt.Wire.Hexadecimal

/-!
# Bus Errors

Failures below the engine: an access to the adapter, to the memory shared with
it, or to the configuration of its PCI function that did not complete. The
platform reports them; the engine never makes one up, except for an access
outside a slot of the shared memory, which it refuses before the platform
sees it.

## Main definitions

* `BusError`: Why an access did not complete.
* `BusError.message`: What is said about it.
-/

namespace FusionMpt

/-- Why an access did not complete. -/
inductive BusError where
  /-- A register did not give its value. -/
  | registerRead (offset : UInt32)
  /-- A register did not take a value. -/
  | registerWrite (offset value : UInt32)
  /-- An access to shared memory reaches past `capacity`. -/
  | outOfBounds (offset len capacity : Nat)
  /-- No shared memory of this length is to be had. -/
  | allocation (len : Nat)
  /-- An access to the function's configuration failed, as the platform puts
      it. -/
  | configuration (what : String)
deriving DecidableEq, Repr

/-- What is said about a bus error. -/
def BusError.message : BusError → String
  | .registerRead offset =>
    "register read at offset " ++ hexadecimal 2 offset.toNat ++ " failed"
  | .registerWrite offset value =>
    "register write of " ++ hexadecimal 8 value.toNat ++ " at offset "
      ++ hexadecimal 2 offset.toNat ++ " failed"
  | .outOfBounds offset len capacity =>
    s!"dma access out of bounds: offset={offset} len={len} capacity={capacity}"
  | .allocation len => s!"dma buffer allocation of {len} bytes failed"
  | .configuration what => "pci configuration access failed: " ++ what

end FusionMpt
