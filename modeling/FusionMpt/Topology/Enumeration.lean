import FusionMpt.Topology.Address
import FusionMpt.Topology.DevicePath

/-!
# Enumeration

Walking over the devices an adapter has, and naming them by path nodes.

A walk starts from the target of all ones, whatever the unit beside it, and
each step gives the address after the one it is given. A step from an address
past the last is refused, and a step from the last address finds nothing more;
in both cases there is no next address, and whoever walks stays where he is.
Only the number of a target is looked at, not the bytes behind it.

Whoever walks keeps the target and the unit himself, and a step changes them
where they are, one after the other. `advance` is such a step, and
`advanceTarget` one for those who keep a target only. What they come to is
`nextAddress` and `nextTarget`.

## Main definitions

* `nextAddress`: The address after a given one.
* `nextTarget`: The target after a given one.
* `Move`: A change made in place, which may fail.
* `advance`, `advanceTarget`: Go on to the next address, or target.
* `DevicePath.ofAddress`: The path node of an address.
* `DevicePath.address`: The address of a path node.
* `resolvePath`: The address that the node at the front of some bytes names.
-/

namespace FusionMpt

/-- The address after a given one. -/
def nextAddress (target : Target) (lun : UInt64) : Except Error (Target × UInt64) :=
  if target = .unset then .ok (.zero, 0)
  else if Target.last < target.number ∨ 0 < lun then
    .error (.invalidParameter .addressRange)
  else if target.number < Target.last then
    .ok (target.withNumber (target.number + 1), lun)
  else .error .notFound

/-- The target after a given one. -/
def nextTarget (target : Target) : Except Error Target :=
  if target = .unset then .ok .zero
  else if Target.last < target.number then .error (.invalidParameter .targetRange)
  else if target.number < Target.last then .ok (target.withNumber (target.number + 1))
  else .error .notFound

/-- A change to a value where it is kept, which may fail. What has been changed
    before the failure stays changed. -/
abbrev Move (σ : Type) := ExceptT Error (StateM σ)

/-- Make a move: how it ends, and what the value is then. -/
def Move.make {σ : Type} (move : Move σ Unit) (here : σ) : Except Error Unit × σ :=
  (move.run.run here).run

/-- Go on to the next address. -/
def advance : Move (Target × UInt64) Unit := do
  let (target, lun) ← get
  if target = .unset then
    modify fun (_, lun) => (Target.zero, lun)
    modify fun (target, _) => (target, 0)
  else if Target.last < target.number ∨ 0 < lun then
    throw (.invalidParameter .addressRange)
  else if target.number < Target.last then
    modify fun (target, lun) => (target.withNumber (target.number + 1), lun)
  else throw .notFound

/-- Go on to the next target. -/
def advanceTarget : Move Target Unit := do
  let target ← get
  if target = .unset then set Target.zero
  else if Target.last < target.number then throw (.invalidParameter .targetRange)
  else if target.number < Target.last then
    modify fun target => target.withNumber (target.number + 1)
  else throw .notFound

namespace DevicePath

/-- The path node of an address, if its numbers are those of a device. -/
def ofAddress (target : Target) (lun : UInt64) : Except Error DevicePath :=
  if Target.last < target.number ∨ 0 < lun then .error .notFound
  else .ok ⟨target.number.toUInt16, lun.toUInt16⟩

/-- The address of a path node, if there is a device. -/
def address (path : DevicePath) : Except Error (Target × UInt64) :=
  if Target.last.toUInt16 < path.pun ∨ 0 < path.lun then .error .notFound
  else .ok (.ofNumber path.pun.toUInt8, path.lun.toUInt64)

end DevicePath

/-- The address that the node at the front of some bytes names. -/
def resolvePath (bytes : List UInt8) : Except Error (Target × UInt64) := do
  let path ← DevicePath.parse bytes
  path.address

end FusionMpt
