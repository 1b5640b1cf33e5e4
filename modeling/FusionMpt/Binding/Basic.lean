import FusionMpt.Binding.Registry
import FusionMpt.Controller.PassThrough

/-!
# Bindings

A binding takes PCI functions, switches them on, brings their adapters up and
keeps the controllers. A function goes in when it is started, comes back when
it is stopped, and in between belongs to the binding.

The attributes that a function had before are noted first and put back last:
when it is stopped, and when it cannot be started. They are put back once, and
nothing comes of it if that fails. Enabling 64-bit addresses may fail without
consequence; the region is checked to need no more than the adapter was told.

The functions are only named here. A name is whatever the caller tells
functions apart by, and each access is made on the function being started or
stopped.

## Main definitions

* `Bound`: A function with its controller.
* `Binding`: The controllers of all bound functions.
* `Binding.supported`: The function is one that can be bound.
* `Binding.start`, `Binding.stop`: Take a function, and give it back.
-/

namespace FusionMpt

/-- A function that is bound. -/
structure Bound (φ : Type) where
  function : φ
  /-- The attributes the function had before it was bound. -/
  saved : PciAttributes
  controller : Controller
deriving DecidableEq

/-- The controllers of all bound functions, and how to wait for the
    adapters. -/
structure Binding (φ : Type) where
  policy : PollPolicy := {}
  controllers : Registry (Bound φ) := {}
deriving DecidableEq

namespace Binding

variable {φ : Type}

/-- Whether a function can be bound, by what it says it is. -/
def supported : Attempt Unit := do
  let identity ← Bus.identity.attempt
  if identity.isSupported then return ()
  else throw (.unsupported .foreignFunction)

/-- Put a function's attributes back. That this fails is of no consequence. -/
def restore (saved : PciAttributes) : Program Unit := do
  let _ ← (Bus.assign saved).run
  return ()

/-- Get the resources behind a function that is switched on, and bring its
    adapter up. -/
def bringUp (policy : PollPolicy) : Attempt Controller := do
  Bus.mapRegisters.attempt
  let buffer ← (Bus.allocate Slot.total).attempt
  Controller.start buffer policy

/-- Switch a function on, bring its adapter up and keep it. If that fails, its
    attributes are put back. -/
def start (b : Binding φ) (function : φ) : Program (Except Error Handle × Binding φ) := do
  match ← Bus.attributes.run with
  | .error cause => return (.error (.bus cause), b)
  | .ok saved =>
    match ← (Bus.enable (PciAttributes.io ||| PciAttributes.busMaster)).run with
    | .error cause =>
      restore saved
      return (.error (.bus cause), b)
    | .ok () =>
      -- Without 64-bit addresses the adapter works as well.
      let _ ← (Bus.enable PciAttributes.dualAddressCycle).run
      match ← (bringUp b.policy).run with
      | .error failure =>
        restore saved
        return (.error failure, b)
      | .ok controller =>
        let (handle, controllers) := b.controllers.insert { function, saved, controller }
        return (.ok handle, { b with controllers })

/-- Quiet the adapter of a bound function, put the function's attributes back
    and give it back. The controller is gone whether or not the adapter could
    be quieted. -/
def stop (b : Binding φ) (handle : Handle) : Program (Except Error φ × Binding φ) := do
  match b.controllers.remove handle with
  | (none, _) => return (.error .notFound, b)
  | (some bound, controllers) =>
    let _ ← bound.controller.shutdown.run
    restore bound.saved
    return (.ok bound.function, { b with controllers })

/-- The bound function and controller of a handle. -/
def get? (b : Binding φ) (handle : Handle) : Option (Bound φ) :=
  b.controllers.get? handle

/-- The binding with the controller of a handle replaced by what became of
    it. -/
def update (b : Binding φ) (handle : Handle) (bound : Bound φ) : Binding φ :=
  { b with controllers := b.controllers.set handle bound }

/-- The handles of all bound functions. -/
def handles (b : Binding φ) : List Handle :=
  b.controllers.handles

end Binding

end FusionMpt
