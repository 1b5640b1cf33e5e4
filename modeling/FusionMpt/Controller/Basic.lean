import FusionMpt.Controller.BringUp

/-!
# Controllers

An adapter that has been brought up, as the engine keeps it: the region it was
given, how to wait for it, whether a request has failed under way, and what it
answered when it was started.

A request that fails under way leaves the adapter in an unknown state, with
frames of the region possibly still in its hands. The controller is faulted
from then on. This is for its owner to know; requests are taken all the same.
Bringing the adapter up again mends it.

## Main definitions

* `Controller`: An adapter that has been brought up.
* `Controller.start`: Bring an adapter up.
* `Controller.restart`: Bring it up again.
* `Controller.shutdown`: Quiet it and give the buffer back.
* `Controller.describe`: The controller as diagnostics show it.
-/

namespace FusionMpt

/-- Whether an adapter's state is known. -/
inductive Health where
  | ready
  /-- A request failed under way. -/
  | faulted
deriving DecidableEq, Repr

/-- The name of a state of health. -/
def Health.name : Health → String
  | .ready => "Ready"
  | .faulted => "Faulted"

/-- An adapter that has been brought up. -/
structure Controller where
  region : Region
  policy : PollPolicy
  health : Health
  /-- What the adapter answered when it was last brought up. -/
  initReply : InitReply
deriving DecidableEq

namespace Controller

/-- A request has failed under way, and the adapter has not been brought up
    since. -/
def isFaulted (c : Controller) : Bool :=
  c.health = .faulted

/-- Bring up the adapter that shares `buffer`. A policy or a buffer that does
    not serve is refused before the adapter is touched. -/
def start (buffer : Buffer) (policy : PollPolicy) : Attempt Controller := do
  policy.check
  let region ← Region.ofBuffer buffer
  let initReply ← BringUp.sequence region
  return { region, policy, health := .ready, initReply }

/-- Bring the adapter up again. If that fails, the controller stays as it
    was. -/
def restart (c : Controller) : Program (Except Error Unit × Controller) := do
  match ← (BringUp.sequence c.region).run with
  | .error failure => return (.error failure, c)
  | .ok initReply => return (.ok (), { c with initReply, health := .ready })

/-- Quiet the adapter and give the buffer back. The buffer is given up only
    once the adapter can no longer touch it. -/
def shutdown (c : Controller) : Attempt Buffer := do
  BringUp.quiesce
  return c.region.buffer

/-- Resetting a channel is not offered. -/
def resetChannel (_ : Controller) : Except Error Unit :=
  .error (.unsupported .channelReset)

/-- Resetting a target is not offered. -/
def resetTarget (_ : Controller) : Except Error Unit :=
  .error (.unsupported .targetReset)

/-- The controller as diagnostics show it. -/
def describe (c : Controller) : String :=
  "MptScsiController \x7b config: " ++ c.policy.text ++ ", state: " ++ c.health.name ++ ", .. \x7d"

end Controller

end FusionMpt
