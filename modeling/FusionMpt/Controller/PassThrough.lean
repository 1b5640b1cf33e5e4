import FusionMpt.Controller.Basic
import FusionMpt.Transfer.Completion
import FusionMpt.Transfer.Placement

/-!
# Passing Commands Through

One packet, from the caller to the device and back. It is admitted and placed,
the address of its frame is posted, the reply is waited for, and the packet is
finished by it.

Where it fails decides what becomes of the packet and of the controller.

* Before the frame is posted, the adapter knows nothing of the request. The
  packet stays as admission left it.
* If posting the frame fails, the packet did not get through. Its lengths are
  zeroed and its statuses say so; the adapter is as sound as before.
* After that the adapter has the request, and any failure leaves its state
  unknown. The packet's lengths are zeroed, and the controller is faulted.

A controller already faulted behaves like any other.

## Main definitions

* `Served`: The outcome with the packet and the controller after it.
* `Controller.receive`: Wait for the reply and finish the packet.
* `Controller.passThrough`: Pass a packet through.
-/

namespace FusionMpt

/-- What a packet's way through comes to. -/
structure Served where
  outcome : Except Error Unit
  packet : Packet
  controller : Controller

namespace Controller

/-- Wait for the reply to the request under way, looking at most `polls`
    times, and finish the packet by it. -/
def receive (c : Controller) (polls : Nat) : Exchange Unit := do
  let token ← (Queue.awaitReply c.policy polls).exchange
  Packet.complete c.region token

/-- Pass a packet through to a device. The adapter is looked at for the reply
    at most `polls` times. -/
def passThrough (c : Controller) (polls : Nat) (target : Target) (lun : UInt64) (p : Packet) :
    Program Served := do
  match ← p.stage c.region target lun with
  | (.error failure, p) => return ⟨.error failure, p, c⟩
  | (.ok _, p) =>
    match ← (Queue.submit (c.region.lowAddress .request)).run with
    | .error cause => return ⟨.error (.device (.submission cause)), p.undelivered, c⟩
    | .ok () =>
      match ← (c.receive polls).run p with
      | (.error failure, p) => return ⟨.error failure, p.aborted, { c with health := .faulted }⟩
      | (.ok (), p) => return ⟨.ok (), p, c⟩

end Controller

end FusionMpt
