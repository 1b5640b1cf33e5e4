import FusionMpt.Channel.PollPolicy
import FusionMpt.Channel.Register
import FusionMpt.Platform.Attempt

/-!
# The Queues

A request is posted by writing the address of its frame to the request queue.
Its reply is a token in the reply queue, and the interrupt status shows when
there is one.

Waiting for a reply is a loop of looks at the interrupt status with stalls in
between. It ends when the reply shows, when a read fails, or when the policy's
limit is reached; without a limit an adapter that never answers would be
waited for without end, so the number of looks is bounded by the caller. A
look comes before the limit is considered: a reply that shows at the last
moment is still taken.

Only one request is ever under way, so after the token the queue must be
empty. A second token means that replies can no longer be told apart, and then
nothing is acknowledged.

Writing to the reply queue hands the adapter a frame, which it fills in when a
request fails. It has one such frame at a time.

## Main definitions

* `Queue.submit`: Post a request.
* `Queue.poll`: Wait until a reply shows.
* `Queue.take`: Take the one reply and acknowledge it.
* `Queue.awaitReply`: Wait for a reply and take it.
* `Queue.arm`: Hand the adapter the frame for an error reply.
-/

namespace FusionMpt

namespace Queue

/-- Post the request whose frame lies at an address, given by its lower
    half. -/
def submit (address : UInt32) : Bus Unit :=
  Bus.writeRegister Register.requestQueue address

/-- Wait until a reply shows, looking at most `polls` times. Of the time waited
    only stalls count. -/
def poll (policy : PollPolicy) : (polls : Nat) → (waited : Duration) → Attempt Unit
  | 0, _ => Program.halt .unanswered
  | polls + 1, waited => do
    let reasons ← Register.interruptReasons.attempt
    if reasons.contains InterruptStatus.reply then
      return ()
    else if policy.overdue waited then
      throw (.timeout waited.micros)
    else
      ExceptT.lift (Program.perform (.stall policy.stall))
      match waited.add? policy.stall with
      | some waited => poll policy polls waited
      | none => Program.halt .overflow

/-- Take the token of the one reply. -/
def take : Attempt UInt32 := do
  let token ← (Bus.readRegister Register.replyQueue).attempt
  let next ← (Bus.readRegister Register.replyQueue).attempt
  if next ≠ Register.noReply then
    throw (.device (.desync token next))
  Register.acknowledge.attempt
  return token

/-- Wait until a reply shows, looking at most `polls` times, and take it. -/
def awaitReply (policy : PollPolicy) (polls : Nat) : Attempt UInt32 := do
  poll policy polls .zero
  take

/-- Hand the adapter the frame for an error reply, by the lower half of its
    address. -/
def arm (address : UInt32) : Bus Unit :=
  Bus.writeRegister Register.replyQueue address

end Queue

end FusionMpt
