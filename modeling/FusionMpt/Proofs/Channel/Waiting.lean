import FusionMpt.Frame.IoRequest
import FusionMpt.Proofs.Channel.Queue
import FusionMpt.Proofs.Platform.Playing

/-!
# Waiting for an Adapter That Answers

An adapter answers after `k` looks when that many looks find nothing, each
followed by a stall, and the next one sees the reply. Waiting for such an
adapter comes to the reply if it is allowed that many looks and if the policy's
limit has not been reached before.

The `k` stalls must also add up to a duration. They are added up even when no
limit asks for the sum, and a duration has an end.

## Main definitions

* `Queue.Shows`: The reply shows after so many looks.
* `Queue.Answers`: It shows, and the queue holds the reply of a success.
* `Queue.InTime`: The limit is not reached while looking in vain.

## Theorems

* `Queue.run_awaitReply_of_answers`: The wait ends with the reply.
-/

namespace FusionMpt

namespace Queue

variable {σ : Type} {adapter : Adapter σ} {policy : PollPolicy} {polls k : Nat} {s s' : σ}
  {waited : Duration}

/-- The interrupt status shows a reply after `k` looks that found none, each
    followed by a stall. -/
inductive Shows (adapter : Adapter σ) (stall : Duration) : Nat → σ → σ → Prop where
  | now {s s' : σ} {word : UInt32}
      (hlook : adapter.answer (.readRegister Register.interruptStatus) s = (.ok word, s'))
      (hword : Register.ShowsReply word) : Shows adapter stall 0 s s'
  | later {k : Nat} {s seen s' : σ} {word : UInt32}
      (hlook : adapter.answer (.readRegister Register.interruptStatus) s = (.ok word, seen))
      (hword : ¬ Register.ShowsReply word)
      (hrest : Shows adapter stall k (adapter.answer (.stall stall) seen).2 s') :
      Shows adapter stall (k + 1) s s'

/-- The adapter shows a reply after `k` looks, has the reply of a success as the
    only one in its queue, and takes the acknowledgement. -/
def Answers (adapter : Adapter σ) (stall : Duration) (k : Nat) (s s' : σ) : Prop :=
  ∃ shown first second, Shows adapter stall k s shown ∧
    adapter.answer (.readRegister Register.replyQueue) shown = (.ok IoRequest.context, first) ∧
    adapter.answer (.readRegister Register.replyQueue) first = (.ok Register.noReply, second) ∧
    adapter.answer (.writeRegister Register.interruptStatus 0) second = (.ok (), s')

/-- None of the first `k` looks comes at or after the limit. -/
def InTime (policy : PollPolicy) (waited k : Nat) : Prop :=
  ∀ limit, policy.limit? = some limit → ∀ i < k, waited + i * policy.stall.nanos < limit.nanos

theorem inTime_of_no_limit {waited : Nat} (h : policy.limit? = none) : InTime policy waited k := by
  intro limit hlimit
  rw [h] at hlimit
  exact absurd hlimit.symm (Option.some_ne_none limit)

theorem run_interruptReasons {word : UInt32}
    (h : adapter.answer (.readRegister Register.interruptStatus) s = (.ok word, s')) :
    Register.interruptReasons.attempt.run.run adapter s =
      ⟨[look word], .ok (.ok (.truncate word.toBitVec)), s'⟩ := by
  refine Program.run_adapt_value ?_
  unfold Register.interruptReasons
  rw [Program.run_bind_value (Bus.run_readRegister h)]
  rfl

theorem not_overdue_of_inTime (h : InTime policy waited.nanos (k + 1)) :
    policy.overdue waited = false := by
  unfold PollPolicy.overdue
  cases hlimit : policy.limit? with
  | none => rfl
  | some limit =>
      have hlt := h limit hlimit 0 (Nat.succ_pos k)
      rw [Nat.zero_mul, Nat.add_zero] at hlt
      exact decide_eq_false (Nat.not_le.mpr hlt)

theorem InTime.later {longer : Duration} (h : InTime policy waited.nanos (k + 1))
    (hlonger : longer.nanos = waited.nanos + policy.stall.nanos) :
    InTime policy longer.nanos k := by
  intro limit hlimit i hi
  have hlt := h limit hlimit (i + 1) (Nat.succ_lt_succ hi)
  rw [Nat.succ_mul] at hlt
  omega

-- One round of the loop: a look that finds nothing, and the stall behind it. What
-- follows depends on whether the wait with that stall still is a duration.
theorem run_poll_succ {seen : σ} {word : UInt32}
    (hlook : adapter.answer (.readRegister Register.interruptStatus) s = (.ok word, seen))
    (hword : ¬ Register.ShowsReply word) (hdue : policy.overdue waited = false) :
    (poll policy (polls + 1) waited).run.run adapter s =
      (((match waited.add? policy.stall with
        | some longer => poll policy polls longer
        | none => Program.halt .overflow : Attempt Unit).run.run adapter
          (adapter.answer (.stall policy.stall) seen).2).behind
            [⟨.stall policy.stall, (adapter.answer (.stall policy.stall) seen).1⟩]).behind
              [look word] := by
  have hdue' : ¬ policy.overdue waited = true := by
    rw [hdue]
    exact Bool.false_ne_true
  conv => lhs; unfold poll
  rw [Program.run_bind_value (run_interruptReasons hlook),
    if_neg (mt (Register.contains_reply_iff word).mp hword), if_neg hdue']
  rfl

-- Waiting for an adapter that shows a reply sees it, if the stalls in between add
-- up to a duration. The induction is on the looks in vain, with any wait before
-- them, since the loop carries the wait along.
theorem run_poll_of_shows (h : Shows adapter policy.stall k s s') (hpolls : k < polls)
    (htime : InTime policy waited.nanos k)
    (hsum : waited.nanos + k * policy.stall.nanos < Duration.bound) :
    ∃ events, (poll policy polls waited).run.run adapter s = ⟨events, .ok (.ok ()), s'⟩ := by
  induction h generalizing polls waited with
  | @now s s' word hlook hword =>
      cases polls with
      | zero => exact absurd hpolls (Nat.not_lt_zero 0)
      | succ n =>
          unfold poll
          rw [Program.run_bind_value (run_interruptReasons hlook),
            if_pos ((Register.contains_reply_iff word).mpr hword)]
          exact ⟨_, rfl⟩
  | @later k s seen s' word hlook hword _ ih =>
      rw [Nat.succ_mul k] at hsum
      cases polls with
      | zero => exact absurd hpolls (Nat.not_lt_zero _)
      | succ n =>
          rw [run_poll_succ hlook hword (not_overdue_of_inTime htime)]
          cases hlonger : waited.add? policy.stall with
          -- the wait so far and this stall are part of a sum that fits
          | none =>
              rw [Duration.add?_eq_none_iff] at hlonger
              omega
          | some longer =>
              rw [Duration.add?_eq_some_iff] at hlonger
              rcases ih (Nat.lt_of_succ_lt_succ hpolls) (htime.later hlonger)
                (by rw [hlonger]; omega) with ⟨events, hrun⟩
              simp only [hrun]
              exact ⟨_, rfl⟩

theorem run_take {token : UInt32} {first second : σ}
    (htoken : adapter.answer (.readRegister Register.replyQueue) s = (.ok token, first))
    (hempty : adapter.answer (.readRegister Register.replyQueue) first =
      (.ok Register.noReply, second))
    (hacknowledge : adapter.answer (.writeRegister Register.interruptStatus 0) second =
      (.ok (), s')) :
    ∃ events, take.run.run adapter s = ⟨events, .ok (.ok token), s'⟩ := by
  unfold take
  rw [Program.run_bind_value (Bus.run_attempt_value (Bus.run_readRegister htoken)),
    Program.run_bind_value (Bus.run_attempt_value (Bus.run_readRegister hempty))]
  -- the second read gave the word of ones, so the token is the only reply
  simp only [ne_eq, not_true_eq_false, ite_false]
  unfold Register.acknowledge
  rw [Program.run_bind_value (Bus.run_attempt_value (Bus.run_writeRegister hacknowledge))]
  exact ⟨_, rfl⟩

theorem run_awaitReply_of_answers (h : Answers adapter policy.stall k s s') (hpolls : k < polls)
    (htime : InTime policy 0 k) (hsum : k * policy.stall.nanos < Duration.bound) :
    ∃ events, (awaitReply policy polls).run.run adapter s =
      ⟨events, .ok (.ok IoRequest.context), s'⟩ := by
  rcases h with ⟨shown, first, second, hshows, htoken, hempty, hacknowledge⟩
  have hzero : Duration.zero.nanos = 0 := rfl
  have hstart : InTime policy Duration.zero.nanos k := htime
  rcases run_poll_of_shows hshows hpolls hstart (by rw [hzero]; omega) with
    ⟨waiting, hpoll⟩
  rcases run_take htoken hempty hacknowledge with ⟨taking, htake⟩
  refine ⟨waiting ++ taking, ?_⟩
  unfold awaitReply
  rw [Program.run_bind_value hpoll, htake]
  rfl

end Queue

end FusionMpt
