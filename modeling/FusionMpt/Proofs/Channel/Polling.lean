import FusionMpt.Proofs.Channel.Queue

/-!
# How Waiting Ends

A round of the wait is a look, and when the look was in vain, a stall. So the
wait is followed by induction on its rounds, and each way in which it can end
is one case: a look sees the reply, a look fails, a look in vain comes when the
limit has been reached, the stalls add up to more than a duration holds, or the
looks that are allowed are used up.

Only a wait that gave up ends with a look in vain. After any other look in vain
there is a stall, and the stalls say how long was waited.

## Main definitions

* `Queue.Polled`: The rounds of a wait, and how it ends.
* `Queue.Round`: One round, with the wait that is left behind it.
* `stalls`: The number of stalls among some events.
* `endsInVain`: The last event is a look in vain.
* `PollPolicy.isReached`: The limit has been reached after so many nanoseconds.

## Theorems

* `Queue.path_poll_succ`: What one round may be.
* `Queue.path_poll`: Waiting goes by rounds.
* `Queue.Polled.error_cases`: A wait that failed could not look, or it gave up.
* `Queue.Polled.halted`: A wait that came to nothing did not give up.
-/

namespace FusionMpt

/-- The number of stalls among the events. -/
def stalls (events : List Event) : Nat :=
  events.countP fun event => event.access matches .stall _

/-- The last of the events is a look that found no reply. -/
def endsInVain : List Event → Bool
  | [] => false
  | [⟨.readRegister _, .ok word⟩] => !word.toBitVec.getLsbD 3
  | [_] => false
  | _ :: rest => endsInVain rest

/-- There is a limit, and it has been reached after so many nanoseconds. -/
def PollPolicy.isReached (policy : PollPolicy) (nanos : Nat) : Bool :=
  policy.limit?.any (·.nanos ≤ nanos)

namespace Queue

variable {policy : PollPolicy} {polls : Nat} {waited : Duration} {events : List Event}
  {outcome : Except Halt (Except Error Unit)}

/-- The event of a stall. -/
def pause (policy : PollPolicy) : Event :=
  ⟨.stall policy.stall, ()⟩

/-- The rounds of a wait, after it has waited for some time, and how it ends. -/
inductive Polled (policy : PollPolicy) :
    Duration → List Event → Except Halt (Except Error Unit) → Prop where
  /-- There may be no further look. -/
  | unanswered {waited : Duration} : Polled policy waited [] (.error .unanswered)
  /-- The look failed. -/
  | unread {waited : Duration} {cause : BusError} :
      Polled policy waited [⟨.readRegister Register.interruptStatus, .error cause⟩]
        (.ok (.error (.bus cause)))
  /-- The look saw the reply. -/
  | shown {waited : Duration} {word : UInt32} (hword : Register.ShowsReply word) :
      Polled policy waited [look word] (.ok (.ok ()))
  /-- The look was in vain, and the limit has been reached. -/
  | overdue {waited : Duration} {word : UInt32} (hword : ¬ Register.ShowsReply word)
      (hdue : policy.overdue waited = true) :
      Polled policy waited [look word] (.ok (.error (.timeout waited.micros)))
  /-- The stalls add up to more than a duration holds. -/
  | overflow {waited : Duration} {word : UInt32} (hword : ¬ Register.ShowsReply word)
      (hsum : waited.add? policy.stall = none) :
      Polled policy waited [look word, pause policy] (.error .overflow)
  /-- The look was in vain, and there is another round. -/
  | again {waited longer : Duration} {word : UInt32} {events : List Event}
      {outcome : Except Halt (Except Error Unit)} (hword : ¬ Register.ShowsReply word)
      (hsum : waited.add? policy.stall = some longer)
      (hrest : Polled policy longer events outcome) :
      Polled policy waited (look word :: pause policy :: events) outcome

/-- What a wait does when it may look once more, with so many looks left
    behind that one. -/
inductive Round (policy : PollPolicy) (polls : Nat) (waited : Duration) :
    List Event → Except Halt (Except Error Unit) → Prop where
  | unread {cause : BusError} :
      Round policy polls waited [⟨.readRegister Register.interruptStatus, .error cause⟩]
        (.ok (.error (.bus cause)))
  | shown {word : UInt32} (hword : Register.ShowsReply word) :
      Round policy polls waited [look word] (.ok (.ok ()))
  | overdue {word : UInt32} (hword : ¬ Register.ShowsReply word)
      (hdue : policy.overdue waited = true) :
      Round policy polls waited [look word] (.ok (.error (.timeout waited.micros)))
  | overflow {word : UInt32} (hword : ¬ Register.ShowsReply word)
      (hdue : policy.overdue waited = false) (hsum : waited.add? policy.stall = none) :
      Round policy polls waited [look word, pause policy] (.error .overflow)
  | again {longer : Duration} {word : UInt32} {events : List Event}
      {outcome : Except Halt (Except Error Unit)} (hword : ¬ Register.ShowsReply word)
      (hdue : policy.overdue waited = false) (hsum : waited.add? policy.stall = some longer)
      (hrest : (poll policy polls longer).run.Path events outcome) :
      Round policy polls waited (look word :: pause policy :: events) outcome

theorem path_poll_succ (h : (poll policy (polls + 1) waited).run.Path events outcome) :
    Round policy polls waited events outcome := by
  rcases h with ⟨seen, rest, rfl, h⟩
  cases seen with
  | error cause =>
      rcases h with ⟨rfl, rfl⟩
      exact .unread
  | ok word =>
      change Program.Path (ExceptT.run (ite ((FlagSet.truncate word.toBitVec :
        InterruptStatus).contains InterruptStatus.reply = true) _ _)) rest outcome at h
      by_cases hword : Register.ShowsReply word
      · rw [if_pos ((Register.contains_reply_iff word).mpr hword)] at h
        rcases h with ⟨rfl, rfl⟩
        exact .shown hword
      · rw [if_neg (mt (Register.contains_reply_iff word).mp hword)] at h
        by_cases hdue : policy.overdue waited = true
        · rw [if_pos hdue] at h
          rcases h with ⟨rfl, rfl⟩
          exact .overdue hword hdue
        · rw [if_neg hdue] at h
          rcases h with ⟨_, again, rfl, h⟩
          have hearly := Bool.eq_false_iff.mpr hdue
          -- the sum decides whether there is another round
          cases hsum : waited.add? policy.stall with
          | none =>
              rw [hsum] at h
              rcases h with ⟨rfl, rfl⟩
              exact .overflow hword hearly hsum
          | some longer =>
              rw [hsum] at h
              exact .again hword hearly hsum h

/-- Waiting goes by rounds. -/
theorem path_poll (h : (poll policy polls waited).run.Path events outcome) :
    Polled policy waited events outcome := by
  induction polls generalizing waited events with
  | zero =>
      rcases h with ⟨rfl, rfl⟩
      exact .unanswered
  | succ n ih =>
      cases path_poll_succ h with
      | unread => exact .unread
      | shown hword => exact .shown hword
      | overdue hword hdue => exact .overdue hword hdue
      | overflow hword _ hsum => exact .overflow hword hsum
      | again hword _ hsum hrest => exact .again hword hsum (ih hrest)

/-! ## What a round adds -/

theorem stalls_round (word : UInt32) (events : List Event) :
    stalls (look word :: pause policy :: events) = stalls events + 1 := by
  unfold stalls
  rw [List.countP_cons_of_neg Bool.false_ne_true, List.countP_cons_of_pos rfl]

theorem endsInVain_round (word : UInt32) (events : List Event) :
    endsInVain (look word :: pause policy :: events) = endsInVain events := by
  cases events <;> rfl

theorem endsInVain_look {word : UInt32} :
    endsInVain [look word] = true ↔ ¬ Register.ShowsReply word := by
  change (!word.toBitVec.getLsbD 3) = true ↔ ¬ word.toBitVec.getLsbD 3 = true
  rw [Bool.not_eq_true', Bool.not_eq_true]

theorem isReached_of_overdue (h : policy.overdue waited = true) :
    policy.isReached waited.nanos = true := by
  unfold PollPolicy.overdue at h
  unfold PollPolicy.isReached
  cases hlimit : policy.limit? with
  | none =>
      rw [hlimit] at h
      exact absurd h Bool.false_ne_true
  | some limit =>
      rw [hlimit] at h
      exact h

namespace Polled

/-- A wait that failed has a look that failed, or it gave up: its last look was
    in vain, and the stalls had reached the limit. -/
theorem error_cases {failure : Error} (h : Polled policy waited events (.ok (.error failure))) :
    (∃ cause, events.findSome? Event.failure? = some cause ∧ failure = .bus cause) ∨
      (events.findSome? Event.failure? = none ∧ endsInVain events = true ∧
        policy.isReached (waited.nanos + stalls events * policy.stall.nanos) = true ∧
        failure = .timeout
          (UInt64.ofNat ((waited.nanos + stalls events * policy.stall.nanos) / 1000))) := by
  generalize hr : (Except.ok (Except.error failure) : Except Halt (Except Error Unit)) = r at h
  induction h with
  | unanswered | shown _ | overflow _ _ => cases hr
  | @unread _ cause =>
      rw [Except.error.inj (Except.ok.inj hr)]
      exact Or.inl ⟨cause, rfl, rfl⟩
  | @overdue waited word hword hdue =>
      rw [Except.error.inj (Except.ok.inj hr)]
      have hnone : stalls [look word] = 0 := rfl
      rw [hnone, Nat.zero_mul, Nat.add_zero]
      exact Or.inr ⟨rfl, endsInVain_look.mpr hword, isReached_of_overdue hdue, rfl⟩
  | @again waited longer word events _ hword hsum _ ih =>
      -- one stall more behind the wait so far is one stall less to come
      have htotal : waited.nanos +
          stalls (look word :: pause policy :: events) * policy.stall.nanos =
            longer.nanos + stalls events * policy.stall.nanos := by
        rw [stalls_round, Nat.succ_mul, Duration.add?_eq_some_iff.mp hsum]
        omega
      rw [htotal, endsInVain_round]
      exact ih hr

/-- A wait that came to nothing did not give up, and no look of it failed. -/
theorem halted {why : Halt} (h : Polled policy waited events (.error why)) :
    events.findSome? Event.failure? = none ∧ endsInVain events = false := by
  generalize hr : (Except.error why : Except Halt (Except Error Unit)) = r at h
  induction h with
  | unanswered => exact ⟨rfl, rfl⟩
  | overflow _ _ => exact ⟨rfl, rfl⟩
  | unread | shown _ | overdue _ _ => cases hr
  | @again _ _ word events _ _ _ _ ih =>
      rw [endsInVain_round]
      exact ih hr

end Polled

end Queue

end FusionMpt
