import FusionMpt.Platform.Script
import FusionMpt.Proofs.Channel.Waiting
import Mathlib.Algebra.Order.Floor.Div

/-!
# Waiting, Round by Round

How long a wait goes on is decided by what the interrupt status reads as, time
after time, and by the policy. Let the adapter be looked at again and again with
a stall after each look, and `statusAt` is what the looks are answered. Some
look is the first that fails or sees a reply; up to it each look is in vain and
followed by a stall.

A limit cuts this short. Of a limit and a stall that admission of the policy has
passed, the limit is reached after so many stalls as it takes to fill it, which
is the quotient of the two rounded up. The look behind the last of those stalls
still counts: a reply that it sees is taken. If it is in vain too the wait is
given up, and all that was done is these looks and stalls.

The proof takes the rounds in vain together, as one stretch of the run
(`run_poll_rounds`), and then the look that ends it. Whether a round is in time
is a matter of its number, since the wait before the look after `k` rounds is
`k` stalls.

## Main definitions

* `PollPolicy.patience?`: How many stalls fill the limit.
* `Queue.statusAt`: What the looks are answered, one after the other.
* `Queue.Ends`: An answer that ends the wait.
* `Queue.rounds`: The events of some rounds in vain.
* `Queue.Concluded`: What follows the look that ends the wait.

## Theorems

* `PollPolicy.inTime_of_le_patience`, `PollPolicy.overdue_of_patience`: The limit
  in rounds.
* `Queue.run_poll_rounds`: Some rounds in vain, and the wait that is left.
* `Queue.run_poll_of_ends`, `Queue.run_poll_of_timeout`: The two ways in which
  that goes on.
* `Queue.awaitReply_of_statuses`: What waiting for a reply comes to.
-/

namespace FusionMpt

instance : DecidablePred Register.ShowsReply := fun word =>
  inferInstanceAs (Decidable (word.toBitVec.getLsbD 3 = true))

namespace PollPolicy

variable {policy : PollPolicy} {n : Nat}

/-- How many stalls it takes to reach the limit, if there is one. -/
def patience? (policy : PollPolicy) : Option Nat :=
  policy.limit?.map fun limit => limit.nanos ⌈/⌉ policy.stall.nanos

theorem stall_pos (hcheck : policy.check = .ok ()) {limit : Duration}
    (hlimit : policy.limit? = some limit) : 0 < policy.stall.nanos := by
  refine Nat.pos_of_ne_zero fun hzero => ?_
  have hrefused : policy.limit?.isSome ∧ policy.stall = .zero :=
    ⟨by rw [hlimit]; rfl, Duration.ext hzero⟩
  unfold check at hcheck
  rw [if_pos hrefused] at hcheck
  exact absurd hcheck (by simp only [reduceCtorEq, not_false_eq_true])

/-- So many stalls reach the limit, and no fewer do. -/
theorem patience_le_iff (hcheck : policy.check = .ok ()) {limit : Duration}
    (hlimit : policy.limit? = some limit) (k : Nat) :
    limit.nanos ⌈/⌉ policy.stall.nanos ≤ k ↔ limit.nanos ≤ k * policy.stall.nanos := by
  rw [ceilDiv_le_iff_le_mul (stall_pos hcheck hlimit), Nat.mul_comm]

theorem inTime_of_le_patience (hcheck : policy.check = .ok ()) {k : Nat}
    (h : ∀ n, policy.patience? = some n → k ≤ n) : Queue.InTime policy 0 k := by
  intro limit hlimit i hi
  have hk : k ≤ limit.nanos ⌈/⌉ policy.stall.nanos := h _ (congrArg _ hlimit)
  rw [Nat.zero_add, ← Nat.not_le, ← patience_le_iff hcheck hlimit i]
  omega

theorem overdue_of_patience (hcheck : policy.check = .ok ()) (h : policy.patience? = some n)
    {waited : Duration} (hwaited : waited.nanos = n * policy.stall.nanos) :
    policy.overdue waited = true := by
  unfold patience? at h
  unfold overdue
  cases hlimit : policy.limit? with
  | none =>
      rw [hlimit] at h
      exact absurd h (by simp only [Option.map_none, reduceCtorEq, not_false_eq_true])
  | some limit =>
      rw [hlimit] at h
      refine decide_eq_true ?_
      change limit.nanos ≤ waited.nanos
      rw [hwaited, ← patience_le_iff hcheck hlimit]
      exact Nat.le_of_eq (Option.some.inj h)

end PollPolicy

namespace Queue

variable {σ : Type} {adapter : Adapter σ} {policy : PollPolicy} {polls k n : Nat} {s s' : σ}
  {waited : Duration}

/-- The adapter after some looks, each with a stall behind it. -/
def looked (adapter : Adapter σ) (stall : Duration) : Nat → σ → σ
  | 0, s => s
  | k + 1, s =>
    looked adapter stall k
      (adapter.answer (.stall stall)
        (adapter.answer (.readRegister Register.interruptStatus) s).2).2

/-- What the look behind `k` looks and stalls is answered. -/
def statusAt (adapter : Adapter σ) (stall : Duration) (s : σ) (k : Nat) : Except BusError UInt32 :=
  (adapter.answer (.readRegister Register.interruptStatus) (looked adapter stall k s)).1

/-- A look with this answer ends the wait: it failed, or it saw a reply. -/
def Ends : Except BusError UInt32 → Prop
  | .error _ => True
  | .ok word => Register.ShowsReply word

instance : DecidablePred Ends
  | .error _ => .isTrue trivial
  | .ok word => inferInstanceAs (Decidable (Register.ShowsReply word))

/-- The event of a look with this answer. -/
def lookAt (status : Except BusError UInt32) : Event :=
  ⟨.readRegister Register.interruptStatus, status⟩

/-- The events of `k` rounds: each a look, and a stall behind it. -/
def rounds (stall : Duration) (status : Nat → Except BusError UInt32) (k : Nat) : List Event :=
  (List.range k).flatMap fun i => [lookAt (status i), ⟨.stall stall, ()⟩]

/-- What follows a look that ended the wait. If it failed nothing does; if it saw
    a reply, the reply is taken. -/
def Concluded : Except BusError UInt32 → List Event → Except Error UInt32 → Prop
  | .error cause, events, result => events = [] ∧ result = .error (.bus cause)
  | .ok _, events, result => Taken events result

-- A look in vain was answered, and by a word without the bit.
theorem exists_word_of_not_ends
    (h : ¬ Ends (adapter.answer (.readRegister Register.interruptStatus) s).1) :
    ∃ word, adapter.answer (.readRegister Register.interruptStatus) s =
        (.ok word, (adapter.answer (.readRegister Register.interruptStatus) s).2) ∧
      ¬ Register.ShowsReply word := by
  generalize adapter.answer (.readRegister Register.interruptStatus) s = answered at h ⊢
  rcases answered with ⟨cause | word, seen⟩
  · exact absurd trivial h
  · exact ⟨word, rfl, h⟩

theorem rounds_succ (stall : Duration) (status : Nat → Except BusError UInt32) (k : Nat) :
    rounds stall status (k + 1) =
      lookAt (status 0) :: ⟨.stall stall, ()⟩ :: rounds stall (fun i => status (i + 1)) k := by
  unfold rounds
  rw [List.range_succ_eq_map, List.flatMap_cons, List.flatMap_map]
  rfl

/-- Some rounds in vain and in time, and then the wait that is left. -/
theorem run_poll_rounds (polls : Nat) (waited : Duration)
    (hvain : ∀ i < k, ¬ Ends (statusAt adapter policy.stall s i))
    (htime : InTime policy waited.nanos k)
    (hsum : waited.nanos + k * policy.stall.nanos < Duration.bound) :
    ∃ longer : Duration, longer.nanos = waited.nanos + k * policy.stall.nanos ∧
      (poll policy (polls + k) waited).run.run adapter s =
        ((poll policy polls longer).run.run adapter (looked adapter policy.stall k s)).behind
          (rounds policy.stall (statusAt adapter policy.stall s) k) := by
  -- the statuses of the rest are those from where the first round left the adapter
  induction k generalizing s waited with
  | zero => exact ⟨waited, by rw [Nat.zero_mul, Nat.add_zero], rfl⟩
  | succ k ih =>
      rw [Nat.succ_mul] at hsum ⊢
      have hfirst : ¬ Ends (adapter.answer (.readRegister Register.interruptStatus) s).1 :=
        hvain 0 (Nat.succ_pos k)
      rcases exists_word_of_not_ends hfirst with ⟨word, hlook, hword⟩
      have hstatus : statusAt adapter policy.stall s 0 = .ok word := congrArg Prod.fst hlook
      have hlater : ∀ i < k, ¬ Ends (statusAt adapter policy.stall
          (adapter.answer (.stall policy.stall)
            (adapter.answer (.readRegister Register.interruptStatus) s).2).2 i) :=
        fun i hi => hvain (i + 1) (Nat.succ_lt_succ hi)
      have hround : (poll policy (polls + k + 1) waited).run.run adapter s = _ :=
        run_poll_succ hlook hword (not_overdue_of_inTime htime)
      rw [rounds_succ, hstatus]
      cases hlonger : waited.add? policy.stall with
      | none =>
          rw [Duration.add?_eq_none_iff] at hlonger
          omega
      | some longer =>
          have hsome := Duration.add?_eq_some_iff.mp hlonger
          rcases ih longer hlater (htime.later hsome) (by omega) with ⟨longest, hlongest, hrun⟩
          refine ⟨longest, by omega, hround.trans ?_⟩
          simp only [hlonger, hrun]
          rfl

/-! ## The look that ends it -/

theorem run_interruptReasons_failure {cause : BusError}
    (h : adapter.answer (.readRegister Register.interruptStatus) s = (.error cause, s')) :
    Register.interruptReasons.attempt.run.run adapter s =
      ⟨[lookAt (.error cause)], .ok (.error (.bus cause)), s'⟩ :=
  Program.run_adapt_failure (Program.run_bind_failure (Bus.run_readRegister_failure h))

-- A look that ends the wait does so however long the wait was.
theorem run_poll_look (hends : Ends (adapter.answer (.readRegister Register.interruptStatus) s).1) :
    (poll policy (polls + 1) waited).run.run adapter s =
      ⟨[lookAt (adapter.answer (.readRegister Register.interruptStatus) s).1],
        .ok (((adapter.answer (.readRegister Register.interruptStatus) s).1.mapError Error.bus).map
          fun _ => ()),
        (adapter.answer (.readRegister Register.interruptStatus) s).2⟩ := by
  generalize hlook : adapter.answer (.readRegister Register.interruptStatus) s = answered at hends ⊢
  rcases answered with ⟨status, seen⟩
  unfold poll
  cases status with
  | error cause => exact Program.run_bind_failure (run_interruptReasons_failure hlook)
  | ok word =>
      rw [Program.run_bind_value (run_interruptReasons hlook),
        if_pos ((Register.contains_reply_iff word).mpr hends)]
      rfl

-- A look in vain ends it when the limit has been reached.
theorem run_poll_overdue
    (hvain : ¬ Ends (adapter.answer (.readRegister Register.interruptStatus) s).1)
    (hdue : policy.overdue waited = true) :
    (poll policy (polls + 1) waited).run.run adapter s =
      ⟨[lookAt (adapter.answer (.readRegister Register.interruptStatus) s).1],
        .ok (.error (.timeout waited.micros)),
        (adapter.answer (.readRegister Register.interruptStatus) s).2⟩ := by
  rcases exists_word_of_not_ends hvain with ⟨word, hlook, hword⟩
  unfold poll
  rw [Program.run_bind_value (run_interruptReasons hlook),
    if_neg (mt (Register.contains_reply_iff word).mp hword), if_pos hdue, hlook]
  rfl

/-- The first look that ends the wait, if no limit comes before it. -/
theorem run_poll_of_ends (hvain : ∀ i < k, ¬ Ends (statusAt adapter policy.stall s i))
    (hends : Ends (statusAt adapter policy.stall s k)) (htime : InTime policy 0 k)
    (hsum : k * policy.stall.nanos < Duration.bound) (hpolls : k < polls) :
    ∃ seen, (poll policy polls .zero).run.run adapter s =
      ⟨rounds policy.stall (statusAt adapter policy.stall s) k ++
          [lookAt (statusAt adapter policy.stall s k)],
        .ok (((statusAt adapter policy.stall s k).mapError Error.bus).map fun _ => ()), seen⟩ := by
  rcases Nat.exists_eq_add_of_lt hpolls with ⟨more, rfl⟩
  rcases run_poll_rounds (more + 1) .zero hvain htime ((Nat.zero_add _).trans_lt hsum) with
    ⟨longer, -, hrun⟩
  have hcount : k + more + 1 = more + 1 + k := by
    omega
  rw [hcount, hrun, run_poll_look hends]
  exact ⟨_, rfl⟩

/-- No look up to the one behind the last stall that the limit allows ends the
    wait. -/
theorem run_poll_of_timeout (hcheck : policy.check = .ok ()) (hpatience : policy.patience? = some n)
    (hvain : ∀ i ≤ n, ¬ Ends (statusAt adapter policy.stall s i))
    (hsum : n * policy.stall.nanos < Duration.bound) (hpolls : n < polls) :
    ∃ seen, (poll policy polls .zero).run.run adapter s =
      ⟨rounds policy.stall (statusAt adapter policy.stall s) n ++
          [lookAt (statusAt adapter policy.stall s n)],
        .ok (.error (.timeout (UInt64.ofNat (n * policy.stall.nanos / 1000)))), seen⟩ := by
  have htime : InTime policy 0 n := PollPolicy.inTime_of_le_patience hcheck fun m hm =>
    Nat.le_of_eq (Option.some.inj (hpatience.symm.trans hm))
  rcases Nat.exists_eq_add_of_lt hpolls with ⟨more, rfl⟩
  rcases run_poll_rounds (more + 1) .zero (fun i hi => hvain i (Nat.le_of_lt hi))
    htime ((Nat.zero_add _).trans_lt hsum) with ⟨longer, hlonger, hrun⟩
  have hcount : n + more + 1 = more + 1 + n := by
    omega
  have hwaited : longer.nanos = n * policy.stall.nanos := hlonger.trans (Nat.zero_add _)
  rw [hcount, hrun, run_poll_overdue (hvain n (Nat.le_refl n))
    (PollPolicy.overdue_of_patience hcheck hpatience hwaited)]
  unfold Duration.micros
  rw [hwaited]
  exact ⟨_, rfl⟩

theorem run_awaitReply_of_ends (hvain : ∀ i < k, ¬ Ends (statusAt adapter policy.stall s i))
    (hends : Ends (statusAt adapter policy.stall s k)) (htime : InTime policy 0 k)
    (hsum : k * policy.stall.nanos < Duration.bound) (hpolls : k < polls) :
    ∃ rest result,
      ((awaitReply policy polls).run.run adapter s).trace =
        rounds policy.stall (statusAt adapter policy.stall s) k ++
          lookAt (statusAt adapter policy.stall s k) :: rest ∧
      ((awaitReply policy polls).run.run adapter s).outcome = .ok result ∧
      Concluded (statusAt adapter policy.stall s k) rest result := by
  rcases run_poll_of_ends hvain hends htime hsum hpolls with ⟨seen, hpoll⟩
  unfold awaitReply
  cases hstatus : statusAt adapter policy.stall s k with
  | error cause =>
      rw [hstatus] at hpoll
      rw [Program.run_bind_failure hpoll]
      exact ⟨[], .error (.bus cause), rfl, rfl, rfl, rfl⟩
  | ok word =>
      rw [hstatus] at hpoll
      rcases path_take (Program.path_run adapter take.run seen) with ⟨result, htake, htaken⟩
      rw [Program.run_bind_value hpoll]
      refine ⟨(take.run.run adapter seen).trace, result, ?_, htake, htaken⟩
      change (_ ++ [_]) ++ _ = _
      rw [List.append_assoc]
      rfl

/-- What waiting for a reply comes to, when the policy has been admitted and the
    stalls add up to a duration. Either some look ends it before the limit does,
    and then the reply is taken if there is one; or none does up to the look behind
    the last stall, and then the wait is given up and nothing else was done. -/
theorem awaitReply_of_statuses (hcheck : policy.check = .ok ()) (adapter : Adapter σ) (s : σ)
    (polls : Nat) :
    (∀ k, (∀ i < k, ¬ Ends (statusAt adapter policy.stall s i)) →
      Ends (statusAt adapter policy.stall s k) → (∀ n, policy.patience? = some n → k ≤ n) →
      k * policy.stall.nanos < Duration.bound → k < polls →
      ∃ rest result,
        ((awaitReply policy polls).run.run adapter s).trace =
          rounds policy.stall (statusAt adapter policy.stall s) k ++
            lookAt (statusAt adapter policy.stall s k) :: rest ∧
        ((awaitReply policy polls).run.run adapter s).outcome = .ok result ∧
        Concluded (statusAt adapter policy.stall s k) rest result) ∧
    ∀ n, policy.patience? = some n → (∀ i ≤ n, ¬ Ends (statusAt adapter policy.stall s i)) →
      n * policy.stall.nanos < Duration.bound → n < polls →
      ((awaitReply policy polls).run.run adapter s).trace =
        rounds policy.stall (statusAt adapter policy.stall s) n ++
          [lookAt (statusAt adapter policy.stall s n)] ∧
      ((awaitReply policy polls).run.run adapter s).outcome =
        .ok (.error (.timeout (UInt64.ofNat (n * policy.stall.nanos / 1000)))) := by
  constructor
  · intro k hvain hends hpatience hsum hpolls
    exact run_awaitReply_of_ends hvain hends
      (PollPolicy.inTime_of_le_patience hcheck hpatience) hsum hpolls
  · intro n hpatience hvain hsum hpolls
    rcases run_poll_of_timeout hcheck hpatience hvain hsum hpolls with ⟨seen, hpoll⟩
    unfold awaitReply
    rw [Program.run_bind_failure hpoll]
    exact ⟨rfl, rfl⟩

/-- A policy that gives up after 35 microseconds, looking every 10. -/
def briefPolicy : PollPolicy :=
  ⟨.ofMicros 10, some (.ofMicros 35)⟩

/-- The adapter that plays a script without rules. -/
def compliant : Adapter Script :=
  ⟨fun access script => script.serve access⟩

/-- A script whose interrupt status reads as these words, and then as zero. -/
def showing (statuses : List UInt32) : Script :=
  { memory := .zeroed 0 0, queue := Script.replace (fun _ => []) Register.interruptStatus statuses }

-- The fifth look is the last that counts, and a reply that it sees is taken. The
-- bits besides the one of the reply queue are not minded. An adapter that has
-- nothing to show is waited for 40 microseconds.
theorem awaitReply_of_statuses_at_the_limit :
    (∃ rest result,
      ((awaitReply briefPolicy 9).run.run compliant (showing [0, 1, 0, 6, 0xc])).trace =
        rounds briefPolicy.stall
          (statusAt compliant briefPolicy.stall (showing [0, 1, 0, 6, 0xc])) 4 ++
            lookAt (.ok 0xc) :: rest ∧
      ((awaitReply briefPolicy 9).run.run compliant (showing [0, 1, 0, 6, 0xc])).outcome =
        .ok result ∧ Taken rest result) ∧
    ((awaitReply briefPolicy 9).run.run compliant (showing [])).outcome =
      .ok (.error (.timeout 40)) := by
  have hcheck : briefPolicy.check = .ok () := by
    decide
  have hpatience : briefPolicy.patience? = some 4 := by
    decide
  have hfour : ∀ n, briefPolicy.patience? = some n → 4 ≤ n := fun n hn =>
    Nat.le_of_eq (Option.some.inj (hpatience.symm.trans hn))
  constructor
  · exact (awaitReply_of_statuses hcheck compliant (showing [0, 1, 0, 6, 0xc]) 9).1 4
      (by decide) (by decide) hfour (by decide) (by decide)
  · exact ((awaitReply_of_statuses hcheck compliant (showing []) 9).2 4 hpatience (by decide)
      (by decide) (by decide)).2

end Queue

end FusionMpt
