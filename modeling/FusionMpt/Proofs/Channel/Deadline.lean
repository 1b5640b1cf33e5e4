import FusionMpt.Proofs.Channel.Polling
import FusionMpt.Proofs.Channel.Rounds

/-!
# What a Wait Adds Up To

A wait knows the time only as the sum of its stalls. The sum is kept in a
duration, which ends at 2^64 seconds, and it is reported as a 64-bit number of
microseconds, which ends much earlier. Nothing in a policy keeps the sum below
either end. `awaitReply_accounted_iff` says what that comes to.

The sum itself is always right: it is what the stalls of the events add up to,
and the wait ends with an overflow exactly when that is no duration. A wait that
is given up has reached its limit, and it reports the sum modulo 2^64.

Which policies are safe from both ends can be told from the policy. Every stall
is asked for before the limit has been reached (`inTime_stalls`), so with a limit
no wait has more stalls than it takes to fill it. The longest wait is that for an
adapter with nothing to show, and the policy is safe if that one can be reported.
Without a limit that wait goes on until it overflows, so only stalls of no length
are safe.

## Main definitions

* `stalled`: The time that the stalls among some events ask for.
* `Queue.Accounted`: A wait that does not overflow, and reports its stalls.
* `PollPolicy.AddsUp`: The longest wait can be reported.

## Theorems

* `Queue.inTime_stalls`: No stall comes at or after the limit.
* `Queue.Polled.overflow_iff`: When a wait overflows.
* `Queue.run_awaitReply_of_excess`: Rounds in vain that add up to too much.
* `Queue.accounted_of_addsUp`, `Queue.addsUp_of_accounted`: The longest wait
  decides.
* `Queue.awaitReply_accounted_iff`: What is reported, and which policies are
  safe.
-/

namespace FusionMpt

/-- The nanoseconds that an event asks to let pass. -/
def Event.stalled : Event → Nat
  | ⟨.stall time, _⟩ => time.nanos
  | _ => 0

/-- The nanoseconds that the stalls among the events ask for. -/
def stalled (events : List Event) : Nat :=
  (events.map Event.stalled).sum

theorem stalled_append (front rest : List Event) :
    stalled (front ++ rest) = stalled front + stalled rest := by
  unfold stalled
  rw [List.map_append, List.sum_append]

/-- The longest wait of the policy can be reported: without a limit no time is
    waited at all, and with one the stalls that fill it are a 64-bit number of
    microseconds. -/
structure PollPolicy.AddsUp (policy : PollPolicy) : Prop where
  stall_eq : policy.limit? = none → policy.stall = .zero
  longest_lt : ∀ n, policy.patience? = some n → n * policy.stall.nanos / 1000 < UInt64.size

namespace Queue

variable {σ : Type} {adapter : Adapter σ} {policy : PollPolicy} {polls k n : Nat} {s : σ}
  {waited : Duration} {events : List Event} {outcome : Except Halt (Except Error Unit)}

/-- The wait does not overflow. If it is given up it reports exactly the whole
    microseconds of the stalls that were asked for, and these are no fewer than
    those of the limit. -/
structure Accounted (policy : PollPolicy) (events : List Event)
    (outcome : Except Halt (Except Error UInt32)) : Prop where
  not_overflow : outcome ≠ .error .overflow
  report_eq : ∀ micros, outcome = .ok (.error (.timeout micros)) →
    micros.toNat = stalled events / 1000
  limit_le : ∀ micros, outcome = .ok (.error (.timeout micros)) →
    ∀ limit, policy.limit? = some limit → limit.nanos / 1000 ≤ micros.toNat

/-! ## The sum -/

namespace Polled

theorem stalled_eq (h : Polled policy waited events outcome) :
    stalled events = stalls events * policy.stall.nanos := by
  induction h with
  | unanswered | unread | shown _ | overdue _ _ => exact (Nat.zero_mul _).symm
  | @overflow _ word _ _ =>
      change 0 + (policy.stall.nanos + 0) = 1 * policy.stall.nanos
      omega
  | @again _ _ word events _ _ _ _ ih =>
      have hround : stalled (look word :: pause policy :: events) =
          policy.stall.nanos + stalled events := by
        change 0 + (policy.stall.nanos + stalled events) = _
        rw [Nat.zero_add]
      rw [hround, stalls_round, Nat.succ_mul, ih, Nat.add_comm]

/-- A wait overflows exactly when its stalls, with what was waited before, are no
    duration. -/
theorem overflow_iff (h : Polled policy waited events outcome) :
    outcome = .error .overflow ↔ Duration.bound ≤ waited.nanos + stalled events := by
  induction h with
  | @unanswered waited | @unread waited _ | @shown waited _ _ | @overdue waited _ _ _ =>
      -- what was waited is a duration, and nothing is added
      have hnever : ¬ Duration.bound ≤ waited.nanos + 0 := Nat.not_le.mpr waited.nanos_lt
      exact ⟨fun h => (nomatch h), fun h => absurd h hnever⟩
  | @overflow waited word _ hsum =>
      have hsum' : Duration.bound ≤ waited.nanos + policy.stall.nanos :=
        Duration.add?_eq_none_iff.mp hsum
      refine ⟨fun _ => ?_, fun _ => rfl⟩
      change Duration.bound ≤ waited.nanos + (0 + (policy.stall.nanos + 0))
      omega
  | @again waited longer word events _ _ hsum _ ih =>
      have htotal : waited.nanos + stalled (look word :: pause policy :: events) =
          longer.nanos + stalled events := by
        change waited.nanos + (0 + (policy.stall.nanos + stalled events)) = _
        rw [Duration.add?_eq_some_iff.mp hsum]
        omega
      rw [htotal]
      exact ih

end Polled

theorem stalled_rounds (stall : Duration) (status : Nat → Except BusError UInt32) (k : Nat) :
    stalled (rounds stall status k) = k * stall.nanos := by
  induction k generalizing status with
  | zero => exact (Nat.zero_mul _).symm
  | succ k ih =>
      rw [rounds_succ, Nat.succ_mul, ← ih fun i => status (i + 1)]
      change 0 + (stall.nanos + stalled _) = _
      omega

/-! ## The limit -/

theorem lt_of_not_overdue (h : policy.overdue waited = false) {limit : Duration}
    (hlimit : policy.limit? = some limit) : waited.nanos < limit.nanos := by
  unfold PollPolicy.overdue at h
  rw [hlimit] at h
  exact Nat.not_le.mp (of_decide_eq_false h)

/-- No stall is asked for when the limit has been reached. The induction is on the
    looks that are left; a round has its stall before the limit, and the rounds
    behind it have theirs. -/
theorem inTime_stalls (h : (poll policy polls waited).run.Path events outcome) :
    InTime policy waited.nanos (stalls events) := by
  induction polls generalizing waited events with
  | zero =>
      rcases h with ⟨rfl, -⟩
      exact fun _ _ i hi => absurd hi (Nat.not_lt_zero i)
  | succ polls ih =>
      cases path_poll_succ h with
      | unread | shown _ | overdue _ _ => exact fun _ _ i hi => absurd hi (Nat.not_lt_zero i)
      | overflow _ hdue _ =>
          intro limit hlimit i hi
          rw [Nat.lt_one_iff.mp hi, Nat.zero_mul]
          exact lt_of_not_overdue hdue hlimit
      | again _ hdue hsum hrest =>
          intro limit hlimit i hi
          rw [stalls_round] at hi
          cases i with
          | zero =>
              rw [Nat.zero_mul]
              exact lt_of_not_overdue hdue hlimit
          | succ i =>
              have hlater := ih hrest limit hlimit i (Nat.lt_of_succ_lt_succ hi)
              rw [Duration.add?_eq_some_iff.mp hsum] at hlater
              rw [Nat.succ_mul]
              omega

/-! ## Waiting for a reply -/

theorem Taken.stalled_eq {result : Except Error UInt32} (h : Taken events result) :
    stalled events = 0 := by
  cases h <;> rfl

theorem Taken.ne_timeout {result : Except Error UInt32} (h : Taken events result)
    (micros : UInt64) : result ≠ .error (.timeout micros) := by
  cases h <;> exact fun heq => nomatch heq

/-- The wait before a reply is taken, with all the stalls that were asked for. -/
theorem exists_poll_of_awaitReply {outcome : Except Halt (Except Error UInt32)}
    (h : (awaitReply policy polls).run.Path events outcome) :
    ∃ waiting polled, (poll policy polls .zero).run.Path waiting polled ∧
      stalled events = stalled waiting ∧
      (outcome = .error .overflow ↔ polled = .error .overflow) ∧
      ∀ micros, outcome = .ok (.error (.timeout micros)) ↔
        polled = .ok (.error (.timeout micros)) := by
  cases path_awaitReply h with
  | @halted events why hpoll =>
      exact ⟨events, .error why, hpoll, rfl,
        ⟨fun h => congrArg Except.error (Except.error.inj h),
          fun h => congrArg Except.error (Except.error.inj h)⟩,
        fun _ => ⟨fun h => (nomatch h), fun h => (nomatch h)⟩⟩
  | @unanswered events failure hpoll =>
      refine ⟨events, .ok (.error failure), hpoll, rfl,
        ⟨fun h => (nomatch h), fun h => (nomatch h)⟩, fun micros => ?_⟩
      rw [Except.ok.injEq, Except.ok.injEq, Except.error.injEq, Except.error.injEq]
  | @answered waiting taking result hpoll htake =>
      refine ⟨waiting, .ok (.ok ()), hpoll, ?_, ⟨fun h => (nomatch h), fun h => (nomatch h)⟩,
        fun micros => ⟨fun h => ?_, fun h => (nomatch h)⟩⟩
      · rw [stalled_append, htake.stalled_eq, Nat.add_zero]
      · exact absurd (Except.ok.inj h) (htake.ne_timeout micros)

/-- What a wait adds up to: whether it overflows, and what is reported if it is
    given up. -/
theorem sum_of_awaitReply {outcome : Except Halt (Except Error UInt32)}
    (h : (awaitReply policy polls).run.Path events outcome) :
    (outcome = .error .overflow ↔ Duration.bound ≤ stalled events) ∧
    ∀ micros, outcome = .ok (.error (.timeout micros)) →
      micros = UInt64.ofNat (stalled events / 1000) ∧
      ∃ limit, policy.limit? = some limit ∧ limit.nanos ≤ stalled events := by
  rcases exists_poll_of_awaitReply h with ⟨waiting, polled, hpoll, hstalled, hoverflow, htimeout⟩
  have hpolled := path_poll hpoll
  have hzero : Duration.zero.nanos = 0 := rfl
  rw [hstalled, hoverflow]
  refine ⟨?_, fun micros hmicros => ?_⟩
  · rw [hpolled.overflow_iff, hzero, Nat.zero_add]
  · rw [(htimeout micros).mp hmicros] at hpolled
    rcases hpolled.error_cases with ⟨cause, -, h⟩ | ⟨-, -, hreached, h⟩
    · exact nomatch h
    · rw [← hpolled.stalled_eq, hzero, Nat.zero_add] at hreached h
      rcases (Option.any_eq_true_iff_get _ _).mp hreached with ⟨hsome, hle⟩
      exact ⟨Error.timeout.inj h, _, (Option.some_get hsome).symm, of_decide_eq_true hle⟩

/-- A wait is accounted for exactly when its stalls add up to a duration, and, if it
    is given up, to a 64-bit number of microseconds. -/
theorem accounted_iff {outcome : Except Halt (Except Error UInt32)}
    (h : (awaitReply policy polls).run.Path events outcome) :
    Accounted policy events outcome ↔ stalled events < Duration.bound ∧
      ∀ micros, outcome = .ok (.error (.timeout micros)) → stalled events / 1000 < UInt64.size := by
  have hsum := sum_of_awaitReply h
  constructor
  · intro haccounted
    refine ⟨Nat.lt_of_not_le (mt hsum.1.mpr haccounted.not_overflow), fun micros hmicros => ?_⟩
    rw [← haccounted.report_eq micros hmicros]
    exact micros.toNat_lt
  · rintro ⟨hshort, hreported⟩
    have hmicros : ∀ micros, outcome = .ok (.error (.timeout micros)) →
        micros.toNat = stalled events / 1000 := by
      intro micros hmicros
      rw [(hsum.2 micros hmicros).1]
      exact UInt64.toNat_ofNat_of_lt' (hreported micros hmicros)
    refine ⟨mt hsum.1.mp (Nat.not_le.mpr hshort), hmicros, fun micros h limit hlimit => ?_⟩
    rcases (hsum.2 micros h).2 with ⟨limit', hlimit', hle⟩
    rw [hmicros micros h, Option.some.inj (hlimit.symm.trans hlimit')]
    exact Nat.div_le_div_right hle

/-! ## The longest wait -/

-- Of a limit that was admitted, a wait never has more stalls than fill it.
theorem stalls_le_patience (hcheck : policy.check = .ok ()) (hpatience : policy.patience? = some n)
    (h : (poll policy polls .zero).run.Path events outcome) : stalls events ≤ n := by
  rcases Option.map_eq_some_iff.mp hpatience with ⟨limit, hlimit, rfl⟩
  refine Nat.le_of_not_lt fun hlt => ?_
  have hzero : Duration.zero.nanos = 0 := rfl
  have hearly := inTime_stalls h limit hlimit _ hlt
  have hreached := (PollPolicy.patience_le_iff hcheck hlimit _).mp (Nat.le_refl _)
  omega

/-- If the longest wait can be reported, every wait can. -/
theorem accounted_of_addsUp (hcheck : policy.check = .ok ()) (hadds : policy.AddsUp)
    {outcome : Except Halt (Except Error UInt32)}
    (h : (awaitReply policy polls).run.Path events outcome) : Accounted policy events outcome := by
  rcases exists_poll_of_awaitReply h with ⟨waiting, polled, hpoll, hstalled, -, -⟩
  have hbound : UInt64.size * 1000 ≤ Duration.bound := by
    decide
  have hreported : stalled events / 1000 < UInt64.size := by
    rw [hstalled, (path_poll hpoll).stalled_eq]
    cases hlimit : policy.limit? with
    | none =>
        rw [hadds.stall_eq hlimit]
        change stalls waiting * 0 / 1000 < UInt64.size
        rw [Nat.mul_zero]
        decide
    | some limit =>
        have hpatience : policy.patience? = some (limit.nanos ⌈/⌉ policy.stall.nanos) :=
          congrArg _ hlimit
        refine Nat.lt_of_le_of_lt (Nat.div_le_div_right ?_) (hadds.longest_lt _ hpatience)
        exact Nat.mul_le_mul_right _ (stalls_le_patience hcheck hpatience hpoll)
  exact (accounted_iff h).mpr ⟨by omega, fun _ _ => hreported⟩

/-- Rounds in vain and in time that ask for more than a duration holds. -/
theorem run_poll_of_excess (hvain : ∀ i < k, ¬ Ends (statusAt adapter policy.stall s i))
    (htime : InTime policy waited.nanos k)
    (hsum : Duration.bound ≤ waited.nanos + k * policy.stall.nanos) (hpolls : k ≤ polls) :
    ∃ events last, (poll policy polls waited).run.run adapter s =
      ⟨events, .error .overflow, last⟩ := by
  induction k generalizing polls s waited with
  | zero =>
      -- a wait that a duration holds is no overflow yet
      have hlt := waited.nanos_lt
      omega
  | succ k ih =>
      rw [Nat.succ_mul] at hsum
      rcases Nat.exists_eq_add_of_le' (Nat.le_trans (Nat.succ_le_succ (Nat.zero_le k)) hpolls) with
        ⟨polls, rfl⟩
      have hfirst : ¬ Ends (adapter.answer (.readRegister Register.interruptStatus) s).1 :=
        hvain 0 (Nat.succ_pos k)
      rcases exists_word_of_not_ends hfirst with ⟨word, hlook, hword⟩
      rw [run_poll_succ hlook hword (not_overdue_of_inTime htime)]
      cases hlonger : waited.add? policy.stall with
      | none => exact ⟨_, _, rfl⟩
      | some longer =>
          have hsome := Duration.add?_eq_some_iff.mp hlonger
          rcases ih (fun i hi => hvain (i + 1) (Nat.succ_lt_succ hi)) (htime.later hsome)
            (by rw [hsome]; omega) (Nat.le_of_succ_le_succ hpolls) with ⟨events, last, hrun⟩
          simp only [hrun]
          exact ⟨_, last, rfl⟩

theorem run_awaitReply_of_excess (hvain : ∀ i < k, ¬ Ends (statusAt adapter policy.stall s i))
    (htime : InTime policy 0 k) (hsum : Duration.bound ≤ k * policy.stall.nanos)
    (hpolls : k ≤ polls) :
    ∃ events last, (awaitReply policy polls).run.run adapter s =
      ⟨events, .error .overflow, last⟩ := by
  have hzero : Duration.zero.nanos = 0 := rfl
  have hstart : InTime policy Duration.zero.nanos k := htime
  rcases run_poll_of_excess hvain hstart (by rw [hzero]; omega) hpolls with ⟨events, last, hrun⟩
  refine ⟨events, last, ?_⟩
  unfold awaitReply
  rw [ExceptT.run_bind, Program.run_bind_halt hrun]

-- The looks before the one that shows a reply are in vain.
theorem vain_of_shows {s' : σ} (h : Shows adapter policy.stall k s s') :
    ∀ i < k, ¬ Ends (statusAt adapter policy.stall s i) := by
  induction h with
  | now _ _ => exact fun i hi => absurd hi (Nat.not_lt_zero i)
  | @later k s seen s' word hlook hword hrest ih =>
      intro i hi
      cases i with
      | zero =>
          have hfirst : statusAt adapter policy.stall s 0 = .ok word := congrArg Prod.fst hlook
          rw [hfirst]
          exact hword
      | succ i =>
          have hnext := ih i (Nat.lt_of_succ_lt_succ hi)
          have hstep : statusAt adapter policy.stall s (i + 1) =
              statusAt adapter policy.stall (adapter.answer (.stall policy.stall) seen).2 i := by
            change statusAt adapter policy.stall (adapter.answer (.stall policy.stall)
              (adapter.answer (.readRegister Register.interruptStatus) s).2).2 i = _
            rw [hlook]
          rw [hstep]
          exact hnext

/-- An adapter that would answer is not waited for if the stalls before its answer
    are no duration. -/
theorem run_awaitReply_of_overflow {s' : σ} (h : Answers adapter policy.stall k s s')
    (hpolls : k < polls) (htime : InTime policy 0 k)
    (hsum : Duration.bound ≤ k * policy.stall.nanos) :
    ∃ events last, (awaitReply policy polls).run.run adapter s =
      ⟨events, .error .overflow, last⟩ := by
  -- the queue and the acknowledgement are never reached
  rcases h with ⟨shown, first, second, hshows, -⟩
  exact run_awaitReply_of_excess (vain_of_shows hshows) htime hsum (Nat.le_of_lt hpolls)

-- A script with nothing prepared never has a reply to show.
theorem statusAt_showing_nil (stall : Duration) (k : Nat) :
    statusAt compliant stall (showing []) k = .ok 0 := by
  have hlooked : looked compliant stall k (showing []) = showing [] := by
    induction k with
    | zero => rfl
    | succ k ih => exact ih
  unfold statusAt
  rw [hlooked]
  rfl

/-- If every wait can be reported, the one for an adapter with nothing to show
    can. -/
theorem addsUp_of_accounted (hcheck : policy.check = .ok ())
    (h : ∀ polls, Accounted policy ((awaitReply policy polls).run.run compliant (showing [])).trace
      ((awaitReply policy polls).run.run compliant (showing [])).outcome) : policy.AddsUp := by
  have hvain : ∀ i, ¬ Ends (statusAt compliant policy.stall (showing []) i) := by
    intro i
    rw [statusAt_showing_nil]
    decide
  constructor
  · intro hlimit
    refine Duration.ext (Nat.eq_zero_of_not_pos fun hpos => ?_)
    -- one nanosecond after the other, the longest duration is passed at last
    rcases run_awaitReply_of_excess (fun i _ => hvain i) (inTime_of_no_limit hlimit)
      (Nat.le_mul_of_pos_right _ hpos) (Nat.le_refl Duration.bound) with ⟨events, last, hrun⟩
    exact (h Duration.bound).not_overflow (congrArg Run.outcome hrun)
  · intro n hpatience
    have htime : InTime policy 0 n := PollPolicy.inTime_of_le_patience hcheck fun m hm =>
      Nat.le_of_eq (Option.some.inj (hpatience.symm.trans hm))
    have hfits : n * policy.stall.nanos < Duration.bound := by
      refine Nat.lt_of_not_le fun hsum => ?_
      rcases run_awaitReply_of_excess (fun i _ => hvain i) htime hsum (Nat.le_refl n) with
        ⟨events, last, hrun⟩
      exact (h n).not_overflow (congrArg Run.outcome hrun)
    rcases (awaitReply_of_statuses hcheck compliant (showing []) (n + 1)).2 n hpatience
      (fun i _ => hvain i) hfits (Nat.lt_succ_self n) with ⟨htrace, houtcome⟩
    have hreport := (h (n + 1)).report_eq _ houtcome
    have hstalled : stalled ((awaitReply policy (n + 1)).run.run compliant (showing [])).trace =
        n * policy.stall.nanos := by
      rw [htrace, stalled_append, stalled_rounds]
      exact Nat.add_zero _
    rw [← hstalled, ← hreport]
    exact UInt64.toNat_lt _

/-- For every admitted policy and every adapter, waiting overflows exactly when the
    stalls that were asked for are no duration. If it is given up, the stalls have
    reached the limit, and what is reported is their whole microseconds modulo
    2^64. So a wait is accounted for exactly when they are a duration, and a 64-bit
    number of microseconds if it is given up; and every wait by the policy is
    accounted for exactly when the longest one can be reported. -/
theorem awaitReply_accounted_iff (hcheck : policy.check = .ok ()) :
    (∀ (σ : Type) (adapter : Adapter σ) (s : σ) (polls : Nat),
      let run := (awaitReply policy polls).run.run adapter s
      (run.outcome = .error .overflow ↔ Duration.bound ≤ stalled run.trace) ∧
      (∀ micros, run.outcome = .ok (.error (.timeout micros)) →
        micros = UInt64.ofNat (stalled run.trace / 1000) ∧
        ∃ limit, policy.limit? = some limit ∧ limit.nanos ≤ stalled run.trace) ∧
      (Accounted policy run.trace run.outcome ↔ stalled run.trace < Duration.bound ∧
        ∀ micros, run.outcome = .ok (.error (.timeout micros)) →
          stalled run.trace / 1000 < UInt64.size)) ∧
    ((∀ (σ : Type) (adapter : Adapter σ) (s : σ) (polls : Nat),
      let run := (awaitReply policy polls).run.run adapter s
      Accounted policy run.trace run.outcome) ↔ policy.AddsUp) := by
  have hpath : ∀ (σ : Type) (adapter : Adapter σ) (s : σ) (polls : Nat),
      (awaitReply policy polls).run.Path ((awaitReply policy polls).run.run adapter s).trace
        ((awaitReply policy polls).run.run adapter s).outcome :=
    fun _ adapter s polls => Program.path_run adapter (awaitReply policy polls).run s
  constructor
  · intro σ adapter s polls
    have hsum := sum_of_awaitReply (hpath σ adapter s polls)
    exact ⟨hsum.1, hsum.2, accounted_iff (hpath σ adapter s polls)⟩
  · constructor
    · intro h
      exact addsUp_of_accounted hcheck fun polls => h Script compliant (showing []) polls
    · intro hadds σ adapter s polls
      exact accounted_of_addsUp hcheck hadds (hpath σ adapter s polls)

-- Whatever the adapter, a wait by the brief policy is given up in the end after no
-- more than 40 microseconds.
theorem awaitReply_accounted_iff_of_brief :
    briefPolicy.check = .ok () ∧ briefPolicy.AddsUp ∧
    Accounted briefPolicy ((awaitReply briefPolicy 9).run.run compliant (showing [0, 1])).trace
      ((awaitReply briefPolicy 9).run.run compliant (showing [0, 1])).outcome := by
  have hcheck : briefPolicy.check = .ok () := by
    decide
  have hpatience : briefPolicy.patience? = some 4 := by
    decide
  have hadds : briefPolicy.AddsUp := by
    refine ⟨fun h => absurd h (by decide), fun n hn => ?_⟩
    rw [← Option.some.inj (hpatience.symm.trans hn)]
    decide
  exact ⟨hcheck, hadds, (awaitReply_accounted_iff hcheck).2.mpr hadds Script compliant _ 9⟩

/-- A policy without a limit that stalls for half the longest duration. -/
def halvingPolicy : PollPolicy :=
  ⟨⟨9223372036854775808 * 1000000000, by decide⟩, none⟩

/-- A policy with a limit of a microsecond, and with a stall of slightly more than
    2^64 microseconds. -/
def roundingPolicy : PollPolicy :=
  ⟨⟨18446744073710 * 1000000000, by decide⟩, some (.ofMicros 1)⟩

/-- Two policies are admitted whose waits are not accounted for. One overflows
    although the third look would see the reply. The other is given up after one
    stall, and reports some 448 milliseconds of more than half a million years. -/
theorem admitted_and_unaccounted :
    (halvingPolicy.check = .ok () ∧
      ((awaitReply halvingPolicy 3).run.run compliant (showing [0, 0, 8])).outcome =
        .error .overflow ∧
      statusAt compliant halvingPolicy.stall (showing [0, 0, 8]) 2 = .ok 8) ∧
    (roundingPolicy.check = .ok () ∧
      ((awaitReply roundingPolicy 2).run.run compliant (showing [])).outcome =
        .ok (.error (.timeout 448384)) ∧
      stalled ((awaitReply roundingPolicy 2).run.run compliant (showing [])).trace / 1000 =
        18446744073710000000) := by
  have hexcess : ∃ events last, (awaitReply halvingPolicy 3).run.run compliant
      (showing [0, 0, 8]) = ⟨events, .error .overflow, last⟩ :=
    run_awaitReply_of_excess (k := 2) (by decide) (inTime_of_no_limit rfl) (by decide) (by decide)
  refine ⟨⟨rfl, ?_, by decide⟩, rfl, ?_, ?_⟩
  · rcases hexcess with ⟨events, last, hrun⟩
    exact congrArg Run.outcome hrun
  · rfl
  · rfl

end Queue

end FusionMpt
