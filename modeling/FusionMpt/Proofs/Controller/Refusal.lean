import FusionMpt.Proofs.Controller.Course
import FusionMpt.Proofs.Transfer.Requirement

/-!
# Refused, or Under Way

A packet is either refused or goes to the adapter, and the two do not mix. One
that is refused leaves no trace: the adapter has not been asked for anything,
and packet and controller are what they were, but for the lengths that a
refusal for lack of capacity cuts. One that goes to the adapter has met every
requirement for good. Copying its results back compares the lengths with the
buffers once more, and those complaints cannot be raised: nothing on the way
makes a length grow or a buffer shrink. What can go wrong then is the adapter
and the way to it, and the error is one of three kinds.

The kinds are followed through the engine function by function. Waiting fails
with an access or runs out of time; taking a reply fails with an access or with
a breach of the protocol; so does finishing an admitted packet.

## Main definitions

* `Error.OfAdapter`: The errors of a packet under way.

## Theorems

* `Queue.ofAdapter_of_poll`, `Queue.ofAdapter_of_awaitReply`,
  `Packet.ofAdapter_of_complete`, `Controller.ofAdapter_of_receive`: What each
  step can fail with.
* `Controller.refused_iff_not_met`: A packet is refused for the first
  requirement that it does not meet, and otherwise fails with such an error or
  not at all.
-/

namespace FusionMpt

/-- The adapter or the way to it has failed: an access, the protocol, or the
    wait. -/
def Error.OfAdapter : Error → Prop
  | .bus _ | .device _ | .timeout _ => True
  | .unsupported _ | .invalidParameter _ | .bufferTooSmall .. | .notFound | .bringUp .. => False

theorem Bus.ofAdapter_of_attempt {α : Type} {bus : Bus α} {events : List Event} {failure : Error}
    (h : bus.attempt.run.Path events (.ok (.error failure))) : failure.OfAdapter := by
  unfold attempt at h
  rw [Program.path_adapt_failure] at h
  rcases h with ⟨cause, -, rfl⟩
  exact trivial

namespace Queue

variable {policy : PollPolicy} {polls : Nat} {waited : Duration} {events : List Event}
  {failure : Error}

/-- Waiting fails with an access or runs out of time. -/
theorem ofAdapter_of_poll
    (h : (poll policy polls waited).run.Path events (.ok (.error failure))) :
    failure.OfAdapter := by
  -- A failure is that of a look, or the end of the time, or it is met in a later round.
  induction polls generalizing waited events with
  | zero => exact absurd h.2 (by simp only [reduceCtorEq, not_false_eq_true])
  | succ n ih =>
      unfold poll at h
      rw [Program.path_bind_failure] at h
      rcases h with hlook | ⟨reasons, front, rest, rfl, -, hrest⟩
      · exact Bus.ofAdapter_of_attempt hlook
      · by_cases hreply : reasons.contains InterruptStatus.reply = true
        · rw [if_pos hreply] at hrest
          exact absurd hrest.2 (by simp only [Except.ok.injEq, reduceCtorEq, not_false_eq_true])
        · rw [if_neg hreply] at hrest
          by_cases hdue : policy.overdue waited = true
          · rw [if_pos hdue] at hrest
            rw [Except.error.inj (Except.ok.inj hrest.2)]
            exact trivial
          · rw [if_neg hdue, Program.path_bind_failure] at hrest
            rcases hrest with hstall | ⟨_, pause, again, rfl, -, hagain⟩
            · -- letting time pass does not fail
              rcases hstall with ⟨answer, tail, -, -, hfailure⟩
              exact absurd hfailure
                (by simp only [Except.ok.injEq, reduceCtorEq, not_false_eq_true])
            · cases hsum : waited.add? policy.stall with
              | none =>
                  rw [hsum] at hagain
                  exact absurd hagain.2 (by simp only [reduceCtorEq, not_false_eq_true])
              | some longer =>
                  rw [hsum] at hagain
                  exact ih hagain

theorem ofAdapter_of_taken (h : Taken events (.error failure)) : failure.OfAdapter := by
  cases h with
  | unread | unchecked | desync | unacknowledged => exact trivial

theorem ofAdapter_of_awaitReply
    (h : (awaitReply policy polls).run.Path events (.ok (.error failure))) :
    failure.OfAdapter := by
  cases path_awaitReply h with
  | unanswered hpoll => exact ofAdapter_of_poll hpoll
  | answered _ htake => exact ofAdapter_of_taken htake

end Queue

/-- Finishing an admitted packet fails with an access or with the token. -/
theorem Packet.ofAdapter_of_complete {p q : Packet} (hadmitted : p.Admitted) {region : Region}
    {token : UInt32} {events : List Event} {failure : Error}
    (h : ((complete region token).run p).Path events (.ok (.error failure, q))) :
    failure.OfAdapter := by
  rcases path_complete_performed hadmitted h with ⟨_, result, _, -, -, ho | ho⟩
  · rw [Except.ok.injEq, Prod.mk.injEq] at ho
    cases result with
    | ok value =>
        have hok : (.error failure : Except Error Unit) = .ok value := ho.1
        exact absurd hok (by simp only [reduceCtorEq, not_false_eq_true])
    | error cause =>
        rw [Except.error.inj ho.1]
        exact trivial
  · rw [Except.ok.injEq, Prod.mk.injEq] at ho
    rw [Except.error.inj ho.1]
    exact trivial

namespace Controller

variable {σ : Type} {c : Controller} {polls : Nat} {target : Target} {lun : UInt64} {p q : Packet}
  {request : IoRequest} {events : List Event} {failure : Error}

theorem ofAdapter_of_receive (hadmitted : p.Admitted)
    (h : ((c.receive polls).run p).Path events (.ok (.error failure, q))) :
    failure.OfAdapter := by
  cases path_receive hadmitted h with
  | unanswered hawait => exact Queue.ofAdapter_of_awaitReply hawait
  | answered _ hcomplete => exact Packet.ofAdapter_of_complete hadmitted hcomplete

theorem ofAdapter_of_course (hadmitted : p.Admitted) {served : Served}
    (h : Course c polls p request events (.ok served)) (hfailure : served.outcome = .error failure) :
    failure.OfAdapter := by
  cases h with
  | unplaced _ | unposted _ =>
      rw [← Except.error.inj hfailure]
      exact trivial
  | failed _ hreceive =>
      rw [← Except.error.inj hfailure]
      exact ofAdapter_of_receive hadmitted hreceive
  | finished _ _ => exact absurd hfailure (by simp only [reduceCtorEq, not_false_eq_true])

-- An admitted packet has at least its zeros written, or the attempt is made.
theorem ne_nil_of_course {outcome : Except Halt Served}
    (h : Course c polls p request events outcome) : events ≠ [] := by
  cases h with
  | unplaced hplace =>
      rcases hplace.exists_failed with ⟨front, last, rfl, -, -⟩
      exact List.append_ne_nil_of_right_ne_nil _ (List.cons_ne_nil _ _)
  | unposted _ | halted _ _ | failed _ _ | finished _ _ =>
      exact List.append_ne_nil_of_right_ne_nil _ (List.cons_ne_nil _ _)

/-- A packet is refused for the first requirement that it does not meet. Then
    nothing has been asked of the adapter, the controller is as it was, and the
    packet too unless it is the capacity that is exceeded. A packet that meets
    every requirement goes to the adapter, and if it fails then, it is for the
    adapter or the way to it. -/
theorem refused_iff_not_met (adapter : Adapter σ) (s : σ) (c : Controller) (polls : Nat)
    (target : Target) (lun : UInt64) (p : Packet) :
    (((c.passThrough polls target lun p).run adapter s).trace ≠ [] ↔
      ∀ r : Requirement, r.Met p target lun) ∧
    ((∃ r : Requirement, ¬ r.Met p target lun) →
      ∃ before r after, Requirement.all = before ++ r :: after ∧
        (∀ earlier ∈ before, earlier.Met p target lun) ∧ ¬ r.Met p target lun ∧
        (c.passThrough polls target lun p).run adapter s =
          ⟨[], .ok ⟨.error (r.refusal p), if r = .capacity then p.clamped else p, c⟩, s⟩) ∧
    (((c.passThrough polls target lun p).run adapter s).trace ≠ [] →
      ∀ served failure, ((c.passThrough polls target lun p).run adapter s).outcome = .ok served →
        served.outcome = .error failure → failure.OfAdapter) := by
  have hpath := Program.path_run adapter (c.passThrough polls target lun p) s
  rcases p.check_cases target lun with ⟨hall, hcheck⟩ | ⟨before, r, after, hsplit, hbefore, hr, hcheck⟩
  · -- what is admitted takes one of the courses
    have hadmitted := ((p.check_eq_ok_iff target lun).mp hcheck).1
    have hcourse := path_passThrough hcheck hpath
    refine ⟨⟨fun _ => hall, fun _ => ne_nil_of_course hcourse⟩, fun hexists => ?_, fun _ => ?_⟩
    · rcases hexists with ⟨r, hr⟩
      exact absurd (hall r) hr
    · intro served failure hserved hfailure
      rw [hserved] at hcourse
      exact ofAdapter_of_course hadmitted hcourse hfailure
  · have hrun : (c.passThrough polls target lun p).run adapter s =
        ⟨[], .ok ⟨.error (r.refusal p), if r = .capacity then p.clamped else p, c⟩, s⟩ := by
      rw [passThrough_refused hcheck, Program.run_done, p.refused_refusal]
    have hquiet : ¬ ((c.passThrough polls target lun p).run adapter s).trace ≠ [] := by
      rw [hrun]
      exact not_not_intro rfl
    refine ⟨⟨fun hne => absurd hne hquiet, fun hall => absurd (hall r) hr⟩, fun _ => ?_,
      fun hne => absurd hne hquiet⟩
    exact ⟨before, r, after, hsplit, hbefore, hr, hrun⟩

end Controller

end FusionMpt
