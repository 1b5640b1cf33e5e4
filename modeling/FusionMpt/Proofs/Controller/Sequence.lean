import FusionMpt.Controller.Basic
import FusionMpt.Proofs.Platform.StraightLine

/-!
# The Steps of a Bring-Up

Bringing an adapter up is a straight line of 22 accesses, divided into steps
that have names. The first access that fails ends it, and the error names the
step and passes the reason on. So whether the line was walked to its end can be
told from the outcome, and where it was left can be told from the error.

The line for an adapter is its `plan`. A plan says of each access which step it
belongs to, and `Attempt.Follows` says of an attempt that its paths are those of
a plan: all of it, or as far as an access that failed.

The adapter's answer is what was read from the doorbell on the way, ten values
of which the lower halves count.

## Main definitions

* `Stepped`: The events of a plan, and how it ends.
* `Attempt.Follows`: An attempt whose paths are those of a plan.
* `BringUp.quietPlan`, `BringUp.plan`: The plans of quieting an adapter and of
  bringing it up.
* `BringUp.drained`: What an adapter has answered, by the events.

## Theorems

* `Stepped.exists_failed`, `Stepped.mem`: A plan that was left has an access
  that failed, and no other accesses than those of the plan are made.
* `Attempt.follows_bind`, `Attempt.follows_during`: The plans of a sequence and
  of a step.
* `BringUp.follows_quiesce`, `BringUp.follows_sequence`: The engine follows the
  plans.
* `BringUp.path_sequence_reply`: The answer is what was drained.
-/

namespace FusionMpt

/-- The events of a plan: of all of it, or up to the first access that failed,
    whose step is in the error. -/
inductive Stepped : List (BringUpStep × Access) → List Event → Except Error Unit → Prop where
  | finished {plan : List (BringUpStep × Access)} {events : List Event}
      (hall : Performed (plan.map Prod.snd) events (.ok ())) : Stepped plan events (.ok ())
  | stopped {before after : List (BringUpStep × Access)} {step : BringUpStep} {access : Access}
      {front : List Event} {answer : access.Answer} {cause : BusError}
      (hbefore : Performed (before.map Prod.snd) front (.ok ()))
      (hfail : access.failure? answer = some cause) :
      Stepped (before ++ (step, access) :: after) (front ++ [⟨access, answer⟩])
        (.error (.bringUp step cause))

namespace Stepped

variable {first second plan : List (BringUpStep × Access)} {front rest events : List Event}
  {result : Except Error Unit} {failure : Error}

theorem performed (h : Stepped plan events (.ok ())) :
    Performed (plan.map Prod.snd) events (.ok ()) := by
  cases h with
  | finished hall => exact hall

theorem append (hfirst : Stepped first front (.ok ())) (hsecond : Stepped second rest result) :
    Stepped (first ++ second) (front ++ rest) result := by
  cases hfirst with
  | finished hall =>
      cases hsecond with
      | finished hrest =>
          refine .finished ?_
          rw [List.map_append]
          exact hall.append hrest
      | stopped hbefore hfail =>
          rw [← List.append_assoc, ← List.append_assoc]
          refine .stopped ?_ hfail
          rw [List.map_append]
          exact hall.append hbefore

/-- A plan that was left stays left, whatever was to come. -/
theorem stop (hfirst : Stepped first events (.error failure))
    (second : List (BringUpStep × Access)) : Stepped (first ++ second) events (.error failure) := by
  cases hfirst with
  | stopped hbefore hfail =>
      rw [List.append_assoc, List.cons_append]
      exact .stopped hbefore hfail

theorem exists_failed (h : Stepped plan events (.error failure)) :
    ∃ event ∈ events, event.failure? ≠ none := by
  cases h with
  | @stopped _ _ _ access front answer cause _ hfail =>
      refine ⟨⟨access, answer⟩, List.mem_append_cons_self, ?_⟩
      unfold Event.failure?
      rw [hfail]
      exact Option.some_ne_none cause

theorem mem (h : Stepped plan events result) :
    ∀ event ∈ events, event.access ∈ plan.map Prod.snd := by
  intro event hmem
  cases h with
  | finished hall => exact hall.mem event hmem
  | stopped hbefore _ =>
      rw [List.map_append, List.map_cons]
      rcases List.mem_append.mp hmem with hmem | hmem
      · exact List.mem_append_left _ (hbefore.mem event hmem)
      · rw [List.mem_singleton.mp hmem]
        exact List.mem_append_cons_self

end Stepped

namespace Attempt

variable {α β : Type}

/-- The attempt makes the accesses of the plan until one fails, and ends with
    the error of its step; if none fails it ends with a value. -/
def Follows (attempt : Attempt α) (plan : List (BringUpStep × Access)) : Prop :=
  ∀ events outcome, attempt.run.Path events outcome →
    ∃ result, outcome = .ok result ∧ Stepped plan events (result.map fun _ => ())

theorem follows_pure (value : α) : (pure value : Attempt α).Follows [] := by
  rintro events outcome ⟨rfl, rfl⟩
  exact ⟨.ok value, rfl, .finished .nil⟩

theorem follows_bind {attempt : Attempt α} {next : α → Attempt β}
    {first second : List (BringUpStep × Access)} (hfirst : attempt.Follows first)
    (hnext : ∀ value, (next value).Follows second) :
    (attempt >>= next).Follows (first ++ second) :=
  Program.makes_bind Stepped.append (Stepped.stop · second) hfirst hnext

theorem map_snd_step (step : BringUpStep) (accesses : List Access) :
    (accesses.map fun access => (step, access)).map Prod.snd = accesses := by
  rw [List.map_map]
  exact List.map_id accesses

/-- The accesses of one step. -/
theorem follows_during {bus : Bus α} {accesses : List Access} (h : bus.Performs accesses)
    (step : BringUpStep) : (bus.during step).Follows (accesses.map fun access => (step, access)) := by
  intro events outcome hpath
  change (Except.mapError (Error.bringUp step) <$> bus.run).Path events outcome at hpath
  rw [map_eq_pure_bind, Program.path_bind] at hpath
  rcases hpath with ⟨why, hbus, rfl⟩ | ⟨result, front, rest, rfl, hbus, rfl, rfl⟩
  · rcases h events _ hbus with ⟨result, hr, -⟩
    exact absurd hr (by simp only [reduceCtorEq, not_false_eq_true])
  · rcases h front _ hbus with ⟨result', hr, hperformed⟩
    rw [Except.ok.injEq] at hr
    rw [← hr] at hperformed
    rw [List.append_nil]
    refine ⟨_, rfl, ?_⟩
    cases result with
    | ok value =>
        refine .finished ?_
        rw [map_snd_step]
        exact hperformed
    | error cause =>
        rcases hperformed.exists_split with
          ⟨before, access, after, done, answer, rfl, rfl, hbefore, hfail⟩
        rw [List.map_append, List.map_cons]
        refine .stopped ?_ hfail
        rw [map_snd_step]
        exact hbefore

end Attempt

namespace BringUp

variable {region : Region} {events : List Event}

/-- The event of a reset that the adapter has taken. -/
def resetEvent : Event :=
  ⟨.writeRegister Register.doorbell (Doorbell.word Doorbell.resetFunction 0), .ok ()⟩

/-- The plan of quieting an adapter. -/
def quietPlan : List (BringUpStep × Access) :=
  [(.reset, .writeRegister Register.doorbell (Doorbell.word Doorbell.resetFunction 0)),
    (.maskInterrupts, .writeRegister Register.interruptMask (.ofBitVec everyReason.bits)),
    (.clearInterruptStatus, .writeRegister Register.interruptStatus 0)]

/-- The writes that announce a payload and send it. -/
def handshakeAccesses (payload : List UInt32) : List Access :=
  .writeRegister Register.doorbell
      (Doorbell.word Doorbell.handshakeFunction (UInt8.ofNat payload.length)) ::
    payload.map (.writeRegister Register.doorbell)

/-- The plan of bringing an adapter up. -/
def plan (region : Region) : List (BringUpStep × Access) :=
  quietPlan ++
    ((handshakeAccesses (request region).words.toList).map (fun access => (.sendInitRequest, access)) ++
      ((List.replicate 10 (Access.readRegister Register.doorbell)).map
          (fun access => (.drainInitReply, access)) ++
        [(.acknowledgeInitReply, .writeRegister Register.interruptStatus 0),
          (.armErrorReply, .writeRegister Register.replyQueue (region.lowAddress .errorReply))]))

example (region : Region) : (plan region).length = 22 :=
  rfl

theorem performs_handshake (payload : List UInt32) (hlength : payload.length ≤ 255) :
    (Doorbell.handshake payload hlength).Performs (handshakeAccesses payload) :=
  Bus.performs_bind (Bus.performs_writeRegister _ _) fun _ =>
    Bus.performs_writeRegisterEach Register.doorbell payload

theorem performs_drain (count : Nat) :
    (Doorbell.drain count).Performs (List.replicate count (.readRegister Register.doorbell)) := by
  induction count with
  | zero => exact Bus.performs_pure _
  | succ n ih =>
      rw [List.replicate_succ']
      exact Bus.performs_bind ih fun _ =>
        Bus.performs_bind (Bus.performs_readRegister _) fun _ => Bus.performs_pure _

theorem follows_quiesce : quiesce.Follows quietPlan :=
  Attempt.follows_bind (Attempt.follows_during (Bus.performs_writeRegister _ _) .reset) fun _ =>
    Attempt.follows_bind (Attempt.follows_during (Bus.performs_writeRegister _ _) .maskInterrupts)
      fun _ =>
        Attempt.follows_during (Bus.performs_writeRegister _ _) .clearInterruptStatus

theorem follows_sequence (region : Region) : (sequence region).Follows (plan region) := by
  unfold sequence
  refine Attempt.follows_bind follows_quiesce (fun _ => ?_)
  refine Attempt.follows_bind (Attempt.follows_during (performs_handshake _ _) _) (fun _ => ?_)
  refine Attempt.follows_bind (Attempt.follows_during (performs_drain 10) _) (fun answer => ?_)
  refine Attempt.follows_bind
    (Attempt.follows_during (Bus.performs_writeRegister _ _) .acknowledgeInitReply) (fun _ => ?_)
  exact Attempt.follows_bind
    (Attempt.follows_during (Bus.performs_writeRegister _ _) .armErrorReply) fun _ =>
      Attempt.follows_pure _

/-! ## The adapter's answer -/

/-- What the adapter has answered through the doorbell, word by word. -/
def drained (events : List Event) : List UInt16 :=
  (valuesRead Register.doorbell events).map UInt32.toUInt16

theorem drained_append (front rest : List Event) :
    drained (front ++ rest) = drained front ++ drained rest := by
  unfold drained
  rw [valuesRead_append, List.map_append]

theorem drained_eq_nil (h : ∀ event ∈ events, event.access ≠ .readRegister Register.doorbell) :
    drained events = [] := by
  unfold drained
  rw [valuesRead_eq_nil h, List.map_nil]

theorem path_drain_value {count : Nat} {words : Vector UInt16 count}
    (h : (Doorbell.drain count).run.Path events (.ok (.ok words))) :
    words.toList = drained events := by
  induction count generalizing events with
  | zero =>
      rcases h with ⟨rfl, -⟩
      exact List.eq_nil_of_length_eq_zero words.length_toList
  | succ n ih =>
      unfold Doorbell.drain at h
      rw [Program.path_bind_value] at h
      rcases h with ⟨front, reading, tail, rfl, hfront, h⟩
      rw [Program.path_bind_value] at h
      rcases h with ⟨value, last, rest, rfl, hlast, hpure⟩
      rcases hlast with ⟨answer, nothing, rfl, rfl, hanswer⟩
      rw [Program.path_pure_value] at hpure
      rcases hpure with ⟨rfl, rfl⟩
      rw [Except.ok.injEq] at hanswer
      -- the last word comes from the last read, and the others from those before
      rw [List.append_nil, drained_append, ← ih hfront, ← hanswer, Vector.toList_push]
      rfl

-- Steps that only write have drained nothing.
theorem drained_of_writes {α : Type} {bus : Bus α} {accesses : List Access} {step : BringUpStep}
    {value : α} (hperforms : bus.Performs accesses)
    (hwrites : ∀ access ∈ accesses, access ≠ .readRegister Register.doorbell)
    (h : (bus.during step).run.Path events (.ok (.ok value))) : drained events = [] := by
  unfold Bus.during at h
  rw [Program.path_adapt_value] at h
  rcases hperforms events _ h with ⟨_, -, hperformed⟩
  exact drained_eq_nil fun event hmem => hwrites _ (hperformed.mem event hmem)

theorem drained_of_quiesce {value : Unit} (h : quiesce.run.Path events (.ok (.ok value))) :
    drained events = [] := by
  rcases follows_quiesce events _ h with ⟨_, -, hstepped⟩
  refine drained_eq_nil (fun event hmem => ?_)
  have haccess := hstepped.mem event hmem
  simp only [quietPlan, List.map_cons, List.map_nil, List.mem_cons, List.not_mem_nil,
    or_false] at haccess
  -- none of the three reads anything
  intro hread
  rw [hread] at haccess
  exact haccess.elim Access.noConfusion fun h => h.elim Access.noConfusion Access.noConfusion

theorem not_read_of_handshake (payload : List UInt32) :
    ∀ access ∈ handshakeAccesses payload, access ≠ .readRegister Register.doorbell := by
  intro access hmem
  rcases List.mem_cons.mp hmem with rfl | hmem
  · exact Access.noConfusion
  · rcases List.mem_map.mp hmem with ⟨value, -, rfl⟩
    exact Access.noConfusion

/-- A sequence that ends well returns the answer that was drained. -/
theorem path_sequence_reply {reply : InitReply}
    (h : (sequence region).run.Path events (.ok (.ok reply))) :
    ∃ words : Vector UInt16 10, words.toList = drained events ∧
      reply = InitReply.decode (LittleEndian.spread words) := by
  have hsingle : ∀ offset value, ∀ access ∈ [Access.writeRegister offset value],
      access ≠ .readRegister Register.doorbell := by
    intro offset value access hmem
    rw [List.mem_singleton.mp hmem]
    exact Access.noConfusion
  unfold sequence at h
  rw [Program.path_bind_value] at h
  rcases h with ⟨_, quieting, tail, rfl, hquiet, h⟩
  rw [Program.path_bind_value] at h
  rcases h with ⟨_, asking, tail, rfl, hask, h⟩
  rw [Program.path_bind_value] at h
  rcases h with ⟨words, draining, tail, rfl, hdrain, h⟩
  rw [Program.path_bind_value] at h
  rcases h with ⟨_, thanking, tail, rfl, hthank, h⟩
  rw [Program.path_bind_value] at h
  rcases h with ⟨_, arming, tail, rfl, harm, hpure⟩
  rw [Program.path_pure_value] at hpure
  rcases hpure with ⟨rfl, rfl⟩
  refine ⟨words, ?_, rfl⟩
  -- of the five parts only one reads the doorbell
  have hasked := drained_of_writes (performs_handshake _ _) (not_read_of_handshake _) hask
  have hthanked := drained_of_writes (Bus.performs_writeRegister _ _) (hsingle _ _) hthank
  have harmed := drained_of_writes (Bus.performs_writeRegister _ _) (hsingle _ _) harm
  unfold Bus.during at hdrain
  rw [Program.path_adapt_value] at hdrain
  rw [path_drain_value hdrain]
  simp only [drained_append, drained_of_quiesce hquiet, hasked, hthanked, harmed, List.nil_append,
    List.append_nil]

end BringUp

end FusionMpt
