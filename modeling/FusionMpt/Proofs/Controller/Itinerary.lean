import FusionMpt.Proofs.Controller.BringUp
import FusionMpt.Proofs.Controller.Handover

/-!
# The Order of a Bring-Up

The plan of a bring-up, written out: 22 accesses with their registers and their
values, and beside each the step it belongs to. What the engine computes on the
way, the words of the doorbell and the words of the request, comes to these
numbers and to the halves of the region's address. The frame for an error reply
is the last thing the adapter gets, after its answer has been drained and
acknowledged.

An adapter can only choose where the plan is left. So its trace is a beginning
of the plan, and the place of the access that failed, counted from the front,
says which step is in the error.

## Main definitions

* `BringUp.itinerary`: The accesses of a bring-up, each with its step.
* `BringUp.InOrder`: A run that keeps to the itinerary.

## Theorems

* `Stepped.exists_take`, `Stepped.failure_eq`: A trace is a beginning of its
  plan, and the access that failed is the last of it.
* `BringUp.words_request`: The words of the request.
* `BringUp.plan_eq_itinerary`: The engine's plan is the itinerary.
* `BringUp.broughtUp_in_order`: Every run of a bring-up keeps to the itinerary.
-/

namespace FusionMpt

namespace Stepped

variable {plan : List (BringUpStep × Access)} {events front rest : List Event}
  {result : Except Error Unit} {event : Event} {cause : BusError}

/-- The accesses made are the first ones of the plan, and without failure they
    are all of it. -/
theorem exists_take (h : Stepped plan events result) :
    ∃ j ≤ plan.length, events.map Event.access = (plan.map Prod.snd).take j ∧
      ((∀ event ∈ events, event.failure? = none) → j = plan.length ∧ result = .ok ()) := by
  cases h with
  | finished hall =>
      refine ⟨plan.length, Nat.le_refl _, ?_, fun _ => ⟨rfl, rfl⟩⟩
      rw [hall.map_access_eq, List.take_of_length_le (Nat.le_of_eq (List.length_map _))]
  | @stopped before after step access front answer cause hbefore hfail =>
      refine ⟨before.length + 1, ?_, ?_, fun hnone => ?_⟩
      · rw [List.length_append, List.length_cons]
        omega
      · rw [List.map_append, List.map_append, hbefore.map_access_eq, List.map_cons, List.map_cons,
          List.map_nil, List.take_append, List.length_map, Nat.add_sub_cancel_left,
          List.take_of_length_le (by rw [List.length_map]; omega), List.take_succ_cons,
          List.take_zero]
      · have hlast := hnone ⟨access, answer⟩ List.mem_append_cons_self
        exact absurd (hfail.symm.trans hlast) (Option.some_ne_none cause)

/-- An access that failed is the last one. Its place is that of its step in the
    plan, and its cause is in the error. -/
theorem failure_eq (h : Stepped plan (front ++ event :: rest) result)
    (hfail : event.failure? = some cause) :
    rest = [] ∧ ∃ step, plan[front.length]? = some (step, event.access) ∧
      result = .error (.bringUp step cause) := by
  generalize hevents : front ++ event :: rest = events at h
  cases h with
  | finished hall =>
      have hnone := hall.failure?_eq_none event (hevents ▸ List.mem_append_cons_self)
      exact absurd (hfail.symm.trans hnone) (Option.some_ne_none cause)
  | @stopped before after step access front' answer cause' hbefore hfail' =>
      -- No event before the last one failed, so this one is the last.
      have hlast : rest = [] := by
        rcases List.eq_nil_or_concat rest with hnil | ⟨rest', last, hrest⟩
        · exact hnil
        · rw [hrest, List.concat_eq_append, ← List.cons_append, ← List.append_assoc] at hevents
          have hfront := (List.append_inj' hevents rfl).1
          have hnone := hbefore.failure?_eq_none event (hfront ▸ List.mem_append_cons_self)
          exact absurd (hfail.symm.trans hnone) (Option.some_ne_none cause)
      rw [hlast] at hevents
      rcases List.append_inj' hevents rfl with ⟨rfl, hevent⟩
      rw [List.cons.injEq] at hevent
      rw [hevent.1] at hfail ⊢
      rw [Option.some.inj (hfail.symm.trans hfail')]
      refine ⟨hlast, step, ?_, rfl⟩
      have hlength : before.length = front.length := by
        rw [← List.length_map Prod.snd, ← hbefore.map_access_eq, List.length_map]
      rw [← hlength, List.getElem?_append_right (Nat.le_refl _), Nat.sub_self]
      rfl

end Stepped

namespace BringUp

variable {σ : Type}

/-- The accesses of a bring-up in their order, each with the step it belongs
    to. -/
def itinerary (region : Region) : List (BringUpStep × Access) :=
  [(.reset, .writeRegister 0x00 0x40000000),
    (.maskInterrupts, .writeRegister 0x34 0x00000009),
    (.clearInterruptStatus, .writeRegister 0x30 0x00000000),
    (.sendInitRequest, .writeRegister 0x00 0x42060000),
    (.sendInitRequest, .writeRegister 0x00 0x02000002),
    (.sendInitRequest, .writeRegister 0x00 0x00010100),
    (.sendInitRequest, .writeRegister 0x00 0x00000000),
    (.sendInitRequest, .writeRegister 0x00 0x00000020),
    (.sendInitRequest, .writeRegister 0x00 region.highAddress),
    (.sendInitRequest, .writeRegister 0x00 region.highAddress)] ++
  List.replicate 10 (.drainInitReply, .readRegister 0x00) ++
  [(.acknowledgeInitReply, .writeRegister 0x30 0x00000000),
    (.armErrorReply, .writeRegister 0x44 (region.lowAddress .errorReply))]

/-- Only the last two words of the request depend on the region. -/
theorem words_request (region : Region) :
    (request region).words.toList =
      [0x02000002, 0x00010100, 0x00000000, 0x00000020, region.highAddress,
        region.highAddress] := by
  simp only [InitRequest.words, LittleEndian.word32At, InitRequest.encode, request,
    Vector.getElem_mk, List.getElem_toArray, List.getElem_cons_zero, List.getElem_cons_succ,
    Nat.zero_add, Nat.reduceAdd, LittleEndian.word32_octet, Vector.toList_mk, List.cons.injEq,
    and_true]
  -- what is left are the four words that are the same for every region
  decide

theorem plan_eq_itinerary (region : Region) : plan region = itinerary region := by
  have hreset : Doorbell.word Doorbell.resetFunction 0 = 0x40000000 := by decide
  have hmask : UInt32.ofBitVec everyReason.bits = 0x00000009 := by decide
  have hannounce : Doorbell.word Doorbell.handshakeFunction (UInt8.ofNat 6) = 0x42060000 := by
    decide
  unfold plan quietPlan handshakeAccesses itinerary
  rw [words_request, hreset, hmask]
  change _ ++ (List.map _ (Access.writeRegister Register.doorbell
    (Doorbell.word _ (UInt8.ofNat 6)) :: _) ++ _) = _
  rw [hannounce]
  rfl

/-- The run of a bring-up that keeps to the itinerary of a region. -/
structure InOrder (region : Region) (run : Run σ (Except Error InitReply)) : Prop where
  /-- The accesses are the first ones of the itinerary; without failure they
      are all of it, and an answer is returned. -/
  exists_take : ∃ j ≤ 22, run.trace.map Event.access = ((itinerary region).map Prod.snd).take j ∧
    ((∀ event ∈ run.trace, event.failure? = none) →
      j = 22 ∧ ∃ reply, run.outcome = .ok (.ok reply))
  /-- An access that failed is the last one, and the error has its step and its
      cause. -/
  failure_eq : ∀ front event rest cause, run.trace = front ++ event :: rest →
    event.failure? = some cause →
      rest = [] ∧ ∃ step, (itinerary region)[front.length]? = some (step, event.access) ∧
        run.outcome = .ok (.error (.bringUp step cause))
  /-- Shared memory is left alone. -/
  aloof : ∀ event ∈ run.trace, ¬ event.access.IsMemoryRead ∧ ¬ event.access.IsMemoryWrite

theorem inOrder_sequence (region : Region) (adapter : Adapter σ) (s : σ) :
    InOrder region ((sequence region).run.run adapter s) := by
  have hpath := Program.path_run adapter (sequence region).run s
  generalize (sequence region).run.run adapter s = run at hpath ⊢
  rcases follows_sequence region _ _ hpath with ⟨result, houtcome, hstepped⟩
  rw [plan_eq_itinerary] at hstepped
  refine ⟨?_, ?_, ?_⟩
  · rcases hstepped.exists_take with ⟨j, hj, haccesses, hall⟩
    refine ⟨j, hj, haccesses, fun hnone => ?_⟩
    rcases hall hnone with ⟨hlength, hresult⟩
    cases result with
    | ok reply => exact ⟨hlength, reply, houtcome⟩
    | error failure =>
        exact absurd hresult (by simp only [Except.map, reduceCtorEq, not_false_eq_true])
  · intro front event rest cause htrace hfail
    rw [htrace] at hstepped
    rcases hstepped.failure_eq hfail with ⟨hrest, step, hplace, hresult⟩
    cases result with
    | ok reply =>
        exact absurd hresult (by simp only [Except.map, reduceCtorEq, not_false_eq_true])
    | error failure =>
        rw [houtcome, Except.error.inj hresult]
        exact ⟨hrest, step, hplace, rfl⟩
  · intro event hmem
    have haccess := hstepped.mem event hmem
    rw [← plan_eq_itinerary] at haccess
    have hregister := isRegister_plan region _ haccess
    generalize event.access = access at hregister
    cases access with
    | readRegister offset => exact ⟨not_false, not_false⟩
    | writeRegister offset value => exact ⟨not_false, not_false⟩
    | _ => exact hregister.elim

/-- Whatever an adapter answers, it is brought up in the order of the itinerary;
    and it is not touched when the policy or the buffer is refused. -/
theorem broughtUp_in_order (adapter : Adapter σ) (s : σ) :
    (∀ region, InOrder region ((sequence region).run.run adapter s)) ∧
    (∀ buffer policy,
      (∀ refusal, policy.check = .error refusal →
        (Controller.start buffer policy).run.run adapter s = ⟨[], .ok (.error refusal), s⟩) ∧
      (∀ refusal, policy.check = .ok () → Region.ofBuffer buffer = .error refusal →
        (Controller.start buffer policy).run.run adapter s = ⟨[], .ok (.error refusal), s⟩) ∧
      (∀ region, policy.check = .ok () → Region.ofBuffer buffer = .ok region →
        ((Controller.start buffer policy).run.run adapter s).trace =
          ((sequence region).run.run adapter s).trace)) := by
  refine ⟨fun region => inOrder_sequence region adapter s, fun buffer policy => ⟨?_, ?_, ?_⟩⟩
  · intro refusal hcheck
    unfold Controller.start
    rw [hcheck]
    rfl
  · intro refusal hcheck hregion
    unfold Controller.start
    rw [hcheck, hregion]
    rfl
  · intro region hcheck hregion
    unfold Controller.start
    rw [hcheck, hregion]
    -- what the controller keeps is computed after the last access
    change (((sequence region) >>= fun initReply =>
      (pure ⟨region, policy, .ready, initReply⟩ : Attempt Controller)).run.run adapter s).trace = _
    rw [ExceptT.run_bind, Program.run_bind]
    unfold Run.andThen
    rcases (sequence region).run.run adapter s with ⟨trace, why | (failure | reply), state⟩
    · rfl
    · exact List.append_nil trace
    · exact List.append_nil trace

end BringUp

end FusionMpt
