import FusionMpt.Binding.Basic
import FusionMpt.Proofs.Controller.BringUp

/-!
# What Starting and Stopping Can Do

Starting a function has two parts. One deals with the machine: the function is
switched on and its adapter brought up, or its attributes are put back. The
other deals with the registry, and makes no access. Stopping has the same two
parts the other way round. The parts that deal with the machine do not depend
on what else is bound (`start_eq`, `stop_eq`), so what they can do is said of
them alone.

Some 27 accesses are made on the way to a controller, and any of them may fail.
There are only four ends: the attributes could not be read, the function could
not be switched on, its adapter could not be brought up, or all went well. In
the two in the middle there is something to put back, and it is put back last.

## Main definitions

* `Access.IsAssign`: An access that sets all attributes.
* `PutBack`: Attributes are set once, at the end.
* `Binding.acquire`, `Binding.release`: The parts that deal with the machine.
* `Binding.keep`, `Binding.without`: The parts that deal with the registry.
* `Raised`, `Acquired`: What the first of them can do.
* `Serves`, `Event.Harmless`: What it takes to go well besides the accesses, and
  which of these may fail.

## Theorems

* `Binding.start_eq`, `Binding.stop_eq`: The parts make up the whole.
* `Binding.raised_of_path`, `Binding.acquired_of_path`: The paths of bringing an
  adapter up and of acquiring a function.
* `Raised.ok_iff`, `Acquired.ok_iff`: When they end well.
* `Acquired.putBack`: If a function is not acquired, its attributes are put back.
* `Controller.path_shutdown`, `Binding.exists_stepped_of_release`: The paths of a
  shutdown and of releasing a function.
-/

namespace FusionMpt

/-- The access sets all attributes of the function. -/
def Access.IsAssign : Access → Prop
  | .assign _ => True
  | _ => False

/-- The access is about the attributes of the function, and may change them. -/
def Access.IsSwitch : Access → Prop
  | .enable _ => True
  | .assign _ => True
  | _ => False

theorem Access.IsAssign.isSwitch {access : Access} (h : access.IsAssign) : access.IsSwitch := by
  cases access with
  | assign attributes => exact trivial
  | _ => exact absurd h not_false

/-- The attributes of a function are set to these at the end, and never before. -/
def PutBack (saved : PciAttributes) (trace : List Event) : Prop :=
  ∃ front answer, trace = front ++ [⟨.assign saved, answer⟩] ∧
    ∀ event ∈ front, ¬ event.access.IsAssign

theorem BringUp.IsRegister.not_isSwitch {access : Access} (h : IsRegister access) :
    ¬ access.IsSwitch := by
  cases access with
  | enable attributes | assign attributes => exact absurd h not_false
  | _ => exact not_false

namespace Binding

variable {φ : Type}

/-- Switch a function on and bring its adapter up, or put its attributes back. -/
def acquire (policy : PollPolicy) : Attempt (PciAttributes × Controller) := ExceptT.mk do
  match ← Bus.attributes.run with
  | .error cause => return .error (.bus cause)
  | .ok saved =>
    match ← (Bus.enable (PciAttributes.io ||| PciAttributes.busMaster)).run with
    | .error cause =>
      restore saved
      return .error (.bus cause)
    | .ok () =>
      let _ ← (Bus.enable PciAttributes.dualAddressCycle).run
      match ← (bringUp policy).run with
      | .error failure =>
        restore saved
        return .error failure
      | .ok controller => return .ok (saved, controller)

/-- Keep what has been acquired of a function, if anything has. -/
def keep (b : Binding φ) (function : φ) :
    Except Error (PciAttributes × Controller) → Except Error Handle × Binding φ
  | .error failure => (.error failure, b)
  | .ok (saved, controller) =>
    (.ok ⟨b.controllers.next⟩,
      { b with controllers := (b.controllers.insert { function, saved, controller }).2 })

/-- Starting a function is acquiring it and keeping what has been acquired. -/
theorem start_eq (b : Binding φ) (function : φ) :
    b.start function = b.keep function <$> (acquire b.policy).run := by
  -- Both walk the same tree, which is taken apart access by access.
  unfold start acquire
  rw [ExceptT.run_mk, map_bind]
  refine bind_congr (fun reading => ?_)
  cases reading with
  | error cause => rfl
  | ok saved =>
      rw [map_bind]
      refine bind_congr (fun enabling => ?_)
      cases enabling with
      | error cause =>
          rw [map_bind]
          rfl
      | ok _ =>
          rw [map_bind]
          refine bind_congr (fun _ => ?_)
          rw [map_bind]
          refine bind_congr (fun raising => ?_)
          cases raising with
          | error failure =>
              rw [map_bind]
              rfl
          | ok controller => rfl

/-- Quiet the adapter of a bound function and put the function's attributes
    back. -/
def release (bound : Bound φ) : Program Unit := do
  let _ ← bound.controller.shutdown.run
  restore bound.saved

/-- The binding without the entry of a handle. -/
def without (b : Binding φ) (handle : Handle) : Binding φ :=
  { b with controllers := b.controllers.erase handle }

/-- Stopping a function is releasing it and forgetting it. -/
theorem stop_eq {b : Binding φ} {handle : Handle} {bound : Bound φ}
    (h : b.get? handle = some bound) :
    b.stop handle = (fun _ => (.ok bound.function, b.without handle)) <$> release bound := by
  unfold get? at h
  unfold stop Registry.remove release
  rw [h, map_bind]
  refine bind_congr (fun _ => ?_)
  rw [map_eq_pure_bind]
  rfl

theorem stop_unknown {b : Binding φ} {handle : Handle} (h : b.get? handle = none) :
    b.stop handle = Program.done (.error .notFound, b) := by
  unfold get? at h
  unfold stop Registry.remove
  rw [h]
  rfl

end Binding

/-! ## Bringing the adapter up -/

theorem not_exists_ok_of_error {α ε : Type} {failure : ε} :
    ¬ ∃ value, (.error failure : Except ε α) = .ok value := by
  intro hok
  rcases hok with ⟨value, hok⟩
  exact absurd hok (by simp only [reduceCtorEq, not_false_eq_true])

-- To say when something ends well, it is enough to name a reason where it does not.
theorem exists_ok_iff_of_error {α ε : Type} {failure : ε} {reason : Prop} (h : ¬ reason) :
    (∃ value, (.error failure : Except ε α) = .ok value) ↔ reason :=
  ⟨fun hok => absurd hok not_exists_ok_of_error, fun hreason => absurd hreason h⟩

-- A buffer is looked for behind the events that do not ask for one.
theorem mem_of_allocate_mem {event : Event} {rest : List Event} {size : Nat}
    {answer : Except BusError Buffer} (hother : event.access ≠ .allocate size)
    (hmem : ⟨.allocate size, answer⟩ ∈ event :: rest) : ⟨.allocate size, answer⟩ ∈ rest :=
  List.mem_of_ne_of_mem (fun heq => hother (congrArg Event.access heq).symm) hmem

/-- The policy can be used, and so can the buffer if there is one. -/
def Serves (policy : PollPolicy) (trace : List Event) : Prop :=
  policy.check = .ok () ∧ ∀ buffer, (⟨.allocate Slot.total, .ok buffer⟩ : Event) ∈ trace →
    ∃ region, Region.ofBuffer buffer = .ok region

/-- The events of getting the resources behind a function and bringing its
    adapter up, and how it ends. -/
inductive Raised (policy : PollPolicy) : List Event → Except Error Controller → Prop where
  | unmapped {cause : BusError} :
      Raised policy [⟨.mapRegisters, .error cause⟩] (.error (.bus cause))
  | unallocated {cause : BusError} :
      Raised policy [⟨.mapRegisters, .ok ()⟩, ⟨.allocate Slot.total, .error cause⟩]
        (.error (.bus cause))
  /-- The policy or the buffer does not serve. -/
  | refused {buffer : Buffer} {failure : Error}
      (hrefused : ¬ (policy.check = .ok () ∧ ∃ region, Region.ofBuffer buffer = .ok region)) :
      Raised policy [⟨.mapRegisters, .ok ()⟩, ⟨.allocate Slot.total, .ok buffer⟩] (.error failure)
  | left {buffer : Buffer} {region : Region} {trace : List Event} {failure : Error}
      (hcheck : policy.check = .ok ()) (hregion : Region.ofBuffer buffer = .ok region)
      (hstepped : Stepped (BringUp.plan region) trace (.error failure)) :
      Raised policy (⟨.mapRegisters, .ok ()⟩ :: ⟨.allocate Slot.total, .ok buffer⟩ :: trace)
        (.error failure)
  | raised {buffer : Buffer} {region : Region} {trace : List Event} {initReply : InitReply}
      (hcheck : policy.check = .ok ()) (hregion : Region.ofBuffer buffer = .ok region)
      (hdone : Performed ((BringUp.plan region).map Prod.snd) trace (.ok ())) :
      Raised policy (⟨.mapRegisters, .ok ()⟩ :: ⟨.allocate Slot.total, .ok buffer⟩ :: trace)
        (.ok { region, policy, health := .ready, initReply })

namespace Binding

variable {policy : PollPolicy} {events : List Event}

/-- With its resources at hand, an adapter is refused, left at some step, or
    brought up. -/
theorem raised_of_start {buffer : Buffer} {outcome : Except Halt (Except Error Controller)}
    (h : (Controller.start buffer policy).run.Path events outcome) :
    ∃ result, outcome = .ok result ∧
      Raised policy (⟨.mapRegisters, .ok ()⟩ :: ⟨.allocate Slot.total, .ok buffer⟩ :: events)
        result := by
  unfold Controller.start at h
  cases hcheck : policy.check with
  | error failure =>
      rw [hcheck] at h
      rcases h with ⟨rfl, rfl⟩
      refine ⟨_, rfl, .refused fun hall => ?_⟩
      exact absurd (hcheck.symm.trans hall.1) (by simp only [reduceCtorEq, not_false_eq_true])
  | ok _ =>
      rw [hcheck] at h
      cases hregion : Region.ofBuffer buffer with
      | error failure =>
          rw [hregion] at h
          rcases h with ⟨rfl, rfl⟩
          refine ⟨_, rfl, .refused fun hall => ?_⟩
          rcases hall.2 with ⟨region, hok⟩
          exact absurd (hregion.symm.trans hok) (by simp only [reduceCtorEq, not_false_eq_true])
      | ok region =>
          rw [hregion] at h
          change ((BringUp.sequence region >>= fun initReply =>
            pure { region, policy, health := .ready, initReply } : Attempt Controller)).run.Path
              events outcome at h
          rw [ExceptT.run_bind, Program.path_bind] at h
          rcases h with ⟨why, hpath, -⟩ | ⟨result, front, rest, rfl, hpath, hrest⟩
          · -- the sequence always comes to an end
            rcases BringUp.follows_sequence region events _ hpath with ⟨result, hresult, -⟩
            exact absurd hresult (by simp only [reduceCtorEq, not_false_eq_true])
          · rcases BringUp.follows_sequence region front _ hpath with ⟨result', hresult, hstepped⟩
            rw [← Except.ok.inj hresult] at hstepped
            cases result with
            | error failure =>
                rcases hrest with ⟨rfl, rfl⟩
                rw [List.append_nil]
                exact ⟨_, rfl, .left hcheck hregion hstepped⟩
            | ok initReply =>
                rcases hrest with ⟨rfl, rfl⟩
                rw [List.append_nil]
                exact ⟨_, rfl, .raised hcheck hregion hstepped.performed⟩

theorem raised_of_path {outcome : Except Halt (Except Error Controller)}
    (h : (bringUp policy).run.Path events outcome) :
    ∃ result, outcome = .ok result ∧ Raised policy events result := by
  rcases h with ⟨mapping, tail, rfl, h⟩
  cases mapping with
  | error cause =>
      rcases h with ⟨rfl, rfl⟩
      exact ⟨_, rfl, .unmapped⟩
  | ok _ =>
      rcases h with ⟨allocation, tail, rfl, h⟩
      cases allocation with
      | error cause =>
          rcases h with ⟨rfl, rfl⟩
          exact ⟨_, rfl, .unallocated⟩
      | ok buffer => exact raised_of_start h

end Binding

namespace Raised

variable {policy : PollPolicy} {trace : List Event} {result : Except Error Controller}

theorem not_isSwitch (h : Raised policy trace result) :
    ∀ event ∈ trace, ¬ event.access.IsSwitch := by
  -- in front of the registers there are two accesses, neither of which is of the kind
  have hfront : ∀ {buffer : Buffer} {region : Region} {rest : List Event},
      (∀ event ∈ rest, event.access ∈ (BringUp.plan region).map Prod.snd) →
      ∀ event ∈ (⟨.mapRegisters, .ok ()⟩ :: ⟨.allocate Slot.total, .ok buffer⟩ :: rest : List Event),
        ¬ event.access.IsSwitch := by
    intro buffer region rest hrest
    rw [List.forall_mem_cons, List.forall_mem_cons]
    refine ⟨not_false, not_false, fun event hmem => ?_⟩
    exact (BringUp.isRegister_plan region _ (hrest event hmem)).not_isSwitch
  cases h with
  | unmapped => exact List.forall_mem_singleton.mpr not_false
  | unallocated | refused _ =>
      exact List.forall_mem_cons.mpr ⟨not_false, List.forall_mem_singleton.mpr not_false⟩
  | left _ _ hstepped => exact hfront hstepped.mem
  | raised _ _ hdone => exact hfront hdone.mem

/-- Nor are attributes set when the function is switched on first. -/
theorem not_isAssign_of_front {reading : Except BusError PciAttributes}
    {enabling dual : Except BusError Unit} {switched : PciAttributes}
    (h : Raised policy trace result) :
    ∀ event ∈ (⟨.attributes, reading⟩ :: ⟨.enable switched, enabling⟩ ::
      ⟨.enable PciAttributes.dualAddressCycle, dual⟩ :: trace : List Event),
      ¬ event.access.IsAssign := by
  rw [List.forall_mem_cons, List.forall_mem_cons, List.forall_mem_cons]
  refine ⟨not_false, not_false, not_false, fun event hmem hassign => ?_⟩
  exact h.not_isSwitch event hmem hassign.isSwitch

/-- An adapter is brought up exactly when no access fails and the policy and the
    buffer serve. -/
theorem ok_iff (h : Raised policy trace result) :
    (∃ controller, result = .ok controller) ↔
      (∀ event ∈ trace, event.failure? = none) ∧ Serves policy trace := by
  cases h with
  | @unmapped cause =>
      refine exists_ok_iff_of_error fun hall => ?_
      exact absurd (hall.1 _ List.mem_cons_self) (Option.some_ne_none cause)
  | @unallocated cause =>
      refine exists_ok_iff_of_error fun hall => ?_
      exact absurd (hall.1 _ (List.mem_cons_of_mem _ List.mem_cons_self)) (Option.some_ne_none cause)
  | refused hrefused =>
      refine exists_ok_iff_of_error fun hall => hrefused ⟨hall.2.1, ?_⟩
      exact hall.2.2 _ (List.mem_cons_of_mem _ List.mem_cons_self)
  | left _ _ hstepped =>
      refine exists_ok_iff_of_error fun hall => ?_
      rcases hstepped.exists_failed with ⟨event, hmem, hfailure⟩
      exact hfailure (hall.1 event (List.mem_cons_of_mem _ (List.mem_cons_of_mem _ hmem)))
  | @raised buffer region trace _ hcheck hregion hdone =>
      refine ⟨fun _ => ⟨?_, hcheck, fun buffer' hmem => ?_⟩, fun _ => ⟨_, rfl⟩⟩
      · rw [List.forall_mem_cons, List.forall_mem_cons]
        exact ⟨rfl, rfl, hdone.failure?_eq_none⟩
      · have hmem := mem_of_allocate_mem Access.noConfusion hmem
        rcases List.mem_cons.mp hmem with heq | hmem
        · cases heq
          exact ⟨region, hregion⟩
        · exact absurd (BringUp.isRegister_plan region _ (hdone.mem _ hmem)) not_false

end Raised

/-! ## Acquiring a function -/

/-- An event is harmless if it did not fail, or only did not switch 64-bit
    addresses on. -/
def Event.Harmless (event : Event) : Prop :=
  event.failure? = none ∨ event.access = .enable PciAttributes.dualAddressCycle

theorem Event.Harmless.failure?_eq_none {event : Event} (h : event.Harmless)
    (hswitch : ¬ event.access.IsSwitch) : event.failure? = none := by
  rcases h with hok | hdual
  · exact hok
  · rw [hdual] at hswitch
    exact absurd trivial hswitch

/-- An adapter is brought up if that is part of something that goes well. -/
theorem Raised.exists_ok {policy : PollPolicy} {trace whole : List Event}
    {result : Except Error Controller} (h : Raised policy trace result) (hwhole : trace ⊆ whole)
    (hall : (∀ event ∈ whole, event.Harmless) ∧ Serves policy whole) :
    ∃ controller, result = .ok controller := by
  rcases hall with ⟨hharmless, hcheck, hbuffer⟩
  refine h.ok_iff.mpr ⟨fun event hmem => ?_, hcheck, fun buffer hmem => ?_⟩
  · exact (hharmless event (hwhole hmem)).failure?_eq_none (h.not_isSwitch event hmem)
  · exact hbuffer buffer (hwhole hmem)

/-- The events of acquiring a function, and how it ends. -/
inductive Acquired (policy : PollPolicy) :
    List Event → Except Error (PciAttributes × Controller) → Prop where
  | unread {cause : BusError} : Acquired policy [⟨.attributes, .error cause⟩] (.error (.bus cause))
  | unswitched {saved : PciAttributes} {cause : BusError} {answer : Except BusError Unit} :
      Acquired policy
        [⟨.attributes, .ok saved⟩,
          ⟨.enable (PciAttributes.io ||| PciAttributes.busMaster), .error cause⟩,
          ⟨.assign saved, answer⟩]
        (.error (.bus cause))
  | unraised {saved : PciAttributes} {dual answer : Except BusError Unit} {trace : List Event}
      {failure : Error} (hraised : Raised policy trace (.error failure)) :
      Acquired policy
        (⟨.attributes, .ok saved⟩ ::
          ⟨.enable (PciAttributes.io ||| PciAttributes.busMaster), .ok ()⟩ ::
          ⟨.enable PciAttributes.dualAddressCycle, dual⟩ :: (trace ++ [⟨.assign saved, answer⟩]))
        (.error failure)
  | acquired {saved : PciAttributes} {dual : Except BusError Unit} {trace : List Event}
      {controller : Controller} (hraised : Raised policy trace (.ok controller)) :
      Acquired policy
        (⟨.attributes, .ok saved⟩ ::
          ⟨.enable (PciAttributes.io ||| PciAttributes.busMaster), .ok ()⟩ ::
          ⟨.enable PciAttributes.dualAddressCycle, dual⟩ :: trace)
        (.ok (saved, controller))

namespace Binding

variable {policy : PollPolicy} {events : List Event}

theorem acquired_of_path {outcome : Except Halt (Except Error (PciAttributes × Controller))}
    (h : (acquire policy).run.Path events outcome) :
    ∃ result, outcome = .ok result ∧ Acquired policy events result := by
  rcases h with ⟨reading, tail, rfl, h⟩
  cases reading with
  | error cause =>
      rcases h with ⟨rfl, rfl⟩
      exact ⟨_, rfl, .unread⟩
  | ok saved =>
      rcases h with ⟨enabling, tail, rfl, h⟩
      cases enabling with
      | error cause =>
          rcases h with ⟨answer, tail, rfl, rfl, rfl⟩
          exact ⟨_, rfl, .unswitched⟩
      | ok _ =>
          rcases h with ⟨dual, tail, rfl, h⟩
          change ((bringUp policy).run >>= _).Path tail outcome at h
          rw [Program.path_bind] at h
          rcases h with ⟨why, hpath, -⟩ | ⟨result, front, rest, rfl, hpath, hrest⟩
          · rcases raised_of_path hpath with ⟨result, hresult, -⟩
            exact absurd hresult (by simp only [reduceCtorEq, not_false_eq_true])
          · rcases raised_of_path hpath with ⟨result', hresult, hraised⟩
            rw [← Except.ok.inj hresult] at hraised
            cases result with
            | error failure =>
                rcases hrest with ⟨answer, tail, rfl, rfl, rfl⟩
                exact ⟨_, rfl, .unraised hraised⟩
            | ok controller =>
                rcases hrest with ⟨rfl, rfl⟩
                rw [List.append_nil]
                exact ⟨_, rfl, .acquired hraised⟩

end Binding

namespace Acquired

variable {policy : PollPolicy} {trace : List Event} {saved : PciAttributes} {failure : Error}
  {controller : Controller} {result : Except Error (PciAttributes × Controller)}

/-- The attributes are read first. -/
theorem exists_read (h : Acquired policy trace result) :
    ∃ answer rest, trace = ⟨.attributes, answer⟩ :: rest := by
  cases h with
  | unread | unswitched | unraised _ | acquired _ => exact ⟨_, _, rfl⟩

/-- Nothing follows if they cannot be read. -/
theorem eq_of_unread {cause : BusError} (h : Acquired policy trace result)
    (hread : trace.head? = some ⟨.attributes, .error cause⟩) :
    trace = [⟨.attributes, .error cause⟩] ∧ result = .error (.bus cause) := by
  cases h with
  | unread =>
      cases hread
      exact ⟨rfl, rfl⟩
  | unswitched | unraised _ | acquired _ => cases hread

/-- If they could be read and it ends badly, they are put back. -/
theorem putBack (h : Acquired policy trace (.error failure))
    (hread : trace.head? = some ⟨.attributes, .ok saved⟩) : PutBack saved trace := by
  cases h with
  | unread => cases hread
  | @unswitched _ cause answer =>
      cases hread
      refine ⟨[_, _], answer, rfl, ?_⟩
      exact List.forall_mem_cons.mpr ⟨not_false, List.forall_mem_singleton.mpr not_false⟩
  | @unraised _ dual answer trace _ hraised =>
      cases hread
      exact ⟨_ :: _ :: _ :: trace, answer, rfl, hraised.not_isAssign_of_front⟩

/-- If it ends well, they are what is kept of the function, and are not set. -/
theorem head?_eq (h : Acquired policy trace (.ok (saved, controller))) :
    trace.head? = some ⟨.attributes, .ok saved⟩ := by
  cases h with
  | acquired _ => rfl

theorem not_isAssign (h : Acquired policy trace (.ok (saved, controller))) :
    ∀ event ∈ trace, ¬ event.access.IsAssign := by
  cases h with
  | acquired hraised => exact hraised.not_isAssign_of_front

/-- The end of it was bringing its adapter up. -/
theorem exists_performed (h : Acquired policy trace (.ok (saved, controller))) :
    ∃ front events, trace = front ++ events ∧
      Performed ((BringUp.plan controller.region).map Prod.snd) events (.ok ()) := by
  cases h with
  | acquired hraised =>
      cases hraised with
      | raised _ _ hdone => exact ⟨[_, _, _, _, _], _, rfl, hdone⟩

/-- A function is acquired exactly when every access succeeds, but for the one
    that may fail, and the policy and the buffer serve. -/
theorem ok_iff (h : Acquired policy trace result) :
    (∃ kept, result = .ok kept) ↔
      (∀ event ∈ trace, event.Harmless) ∧ Serves policy trace := by
  cases h with
  | @unread cause =>
      refine exists_ok_iff_of_error fun hall => ?_
      rcases hall.1 _ List.mem_cons_self with hok | hdual
      · exact Option.some_ne_none cause hok
      · exact Access.noConfusion hdual
  | @unswitched _ cause _ =>
      refine exists_ok_iff_of_error fun hall => ?_
      rcases hall.1 _ (List.mem_cons_of_mem _ List.mem_cons_self) with hok | hdual
      · exact Option.some_ne_none cause hok
      · exact absurd (Access.enable.inj hdual) (by decide)
  | unraised hraised =>
      refine exists_ok_iff_of_error fun hall => ?_
      have hok := hraised.exists_ok (fun event hmem => List.mem_cons_of_mem _
        (List.mem_cons_of_mem _ (List.mem_cons_of_mem _ (List.mem_append_left _ hmem)))) hall
      exact not_exists_ok_of_error hok
  | acquired hraised =>
      rcases hraised.ok_iff.mp ⟨_, rfl⟩ with ⟨hok, hcheck, hbuffer⟩
      refine ⟨fun _ => ⟨?_, hcheck, fun buffer hmem => ?_⟩, fun _ => ⟨_, rfl⟩⟩
      · rw [List.forall_mem_cons, List.forall_mem_cons, List.forall_mem_cons]
        exact ⟨.inl rfl, .inl rfl, .inr rfl, fun event hmem => .inl (hok event hmem)⟩
      · have hmem := mem_of_allocate_mem Access.noConfusion hmem
        have hmem := mem_of_allocate_mem Access.noConfusion hmem
        have hmem := mem_of_allocate_mem Access.noConfusion hmem
        exact hbuffer buffer hmem

end Acquired

/-! ## Releasing a function -/

/-- Shutting an adapter down is quieting it. -/
theorem Controller.path_shutdown {c : Controller} {events : List Event}
    {outcome : Except Halt (Except Error Buffer)} (h : c.shutdown.run.Path events outcome) :
    ∃ result, outcome = .ok result ∧ Stepped BringUp.quietPlan events (result.map fun _ => ()) := by
  have hfollows := Attempt.follows_bind BringUp.follows_quiesce fun _ =>
    Attempt.follows_pure c.region.buffer
  rw [List.append_nil] at hfollows
  exact hfollows events outcome h

namespace Binding

variable {φ : Type} {bound : Bound φ} {events : List Event}

/-- Releasing a function always comes to an end. Its adapter is quieted, or left
    at some step of that, and its attributes are put back. -/
theorem exists_stepped_of_release {outcome : Except Halt Unit}
    (h : (release bound).Path events outcome) :
    outcome = .ok () ∧ ∃ result front answer,
      events = front ++ [⟨.assign bound.saved, answer⟩] ∧ Stepped BringUp.quietPlan front result := by
  unfold release at h
  rw [Program.path_bind] at h
  rcases h with ⟨why, hpath, -⟩ | ⟨quieted, front, rest, rfl, hpath, hrest⟩
  · rcases Controller.path_shutdown hpath with ⟨result, hresult, -⟩
    exact absurd hresult (by simp only [reduceCtorEq, not_false_eq_true])
  · rcases Controller.path_shutdown hpath with ⟨result, -, hstepped⟩
    rcases hrest with ⟨answer, tail, rfl, rfl, rfl⟩
    exact ⟨rfl, _, front, answer, rfl, hstepped⟩

end Binding

end FusionMpt
