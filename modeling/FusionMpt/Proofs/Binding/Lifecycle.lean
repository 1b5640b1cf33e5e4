import FusionMpt.Proofs.Binding.Chronicle
import FusionMpt.Proofs.Controller.Course

/-!
# Starting and Stopping Leave Nothing Behind

A start either keeps a function or leaves everything as it was, and a stop gives
a function back as it was before it was started. Between the two the binding has
one entry more, under a handle larger than any that was given before.

That nothing is left behind is said in two ways. By what was asked of the
machine: the attributes read first are set again last, once, unless the function
is kept. And by what the machine then is, if its attributes are switches like
others: reading tells how they are set, switching on adds, and setting replaces
and does not fail.

## Main definitions

* `Starts`, `Stops`: What a start and a stop come to.
* `Adapter.Switches`: Attributes that are switches like others.
* `Restores`: How they are set after a start and after a stop.

## Theorems

* `Adapter.answer_of_run`: What an event says is what the machine answered.
* `Adapter.Switches.bits_putBack`, `Adapter.Switches.bits_acquired`: How the
  switches are set afterwards.
* `Orderly.starts`, `Orderly.stops`, `Orderly.restores`: What a start and a stop
  come to, whatever has been before.
* `Chronicle.starts_and_stops`: All of these together.
-/

namespace FusionMpt

variable {φ ω : Type}

/-! ## What starts and stops come to -/

/-- What a start comes to, given what has been done before. -/
structure Starts (deeds : List (Deed φ ω)) (b : Binding φ) (function : φ) (trace : List Event)
    (result : Except Error Handle) (b' : Binding φ) : Prop where
  /-- The attributes are read first. -/
  reads : ∃ answer rest, trace = ⟨.attributes, answer⟩ :: rest
  /-- If they cannot be read, nothing else is done. -/
  unread : ∀ cause, trace.head? = some ⟨.attributes, .error cause⟩ →
    trace = [⟨.attributes, .error cause⟩] ∧ result = .error (.bus cause) ∧ b' = b
  /-- If it fails later, they are put back, and the binding is what it was. -/
  failed : ∀ saved failure, trace.head? = some ⟨.attributes, .ok saved⟩ →
    result = .error failure → b' = b ∧ PutBack saved trace
  /-- One access may fail; if no other does, and nothing is refused, it goes
      well. -/
  succeeds : (∃ handle, result = .ok handle) ↔
    (∀ event ∈ trace, event.Harmless) ∧ Serves b.policy trace
  /-- If it goes well, they are kept and not set, and nothing else that is bound
      has changed. -/
  kept : ∀ handle, result = .ok handle → (∀ event ∈ trace, ¬ event.access.IsAssign) ∧
    ∃ saved controller, trace.head? = some ⟨.attributes, .ok saved⟩ ∧
      ∀ other, b'.get? other =
        if other = handle then some { function, saved, controller } else b.get? other
  /-- The handle is larger than those before, and its entry is the only new one. -/
  fresh : ∀ handle, result = .ok handle → (given deeds).length + 1 < UInt64.size →
    (∀ earlier ∈ given deeds, earlier.number < handle.number) ∧
    ∃ bound, b'.get? handle = some bound ∧
      b'.controllers.entries = b.controllers.entries ++ [(handle, bound)]

/-- What a stop comes to, given what has been done before. -/
structure Stops (deeds : List (Deed φ ω)) (b : Binding φ) (handle : Handle) (trace : List Event)
    (result : Except Error φ) (b' : Binding φ) : Prop where
  /-- It fails for one reason only. -/
  fails : ∀ failure, result = .error failure ↔ failure = .notFound ∧ handle ∉ b.handles
  /-- A handle that is not in use finds nothing, and nothing is done. -/
  unknown : handle ∉ b.handles → trace = [] ∧ b' = b
  /-- One that is in use finds its function, which is given back with the
      attributes that were read when it was started. Its entry goes and no other. -/
  known : ∀ bound, b.get? handle = some bound → result = .ok bound.function ∧
    PutBack bound.saved trace ∧
    (∃ world first, Deed.started bound.function world first (.ok handle) ∈ deeds ∧
      first.head? = some ⟨.attributes, .ok bound.saved⟩) ∧
    b'.controllers.next = b.controllers.next ∧
    ∃ front back, b.controllers.entries = front ++ (handle, bound) :: back ∧
      b'.controllers.entries = front ++ back

namespace Binding

variable {b : Binding φ} {handle : Handle} {function : φ} {bound : Bound φ}

theorem exists_keep_ok_iff {acquired : Except Error (PciAttributes × Controller)} :
    (∃ handle, (b.keep function acquired).1 = .ok handle) ↔ ∃ kept, acquired = .ok kept := by
  cases acquired with
  | error failure => exact iff_of_false not_exists_ok_of_error not_exists_ok_of_error
  | ok kept => exact iff_of_true ⟨_, rfl⟩ ⟨_, rfl⟩

/-- A released function has had its attributes put back. -/
theorem putBack_of_release (h : b.get? handle = some bound) (adapter : Adapter ω) (w : ω) :
    PutBack bound.saved ((b.stop handle).run adapter w).trace := by
  rcases (exists_released h adapter w).2 with ⟨_, front, answer, htrace, hstepped⟩
  refine ⟨front, answer, htrace, fun event hmem hassign => ?_⟩
  have hregister := BringUp.isRegister_quietPlan _ (hstepped.mem event hmem)
  exact hregister.not_isSwitch hassign.isSwitch

end Binding

namespace Orderly

variable {machine : φ → Adapter ω} {deeds : List (Deed φ ω)} {b : Binding φ}

theorem starts {function : φ} {trace : List Event}
    {acquired : Except Error (PciAttributes × Controller)} (h : Orderly machine deeds b)
    (hacquired : Acquired b.policy trace acquired) :
    Starts deeds b function trace (b.keep function acquired).1 (b.keep function acquired).2 where
  reads := hacquired.exists_read
  unread := by
    intro cause hread
    rcases hacquired.eq_of_unread hread with ⟨htrace, rfl⟩
    exact ⟨htrace, rfl, rfl⟩
  failed := by
    intro saved failure hread hresult
    cases acquired with
    | error failure' => exact ⟨rfl, hacquired.putBack hread⟩
    | ok kept => exact absurd hresult (by simp only [Binding.keep, reduceCtorEq, not_false_eq_true])
  succeeds := by rw [Binding.exists_keep_ok_iff, hacquired.ok_iff]
  kept := by
    intro handle hresult
    cases acquired with
    | error failure =>
        exact absurd hresult (by simp only [Binding.keep, reduceCtorEq, not_false_eq_true])
    | ok kept =>
        refine ⟨hacquired.not_isAssign, kept.1, kept.2, hacquired.head?_eq, fun other => ?_⟩
        rw [← Except.ok.inj hresult]
        exact Binding.get?_keep b function kept.1 kept.2 other
  fresh := by
    intro handle hresult hroom
    cases acquired with
    | error failure =>
        exact absurd hresult (by simp only [Binding.keep, reduceCtorEq, not_false_eq_true])
    | ok kept =>
        rw [← Except.ok.inj hresult]
        refine ⟨(h.ascending hroom).2, _, ?_, Registry.entries_insert (h.get?_next hroom)⟩
        exact (Binding.get?_keep b function kept.1 kept.2 _).trans (if_pos rfl)

theorem stops {handle : Handle} {adapter : Adapter ω} {w : ω}
    (h : Orderly machine deeds b) :
    ∃ result b', ((b.stop handle).run adapter w).outcome = .ok (result, b') ∧
      Stops deeds b handle ((b.stop handle).run adapter w).trace result b' := by
  cases hget : b.get? handle with
  | none =>
      have hnot := Binding.get?_eq_none_iff.mp hget
      refine ⟨.error .notFound, b, ?_, ?_, fun _ => ?_, fun bound hbound => ?_⟩
      · rw [Binding.stop_unknown hget]
        rfl
      · intro failure
        rw [Except.error.injEq]
        exact ⟨fun heq => ⟨heq.symm, hnot⟩, fun hall => hall.1.symm⟩
      · rw [Binding.stop_unknown hget]
        exact ⟨rfl, rfl⟩
      · rw [hget] at hbound
        exact absurd hbound.symm (Option.some_ne_none bound)
  | some bound =>
      have hin := Binding.mem_handles hget
      refine ⟨.ok bound.function, b.without handle, (Binding.exists_released hget adapter w).1, ?_,
        fun hnot => absurd hin hnot, fun bound' hbound => ?_⟩
      · intro failure
        exact iff_of_false (by simp only [reduceCtorEq, not_false_eq_true]) fun hall => hall.2 hin
      · rw [hget, Option.some.injEq] at hbound
        rw [← hbound]
        rcases h.original handle bound hget with ⟨world, first, hdeed, hread, -⟩
        exact ⟨rfl, Binding.putBack_of_release hget adapter w, ⟨world, first, hdeed, hread⟩, rfl,
          Registry.exists_entries_erase h.distinct hget⟩

end Orderly

/-! ## Switches -/

namespace Adapter

variable {α : Type}

/-- What an event says is what the machine answered when it was asked. -/
theorem answer_of_run {adapter : Adapter ω} {program : Program α} {w : ω} (front : List Event)
    {event : Event} {rest : List Event} (h : (program.run adapter w).trace = front ++ event :: rest) :
    event.answer = (adapter.answer event.access (adapter.after front w)).1 := by
  induction program generalizing front w with
  | done value => exact absurd h.symm (List.append_ne_nil_of_right_ne_nil _ (List.cons_ne_nil _ _))
  | halt why => exact absurd h.symm (List.append_ne_nil_of_right_ne_nil _ (List.cons_ne_nil _ _))
  | call access next ih =>
      cases front with
      | nil =>
          rcases List.cons.inj h with ⟨rfl, -⟩
          rfl
      | cons first front =>
          rcases List.cons.inj h with ⟨rfl, hrest⟩
          have htail := ih _ _ hrest
          exact htail

/-- The attributes are switches: reading tells how they are set, switching on
    adds, setting replaces and does not fail, and nothing else moves them. -/
structure Switches (adapter : Adapter ω) (bits : ω → PciAttributes) : Prop where
  reports : ∀ w saved, (adapter.answer .attributes w).1 = .ok saved → saved = bits w
  enables : ∀ switched w, (adapter.answer (.enable switched) w).1 = .ok () →
    bits (adapter.answer (.enable switched) w).2 = bits w ||| switched
  refuses : ∀ switched cause w, (adapter.answer (.enable switched) w).1 = .error cause →
    bits (adapter.answer (.enable switched) w).2 = bits w
  assigns : ∀ attributes w, (adapter.answer (.assign attributes) w).1 = .ok () ∧
    bits (adapter.answer (.assign attributes) w).2 = attributes
  keeps : ∀ access w, ¬ access.IsSwitch → bits (adapter.answer access w).2 = bits w

namespace Switches

variable {adapter : Adapter ω} {bits : ω → PciAttributes} {w : ω} {trace : List Event}

/-- Where attributes were put back, that is how they are set. -/
theorem bits_putBack {saved : PciAttributes} (h : adapter.Switches bits)
    (hback : PutBack saved trace) : bits (adapter.after trace w) = saved := by
  rcases hback with ⟨front, answer, rfl, -⟩
  rw [after_append]
  exact (h.assigns saved _).2

theorem bits_after (h : adapter.Switches bits) (htrace : ∀ event ∈ trace, ¬ event.access.IsSwitch) :
    bits (adapter.after trace w) = bits w :=
  view_after h.keeps htrace w

/-- How they are set when a function has been acquired: as before, with what was
    switched on. -/
theorem bits_acquired {α : Type} {program : Program α} {policy : PollPolicy}
    {kept : PciAttributes × Controller} (h : adapter.Switches bits)
    (hacquired : Acquired policy (program.run adapter w).trace (.ok kept)) :
    ∃ dual : Except BusError Unit,
      (⟨.enable PciAttributes.dualAddressCycle, dual⟩ : Event) ∈ (program.run adapter w).trace ∧
      bits (program.run adapter w).state =
        let before := bits w ||| (PciAttributes.io ||| PciAttributes.busMaster)
        match dual with
        | .ok _ => before ||| PciAttributes.dualAddressCycle
        | .error _ => before := by
  rw [← adapter.after_run]
  generalize htrace : (program.run adapter w).trace = trace at hacquired
  cases hacquired with
  | @acquired saved dual trace controller hraised =>
      refine ⟨dual, List.mem_cons_of_mem _ (List.mem_cons_of_mem _ List.mem_cons_self), ?_⟩
      have hread := h.keeps .attributes w not_false
      have hswitched := h.enables _ _ (answer_of_run [_] htrace).symm
      change bits (adapter.after trace _) = _
      rw [h.bits_after hraised.not_isSwitch, ← hread]
      -- what the last of the switches does depends on its answer
      cases dual with
      | ok _ =>
          have hdual := h.enables _ _ (answer_of_run [_, _] htrace).symm
          exact hdual.trans (congrArg (· ||| PciAttributes.dualAddressCycle) hswitched)
      | error cause =>
          have hdual := h.refuses _ _ _ (answer_of_run [_, _] htrace).symm
          exact hdual.trans hswitched

end Switches

end Adapter

/-- How the switches of a function are set after a start and after a stop, given
    what has been done before. -/
structure Restores (machine : φ → Adapter ω) (deeds : List (Deed φ ω)) (b : Binding φ) (w : ω)
    (function : φ) (bits : ω → PciAttributes) : Prop where
  /-- As before, if the function could not be started. -/
  unstarted : ∀ failure b',
    ((b.start function).run (machine function) w).outcome = .ok (.error failure, b') →
    bits ((b.start function).run (machine function) w).state = bits w
  /-- With what was switched on, if it was. -/
  started : ∀ handle b',
    ((b.start function).run (machine function) w).outcome = .ok (.ok handle, b') →
    ∃ dual : Except BusError Unit,
      (⟨.enable PciAttributes.dualAddressCycle, dual⟩ : Event) ∈
        ((b.start function).run (machine function) w).trace ∧
      bits ((b.start function).run (machine function) w).state =
        let before := bits w ||| (PciAttributes.io ||| PciAttributes.busMaster)
        match dual with
        | .ok _ => before ||| PciAttributes.dualAddressCycle
        | .error _ => before
  /-- As before the start, when it is stopped. -/
  stopped : ∀ handle bound, b.get? handle = some bound → bound.function = function →
    ∃ world first, Deed.started function world first (.ok handle) ∈ deeds ∧
      bits ((b.stop handle).run (machine function) w).state = bits world

namespace Orderly

variable {machine : φ → Adapter ω} {deeds : List (Deed φ ω)} {b : Binding φ} {w : ω} {function : φ}
  {bits : ω → PciAttributes}

theorem restores (h : Orderly machine deeds b) (hswitches : (machine function).Switches bits) :
    Restores machine deeds b w function bits := by
  rcases b.exists_acquired function (machine function) w with ⟨acquired, hacquired, houtcome⟩
  refine ⟨fun failure b' hrun => ?_, fun handle b' hrun => ?_, fun handle bound hget heq => ?_⟩
  · rw [houtcome] at hrun
    cases acquired with
    | ok kept => exact absurd hrun (by simp [Binding.keep])
    | error failure' =>
        rcases hacquired.exists_read with ⟨answer, rest, htrace⟩
        rw [← (machine function).after_run]
        cases answer with
        | error cause =>
            -- nothing but the read was done
            have hread := (hacquired.eq_of_unread (by rw [htrace]; rfl)).1
            rw [hread]
            exact hswitches.keeps _ _ not_false
        | ok saved =>
            have hhead : ((b.start function).run (machine function) w).trace.head? =
                some ⟨.attributes, .ok saved⟩ := by
              rw [htrace]
              rfl
            rw [hswitches.bits_putBack (hacquired.putBack hhead)]
            exact hswitches.reports w saved (Binding.answer_of_head? hhead)
  · rw [houtcome] at hrun
    cases acquired with
    | error failure => exact absurd hrun (by simp [Binding.keep])
    | ok kept => exact hswitches.bits_acquired hacquired
  · rcases h.original handle bound hget with ⟨world, first, hdeed, -, hread⟩
    rw [heq] at hdeed hread
    refine ⟨world, first, hdeed, ?_⟩
    rw [← (machine function).after_run,
      hswitches.bits_putBack (Binding.putBack_of_release hget (machine function) w)]
    exact hswitches.reports world bound.saved hread

end Orderly

namespace Chronicle

variable {machine : φ → Adapter ω} {deeds : List (Deed φ ω)} {b : Binding φ} {w : ω}

/-- Whatever has been done with a binding, and whichever accesses fail, a start
    keeps its function under a new handle or leaves all as it was, and a stop
    undoes what the start has done. -/
theorem starts_and_stops (h : Chronicle machine deeds b w) :
    (∀ function, ∃ result b',
      ((b.start function).run (machine function) w).outcome = .ok (result, b') ∧
      Starts deeds b function ((b.start function).run (machine function) w).trace result b') ∧
    (∀ handle function, ∃ result b',
      ((b.stop handle).run (machine function) w).outcome = .ok (result, b') ∧
      Stops deeds b handle ((b.stop handle).run (machine function) w).trace result b') ∧
    (∀ function bits, (machine function).Switches bits →
      Restores machine deeds b w function bits) := by
  refine ⟨fun function => ?_, fun handle function => h.orderly.stops,
    fun function bits => h.orderly.restores⟩
  rcases b.exists_acquired function (machine function) w with ⟨acquired, hacquired, houtcome⟩
  exact ⟨_, _, houtcome, h.orderly.starts hacquired⟩

/-- A machine whose one state is how the attributes are set. -/
def switchboard : Adapter PciAttributes where
  answer
    | .attributes, bits => (.ok bits, bits)
    | .enable switched, bits => (.ok (), bits ||| switched)
    | .assign attributes, _ => (.ok (), attributes)
    | access, bits => (((Controller.steady (fun _ => 0) true).answer access ()).1, bits)

theorem switches_switchboard : switchboard.Switches id where
  reports _ _ h := (Except.ok.inj h).symm
  enables _ _ _ := rfl
  refuses _ _ _ h := absurd h (by simp only [switchboard, reduceCtorEq, not_false_eq_true])
  assigns _ _ := ⟨rfl, rfl⟩
  keeps access w h := by
    cases access with
    | enable attributes | assign attributes => exact absurd trivial h
    | _ => rfl

/-- Started and stopped, a function that answered to memory cycles does so again. -/
theorem starts_and_stops_of_switchboard :
    ∃ deeds b, Chronicle (fun _ : Unit => switchboard) deeds b ⟨0x8700⟩ ∧
      b.handles = [⟨1⟩] ∧
      ((b.stop ⟨1⟩).run switchboard ⟨0x8700⟩).state = ⟨0x0200⟩ := by
  have hopened : Chronicle (fun _ : Unit => switchboard) [] {} ⟨0x0200⟩ := .opened {} _
  have hstart : ((({} : Binding Unit).start ()).run switchboard ⟨0x0200⟩).outcome =
    .ok (({} : Binding Unit).keep () (.ok (⟨0x0200⟩, Controller.sample))) := rfl
  have hstarted := Chronicle.started hopened (fun _ _ => nofun) hstart
  rcases ((starts_and_stops hstarted).2.2 () id switches_switchboard).stopped ⟨1⟩ _ rfl rfl with
    ⟨world, first, hdeed, hbits⟩
  -- there was one start, and the world before it is known
  have hworld := (Deed.started.inj (List.mem_singleton.mp hdeed)).2.1
  exact ⟨_, _, hstarted, rfl, hbits.trans hworld⟩

end Chronicle

end FusionMpt
