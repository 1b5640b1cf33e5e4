import FusionMpt.Proofs.Binding.Acquisition
import FusionMpt.Proofs.Binding.Registry
import FusionMpt.Proofs.Controller.Session
import FusionMpt.Proofs.Platform.Playing

/-!
# The Chronicle of a Binding

Functions are started and stopped in any order, and in between their controllers
are used. Each call ends with a result; with what was asked of the machine in it,
it is a `Deed`. A chronicle is a list of deeds, with the binding and the world they
have led to. All functions share one world, of which each has its own view, so
whatever they have to do with each other is allowed for.

A function that is bound belongs to the binding, and nobody else has it to start
it once more.

## Main definitions

* `Deed`, `Chronicle`: What has been done, and where that has led.
* `given`: The handles that have been given out.
* `Orderly`: What a chronicle keeps to.

## Theorems

* `Binding.exists_acquired`, `Binding.exists_released`: What a run of a start
  and of a stop comes to.
* `Binding.get?_keep`, `Binding.get?_without`, `Binding.get?_update`: What is
  bound afterwards.
* `Chronicle.orderly`: Every chronicle keeps to it.
-/

namespace FusionMpt

variable {φ ω : Type}

/-- What has been done with a binding. -/
inductive Deed (φ ω : Type) where
  /-- A function was to be started, and this was the world before. -/
  | started (function : φ) (world : ω) (trace : List Event) (result : Except Error Handle)
  | stopped (handle : Handle) (trace : List Event) (result : Except Error φ)
  /-- The controller of a bound function was used. -/
  | called (handle : Handle) (function : φ) (call : Call) (trace : List Event)
      (result : Except Error Unit)

/-- The handle that was given out. -/
def Deed.given? : Deed φ ω → Option Handle
  | .started _ _ _ (.ok handle) => some handle
  | _ => none

/-- The handles that have been given out, in order. -/
def given (deeds : List (Deed φ ω)) : List Handle :=
  deeds.filterMap Deed.given?

/-- The deeds there may have been, and the binding and the world they lead to.
    The machine is a view of the world for each function. -/
inductive Chronicle (machine : φ → Adapter ω) : List (Deed φ ω) → Binding φ → ω → Prop where
  | opened (policy : PollPolicy) (w : ω) : Chronicle machine [] { policy } w
  | started {deeds : List (Deed φ ω)} {b b' : Binding φ} {w : ω} {function : φ}
      {result : Except Error Handle} (hbefore : Chronicle machine deeds b w)
      (hfree : ∀ handle bound, b.get? handle = some bound → bound.function ≠ function)
      (hrun : ((b.start function).run (machine function) w).outcome = .ok (result, b')) :
      Chronicle machine
        (deeds ++ [.started function w ((b.start function).run (machine function) w).trace result])
        b' ((b.start function).run (machine function) w).state
  | stopped {deeds : List (Deed φ ω)} {b b' : Binding φ} {w : ω} {handle : Handle} {function : φ}
      {result : Except Error φ} (hbefore : Chronicle machine deeds b w)
      (hfunction : ∀ bound, b.get? handle = some bound → bound.function = function)
      (hrun : ((b.stop handle).run (machine function) w).outcome = .ok (result, b')) :
      Chronicle machine
        (deeds ++ [.stopped handle ((b.stop handle).run (machine function) w).trace result])
        b' ((b.stop handle).run (machine function) w).state
  /-- A shutdown takes the controller for good and is left to the binding. -/
  | called {deeds : List (Deed φ ω)} {b : Binding φ} {w : ω} {handle : Handle} {bound : Bound φ}
      {call : Call} {c : Controller} {result : Except Error Unit}
      (hbefore : Chronicle machine deeds b w) (hbound : b.get? handle = some bound)
      (hcall : call ≠ .shutdown)
      (hrun : ((call.perform bound.controller).run (machine bound.function) w).outcome =
        .ok (result, some c)) :
      Chronicle machine
        (deeds ++ [.called handle bound.function call
          ((call.perform bound.controller).run (machine bound.function) w).trace result])
        (b.update handle { bound with controller := c })
        ((call.perform bound.controller).run (machine bound.function) w).state

/-! ## Single calls -/

namespace Binding

variable {b : Binding φ} {handle other : Handle} {bound : Bound φ}

/-- A start always comes to an end: its function is acquired or not, and what
    has been acquired is kept. -/
theorem exists_acquired (b : Binding φ) (function : φ) (adapter : Adapter ω) (w : ω) :
    ∃ acquired, Acquired b.policy ((b.start function).run adapter w).trace acquired ∧
      ((b.start function).run adapter w).outcome = .ok (b.keep function acquired) := by
  rw [start_eq, Program.run_map]
  have hpath := Program.path_run adapter (acquire b.policy).run w
  rcases acquired_of_path hpath with ⟨acquired, hacquired, htrace⟩
  refine ⟨acquired, htrace, ?_⟩
  rw [hacquired]
  rfl

-- What was read first is what the machine has answered first.
theorem answer_of_head? {function : φ} {adapter : Adapter ω} {w : ω} {saved : PciAttributes}
    (h : ((b.start function).run adapter w).trace.head? = some ⟨.attributes, .ok saved⟩) :
    (adapter.answer .attributes w).1 = .ok saved := by
  have hfirst : ((b.start function).run adapter w).trace.head? =
    some ⟨.attributes, (adapter.answer .attributes w).1⟩ := rfl
  exact eq_of_heq (Event.mk.inj (Option.some.inj (hfirst.symm.trans h))).2

/-- A stop of a bound function always comes to an end and gives it back. -/
theorem exists_released (h : b.get? handle = some bound) (adapter : Adapter ω) (w : ω) :
    ((b.stop handle).run adapter w).outcome = .ok (.ok bound.function, b.without handle) ∧
      ∃ result front answer,
        ((b.stop handle).run adapter w).trace = front ++ [⟨.assign bound.saved, answer⟩] ∧
        Stepped BringUp.quietPlan front result := by
  rw [stop_eq h, Program.run_map]
  have hpath := Program.path_run adapter (release bound) w
  rcases exists_stepped_of_release hpath with ⟨hreleased, htrace⟩
  refine ⟨?_, htrace⟩
  rw [hreleased]
  rfl

theorem get?_keep (b : Binding φ) (function : φ) (saved : PciAttributes) (controller : Controller)
    (other : Handle) :
    (b.keep function (.ok (saved, controller))).2.get? other =
      if other = ⟨b.controllers.next⟩ then some { function, saved, controller }
      else b.get? other :=
  Registry.get?_insert _ _ _

theorem get?_without (b : Binding φ) (handle other : Handle) :
    (b.without handle).get? other = if other = handle then none else b.get? other :=
  Registry.get?_erase _ _ _

theorem get?_update (h : b.get? handle = some bound) (other : Handle) (bound' : Bound φ) :
    (b.update handle bound').get? other =
      if other = handle then some bound' else b.get? other := by
  unfold get? at h
  unfold get? update
  rw [Registry.get?_set, h]
  rfl

theorem get?_eq_none_iff : b.get? handle = none ↔ handle ∉ b.handles :=
  Registry.get?_eq_none_iff

theorem mem_handles (h : b.get? handle = some bound) : handle ∈ b.handles :=
  List.mem_map.mpr ⟨_, Registry.mem_of_get?_eq_some h, rfl⟩

end Binding

/-! ## Whole chronicles -/

theorem given_append (front rest : List (Deed φ ω)) :
    given (front ++ rest) = given front ++ given rest :=
  List.filterMap_append

/-- What a chronicle keeps to: handles are told apart and given out in ascending
    order, and what is said of the attributes of a bound function is what was
    read when it was started. -/
structure Orderly (machine : φ → Adapter ω) (deeds : List (Deed φ ω)) (b : Binding φ) : Prop where
  distinct : b.handles.Nodup
  /-- Until the numbers run out. -/
  ascending : (given deeds).length + 1 < UInt64.size →
    b.controllers.next.toNat = (given deeds).length + 1 ∧
      ∀ earlier ∈ given deeds, earlier.number < b.controllers.next
  original : ∀ handle bound, b.get? handle = some bound →
    ∃ world trace, Deed.started bound.function world trace (.ok handle) ∈ deeds ∧
      trace.head? = some ⟨.attributes, .ok bound.saved⟩ ∧
      ((machine bound.function).answer .attributes world).1 = .ok bound.saved

namespace Orderly

variable {machine : φ → Adapter ω} {deeds : List (Deed φ ω)} {b b' : Binding φ}

/-- Every handle in use has been given out. -/
theorem mem_given (h : Orderly machine deeds b) {handle : Handle} (hmem : handle ∈ b.handles) :
    handle ∈ given deeds := by
  cases hget : b.get? handle with
  | none => exact absurd hmem (Binding.get?_eq_none_iff.mp hget)
  | some bound =>
      rcases h.original handle bound hget with ⟨world, trace, hdeed, -⟩
      exact List.mem_filterMap.mpr ⟨_, hdeed, rfl⟩

/-- As long as the numbers last, the next handle is not in use. -/
theorem get?_next (h : Orderly machine deeds b) (hroom : (given deeds).length + 1 < UInt64.size) :
    b.get? ⟨b.controllers.next⟩ = none := by
  rw [Binding.get?_eq_none_iff]
  intro hmem
  have hlt := (h.ascending hroom).2 _ (h.mem_given hmem)
  exact absurd hlt (UInt64.lt_irrefl _)

/-- A deed that gives no handle out keeps to it if all that is bound was bound
    before. -/
theorem snoc {deed : Deed φ ω} (h : Orderly machine deeds b) (hgiven : deed.given? = none)
    (hdistinct : b'.handles.Nodup) (hnext : b'.controllers.next = b.controllers.next)
    (hbound : ∀ handle bound, b'.get? handle = some bound →
      ∃ before, b.get? handle = some before ∧ bound.function = before.function ∧
        bound.saved = before.saved) :
    Orderly machine (deeds ++ [deed]) b' where
  distinct := hdistinct
  ascending := by
    have hsame : given (deeds ++ [deed]) = given deeds := by
      rw [given_append]
      change _ ++ [deed].filterMap _ = _
      rw [List.filterMap_cons_none hgiven, List.filterMap_nil, List.append_nil]
    rw [hsame, hnext]
    exact h.ascending
  original := by
    intro handle bound hget
    rcases hbound handle bound hget with ⟨before, hbefore, hfunction, hsaved⟩
    rcases h.original handle before hbefore with ⟨world, trace, hdeed, hread⟩
    rw [hfunction, hsaved]
    exact ⟨world, trace, List.mem_append_left _ hdeed, hread⟩

/-- So does a start that goes well. -/
theorem keep {function : φ} {w : ω} {trace : List Event} {saved : PciAttributes}
    {controller : Controller} (h : Orderly machine deeds b)
    (hhead : trace.head? = some ⟨.attributes, .ok saved⟩)
    (hread : ((machine function).answer .attributes w).1 = .ok saved) :
    Orderly machine (deeds ++ [.started function w trace (.ok ⟨b.controllers.next⟩)])
      (b.keep function (.ok (saved, controller))).2 where
  distinct := Registry.nodup_insert h.distinct _
  ascending := by
    intro hroom
    have hlength : given (deeds ++ [.started function w trace (.ok ⟨b.controllers.next⟩)]) =
        given deeds ++ [⟨b.controllers.next⟩] :=
      given_append _ _
    rw [hlength, List.length_append, List.length_singleton] at hroom ⊢
    rcases h.ascending (by omega) with ⟨hnext, hbelow⟩
    have hlast : b.controllers.next.toNat + 1 < UInt64.size := by
      omega
    refine ⟨?_, fun earlier hmem => ?_⟩
    · change (b.controllers.insert _).2.next.toNat = _
      rw [Registry.toNat_next_insert hlast, hnext]
    · have hnew := Registry.next_lt_next_insert hlast
        ({ function, saved, controller } : Bound φ)
      rcases List.mem_append.mp hmem with hmem | hmem
      · exact UInt64.lt_trans (hbelow earlier hmem) hnew
      · rw [List.mem_singleton.mp hmem]
        exact hnew
  original := by
    intro handle bound hget
    rw [Binding.get?_keep] at hget
    by_cases hnew : handle = ⟨b.controllers.next⟩
    · rw [if_pos hnew, Option.some.injEq] at hget
      rw [← hget, hnew]
      exact ⟨w, trace, List.mem_append_right _ List.mem_cons_self, hhead, hread⟩
    · rw [if_neg hnew] at hget
      rcases h.original handle bound hget with ⟨world, trace, hdeed, hread⟩
      exact ⟨world, trace, List.mem_append_left _ hdeed, hread⟩

end Orderly

namespace Chronicle

variable {machine : φ → Adapter ω} {deeds : List (Deed φ ω)} {b : Binding φ} {w : ω}

theorem orderly (h : Chronicle machine deeds b w) : Orderly machine deeds b := by
  induction h with
  | opened policy w =>
      refine ⟨List.nodup_nil, fun _ => ⟨rfl, fun earlier hmem => ?_⟩, fun handle bound hget => ?_⟩
      · exact absurd hmem List.not_mem_nil
      · have hnone : (none : Option (Bound φ)) = some bound := hget
        exact absurd hnone.symm (Option.some_ne_none bound)
  | @started deeds b b' w function result hbefore hfree hrun ih =>
      rcases b.exists_acquired function (machine function) w with ⟨acquired, hacquired, houtcome⟩
      rw [houtcome, Except.ok.injEq] at hrun
      cases acquired with
      | error failure =>
          cases hrun
          exact ih.snoc rfl ih.distinct rfl fun handle bound hget => ⟨bound, hget, rfl, rfl⟩
      | ok kept =>
          cases hrun
          exact ih.keep hacquired.head?_eq (Binding.answer_of_head? hacquired.head?_eq)
  | @stopped deeds b b' w handle function result hbefore hfunction hrun ih =>
      cases hget : b.get? handle with
      | none =>
          rw [Binding.stop_unknown hget] at hrun
          cases hrun
          exact ih.snoc rfl ih.distinct rfl fun handle bound hget => ⟨bound, hget, rfl, rfl⟩
      | some bound =>
          rw [(Binding.exists_released hget _ _).1, Except.ok.injEq] at hrun
          cases hrun
          refine ih.snoc rfl (Registry.nodup_erase ih.distinct handle) rfl fun other bound' hother => ?_
          rw [Binding.get?_without] at hother
          by_cases heq : other = handle
          · rw [if_pos heq] at hother
            exact absurd hother (by simp only [reduceCtorEq, not_false_eq_true])
          · rw [if_neg heq] at hother
            exact ⟨bound', hother, rfl, rfl⟩
  | @called deeds b w handle bound call c result hbefore hbound hcall hrun ih =>
      refine ih.snoc rfl ?_ rfl fun other bound' hother => ?_
      · change (b.controllers.set handle _).handles.Nodup
        rw [Registry.handles_set]
        exact ih.distinct
      · rw [Binding.get?_update hbound] at hother
        by_cases heq : other = handle
        · rw [if_pos heq, Option.some.injEq] at hother
          rw [heq, ← hother]
          exact ⟨bound, hbound, rfl, rfl⟩
        · rw [if_neg heq] at hother
          exact ⟨bound', hother, rfl, rfl⟩

end Chronicle

end FusionMpt
