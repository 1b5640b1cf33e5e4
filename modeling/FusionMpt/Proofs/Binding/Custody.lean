import FusionMpt.Proofs.Binding.Chronicle
import FusionMpt.Proofs.Controller.HalfDone

/-!
# Who Has the Buffer of a Live Adapter

An adapter that has been brought up may write to its buffer until it has been
quieted. Until then somebody has to keep the buffer for it, and that is the
controller. A shutdown that fails gives the controller back for this reason.

Stopping a function shuts its controller down and does not ask how that went. If
the adapter could not be quieted, the controller is gone all the same, and
nobody keeps the buffer of an adapter that is still live. This is the only way it
comes about: an adapter that is live has its controller in the binding exactly
as long as it has not been forsaken by a stop.

Whether an adapter is live is told from what was asked of it, and so is whether
a stop has forsaken it. Either ends when the adapter is quieted, which bringing
it up begins with.

## Main definitions

* `Since`: Something was done, and something else not since.
* `Deed.BringsUp`, `Deed.Quiets`, `Deed.Forsakes`: The adapter of a function was
  brought up, was quieted, or could not be quieted by a stop.
* `Live`, `Forsaken`: What these come to.
* `Binding.Holds`: A controller is kept for a function, and a region for its
  adapter.

## Theorems

* `Deed.BringsUp.quiets`: Bringing an adapter up quiets it.
* `Deed.quiets_or_forsakes`: A stop does either.
* `Chronicle.entrusted`: What is bound, by what has been done.
* `Chronicle.holds_iff`: When the buffer of a live adapter is kept.
* `Chronicle.live_and_dropped`: An adapter whose buffer is not.
-/

namespace FusionMpt

variable {φ ω : Type}

/-! ## What has been done since -/

/-- Something of one kind is in the list, and nothing of the other kind behind
    it. -/
inductive Since {α : Type} (kind other : α → Prop) : List α → Prop where
  | now {before : List α} {last : α} (h : kind last) : Since kind other (before ++ [last])
  | still {before : List α} {last : α} (h : Since kind other before) (hother : ¬ other last) :
      Since kind other (before ++ [last])

section Since

variable {α : Type} {kind other : α → Prop} {before : List α} {last : α}

theorem not_since_nil : ¬ Since kind other [] := by
  intro h
  generalize hlist : ([] : List α) = list at h
  cases h with
  | now _ | still _ _ =>
      exact List.append_ne_nil_of_right_ne_nil _ (List.cons_ne_nil _ _) hlist.symm

theorem since_snoc :
    Since kind other (before ++ [last]) ↔ kind last ∨ Since kind other before ∧ ¬ other last := by
  constructor
  · intro h
    generalize hlist : before ++ [last] = list at h
    cases h with
    | now h =>
        rcases List.append_inj' hlist rfl with ⟨-, hlast⟩
        rw [List.singleton_inj.mp hlast]
        exact Or.inl h
    | still h hother =>
        rcases List.append_inj' hlist rfl with ⟨hbefore, hlast⟩
        rw [hbefore, List.singleton_inj.mp hlast]
        exact Or.inr ⟨h, hother⟩
  · intro h
    rcases h with h | ⟨h, hother⟩
    · exact .now h
    · exact .still h hother

/-- What is of neither kind makes no difference. -/
theorem since_snoc_of_neither (hkind : ¬ kind last) (hother : ¬ other last) :
    Since kind other (before ++ [last]) ↔ Since kind other before := by
  rw [since_snoc]
  exact ⟨fun h => (h.resolve_left hkind).1, fun h => Or.inr ⟨h, hother⟩⟩

end Since

/-! ## Live adapters -/

namespace Deed

/-- The function to whose adapter something was done. -/
def function? : Deed φ ω → Option φ
  | .started function _ _ _ => some function
  | .stopped _ _ (.ok function) => some function
  | .stopped _ _ (.error _) => none
  | .called _ function _ _ _ => some function

/-- What was asked of the machine. -/
def trace : Deed φ ω → List Event
  | .started _ _ trace _ => trace
  | .stopped _ trace _ => trace
  | .called _ _ _ trace _ => trace

/-- These accesses were made in a row, and none of them failed. -/
def Makes (accesses : List Access) (deed : Deed φ ω) : Prop :=
  ∃ front events rest, deed.trace = front ++ events ++ rest ∧ Performed accesses events (.ok ())

/-- The function's adapter was quieted. -/
def Quiets (function : φ) (deed : Deed φ ω) : Prop :=
  deed.function? = some function ∧ deed.Makes (BringUp.quietPlan.map Prod.snd)

/-- The function's adapter was brought up with this region: the function was
    started, or its controller restarted, and that went well. -/
def BringsUp (function : φ) (region : Region) (deed : Deed φ ω) : Prop :=
  deed.function? = some function ∧ deed.Makes ((BringUp.plan region).map Prod.snd) ∧
    match deed with
    | .started _ _ _ (.ok _) => True
    | .called _ _ .restart _ (.ok ()) => True
    | _ => False

/-- The function was stopped, and an access to a register of its adapter failed. -/
def Forsakes (function : φ) (deed : Deed φ ω) : Prop :=
  deed.function? = some function ∧
    (∃ event ∈ deed.trace, BringUp.IsRegister event.access ∧ event.failure? ≠ none) ∧
    match deed with
    | .stopped .. => True
    | _ => False

end Deed

/-- The function's adapter has been brought up with this region, and not quieted
    since. -/
def Live (function : φ) (region : Region) (deeds : List (Deed φ ω)) : Prop :=
  Since (Deed.BringsUp function region) (Deed.Quiets function) deeds

/-- The function has been stopped with an adapter that could not be quieted, and
    that has not been quieted since. -/
def Forsaken (function : φ) (deeds : List (Deed φ ω)) : Prop :=
  Since (Deed.Forsakes function) (Deed.Quiets function) deeds

/-- A controller is kept for the function, and with it this region. -/
def Binding.Holds (b : Binding φ) (function : φ) (region : Region) : Prop :=
  ∃ handle bound, b.get? handle = some bound ∧ bound.function = function ∧
    bound.controller.region = region

namespace Deed

variable {function : φ} {region : Region} {deed : Deed φ ω} {deeds : List (Deed φ ω)}

/-- Bringing an adapter up begins with quieting it. -/
theorem BringsUp.quiets (h : deed.BringsUp function region) : deed.Quiets function := by
  rcases h with ⟨hfunction, ⟨front, events, rest, htrace, hdone⟩, -⟩
  rw [BringUp.plan, List.map_append] at hdone
  rcases hdone.exists_parts with ⟨quieting, others, rfl, hquiet, -⟩
  refine ⟨hfunction, front, quieting, others ++ rest, ?_, hquiet⟩
  rw [htrace, List.append_assoc, List.append_assoc, List.append_assoc]

/-- A function that was acquired has had its adapter brought up. -/
theorem bringsUp_of_acquired {policy : PollPolicy} {trace : List Event} {saved : PciAttributes}
    {controller : Controller} {handle : Handle} {w : ω}
    (h : Acquired policy trace (.ok (saved, controller))) :
    (.started function w trace (.ok handle) : Deed φ ω).BringsUp function controller.region := by
  rcases h.exists_performed with ⟨front, events, htrace, hdone⟩
  refine ⟨rfl, ⟨front, events, [], ?_, hdone⟩, trivial⟩
  rw [List.append_nil]
  exact htrace

/-- A stop quiets the adapter or forsakes it. -/
theorem quiets_or_forsakes {b : Binding φ} {handle : Handle} {bound : Bound φ}
    {adapter : Adapter ω} {w : ω} (h : b.get? handle = some bound) :
    let deed : Deed φ ω := .stopped handle ((b.stop handle).run adapter w).trace (.ok bound.function)
    deed.Quiets bound.function ∨ deed.Forsakes bound.function := by
  rcases (Binding.exists_released h adapter w).2 with ⟨result, front, answer, htrace, hstepped⟩
  cases result with
  | ok _ => exact Or.inl ⟨rfl, [], front, _, htrace, hstepped.performed⟩
  | error failure =>
      rcases hstepped.exists_failed with ⟨event, hmem, hfailed⟩
      refine Or.inr ⟨rfl, ⟨event, ?_, ?_, hfailed⟩, trivial⟩
      · change event ∈ ((b.stop handle).run adapter w).trace
        rw [htrace]
        exact List.mem_append_left _ hmem
      · exact BringUp.isRegister_quietPlan _ (hstepped.mem event hmem)

/-- What is done to another function's adapter makes no difference. -/
theorem since_snoc_of_other {kind : Deed φ ω → Prop}
    (hkind : kind deed → deed.function? = some function) (hother : deed.function? ≠ some function) :
    Since kind (Quiets function) (deeds ++ [deed]) ↔ Since kind (Quiets function) deeds :=
  since_snoc_of_neither (fun h => hother (hkind h)) fun h => hother h.1

end Deed

namespace Binding

/-- How a function stands, by what has been done: it is bound once at most, not
    when it is forsaken, and with the region that its adapter was brought up with;
    and if its adapter is live without a controller, it is forsaken. -/
structure Entrusted (function : φ) (deeds : List (Deed φ ω)) (b : Binding φ) : Prop where
  once : ∀ handle bound handle' bound', b.get? handle = some bound → bound.function = function →
    b.get? handle' = some bound' → bound'.function = function → handle = handle'
  cared : ∀ handle bound, b.get? handle = some bound → bound.function = function →
    ¬ Forsaken function deeds ∧
      ∀ region, Live function region deeds → Live function bound.controller.region deeds
  dropped : ∀ region, Live function region deeds →
    (∃ handle bound, b.get? handle = some bound ∧ bound.function = function) ∨
      Forsaken function deeds

namespace Entrusted

variable {function : φ} {deeds : List (Deed φ ω)} {b b' : Binding φ} {deed : Deed φ ω}
  {handle : Handle} {bound : Bound φ} {adapter : Adapter ω} {w : ω}

/-- What is done to other functions leaves it standing. -/
theorem of_other (h : Entrusted function deeds b) (hother : deed.function? ≠ some function)
    (hsame : ∀ handle bound, bound.function = function →
      (b'.get? handle = some bound ↔ b.get? handle = some bound)) :
    Entrusted function (deeds ++ [deed]) b' := by
  have hlive : ∀ region, Live function region (deeds ++ [deed]) ↔ Live function region deeds :=
    fun region => Deed.since_snoc_of_other (fun hkind => hkind.1) hother
  have hforsaken : Forsaken function (deeds ++ [deed]) ↔ Forsaken function deeds :=
    Deed.since_snoc_of_other (fun hkind => hkind.1) hother
  refine ⟨fun handle bound handle' bound' hget hfunction hget' hfunction' => ?_,
    fun handle bound hget hfunction => ?_, fun region hregion => ?_⟩
  · rw [hsame handle bound hfunction] at hget
    rw [hsame handle' bound' hfunction'] at hget'
    exact h.once handle bound handle' bound' hget hfunction hget' hfunction'
  · rw [hsame handle bound hfunction] at hget
    simp only [hforsaken, hlive]
    exact h.cared handle bound hget hfunction
  · rw [hlive] at hregion
    rw [hforsaken]
    rcases h.dropped region hregion with ⟨handle, bound, hget, hfunction⟩ | hlost
    · exact Or.inl ⟨handle, bound, (hsame handle bound hfunction).mpr hget, hfunction⟩
    · exact Or.inr hlost

/-- So does what is done to one entry that neither was nor is the function's. -/
theorem of_other_entry {entry : Option (Bound φ)} (h : Entrusted function deeds b)
    (hother : deed.function? ≠ some function)
    (hafter : ∀ other, b'.get? other = if other = handle then entry else b.get? other)
    (hold : ∀ bound, b.get? handle = some bound → bound.function ≠ function)
    (hnew : ∀ bound, entry = some bound → bound.function ≠ function) :
    Entrusted function (deeds ++ [deed]) b' := by
  refine h.of_other hother fun other bound hfunction => ?_
  rw [hafter]
  by_cases heq : other = handle
  · rw [if_pos heq, heq]
    exact iff_of_false (fun hentry => hnew bound hentry hfunction)
      fun hentry => hold bound hentry hfunction
  · rw [if_neg heq]

/-- A function that could not be started stands as before. -/
theorem of_unstarted {trace : List Event} {failure : Error} (h : Entrusted function deeds b)
    (hfree : ∀ handle bound, b.get? handle = some bound → bound.function ≠ function) :
    Entrusted function (deeds ++ [.started function w trace (.error failure)]) b := by
  refine ⟨fun handle bound _ _ hget hfunction => absurd hfunction (hfree handle bound hget),
    fun handle bound hget hfunction => absurd hfunction (hfree handle bound hget),
    fun region hlive => ?_⟩
  rcases since_snoc.mp hlive with hup | ⟨hbefore, hquiet⟩
  · exact absurd hup.2.2 not_false
  · rcases h.dropped region hbefore with ⟨handle, bound, hget, hfunction⟩ | hlost
    · exact absurd hfunction (hfree handle bound hget)
    · exact Or.inr (since_snoc.mpr (Or.inr ⟨hlost, hquiet⟩))

/-- A function that was started is bound, and its adapter is live. -/
theorem of_started {trace : List Event} {saved : PciAttributes} {controller : Controller}
    (hfree : ∀ handle bound, b.get? handle = some bound → bound.function ≠ function)
    (hacquired : Acquired b.policy trace (.ok (saved, controller))) :
    Entrusted function (deeds ++ [.started function w trace (.ok ⟨b.controllers.next⟩)])
      (b.keep function (.ok (saved, controller))).2 := by
  have hup : (.started function w trace (.ok ⟨b.controllers.next⟩) : Deed φ ω).BringsUp function
      controller.region := Deed.bringsUp_of_acquired hacquired
  -- the function is found under the new handle and under no other
  have hnew : ∀ handle bound,
      (b.keep function (.ok (saved, controller))).2.get? handle = some bound →
      bound.function = function →
      handle = ⟨b.controllers.next⟩ ∧ bound.controller.region = controller.region := by
    intro handle bound hget hfunction
    rw [get?_keep] at hget
    by_cases heq : handle = ⟨b.controllers.next⟩
    · rw [if_pos heq, Option.some.injEq] at hget
      rw [← hget]
      exact ⟨heq, rfl⟩
    · rw [if_neg heq] at hget
      exact absurd hfunction (hfree handle bound hget)
  refine ⟨fun handle bound handle' bound' hget hfunction hget' hfunction' => ?_,
    fun handle bound hget hfunction => ⟨fun hlost => ?_, fun region _ => ?_⟩, fun _ _ => ?_⟩
  · exact (hnew handle bound hget hfunction).1.trans (hnew handle' bound' hget' hfunction').1.symm
  · rcases since_snoc.mp hlost with hforsakes | ⟨-, hquiet⟩
    · exact hforsakes.2.2
    · exact hquiet hup.quiets
  · rw [(hnew handle bound hget hfunction).2]
    exact .now hup
  · refine Or.inl ⟨⟨b.controllers.next⟩, _, (get?_keep b function saved controller _).trans
      (if_pos rfl), rfl⟩

/-- A function that was stopped is not bound; if its adapter is live, it is
    forsaken. -/
theorem of_stopped (h : Entrusted bound.function deeds b) (hget : b.get? handle = some bound) :
    Entrusted bound.function
      (deeds ++ [.stopped handle ((b.stop handle).run adapter w).trace (.ok bound.function)])
      (b.without handle) := by
  have hgone : ∀ other bound', (b.without handle).get? other = some bound' →
      bound'.function ≠ bound.function := by
    intro other bound' hother hfunction
    rw [get?_without] at hother
    by_cases heq : other = handle
    · rw [if_pos heq] at hother
      exact absurd hother.symm (Option.some_ne_none bound')
    · rw [if_neg heq] at hother
      exact heq (h.once other bound' handle bound hother hfunction hget rfl)
  refine ⟨fun other bound' _ _ hother hfunction => absurd hfunction (hgone other bound' hother),
    fun other bound' hother hfunction => absurd hfunction (hgone other bound' hother),
    fun region hlive => ?_⟩
  rcases since_snoc.mp hlive with hup | ⟨-, hquiet⟩
  · exact absurd hup.2.2 not_false
  · exact Or.inr (.now ((Deed.quiets_or_forsakes hget).resolve_left hquiet))

/-- A function whose controller was used is bound as before. Its region is the
    same, also when its adapter was brought up again. -/
theorem of_called {call : Call} {trace : List Event} {result : Except Error Unit} {c : Controller}
    (h : Entrusted bound.function deeds b) (hget : b.get? handle = some bound)
    (heffect : Call.Effect bound.controller call trace result c) :
    Entrusted bound.function
      (deeds ++ [.called handle bound.function call trace result])
      (b.update handle { bound with controller := c }) := by
  have hsame : ∀ other bound',
      (b.update handle { bound with controller := c }).get? other = some bound' →
      bound'.function = bound.function →
      other = handle ∧ bound'.controller.region = bound.controller.region := by
    intro other bound' hother hfunction
    rw [get?_update hget] at hother
    by_cases heq : other = handle
    · rw [if_pos heq, Option.some.injEq] at hother
      rw [← hother]
      exact ⟨heq, heffect.region_eq⟩
    · rw [if_neg heq] at hother
      exact absurd (h.once other bound' handle bound hother hfunction hget rfl) heq
  refine ⟨fun other bound' other' bound'' hother hfunction hother' hfunction' => ?_,
    fun other bound' hother hfunction => ⟨fun hlost => ?_, fun region hlive => ?_⟩, fun _ _ => ?_⟩
  · exact (hsame other bound' hother hfunction).1.trans
      (hsame other' bound'' hother' hfunction').1.symm
  · rcases since_snoc.mp hlost with hforsakes | ⟨hbefore, -⟩
    · exact hforsakes.2.2
    · exact (h.cared handle bound hget rfl).1 hbefore
  · rw [(hsame other bound' hother hfunction).2]
    rcases since_snoc.mp hlive with hup | ⟨hbefore, hquiet⟩
    · -- the adapter was brought up again, with the region of its controller
      refine .now ⟨rfl, ?_, hup.2.2⟩
      cases heffect with
      | restarted hdone _ => exact ⟨[], trace, [], by rw [List.append_nil]; rfl, hdone⟩
      | passed _ _ | broken _ _ | unrestarted _ | unquieted _ | inquired =>
          exact absurd hup.2.2 not_false
    · exact .still ((h.cared handle bound hget rfl).2 region hbefore) hquiet
  · exact Or.inl ⟨handle, _, (get?_update hget handle _).trans (if_pos rfl), rfl⟩

end Entrusted

end Binding

namespace Chronicle

variable {machine : φ → Adapter ω} {deeds : List (Deed φ ω)} {b : Binding φ} {w : ω}

theorem entrusted (h : Chronicle machine deeds b w) (hroom : (given deeds).length < UInt64.size)
    (function : φ) : b.Entrusted function deeds := by
  induction h with
  | opened policy w =>
      have hnone : ∀ handle, ({ policy } : Binding φ).get? handle = none := fun _ => rfl
      refine ⟨fun handle bound _ _ hget => ?_, fun handle bound hget => ?_,
        fun region hlive => absurd hlive not_since_nil⟩
      · exact absurd hget.symm (Option.some_ne_none bound)
      · exact absurd hget.symm (Option.some_ne_none bound)
  | @started deeds b b' w other result hbefore hfree hrun ih =>
      rw [given_append, List.length_append] at hroom
      have hstands := ih (by omega)
      rcases b.exists_acquired other (machine other) w with ⟨acquired, hacquired, houtcome⟩
      rw [houtcome, Except.ok.injEq] at hrun
      cases acquired with
      | error failure =>
          cases hrun
          by_cases heq : other = function
          · rw [← heq] at hstands ⊢
            exact hstands.of_unstarted hfree
          · exact hstands.of_other (fun hsome => heq (Option.some.inj hsome)) fun _ _ _ => Iff.rfl
      | ok kept =>
          cases hrun
          by_cases heq : other = function
          · rw [← heq]
            exact Binding.Entrusted.of_started hfree hacquired
          · have hunused := hbefore.orderly.get?_next hroom
            refine hstands.of_other_entry (fun hsome => heq (Option.some.inj hsome))
              (Binding.get?_keep b other kept.1 kept.2) (fun bound hbound => ?_) fun bound hbound => ?_
            · exact absurd (hunused.symm.trans hbound).symm (Option.some_ne_none bound)
            · rw [← Option.some.inj hbound]
              exact heq
  | @stopped deeds b b' w handle other result hbefore hfunction hrun ih =>
      rw [given_append, List.length_append] at hroom
      have hstands := ih (by omega)
      cases hget : b.get? handle with
      | none =>
          rw [Binding.stop_unknown hget] at hrun
          cases hrun
          exact hstands.of_other (fun hsome => absurd hsome.symm (Option.some_ne_none _))
            fun _ _ _ => Iff.rfl
      | some bound =>
          rw [(Binding.exists_released hget _ _).1, Except.ok.injEq] at hrun
          cases hrun
          by_cases heq : bound.function = function
          · rw [← heq] at hstands ⊢
            exact hstands.of_stopped hget
          · refine hstands.of_other_entry (fun hsome => heq (Option.some.inj hsome))
              (Binding.get?_without b handle) (fun bound' hbound => ?_) fun bound' hbound => ?_
            · rw [← Option.some.inj (hget.symm.trans hbound)]
              exact heq
            · exact absurd hbound.symm (Option.some_ne_none bound')
  | @called deeds b w handle bound call c result hbefore hbound hcall hrun ih =>
      rw [given_append, List.length_append] at hroom
      have hstands := ih (by omega)
      by_cases heq : bound.function = function
      · rw [← heq] at hstands ⊢
        exact hstands.of_called hbound (Call.effect_of_run hrun)
      · refine hstands.of_other_entry (fun hsome => heq (Option.some.inj hsome))
          (fun other => Binding.get?_update hbound other _) (fun bound' hold => ?_)
          fun bound' hnew => ?_
        · rw [← Option.some.inj (hbound.symm.trans hold)]
          exact heq
        · rw [← Option.some.inj hnew]
          exact heq

/-- The controller of a live adapter is in the binding, with the buffer that the
    adapter knows of, exactly as long as no stop has forsaken it. -/
theorem holds_iff (h : Chronicle machine deeds b w) (hroom : (given deeds).length < UInt64.size) :
    ∀ function region, Live function region deeds →
      ((∃ kept, b.Holds function kept ∧ Live function kept deeds) ↔ ¬ Forsaken function deeds) := by
  intro function region hlive
  have hstands := h.entrusted hroom function
  constructor
  · intro hholds
    rcases hholds with ⟨kept, ⟨handle, bound, hget, hfunction, -⟩, -⟩
    exact (hstands.cared handle bound hget hfunction).1
  · intro hcared
    rcases (hstands.dropped region hlive).resolve_right hcared with ⟨handle, bound, hget, hfunction⟩
    refine ⟨bound.controller.region, ⟨handle, bound, hget, hfunction, rfl⟩, ?_⟩
    exact (hstands.cared handle bound hget hfunction).2 region hlive

/-- An adapter that takes its first reset and no other. -/
def headstrong : Adapter Nat where
  answer
    | .writeRegister offset value, resets =>
      if Access.writeRegister offset value = BringUp.resetEvent.access then
        (if resets = 0 then .ok () else .error (.registerWrite offset value), resets + 1)
      else (.ok (), resets)
    | access, resets => (((Controller.steady (fun _ => 0) true).answer access ()).1, resets)

/-- The binding that starting it leaves. -/
def bindingOfOne : Binding Unit :=
  (({} : Binding Unit).keep () (.ok (⟨0⟩, Controller.sample))).2

-- The adapter has been brought up, and taken its reset.
theorem exists_started_headstrong :
    ∃ trace, Chronicle (fun _ : Unit => headstrong) [.started () 0 trace (.ok ⟨1⟩)] bindingOfOne 1 ∧
      (.started () 0 trace (.ok ⟨1⟩) : Deed Unit Nat).BringsUp () Controller.sample.region := by
  have hopened : Chronicle (fun _ : Unit => headstrong) [] {} 0 := .opened {} _
  have hstart : ((({} : Binding Unit).start ()).run headstrong 0).outcome =
    .ok (.ok ⟨1⟩, bindingOfOne) := rfl
  have hpath := Program.path_run headstrong (Binding.acquire {}).run 0
  have houtcome : ((Binding.acquire {}).run.run headstrong 0).outcome =
    .ok (.ok (⟨0⟩, Controller.sample)) := rfl
  rcases Binding.acquired_of_path hpath with ⟨acquired, hresult, hacquired⟩
  have htrace : ((({} : Binding Unit).start ()).run headstrong 0).trace =
      ((Binding.acquire {}).run.run headstrong 0).trace := by
    rw [Binding.start_eq, Program.run_map]
  rw [← Except.ok.inj (houtcome.symm.trans hresult), ← htrace] at hacquired
  exact ⟨_, .started hopened (fun _ _ => nofun) hstart, Deed.bringsUp_of_acquired hacquired⟩

theorem holds_iff_of_headstrong :
    ∃ deeds b w, Chronicle (fun _ : Unit => headstrong) deeds b w ∧
      ∃ region kept, Live () region deeds ∧ b.Holds () kept ∧ Live () kept deeds := by
  rcases exists_started_headstrong with ⟨trace, hchronicle, hup⟩
  have hlive : Live () Controller.sample.region
    ([] ++ [.started () 0 trace (.ok ⟨1⟩)] : List (Deed Unit Nat)) := .now hup
  have hcared : ¬ Forsaken () ([] ++ [.started () 0 trace (.ok ⟨1⟩)] : List (Deed Unit Nat)) := by
    intro hlost
    rcases since_snoc.mp hlost with hforsakes | ⟨hnil, -⟩
    · exact hforsakes.2.2
    · exact not_since_nil hnil
  rcases (holds_iff hchronicle (show 1 < UInt64.size by decide) () _ hlive).mpr hcared with ⟨kept, hholds, hkept⟩
  exact ⟨_, _, _, hchronicle, _, kept, hlive, hholds, hkept⟩

/-- Stopping the function fails to quiet the adapter, and nobody has its buffer. -/
theorem live_and_dropped :
    ∃ deeds b w, Chronicle (fun _ : Unit => headstrong) deeds b w ∧
      (∃ region, Live () region deeds) ∧ b.handles = [] := by
  rcases exists_started_headstrong with ⟨trace, hchronicle, hup⟩
  have hstop : ((bindingOfOne.stop ⟨1⟩).run headstrong 1).outcome =
    .ok (.ok (), bindingOfOne.without ⟨1⟩) := rfl
  have hfunction : ∀ bound, bindingOfOne.get? ⟨1⟩ = some bound → bound.function = () :=
    fun _ _ => rfl
  have hstopped := Chronicle.stopped hchronicle hfunction hstop
  have hlive : Live () Controller.sample.region
    ([] ++ [.started () 0 trace (.ok ⟨1⟩)] : List (Deed Unit Nat)) := .now hup
  refine ⟨_, _, _, hstopped, ⟨_, .still hlive fun hquiet => ?_⟩, rfl⟩
  -- two events are too few to quiet an adapter
  rcases hquiet.2 with ⟨front, events, rest, htrace, hdone⟩
  have hthree : events.length = 3 := by
    rw [← List.length_map Event.access, hdone.map_access_eq]
    rfl
  have htwo : 2 = (front ++ events ++ rest).length := congrArg List.length htrace
  rw [List.length_append, List.length_append] at htwo
  omega

end Chronicle

end FusionMpt
