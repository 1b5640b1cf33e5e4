import FusionMpt.Proofs.Binding.Chronicle
import Mathlib.Algebra.Order.BigOperators.Group.List
import Mathlib.Algebra.Order.Ring.Nat
import Mathlib.Logic.Function.Basic

/-!
# Functions Bound Side by Side

A binding looks after many functions at once, and their owners need not know of
each other. Each gives its errands to the binding: start my function, stop what
was started as my third, pass this packet to what was started as my first. The
errands of all of them are run in whatever order they come. What an owner sees
is then the same as if it had the binding to itself.

It is the same up to the numbers of the handles, which count all starts of all
functions. So here an owner has tickets, numbered from zero for each function,
and does not see the handles behind them.

Which adapter an errand reaches is not laid down here. It is the one of the
function that the binding finds under the handle, and that this is always the
function of the owner has to be shown. The argument is a projection. A `Share`
is what concerns one function: its adapter, and what the binding finds behind
its tickets. An errand can be run on the share of its owner without the rest, and
leaves the shares of the others as they are. Both the run with everybody and the
run alone are then runs of one share.

An errand that does not come to an end, since a packet is waited for in vain,
leaves the binding as it was, and the errands behind it are run all the same.

## Main definitions

* `Service`, `Errand`: What is asked of a bound controller, and of the binding.
* `Report`: What comes of an errand.
* `Scene`, `Scene.step`, `Scene.play`: The errands of all owners, run in order.
* `Share`, `Share.step`, `Share.play`: The errands of one owner, run on what
  concerns it.
* `Scene.Sound`: Every handle is behind one ticket, and what is bound is the
  owner's.
* `Scene.Confined`: An errand comes to the same on its owner's share alone.

## Theorems

* `Scene.share_step`: An errand runs on the share of its owner.
* `Scene.share_play`: So do all errands of an owner.
* `Scene.independent`: An owner need not know of the others.
-/

namespace FusionMpt

variable {φ σ : Type}

/-! ## Errands -/

/-- What a bound controller is asked for. -/
inductive Service where
  | passThrough (polls : Nat) (target : Target) (lun : UInt64) (p : Packet)
  | restart
  | inquire (inquiry : Inquiry)

/-- What the controller answers. -/
inductive Answer where
  | served (outcome : Except Error Unit) (packet : Packet)
  | restarted (outcome : Except Error Unit)
  | address (found : Except Error (Target × UInt64))
  | target (found : Except Error Target)
  | path (found : Except Error DevicePath)
  | reset (outcome : Except Error Unit)

/-- The answer to an inquiry. -/
def Inquiry.answer (c : Controller) : Inquiry → Answer
  | .nextAddress target lun => .address (FusionMpt.nextAddress target lun)
  | .nextTarget target => .target (FusionMpt.nextTarget target)
  | .devicePath target lun => .path (DevicePath.ofAddress target lun)
  | .resolvePath bytes => .address (FusionMpt.resolvePath bytes)
  | .resetChannel => .reset c.resetChannel
  | .resetTarget => .reset c.resetTarget

/-- The service, and what becomes of the controller. -/
def Service.perform (c : Controller) : Service → Program (Answer × Controller)
  | .passThrough polls target lun p => do
    let served ← c.passThrough polls target lun p
    return (.served served.outcome served.packet, served.controller)
  | .restart => do
    let restarted ← c.restart
    return (.restarted restarted.1, restarted.2)
  | .inquire inquiry => return (inquiry.answer c, c)

/-- What an owner asks of the binding. A ticket stands for the handle that one of
    the owner's starts has given. -/
inductive Errand where
  | start
  | stop (ticket : Nat)
  | use (ticket : Nat) (service : Service)

/-- How many handles can be given out for the errand. -/
def Errand.starts : Errand → Nat
  | .start => 1
  | .stop _ | .use .. => 0

/-- How many for all of them. -/
def startsIn (errands : List (φ × Errand)) : Nat :=
  (errands.map fun errand => errand.2.starts).sum

/-- How an errand ends. -/
inductive Result (φ : Type) where
  | started (ticket : Except Error Nat)
  | stopped (function : Except Error φ)
  /-- With the answer it is told whether the controller is faulted. -/
  | used (answer : Answer) (isFaulted : Bool)
  /-- There is no controller any more. -/
  | unbound
  /-- There is no such ticket. -/
  | unissued

/-- What was asked of the adapter in an errand, and how it ended. -/
structure Report (φ : Type) where
  trace : List Event
  outcome : Except Halt (Result φ)

/-! ## All owners together -/

/-- The binding, the handles behind the tickets of each function, and the
    adapters. -/
structure Scene (φ σ : Type) where
  binding : Binding φ
  issued : φ → List Handle
  world : φ → σ

namespace Scene

variable [DecidableEq φ]

/-- At first nothing is bound. -/
def opened (policy : PollPolicy) (world : φ → σ) : Scene φ σ where
  binding := { policy }
  issued := fun _ => []
  world

/-- The scene with a function's adapter in another state. -/
def move (scene : Scene φ σ) (function : φ) (state : σ) : Scene φ σ :=
  { scene with world := Function.update scene.world function state }

/-- Run an errand of a function's owner. -/
def step (machine : φ → Adapter σ) (scene : Scene φ σ) (owner : φ) :
    Errand → Report φ × Scene φ σ
  | .start =>
    let run := (scene.binding.start owner).run (machine owner) (scene.world owner)
    let moved := scene.move owner run.state
    match run.outcome with
    | .error why => (⟨run.trace, .error why⟩, moved)
    | .ok (.error failure, binding) =>
      (⟨run.trace, .ok (.started (.error failure))⟩, { moved with binding })
    | .ok (.ok handle, binding) =>
      (⟨run.trace, .ok (.started (.ok (scene.issued owner).length))⟩,
        { moved with
          binding
          issued := Function.update scene.issued owner (scene.issued owner ++ [handle]) })
  | .stop ticket =>
    match (scene.issued owner)[ticket]? with
    | none => (⟨[], .ok .unissued⟩, scene)
    | some handle =>
      -- Where nothing is bound, no adapter is reached.
      let function := ((scene.binding.get? handle).map (·.function)).getD owner
      let run := (scene.binding.stop handle).run (machine function) (scene.world function)
      let moved := scene.move function run.state
      match run.outcome with
      | .error why => (⟨run.trace, .error why⟩, moved)
      | .ok (result, binding) => (⟨run.trace, .ok (.stopped result)⟩, { moved with binding })
  | .use ticket service =>
    match (scene.issued owner)[ticket]? with
    | none => (⟨[], .ok .unissued⟩, scene)
    | some handle =>
      match scene.binding.get? handle with
      | none => (⟨[], .ok .unbound⟩, scene)
      | some bound =>
        let run := (service.perform bound.controller).run (machine bound.function)
          (scene.world bound.function)
        let moved := scene.move bound.function run.state
        match run.outcome with
        | .error why => (⟨run.trace, .error why⟩, moved)
        | .ok (answer, controller) =>
          (⟨run.trace, .ok (.used answer controller.isFaulted)⟩,
            { moved with binding := scene.binding.update handle { bound with controller } })

/-- Run the errands of all owners, in order. -/
def play (machine : φ → Adapter σ) (scene : Scene φ σ) :
    List (φ × Errand) → List (φ × Report φ) × Scene φ σ
  | [] => ([], scene)
  | (owner, errand) :: rest =>
    let stepped := scene.step machine owner errand
    let played := stepped.2.play machine rest
    ((owner, stepped.1) :: played.1, played.2)

end Scene

/-! ## One owner alone -/

/-- What concerns one function: how adapters are waited for, its adapter, the
    number of its tickets and what is bound behind each. -/
@[ext]
structure Share (φ σ : Type) where
  policy : PollPolicy
  world : σ
  count : Nat
  find : Nat → Option (Bound φ)

/-- What of a scene concerns a function. -/
def Scene.share (scene : Scene φ σ) (function : φ) : Share φ σ where
  policy := scene.binding.policy
  world := scene.world function
  count := (scene.issued function).length
  find ticket := (scene.issued function)[ticket]?.bind scene.binding.get?

namespace Share

/-- Run an errand on what concerns its owner. -/
def step (machine : Adapter σ) (owner : φ) (share : Share φ σ) : Errand → Report φ × Share φ σ
  | .start =>
    let run := (Binding.acquire share.policy).run.run machine share.world
    let moved := { share with world := run.state }
    match run.outcome with
    | .error why => (⟨run.trace, .error why⟩, moved)
    | .ok (.error failure) => (⟨run.trace, .ok (.started (.error failure))⟩, moved)
    | .ok (.ok (saved, controller)) =>
      (⟨run.trace, .ok (.started (.ok share.count))⟩,
        { moved with
          count := share.count + 1
          find := Function.update share.find share.count
            (some { function := owner, saved, controller }) })
  | .stop ticket =>
    if share.count ≤ ticket then (⟨[], .ok .unissued⟩, share)
    else
      match share.find ticket with
      | none => (⟨[], .ok (.stopped (.error .notFound))⟩, share)
      | some bound =>
        let run := (Binding.release bound).run machine share.world
        let moved := { share with world := run.state }
        match run.outcome with
        | .error why => (⟨run.trace, .error why⟩, moved)
        | .ok _ =>
          (⟨run.trace, .ok (.stopped (.ok bound.function))⟩,
            { moved with find := Function.update share.find ticket none })
  | .use ticket service =>
    if share.count ≤ ticket then (⟨[], .ok .unissued⟩, share)
    else
      match share.find ticket with
      | none => (⟨[], .ok .unbound⟩, share)
      | some bound =>
        let run := (service.perform bound.controller).run machine share.world
        let moved := { share with world := run.state }
        match run.outcome with
        | .error why => (⟨run.trace, .error why⟩, moved)
        | .ok (answer, controller) =>
          (⟨run.trace, .ok (.used answer controller.isFaulted)⟩,
            { moved with
              find := Function.update share.find ticket (some { bound with controller }) })

/-- Run errands on what concerns their owner, in order. -/
def play (machine : Adapter σ) (owner : φ) (share : Share φ σ) :
    List Errand → List (Report φ) × Share φ σ
  | [] => ([], share)
  | errand :: rest =>
    let stepped := share.step machine owner errand
    let played := stepped.2.play machine owner rest
    (stepped.1 :: played.1, played.2)

end Share

/-! ## Sound scenes -/

namespace Scene

/-- The tickets are sound, after so many starts: the handles behind them are
    told apart and smaller than the next, and what is bound is bound for the owner
    of its ticket. -/
structure Sound (starts : Nat) (scene : Scene φ σ) : Prop where
  room : scene.binding.controllers.next.toNat ≤ starts + 1
  below : ∀ owner, ∀ handle ∈ scene.issued owner, handle.number < scene.binding.controllers.next
  apart : ∀ (owner other : φ) (ticket ticket' : Nat) (handle : Handle),
    (scene.issued owner)[ticket]? = some handle → (scene.issued other)[ticket']? = some handle →
    owner = other ∧ ticket = ticket'
  owned : ∀ handle bound, scene.binding.get? handle = some bound →
    handle ∈ scene.issued bound.function

namespace Sound

variable {starts : Nat} {scene : Scene φ σ} {owner : φ} {handle : Handle} {bound : Bound φ}
  {binding : Binding φ} {entry : Option (Bound φ)}

theorem opened (policy : PollPolicy) (world : φ → σ) : (Scene.opened policy world).Sound 0 where
  room := Nat.le_refl 1
  below _ _ hmem := absurd hmem List.not_mem_nil
  apart _ _ _ _ _ hticket := absurd hticket.symm (Option.some_ne_none _)
  owned _ bound hget := absurd (show none = some bound from hget).symm (Option.some_ne_none bound)

/-- What is found behind a ticket is its owner's. -/
theorem function_eq (h : scene.Sound starts) (hissued : handle ∈ scene.issued owner)
    (hget : scene.binding.get? handle = some bound) : bound.function = owner := by
  rcases List.mem_iff_getElem?.mp hissued with ⟨ticket, hticket⟩
  rcases List.mem_iff_getElem?.mp (h.owned handle bound hget) with ⟨ticket', hticket'⟩
  exact (h.apart bound.function owner ticket' ticket handle hticket' hticket).1

/-- The next handle is behind no ticket, and nothing is bound under it. -/
theorem next_not_mem (h : scene.Sound starts) (owner : φ) :
    ⟨scene.binding.controllers.next⟩ ∉ scene.issued owner :=
  fun hmem => absurd (h.below owner _ hmem) (UInt64.lt_irrefl _)

/-- A scene stays sound when the entry behind a ticket changes. -/
theorem rebind (h : scene.Sound starts) (hissued : handle ∈ scene.issued owner)
    (hnext : binding.controllers.next = scene.binding.controllers.next)
    (hget : ∀ other, binding.get? other = if other = handle then entry else scene.binding.get? other)
    (hentry : ∀ bound, entry = some bound → bound.function = owner) :
    ({ scene with binding } : Scene φ σ).Sound starts where
  room := hnext ▸ h.room
  below := hnext ▸ h.below
  apart := h.apart
  owned := by
    intro other bound hother
    rw [hget] at hother
    by_cases heq : other = handle
    · rw [if_pos heq] at hother
      rw [heq, hentry bound hother]
      exact hissued
    · rw [if_neg heq] at hother
      exact h.owned other bound hother

end Sound

variable {starts : Nat} {scene : Scene φ σ} {owner : φ} {ticket : Nat} {handle : Handle}
  {binding : Binding φ} {entry : Option (Bound φ)}

/-- A ticket with no handle behind it has not been given out. -/
theorem count_le (hticket : (scene.issued owner)[ticket]? = none) :
    (scene.share owner).count ≤ ticket :=
  List.getElem?_eq_none_iff.mp hticket

theorem not_count_le (hticket : (scene.issued owner)[ticket]? = some handle) :
    ¬ (scene.share owner).count ≤ ticket :=
  Nat.not_le_of_lt (List.getElem?_eq_some_iff.mp hticket).1

theorem find_eq (hticket : (scene.issued owner)[ticket]? = some handle) :
    (scene.share owner).find ticket = scene.binding.get? handle := by
  change (scene.issued owner)[ticket]?.bind scene.binding.get? = _
  rw [hticket, Option.bind_some]

/-- An errand has come to the same as on the owner's share alone, and has left
    the others' shares as they were. -/
structure Confined (before : Scene φ σ) (owner : φ) (starts : Nat) (alone : Report φ × Share φ σ)
    (stepped : Report φ × Scene φ σ) : Prop where
  report : stepped.1 = alone.1
  own : stepped.2.share owner = alone.2
  others : ∀ other, other ≠ owner → stepped.2.share other = before.share other
  sound : stepped.2.Sound starts

-- A bound on the number of starts that serves also serves when there is one more.
theorem Confined.later {before : Scene φ σ} {alone : Report φ × Share φ σ}
    {stepped : Report φ × Scene φ σ} (h : Confined before owner starts alone stepped) :
    Confined before owner (starts + 1) alone stepped :=
  ⟨h.report, h.own, h.others, Nat.le_succ_of_le h.sound.room, h.sound.below, h.sound.apart,
    h.sound.owned⟩

/-- An errand that does nothing does nothing to the share either. -/
theorem confined_done {report : Report φ} (h : scene.Sound starts) :
    Confined scene owner starts (report, scene.share owner) (report, scene) :=
  ⟨rfl, rfl, fun _ _ => rfl, h⟩

variable [DecidableEq φ]

/-- What is found behind the tickets when the entry behind one of them has
    changed. -/
theorem find_rebind (h : scene.Sound starts) (hticket : (scene.issued owner)[ticket]? = some handle)
    (hget : ∀ other, binding.get? other = if other = handle then entry else scene.binding.get? other)
    (other : φ) (ticket' : Nat) :
    (scene.issued other)[ticket']?.bind binding.get? =
      if other = owner ∧ ticket' = ticket then entry else (scene.share other).find ticket' := by
  by_cases hsame : other = owner ∧ ticket' = ticket
  · rw [if_pos hsame, hsame.1, hsame.2, hticket, Option.bind_some, hget, if_pos rfl]
  · rw [if_neg hsame]
    change _ = (scene.issued other)[ticket']?.bind scene.binding.get?
    refine Option.bind_congr fun handle' hticket' => ?_
    -- behind another ticket there is another handle
    rw [hget, if_neg]
    intro heq
    rw [heq] at hticket'
    exact hsame (h.apart other owner ticket' ticket handle hticket' hticket)

/-- The handles behind the tickets when one more has been given out. -/
theorem getElem?_issue (issued : φ → List Handle) (owner other : φ) (handle : Handle) (ticket : Nat) :
    (Function.update issued owner (issued owner ++ [handle]) other)[ticket]? =
      if other = owner ∧ ticket = (issued owner).length then some handle
      else (issued other)[ticket]? := by
  by_cases hother : other = owner
  · rw [hother, Function.update_self]
    rcases Nat.lt_trichotomy ticket (issued owner).length with hlt | heq | hgt
    · rw [if_neg fun hall => absurd hall.2 (Nat.ne_of_lt hlt), List.getElem?_append_left hlt]
    · rw [if_pos ⟨rfl, heq⟩, heq, List.getElem?_concat_length]
    · have hlength : (issued owner ++ [handle]).length ≤ ticket := by
        rw [List.length_append]
        exact hgt
      rw [if_neg fun hall => absurd hall.2 (Nat.ne_of_gt hgt), List.getElem?_eq_none hlength,
        List.getElem?_eq_none (Nat.le_of_lt hgt)]
  · rw [Function.update_of_ne hother, if_neg fun hall => hother hall.1]

/-- What is found behind them then. -/
theorem find_issue (h : scene.Sound starts)
    (hget : ∀ other, binding.get? other =
      if other = ⟨scene.binding.controllers.next⟩ then entry else scene.binding.get? other)
    (other : φ) (ticket' : Nat) :
    (Function.update scene.issued owner (scene.issued owner ++ [⟨scene.binding.controllers.next⟩])
        other)[ticket']?.bind binding.get? =
      if other = owner ∧ ticket' = (scene.issued owner).length then entry
      else (scene.share other).find ticket' := by
  rw [getElem?_issue]
  by_cases hsame : other = owner ∧ ticket' = (scene.issued owner).length
  · rw [if_pos hsame, if_pos hsame, Option.bind_some, hget, if_pos rfl]
  · rw [if_neg hsame, if_neg hsame]
    change _ = (scene.issued other)[ticket']?.bind scene.binding.get?
    refine Option.bind_congr fun handle' hticket' => ?_
    rw [hget, if_neg]
    intro heq
    rw [heq] at hticket'
    exact h.next_not_mem other (List.mem_of_getElem? hticket')

namespace Sound

theorem move (h : scene.Sound starts) (function : φ) (state : σ) :
    (scene.move function state).Sound starts :=
  ⟨h.room, h.below, h.apart, h.owned⟩

/-- It stays sound when a function is kept, as long as the numbers last. -/
theorem keep {saved : PciAttributes} {controller : Controller} (h : scene.Sound starts)
    (hroom : starts + 2 < UInt64.size) :
    ({ scene with
      binding := (scene.binding.keep owner (.ok (saved, controller))).2
      issued := Function.update scene.issued owner
        (scene.issued owner ++ [⟨scene.binding.controllers.next⟩]) } : Scene φ σ).Sound
      (starts + 1) := by
  have hlast : scene.binding.controllers.next.toNat + 1 < UInt64.size := by
    have hroom' := h.room
    omega
  have hlt := Registry.next_lt_next_insert hlast ({ function := owner, saved, controller } : Bound φ)
  refine ⟨?_, fun other handle hmem => ?_, fun first second ticket ticket' handle hfirst hsecond => ?_,
    fun handle bound hget => ?_⟩
  · change (scene.binding.controllers.insert _).2.next.toNat ≤ _
    rw [Registry.toNat_next_insert hlast]
    exact Nat.succ_le_succ h.room
  · rcases List.mem_iff_getElem?.mp hmem with ⟨ticket, hticket⟩
    change handle.number < scene.binding.controllers.next + 1
    rw [getElem?_issue] at hticket
    by_cases hnew : other = owner ∧ ticket = (scene.issued owner).length
    · rw [if_pos hnew, Option.some.injEq] at hticket
      rw [← hticket]
      exact hlt
    · rw [if_neg hnew] at hticket
      exact UInt64.lt_trans (h.below other handle (List.mem_of_getElem? hticket)) hlt
  · rw [getElem?_issue] at hfirst hsecond
    -- a handle that has been given out before is not the new one
    by_cases hnew : first = owner ∧ ticket = (scene.issued owner).length
    · rw [if_pos hnew, Option.some.injEq] at hfirst
      by_cases hnew' : second = owner ∧ ticket' = (scene.issued owner).length
      · exact ⟨hnew.1.trans hnew'.1.symm, hnew.2.trans hnew'.2.symm⟩
      · rw [if_neg hnew', ← hfirst] at hsecond
        exact absurd (List.mem_of_getElem? hsecond) (h.next_not_mem second)
    · rw [if_neg hnew] at hfirst
      by_cases hnew' : second = owner ∧ ticket' = (scene.issued owner).length
      · rw [if_pos hnew', Option.some.injEq] at hsecond
        rw [← hsecond] at hfirst
        exact absurd (List.mem_of_getElem? hfirst) (h.next_not_mem first)
      · rw [if_neg hnew'] at hsecond
        exact h.apart first second ticket ticket' handle hfirst hsecond
  · change handle ∈ Function.update scene.issued owner _ bound.function
    change (scene.binding.keep owner _).2.get? handle = some bound at hget
    rw [Binding.get?_keep] at hget
    by_cases hnew : handle = ⟨scene.binding.controllers.next⟩
    · rw [if_pos hnew, Option.some.injEq] at hget
      rw [← hget, hnew, Function.update_self]
      exact List.mem_append_right _ List.mem_cons_self
    · rw [if_neg hnew] at hget
      have hold := h.owned handle bound hget
      by_cases howner : bound.function = owner
      · rw [howner] at hold ⊢
        rw [Function.update_self]
        exact List.mem_append_left _ hold
      · rw [Function.update_of_ne howner]
        exact hold

end Sound

/-! ## One errand -/

theorem world_move (scene : Scene φ σ) (owner : φ) (state : σ) :
    (scene.move owner state).world owner = state := by
  change Function.update scene.world owner state owner = state
  rw [Function.update_self]

theorem world_move_of_ne {other : φ} (h : other ≠ owner) (scene : Scene φ σ) (state : σ) :
    (scene.move owner state).world other = scene.world other := by
  change Function.update scene.world owner state other = scene.world other
  rw [Function.update_of_ne h]

theorem move_world (scene : Scene φ σ) (owner : φ) : scene.move owner (scene.world owner) = scene := by
  unfold move
  rw [Function.update_eq_self]

theorem confined_move {report : Report φ} {state : σ} (h : scene.Sound starts) :
    Confined scene owner starts (report, { scene.share owner with world := state })
      (report, scene.move owner state) where
  report := rfl
  own := Share.ext rfl (world_move scene owner state) rfl rfl
  others _ hother := Share.ext rfl (world_move_of_ne hother scene state) rfl rfl
  sound := h.move owner state

theorem confined_rebind {report : Report φ} {state : σ} (h : scene.Sound starts)
    (hticket : (scene.issued owner)[ticket]? = some handle)
    (hpolicy : binding.policy = scene.binding.policy)
    (hnext : binding.controllers.next = scene.binding.controllers.next)
    (hget : ∀ other, binding.get? other = if other = handle then entry else scene.binding.get? other)
    (hentry : ∀ bound, entry = some bound → bound.function = owner) :
    Confined scene owner starts
      (report, { scene.share owner with
        world := state
        find := Function.update (scene.share owner).find ticket entry })
      (report, { scene.move owner state with binding }) where
  report := rfl
  own := by
    refine Share.ext hpolicy (world_move scene owner state) rfl ?_
    funext ticket'
    refine (find_rebind h hticket hget owner ticket').trans ?_
    change _ = Function.update (scene.share owner).find ticket entry ticket'
    simp only [Function.update_apply, true_and]
  others other hother := by
    refine Share.ext hpolicy (world_move_of_ne hother scene state) rfl ?_
    funext ticket'
    exact (find_rebind h hticket hget other ticket').trans (if_neg fun hall => hother hall.1)
  sound := (h.move owner state).rebind (List.mem_of_getElem? hticket) hnext hget hentry

theorem confined_keep {report : Report φ} {state : σ} {saved : PciAttributes}
    {controller : Controller} (h : scene.Sound starts) (hroom : starts + 2 < UInt64.size) :
    Confined scene owner (starts + 1)
      (report, { scene.share owner with
        world := state
        count := (scene.share owner).count + 1
        find := Function.update (scene.share owner).find (scene.share owner).count
          (some { function := owner, saved, controller }) })
      (report, { scene.move owner state with
        binding := (scene.binding.keep owner (.ok (saved, controller))).2
        issued := Function.update scene.issued owner
          (scene.issued owner ++ [⟨scene.binding.controllers.next⟩]) }) where
  report := rfl
  own := by
    refine Share.ext rfl (world_move scene owner state) ?_ ?_
    · change (Function.update scene.issued owner _ owner).length = _
      rw [Function.update_self, List.length_append]
      rfl
    · funext ticket'
      refine (find_issue h (Binding.get?_keep scene.binding owner saved controller) owner
        ticket').trans ?_
      change _ = Function.update (scene.share owner).find (scene.issued owner).length _ ticket'
      simp only [Function.update_apply, true_and]
  others other hother := by
    refine Share.ext rfl (world_move_of_ne hother scene state) ?_ ?_
    · change (Function.update scene.issued owner _ other).length = _
      rw [Function.update_of_ne hother]
      rfl
    · funext ticket'
      exact (find_issue h (Binding.get?_keep scene.binding owner saved controller) other
        ticket').trans (if_neg fun hall => hother hall.1)
  sound := (h.move owner state).keep hroom

variable {machine : φ → Adapter σ}

theorem confined_start (h : scene.Sound starts) (hroom : starts + 2 < UInt64.size) :
    Confined scene owner (starts + 1) ((scene.share owner).step (machine owner) owner .start)
      (scene.step machine owner .start) := by
  -- what deals with the machine is the same program in both
  have hrun := congrArg (fun program => program.run (machine owner) (scene.world owner))
    (scene.binding.start_eq owner)
  simp only [Program.run_map] at hrun
  generalize hacquire : (Binding.acquire scene.binding.policy).run.run (machine owner)
    (scene.world owner) = run at hrun
  have halone : (Binding.acquire (scene.share owner).policy).run.run (machine owner)
    (scene.share owner).world = run := hacquire
  unfold step Share.step
  simp only [hrun, halone]
  rcases run with ⟨trace, why | failure | kept, state⟩
  · exact (confined_move h).later
  · exact (confined_move h).later
  · exact confined_keep h hroom

theorem confined_stop (h : scene.Sound starts) (ticket : Nat) :
    Confined scene owner starts ((scene.share owner).step (machine owner) owner (.stop ticket))
      (scene.step machine owner (.stop ticket)) := by
  cases hticket : (scene.issued owner)[ticket]? with
  | none =>
      simp only [step, Share.step, hticket, if_pos (count_le hticket)]
      exact confined_done h
  | some handle =>
      cases hget : scene.binding.get? handle with
      | none =>
          simp only [step, Share.step, hticket, if_neg (not_count_le hticket), find_eq hticket, hget,
            Binding.stop_unknown hget, Option.map_none, Option.getD_none]
          change Confined scene owner starts _ (_, scene.move owner (scene.world owner))
          rw [move_world]
          exact confined_done h
      | some bound =>
          have howner : bound.function = owner := h.function_eq (List.mem_of_getElem? hticket) hget
          have hrun := congrArg (fun program => program.run (machine owner) (scene.world owner))
            (Binding.stop_eq hget)
          simp only [Program.run_map] at hrun
          generalize hrelease : (Binding.release bound).run (machine owner) (scene.world owner) = run
            at hrun
          have halone : (Binding.release bound).run (machine owner) (scene.share owner).world = run :=
            hrelease
          simp only [step, Share.step, hticket, if_neg (not_count_le hticket), find_eq hticket, hget,
            Option.map_some, Option.getD_some, howner, hrun, halone]
          rcases run with ⟨trace, why | released, state⟩
          · exact confined_move h
          · exact confined_rebind h hticket rfl rfl (Binding.get?_without _ _) nofun

theorem confined_use (h : scene.Sound starts) (ticket : Nat) (service : Service) :
    Confined scene owner starts ((scene.share owner).step (machine owner) owner (.use ticket service))
      (scene.step machine owner (.use ticket service)) := by
  cases hticket : (scene.issued owner)[ticket]? with
  | none =>
      simp only [step, Share.step, hticket, if_pos (count_le hticket)]
      exact confined_done h
  | some handle =>
      cases hget : scene.binding.get? handle with
      | none =>
          simp only [step, Share.step, hticket, if_neg (not_count_le hticket), find_eq hticket, hget]
          exact confined_done h
      | some bound =>
          have howner : bound.function = owner := h.function_eq (List.mem_of_getElem? hticket) hget
          generalize hrun : (service.perform bound.controller).run (machine owner)
            (scene.world owner) = run
          have halone : (service.perform bound.controller).run (machine owner)
            (scene.share owner).world = run := hrun
          simp only [step, Share.step, hticket, if_neg (not_count_le hticket), find_eq hticket, hget, howner, hrun,
            halone]
          rcases run with ⟨trace, why | ⟨answer, controller⟩, state⟩
          · exact confined_move h
          · refine confined_rebind h hticket rfl rfl (Binding.get?_update hget · _) fun after heq => ?_
            rw [← Option.some.inj heq]

/-- An errand runs on the share of its owner. -/
theorem share_step (h : scene.Sound starts) (errand : Errand)
    (hroom : starts + errand.starts + 1 < UInt64.size) :
    Confined scene owner (starts + errand.starts)
      ((scene.share owner).step (machine owner) owner errand) (scene.step machine owner errand) := by
  cases errand with
  | start => exact confined_start h hroom
  | stop ticket => exact confined_stop h ticket
  | use ticket service => exact confined_use h ticket service

/-! ## All errands -/

/-- What of a list that goes by owners is one owner's. -/
def ofOwner {α : Type} (owner : φ) (items : List (φ × α)) : List (φ × α) :=
  items.filter fun item => item.1 = owner

section OfOwner

variable {α : Type}

theorem ofOwner_cons_self (owner : φ) (item : α) (rest : List (φ × α)) :
    ofOwner owner ((owner, item) :: rest) = (owner, item) :: ofOwner owner rest :=
  List.filter_cons_of_pos (decide_eq_true rfl)

theorem ofOwner_cons_of_ne {other : φ} (hother : other ≠ owner) (item : α) (rest : List (φ × α)) :
    ofOwner owner ((other, item) :: rest) = ofOwner owner rest :=
  List.filter_cons_of_neg fun heq => hother (of_decide_eq_true heq)

theorem ofOwner_ofOwner (owner : φ) (items : List (φ × α)) :
    ofOwner owner (ofOwner owner items) = ofOwner owner items := by
  unfold ofOwner
  rw [List.filter_filter]
  simp only [Bool.and_self]

end OfOwner

/-- The errands of an owner run on its share, whatever else is run in between. -/
theorem share_play (machine : φ → Adapter σ) (h : scene.Sound starts) (errands : List (φ × Errand))
    (hroom : starts + startsIn errands + 1 < UInt64.size) (owner : φ) :
    ofOwner owner (scene.play machine errands).1 =
        ((scene.share owner).play (machine owner) owner
          ((ofOwner owner errands).map Prod.snd)).1.map (Prod.mk owner) ∧
      (scene.play machine errands).2.share owner =
        ((scene.share owner).play (machine owner) owner ((ofOwner owner errands).map Prod.snd)).2 ∧
      (scene.play machine errands).2.Sound (starts + startsIn errands) := by
  induction errands generalizing scene starts with
  | nil => exact ⟨rfl, rfl, h⟩
  | cons first rest ih =>
      rcases first with ⟨other, errand⟩
      have hsum : starts + startsIn ((other, errand) :: rest) =
          starts + errand.starts + startsIn rest := (Nat.add_assoc _ _ _).symm
      rw [hsum] at hroom ⊢
      have hstep : Confined scene other (starts + errand.starts) _ (scene.step machine other errand) :=
        share_step h errand (by omega)
      rcases ih hstep.sound hroom with ⟨hreports, hshare, hsound⟩
      by_cases hother : other = owner
      · rw [hother] at hstep hreports hshare hsound ⊢
        rw [hstep.own] at hreports hshare
        rw [ofOwner_cons_self]
        refine ⟨?_, hshare, hsound⟩
        change ofOwner owner ((owner, (scene.step machine owner errand).1) :: _) = _
        rw [ofOwner_cons_self, hreports, hstep.report]
        rfl
      · rw [hstep.others owner (Ne.symm hother)] at hreports hshare
        rw [ofOwner_cons_of_ne hother]
        refine ⟨?_, hshare, hsound⟩
        change ofOwner owner ((other, _) :: _) = _
        rw [ofOwner_cons_of_ne hother]
        exact hreports

/-- With one owner, all reports are this owner's. -/
theorem ofOwner_play (scene : Scene φ σ) (owner : φ) (errands : List (φ × Errand)) :
    ofOwner owner (scene.play machine (ofOwner owner errands)).1 =
      (scene.play machine (ofOwner owner errands)).1 := by
  induction errands generalizing scene with
  | nil => rfl
  | cons first rest ih =>
      rcases first with ⟨other, errand⟩
      by_cases hother : other = owner
      · rw [hother, ofOwner_cons_self]
        change ofOwner owner ((owner, _) :: _) = (owner, _) :: _
        rw [ofOwner_cons_self, ih]
      · rw [ofOwner_cons_of_ne hother]
        exact ih scene

theorem startsIn_ofOwner_le (owner : φ) (errands : List (φ × Errand)) :
    startsIn (ofOwner owner errands) ≤ startsIn errands :=
  (List.filter_sublist.map _).sum_le_sum fun _ _ => Nat.zero_le _

/-- What comes of an owner's errands, and what becomes of its adapter and of what
    is bound for it, is the same as when nobody else has any. And what is found
    under a handle that was given to the owner is bound for the owner. This is as
    long as the numbers of the handles last. -/
theorem independent (machine : φ → Adapter σ) (policy : PollPolicy) (world : φ → σ)
    (errands : List (φ × Errand)) (hroom : startsIn errands + 1 < UInt64.size) (owner : φ) :
    let together := (opened policy world).play machine errands
    let alone := (opened policy world).play machine (ofOwner owner errands)
    ofOwner owner together.1 = alone.1 ∧
      together.2.share owner = alone.2.share owner ∧
      ∀ handle ∈ together.2.issued owner, ∀ bound,
        together.2.binding.get? handle = some bound → bound.function = owner := by
  intro together alone
  have hopened := Sound.opened policy world
  have hfewer := startsIn_ofOwner_le owner errands
  -- both are the run of the owner's share
  rcases share_play machine hopened errands (by omega) owner with
    ⟨hreports, hshare, hsound⟩
  rcases share_play machine hopened (ofOwner owner errands) (by omega) owner with
    ⟨hreports', hshare', -⟩
  rw [ofOwner_ofOwner] at hreports' hshare'
  rw [ofOwner_play] at hreports'
  exact ⟨hreports.trans hreports'.symm, hshare.trans hshare'.symm, fun _ hmem _ hget =>
    hsound.function_eq hmem hget⟩

/-- Two owners, one of which stops its function and starts it once more. -/
def twoOwners : List (Bool × Errand) :=
  [(true, .start), (false, .start), (true, .stop 0), (true, .use 0 .restart), (true, .start),
    (true, .use 1 .restart)]

/-- Errands of the two, with adapters that can always be brought up. -/
def twoPlayed (errands : List (Bool × Errand)) : List (Bool × Report Bool) × Scene Bool Unit :=
  (opened {} fun _ => ()).play (fun _ => Controller.steady (fun _ => 0) true) errands

theorem independent_of_two :
    (twoPlayed twoOwners).2.issued true = [⟨1⟩, ⟨3⟩] ∧
      (twoPlayed (ofOwner true twoOwners)).2.issued true = [⟨1⟩, ⟨2⟩] ∧
      ofOwner true (twoPlayed twoOwners).1 = (twoPlayed (ofOwner true twoOwners)).1 :=
  ⟨by decide +kernel, by decide +kernel,
    (independent _ {} (fun _ => ()) twoOwners (by decide) true).1⟩

end Scene

end FusionMpt
