import FusionMpt.Topology.Enumeration
import Mathlib.Data.List.Nodup
import Mathlib.Logic.Basic

/-!
# Walks Over the Devices

Whoever wants to know of all devices starts from the target that stands for none and
goes on until a step fails. What is known then is the addresses that the steps came to,
in order, and the error of the last step.

A step changes the walker's own target and unit, one after the other, so a step that
fails could leave him with the target of one address and the unit of another. None
does: each comes to the next address or leaves the old one (`make_advance`). From there
on only `nextAddress` is looked at.

The walk itself is an induction on how many target numbers are still to come. Nothing
here but an example depends on how many there are.

## Main definitions

* `Move.moved`: How a move ends that changes everything or nothing.
* `Move.Walk`: A move made again and again until it fails.
* `device`: The address of a target number.
* `addresses`: The addresses of all target numbers, in order.

## Theorems

* `make_advance`, `make_advanceTarget`: A step comes to what is next, or changes nothing.
* `Move.Walk.unique`: There is one walk from each value.
* `walk_unset`: A walk from the unset target comes to all addresses.
* `mem_addresses_iff`, `nodup_addresses`: Which these are, and that none comes twice.
-/

namespace FusionMpt

namespace Move

variable {σ : Type} {move : Move σ Unit}

/-- How a move ends that comes to the next value if there is one, and otherwise leaves
    the value it started from. -/
def moved (next : Except Error σ) (here : σ) : Except Error Unit × σ :=
  match next with
  | .ok next => (.ok (), next)
  | .error failure => (.error failure, here)

-- A move that looks around first is one of two moves.
theorem make_ite {condition : Prop} [Decidable condition] (yes no : Move σ Unit) (here : σ) :
    Move.make (if condition then yes else no) here =
      if condition then yes.make here else no.make here :=
  apply_ite (fun move : Move σ Unit => move.make here) condition yes no

theorem moved_ite {condition : Prop} [Decidable condition] (yes no : Except Error σ) (here : σ) :
    moved (if condition then yes else no) here =
      if condition then moved yes here else moved no here :=
  apply_ite (fun next => moved next here) condition yes no

/-- A failure has left everything as it was. -/
theorem moved_of_error {next : Except Error σ} {here : σ} {failure : Error}
    (h : (moved next here).1 = .error failure) : (moved next here).2 = here := by
  cases next with
  | ok next => nomatch h
  | error failure' => rfl

/-- A move is made until it fails: from where, the values that it comes to, and the
    error it ends with. -/
inductive Walk (move : Move σ Unit) : σ → List σ → Error → Prop where
  | stop {here : σ} {failure : Error} (hfailed : (move.make here).1 = .error failure) :
      Walk move here [] failure
  | step {here next : σ} {visited : List σ} {failure : Error}
      (hmade : move.make here = (.ok (), next)) (hrest : Walk move next visited failure) :
      Walk move here (next :: visited) failure

/-- A move ends in one way only, so there is one walk from each value. -/
theorem Walk.unique {here : σ} {visited visited' : List σ} {failure failure' : Error}
    (h : move.Walk here visited failure) (h' : move.Walk here visited' failure') :
    visited' = visited ∧ failure' = failure := by
  induction h generalizing visited' with
  | stop hfailed =>
      cases h' with
      | stop hfailed' =>
          rw [hfailed, Except.error.injEq] at hfailed'
          exact ⟨rfl, hfailed'.symm⟩
      | step hmade' hrest' =>
          rw [hmade'] at hfailed
          nomatch hfailed
  | step hmade hrest ih =>
      cases h' with
      | stop hfailed' =>
          rw [hmade] at hfailed'
          nomatch hfailed'
      | step hmade' hrest' =>
          rw [hmade, Prod.mk.injEq] at hmade'
          rcases hmade' with ⟨-, rfl⟩
          rcases ih hrest' with ⟨rfl, rfl⟩
          exact ⟨rfl, rfl⟩

end Move

/-! ## Steps -/

/-- The target and the unit are both changed, or neither is. -/
theorem make_advance (target : Target) (lun : UInt64) :
    advance.make (target, lun) = Move.moved (nextAddress target lun) (target, lun) := by
  unfold advance nextAddress
  change Move.make (if target = .unset then _ else _) (target, lun) = _
  rw [Move.make_ite, Move.make_ite, Move.make_ite, Move.moved_ite, Move.moved_ite, Move.moved_ite]
  rfl

theorem make_advanceTarget (target : Target) :
    advanceTarget.make target = Move.moved (nextTarget target) target := by
  unfold advanceTarget nextTarget
  change Move.make (if target = .unset then _ else _) target = _
  rw [Move.make_ite, Move.make_ite, Move.make_ite, Move.moved_ite, Move.moved_ite, Move.moved_ite]
  rfl

/-- The address of the device with a target number. -/
def device (number : UInt8) : Target × UInt64 :=
  (.ofNumber number, 0)

-- No device has the unset target or a number out of range.
theorem nextAddress_device {number : UInt8} (h : number ≤ Target.last) :
    nextAddress (.ofNumber number) 0 =
      if number < Target.last then .ok (device (number + 1)) else .error .notFound := by
  have hrange : ¬ (Target.last < number ∨ (0 : UInt64) < 0) :=
    not_or.mpr ⟨UInt8.not_lt.mpr h, UInt64.lt_irrefl 0⟩
  unfold nextAddress
  rw [if_neg (Target.ofNumber_ne_unset number), Target.number_ofNumber, if_neg hrange,
    Target.withNumber_ofNumber]
  rfl

/-! ## Walks -/

/-- The addresses of all target numbers, in order. -/
def addresses : List (Target × UInt64) :=
  (List.range (Target.last.toNat + 1)).map fun n => device (.ofNat n)

-- Target numbers are counted as numbers and kept as bytes.
theorem toNat_ofNat_of_le_last {n : Nat} (h : n ≤ Target.last.toNat) :
    (UInt8.ofNat n).toNat = n :=
  UInt8.toNat_ofNat_of_lt' (Nat.lt_of_le_of_lt h Target.last.toNat_lt)

-- The induction is on the number of devices that come after this one.
theorem walk_device (rest : Nat) : ∀ n, n + rest = Target.last.toNat →
    advance.Walk (device (.ofNat n)) ((List.range' (n + 1) rest).map fun m => device (.ofNat m))
      .notFound := by
  induction rest with
  | zero =>
      intro n hn
      have hlast : UInt8.ofNat n = Target.last := by
        rw [← UInt8.toNat_inj, toNat_ofNat_of_le_last (by omega)]
        exact hn
      apply Move.Walk.stop
      change (advance.make (.ofNumber (.ofNat n), 0)).1 = _
      rw [make_advance, hlast, nextAddress_device (UInt8.le_refl _), if_neg (UInt8.lt_irrefl _)]
      rfl
  | succ rest ih =>
      intro n hn
      have hlt : UInt8.ofNat n < Target.last := by
        rw [UInt8.lt_iff_toNat_lt, toNat_ofNat_of_le_last (by omega)]
        omega
      have hmade : advance.make (device (.ofNat n)) = (.ok (), device (.ofNat (n + 1))) := by
        change advance.make (.ofNumber (.ofNat n), 0) = _
        rw [make_advance, nextAddress_device (UInt8.le_of_lt hlt), if_pos hlt, UInt8.ofNat_add]
        rfl
      exact .step hmade (ih (n + 1) (by omega))

/-- Whatever unit is beside it, the unset target leads to the address of each target
    number, and then there is no more. -/
theorem walk_unset (lun : UInt64) : advance.Walk (.unset, lun) addresses .notFound := by
  have hfirst : advance.make (.unset, lun) = (.ok (), device (.ofNat 0)) := by
    rw [make_advance]
    rfl
  unfold addresses
  rw [List.range_eq_range', List.range'_succ]
  exact .step hfirst (walk_device _ 0 (Nat.zero_add _))

theorem mem_addresses_iff {here : Target × UInt64} :
    here ∈ addresses ↔ ∃ number, number ≤ Target.last ∧ here = device number := by
  unfold addresses
  rw [List.mem_map]
  constructor
  · intro h
    rcases h with ⟨n, hn, rfl⟩
    rw [List.mem_range] at hn
    refine ⟨.ofNat n, ?_, rfl⟩
    rw [UInt8.le_iff_toNat_le, toNat_ofNat_of_le_last (by omega)]
    omega
  · intro h
    rcases h with ⟨number, hnumber, rfl⟩
    rw [UInt8.le_iff_toNat_le] at hnumber
    refine ⟨number.toNat, List.mem_range.mpr (by omega), ?_⟩
    rw [UInt8.ofNat_toNat]

theorem nodup_addresses : addresses.Nodup := by
  refine List.Nodup.map_on (fun m hm n hn heq => ?_) List.nodup_range
  rw [List.mem_range] at hm hn
  have hnumber : UInt8.ofNat m = UInt8.ofNat n :=
    congrArg (fun here : Target × UInt64 => here.1.number) heq
  rw [← UInt8.toNat_inj, toNat_ofNat_of_le_last (by omega),
    toNat_ofNat_of_le_last (by omega)] at hnumber
  exact hnumber

example : addresses = [(.zero, 0)] :=
  rfl

end FusionMpt
