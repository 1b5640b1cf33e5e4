import FusionMpt.Platform.Script
import FusionMpt.Proofs.Platform.StraightLine
import FusionMpt.Region.Slot

/-!
# The Guard of a Slot

Reads and writes of a slot go through one guard. It adds offset and length, in
numbers without a bound, and compares with the size of the slot. An access that
stays inside becomes the same access to the buffer, moved by where the slot
lies. Any other is refused, and then the buffer is not touched.

What is refused is reported with the place that it aimed at, counted from the
start of the memory. That is a sum once more, but now one of 64-bit words. An
offset that leaves no room for where the slot lies has no such place, and then
the access ends without an error to report. The guard itself holds for such an
offset as for any other, since it is far outside of every slot.

## Main definitions

* `Slot.guarded`: Accesses that are made if they stay inside the slot.
* `Slot.refusal`: The run of an access that is refused.
* `Slot.Bounded`: What is expected of the run of an access.
* `Slot.Guards`: What the guard makes of an access.

## Theorems

* `Slot.run_refuse`, `Slot.run_guarded`: The run of a refusal, and of guarded
  accesses.
* `Slot.uses_guarded`: The guard adds no access.
* `Slot.bounded_guarded_iff`: When an access that leaves the slot is reported.
* `Slot.access_bounded_iff`: Reads and writes are guarded.
* `Slot.refusal_overflows`: A refusal that is not reported.
-/

namespace FusionMpt

namespace Slot

variable {σ α : Type} {adapter : Adapter σ} {s : σ} {slot : Slot} {offset : UInt64} {len : Nat}

/-- These accesses if they stay inside the slot, and a refusal otherwise. -/
def guarded (slot : Slot) (offset : UInt64) (len : Nat) (accesses : Bus α) : Bus α :=
  if offset.toNat + len ≤ slot.size then accesses else slot.refuse offset len

/-- The run of an access to `len` bytes that is refused with nothing done, as
    one that aimed at `place` and would have left the slot. -/
def refusal (slot : Slot) (place len : Nat) (s : σ) : Run σ (Except BusError α) :=
  ⟨[], .ok (.error (.outOfBounds place len (slot.offset + slot.size))), s⟩

/-- An access to `len` bytes from `offset` of the slot on runs as the access to
    the buffer does, if it stays inside. If not it is refused, and the report
    names the place that it aimed at. -/
structure Bounded (slot : Slot) (offset : UInt64) (len : Nat) (s : σ)
    (direct run : Run σ (Except BusError α)) : Prop where
  inside : offset.toNat + len ≤ slot.size → run = direct
  outside : slot.size < offset.toNat + len →
    run = slot.refusal (slot.offset + offset.toNat) len s

/-- What the guard makes of an access, `access` to the buffer if it gets there: it
    is made if it stays inside and nothing is done if not. Then the place it aimed
    at is reported if that is a 64-bit number, and otherwise there is no result. -/
structure Guards (slot : Slot) (offset : UInt64) (len : Nat) (access : Access) (s : σ)
    (direct run : Run σ (Except BusError α)) : Prop where
  accesses_eq : run.trace.map (·.access) =
    if offset.toNat + len ≤ slot.size then [access] else []
  run_eq : run = if offset.toNat + len ≤ slot.size then direct
    else if slot.offset + offset.toNat < UInt64.size then
      slot.refusal (slot.offset + offset.toNat) len s
    else ⟨[], .error .overflow, s⟩
  bounded_iff : slot.Bounded offset len s direct run ↔ slot.offset + offset.toNat < UInt64.size

theorem run_refuse (adapter : Adapter σ) (s : σ) (slot : Slot) (offset : UInt64) (len : Nat) :
    (slot.refuse offset len : Bus α).run.run adapter s =
      if slot.offset + offset.toNat < UInt64.size then
        slot.refusal (slot.offset + offset.toNat) len s
      else ⟨[], .error .overflow, s⟩ := by
  unfold refuse
  by_cases hplace : slot.offset + offset.toNat < UInt64.size
  · rw [if_pos hplace, if_pos hplace]
    rfl
  · rw [if_neg hplace, if_neg hplace]
    rfl

theorem run_guarded (accesses : Bus α) :
    (slot.guarded offset len accesses).run.run adapter s =
      if offset.toNat + len ≤ slot.size then accesses.run.run adapter s
      else if slot.offset + offset.toNat < UInt64.size then
        slot.refusal (slot.offset + offset.toNat) len s
      else ⟨[], .error .overflow, s⟩ := by
  unfold guarded
  by_cases hinside : offset.toNat + len ≤ slot.size
  · rw [if_pos hinside, if_pos hinside]
  · rw [if_neg hinside, if_neg hinside, run_refuse]

theorem uses_refuse (allowed : Access → Prop) (slot : Slot) (offset : UInt64) (len : Nat) :
    (slot.refuse offset len : Bus α).run.Uses allowed := by
  unfold refuse
  by_cases hplace : slot.offset + offset.toNat < UInt64.size
  · rw [if_pos hplace]
    exact trivial
  · rw [if_neg hplace]
    exact trivial

theorem uses_guarded {allowed : Access → Prop} {accesses : Bus α}
    (h : accesses.run.Uses allowed) : (slot.guarded offset len accesses).run.Uses allowed := by
  unfold guarded
  by_cases hinside : offset.toNat + len ≤ slot.size
  · rw [if_pos hinside]
    exact h
  · rw [if_neg hinside]
    exact uses_refuse allowed slot offset len

-- What lies inside a slot is at a place that is a 64-bit number.
theorem place_lt_of_inside (h : offset.toNat + len ≤ slot.size) :
    slot.offset + offset.toNat < UInt64.size := by
  have hend : slot.offset + slot.size < UInt64.size :=
    Nat.lt_of_le_of_lt slot.end_le_total (by decide)
  omega

/-- An access that leaves the slot is reported as long as the place it aimed at is
    a 64-bit number. -/
theorem bounded_guarded_iff (accesses : Bus α) :
    slot.Bounded offset len s (accesses.run.run adapter s)
        ((slot.guarded offset len accesses).run.run adapter s) ↔
      slot.offset + offset.toNat < UInt64.size := by
  rw [run_guarded]
  constructor
  · intro hbounded
    refine Decidable.byContradiction fun hplace => ?_
    have hlong : ¬ offset.toNat + len ≤ slot.size := mt place_lt_of_inside hplace
    have hrefused := hbounded.outside (Nat.lt_of_not_le hlong)
    rw [if_neg hlong, if_neg hplace] at hrefused
    -- a report is expected where there is no result
    exact nomatch congrArg Run.outcome hrefused
  · intro hplace
    constructor
    case inside =>
      intro hinside
      rw [if_pos hinside]
    case outside =>
      intro hlong
      rw [if_neg (Nat.not_le.mpr hlong), if_pos hplace]

theorem guards_guarded {access : Access} {accesses : Bus α}
    (h : (accesses.run.run adapter s).trace.map (·.access) = [access]) :
    slot.Guards offset len access s (accesses.run.run adapter s)
      ((slot.guarded offset len accesses).run.run adapter s) := by
  constructor
  case accesses_eq =>
    rw [run_guarded]
    by_cases hinside : offset.toNat + len ≤ slot.size
    · rw [if_pos hinside, if_pos hinside, h]
    · rw [if_neg hinside, if_neg hinside]
      -- neither way of refusing makes an access
      by_cases hplace : slot.offset + offset.toNat < UInt64.size
      · rw [if_pos hplace]
        rfl
      · rw [if_neg hplace]
        rfl
  case run_eq => exact run_guarded accesses
  case bounded_iff => exact bounded_guarded_iff accesses

/-- Reads and writes of a slot reach the buffer exactly if they stay inside, moved
    by where the slot lies. Any other is refused with nothing done. What is
    reported then is the place aimed at, the length, and the end of the slot. A
    place that is no 64-bit number cannot be reported, and the program halts; so
    all is as expected exactly if it is one. -/
theorem access_bounded_iff (adapter : Adapter σ) (s : σ) (slot : Slot) (offset : UInt64) :
    (∀ len : Nat, slot.Guards offset len (.readMemory (slot.offset + offset.toNat) len) s
      ((Bus.readMemory (slot.offset + offset.toNat) len).run.run adapter s)
      ((slot.read offset len).run.run adapter s)) ∧
    (∀ bytes : List UInt8,
      slot.Guards offset bytes.length (.writeMemory (slot.offset + offset.toNat) bytes) s
        ((Bus.writeMemory (slot.offset + offset.toNat) bytes).run.run adapter s)
        ((slot.write offset bytes).run.run adapter s)) :=
  ⟨fun _ => guards_guarded rfl, fun _ => guards_guarded rfl⟩

/-- A read of one byte, as far outside of the request slot as can be asked for,
    halts. The place it aimed at is 32 past the last 64-bit number. -/
theorem refusal_overflows :
    let s : Script := { memory := .zeroed 0x10000000 Slot.total }
    let run := (Slot.request.read 0xffffffffffffffff 1).run.run Script.adapter s
    run = ⟨[], .error .overflow, s⟩ ∧
    ¬ Slot.request.Bounded 0xffffffffffffffff 1 s
      ((Bus.readMemory (32 + 18446744073709551615) 1).run.run Script.adapter s) run := by
  refine ⟨rfl, fun hbounded => ?_⟩
  exact absurd ((bounded_guarded_iff _).mp hbounded) (by decide)

end Slot

end FusionMpt
