import FusionMpt.Proofs.Platform.StraightLine
import FusionMpt.Transfer.Completion

/-!
# Straight Lines That Fill In a Packet

The second layer of the engine keeps a packet beside the failures. A step of it
starts from one packet and leaves another, also when it fails, so its paths are
those of a program with the packet it starts from.

Copying results back reads the lengths of the packet it fills in. Whether the
accesses of a second step can be told in advance therefore depends on what the
first step left of the packet, and the law for sequences asks for it of every
packet that the first step may leave.

## Main definitions

* `Exchange.Performs`: The exchange makes a fixed list of accesses, from a
  given packet.

## Theorems

* `Exchange.path_bind_value`: The paths of a sequence that ends with a value.
* `Exchange.performs_bind`: The accesses of a sequence.
* `Exchange.performs_attempt`: The accesses of an attempt.
* `Exchange.uses_bind`: The kinds of access of a sequence.
-/

namespace FusionMpt

namespace Exchange

variable {α β : Type} {p q : Packet}

theorem run_bind_apply (exchange : Exchange α) (next : α → Exchange β) (p : Packet) :
    (exchange >>= next).run p =
      exchange.run p >>= fun step =>
        match step.1 with
        | .ok value => (next value).run step.2
        | .error failure => .done (.error failure, step.2) := by
  rw [ExceptT.run_bind]
  change (exchange.run p >>= fun step => _) = _
  congr 1
  funext step
  -- a failure keeps the packet as the first part left it
  rcases step with ⟨_ | _, _⟩ <;> rfl

-- Looking at the packet makes no access.
theorem run_get_bind (next : Packet → Exchange β) (p : Packet) :
    ((get : Exchange Packet) >>= next).run p = (next p).run p :=
  rfl

theorem path_bind_value {exchange : Exchange α} {next : α → Exchange β} {events : List Event}
    {value : β} :
    ((exchange >>= next).run p).Path events (.ok (.ok value, q)) ↔
      ∃ first r front rest, events = front ++ rest ∧
        (exchange.run p).Path front (.ok (.ok first, r)) ∧
        ((next first).run r).Path rest (.ok (.ok value, q)) := by
  rw [run_bind_apply, Program.path_bind_ok]
  constructor
  · intro h
    rcases h with ⟨⟨first | first, r⟩, front, rest, rfl, hfront, hrest⟩
    · exact absurd hrest.2 (by simp only [Except.ok.injEq, Prod.mk.injEq, reduceCtorEq,
        false_and, not_false_eq_true])
    · exact ⟨first, r, front, rest, rfl, hfront, hrest⟩
  · intro h
    rcases h with ⟨first, r, front, rest, rfl, hfront, hrest⟩
    exact ⟨(.ok first, r), front, rest, rfl, hfront, hrest⟩

/-- From packet `p` the exchange makes these accesses in order until one fails,
    and ends with its error; if none fails it ends with a value. -/
def Performs (exchange : Exchange α) (p : Packet) (accesses : List Access) : Prop :=
  ∀ events outcome, (exchange.run p).Path events outcome →
    ∃ (result : Except BusError α) (q : Packet), outcome = .ok (result.mapError Error.bus, q) ∧
      Performed accesses events (result.map fun _ => ())

theorem performs_bind {exchange : Exchange α} {next : α → Exchange β} {first second : List Access}
    (hfirst : exchange.Performs p first)
    (hnext : ∀ events value q, (exchange.run p).Path events (.ok (.ok value, q)) →
      (next value).Performs q second) :
    (exchange >>= next).Performs p (first ++ second) := by
  intro events outcome h
  rw [run_bind_apply, Program.path_bind] at h
  rcases h with ⟨why, hpath, rfl⟩ | ⟨⟨step, r⟩, front, rest, rfl, hfront, hrest⟩
  · rcases hfirst events _ hpath with ⟨result, q, hr, -⟩
    exact absurd hr (by simp only [reduceCtorEq, not_false_eq_true])
  · rcases hfirst front _ hfront with ⟨result, r', hr, hperformed⟩
    rw [Except.ok.injEq, Prod.mk.injEq] at hr
    rcases hr with ⟨rfl, rfl⟩
    cases result with
    | error cause =>
        rcases hrest with ⟨rfl, rfl⟩
        rw [List.append_nil]
        exact ⟨.error cause, r, rfl, hperformed.stop second⟩
    | ok value =>
        -- the second part starts from the packet that the first has left
        rcases hnext front value r hfront rest outcome hrest with ⟨last, q, ho, hlast⟩
        exact ⟨last, q, ho, hperformed.append hlast⟩

-- A step that only changes the packet makes no access.
theorem performs_modify (f : Packet → Packet) : (modify f : Exchange Unit).Performs p [] := by
  rintro events outcome ⟨rfl, rfl⟩
  exact ⟨.ok (), f p, rfl, .nil⟩

theorem performs_attempt {bus : Bus α} {accesses : List Access} (h : bus.Performs accesses) :
    (Attempt.exchange bus.attempt).Performs p accesses := by
  intro events outcome hpath
  change ((Except.mapError Error.bus <$> bus.run) >>= fun outcome =>
    Program.done (outcome, p)).Path _ _ at hpath
  rw [map_eq_pure_bind, Program.bind_assoc, Program.path_bind] at hpath
  rcases hpath with ⟨why, hbus, rfl⟩ | ⟨result, front, rest, rfl, hbus, hdone⟩
  · rcases h events _ hbus with ⟨result, hr, -⟩
    exact absurd hr (by simp only [reduceCtorEq, not_false_eq_true])
  · rcases h front _ hbus with ⟨result', hr, hperformed⟩
    rw [Except.ok.injEq] at hr
    rcases hdone with ⟨rfl, rfl⟩
    rw [List.append_nil, hr]
    exact ⟨result', p, rfl, hperformed⟩

/-! ## Kinds of access -/

theorem uses_bind {allowed : Access → Prop} {exchange : Exchange α} {next : α → Exchange β}
    (hfirst : (exchange.run p).Uses allowed)
    (hnext : ∀ value q, ((next value).run q).Uses allowed) :
    ((exchange >>= next).run p).Uses allowed := by
  rw [run_bind_apply]
  refine Program.uses_bind hfirst (fun step => ?_)
  rcases step with ⟨failure | value, q⟩
  · exact trivial
  · exact hnext value q

theorem uses_attempt {allowed : Access → Prop} {attempt : Attempt α}
    (h : attempt.run.Uses allowed) : (attempt.exchange.run p).Uses allowed :=
  Program.uses_bind h fun _ => trivial

end Exchange

end FusionMpt
