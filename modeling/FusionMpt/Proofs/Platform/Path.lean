import FusionMpt.Platform.Adapter
import FusionMpt.Platform.Attempt

/-!
# Paths

What a program may do, whatever it is played against. A program is a tree, and
a run against an adapter follows one branch of it to its end: the adapter picks
the branch, but the branches are there without it. So a fact about every path
is a fact about every run on every adapter, and it is proved without naming
one (`path_run`).

Only the composition of programs matters for such proofs. A path of a sequence
is a path of the first program with one of the second behind it. The engine
stacks two layers on programs, one that may fail and one that keeps a packet,
and each layer gets the same law: a sequence ends with a value if both of its
parts do.

## Main definitions

* `Program.Path`: The program may make these events and end so.
* `Program.Makes`: The program works through a list.

## Theorems

* `Program.path_run`: A run follows a path.
* `Program.path_bind`: The paths of a sequence.
* `Program.path_bind_ok`: The paths of a sequence that end with a value.
* `Program.path_map_ok`: A value computed from another adds no event.
* `Program.path_bind_value`: The paths of a sequence that may fail and ends
  with a value.
* `Program.path_bind_failure`: The paths of such a sequence that end with a
  failure.
* `Program.path_adapt_value`, `Program.path_adapt_failure`: Renaming failures
  adds no event.
* `Program.makes_bind`: A sequence works through one list after the other.
-/

namespace FusionMpt

namespace Program

variable {σ α β ε ε' : Type}

/-- The program may make these events, in this order, and end so. -/
def Path : Program α → List Event → Except Halt α → Prop
  | .done value, events, outcome => events = [] ∧ outcome = .ok value
  | .halt why, events, outcome => events = [] ∧ outcome = .error why
  | .call access next, events, outcome =>
    ∃ answer rest, events = ⟨access, answer⟩ :: rest ∧ (next answer).Path rest outcome

theorem path_done {value : α} {events : List Event} {outcome : Except Halt α} :
    (Program.done value).Path events outcome ↔ events = [] ∧ outcome = .ok value :=
  Iff.rfl

/-- A run follows a path: the adapter's answers select one of those the program
    has. -/
theorem path_run (adapter : Adapter σ) (program : Program α) (s : σ) :
    program.Path (program.run adapter s).trace (program.run adapter s).outcome := by
  induction program generalizing s with
  | done value => exact ⟨rfl, rfl⟩
  | halt why => exact ⟨rfl, rfl⟩
  | call access next ih => exact ⟨_, _, rfl, ih _ _⟩

theorem path_bind {program : Program α} {next : α → Program β} {events : List Event}
    {outcome : Except Halt β} :
    (program >>= next).Path events outcome ↔
      (∃ why, program.Path events (.error why) ∧ outcome = .error why) ∨
        ∃ value front rest, events = front ++ rest ∧ program.Path front (.ok value) ∧
          (next value).Path rest outcome := by
  -- The induction is on the first program. At its end the second takes over, or
  -- the whole has halted; before that, each answer picks a subtree.
  induction program generalizing events with
  | done value =>
      rw [done_bind]
      constructor
      · intro h
        exact Or.inr ⟨value, [], events, rfl, ⟨rfl, rfl⟩, h⟩
      · intro h
        rcases h with ⟨why, hpath, -⟩ | ⟨v, front, rest, rfl, hpath, hrest⟩
        · exact absurd hpath.2 (by simp only [reduceCtorEq, not_false_eq_true])
        · rcases hpath with ⟨rfl, hv⟩
          rw [Except.ok.injEq] at hv
          rw [List.nil_append, ← hv]
          exact hrest
  | halt why =>
      rw [halt_bind]
      constructor
      · intro h
        rcases h with ⟨rfl, rfl⟩
        exact Or.inl ⟨why, ⟨rfl, rfl⟩, rfl⟩
      · intro h
        rcases h with ⟨why', ⟨rfl, hw⟩, rfl⟩ | ⟨v, front, rest, rfl, hpath, -⟩
        · rw [Except.error.injEq] at hw
          exact ⟨rfl, by rw [hw]⟩
        · exact absurd hpath.2 (by simp only [reduceCtorEq, not_false_eq_true])
  | call access rest ih =>
      rw [call_bind]
      constructor
      · intro h
        rcases h with ⟨answer, tail, rfl, hpath⟩
        rcases (ih answer).mp hpath with ⟨why, hw, ho⟩ | ⟨v, front, back, rfl, hfront, hback⟩
        · exact Or.inl ⟨why, ⟨answer, tail, rfl, hw⟩, ho⟩
        · exact Or.inr ⟨v, ⟨access, answer⟩ :: front, back, rfl, ⟨answer, front, rfl, hfront⟩,
            hback⟩
      · intro h
        rcases h with ⟨why, ⟨answer, tail, rfl, hpath⟩, ho⟩ | ⟨v, front, back, rfl, hpath, hback⟩
        · exact ⟨answer, tail, rfl, (ih answer).mpr (Or.inl ⟨why, hpath, ho⟩)⟩
        · rcases hpath with ⟨answer, tail, rfl, hpath⟩
          exact ⟨answer, tail ++ back, rfl,
            (ih answer).mpr (Or.inr ⟨v, tail, back, rfl, hpath, hback⟩)⟩

/-- A sequence that ends with a value has run both its parts to a value. -/
theorem path_bind_ok {program : Program α} {next : α → Program β} {events : List Event}
    {value : β} :
    (program >>= next).Path events (.ok value) ↔
      ∃ first front rest, events = front ++ rest ∧ program.Path front (.ok first) ∧
        (next first).Path rest (.ok value) := by
  rw [path_bind]
  constructor
  · intro h
    rcases h with ⟨why, -, ho⟩ | h
    · -- a first part that halts leaves the whole without a value
      exact absurd ho (by simp only [reduceCtorEq, not_false_eq_true])
    · exact h
  · exact Or.inr

/-- Computing on the value of a program adds no event. -/
theorem path_map_ok {program : Program α} {f : α → β} {events : List Event} {value : β} :
    (f <$> program).Path events (.ok value) ↔
      ∃ first, program.Path events (.ok first) ∧ value = f first := by
  rw [map_eq_pure_bind, path_bind_ok]
  constructor
  · intro h
    -- computing ends at once, so the events are all of the program's
    rcases h with ⟨first, front, rest, rfl, hpath, rfl, hv⟩
    rw [Except.ok.injEq] at hv
    rw [List.append_nil]
    exact ⟨first, hpath, hv⟩
  · intro h
    rcases h with ⟨first, hpath, rfl⟩
    exact ⟨first, events, [], (List.append_nil events).symm, hpath, rfl, rfl⟩

/-! ## Programs that may fail -/

theorem path_pure_value {value value' : α} {events : List Event} :
    (pure value : ExceptT ε Program α).run.Path events (.ok (.ok value')) ↔
      events = [] ∧ value' = value := by
  rw [ExceptT.run_pure, pure_eq_done, path_done, Except.ok.injEq, Except.ok.injEq]

theorem path_bind_value {program : ExceptT ε Program α} {next : α → ExceptT ε Program β}
    {events : List Event} {value : β} :
    (program >>= next).run.Path events (.ok (.ok value)) ↔
      ∃ first front rest, events = front ++ rest ∧ program.run.Path front (.ok (.ok first)) ∧
        (next first).run.Path rest (.ok (.ok value)) := by
  rw [ExceptT.run_bind, path_bind_ok]
  constructor
  · intro h
    -- a failure of the first part is the failure of the whole
    rcases h with ⟨first | first, front, rest, rfl, hfront, hrest⟩
    · exact absurd hrest.2 (by simp only [Except.ok.injEq, reduceCtorEq, not_false_eq_true])
    · exact ⟨first, front, rest, rfl, hfront, hrest⟩
  · intro h
    rcases h with ⟨first, front, rest, rfl, hfront, hrest⟩
    exact ⟨.ok first, front, rest, rfl, hfront, hrest⟩

theorem path_adapt_value {program : ExceptT ε Program α} {f : ε → ε'} {events : List Event}
    {value : α} :
    (program.adapt f).run.Path events (.ok (.ok value)) ↔
      program.run.Path events (.ok (.ok value)) := by
  change (Except.mapError f <$> program.run).Path events (.ok (.ok value)) ↔ _
  rw [path_map_ok]
  constructor
  · intro h
    rcases h with ⟨first | first, hpath, hv⟩
    · cases hv
    · rw [Except.ok.inj hv]
      exact hpath
  · intro hpath
    exact ⟨.ok value, hpath, rfl⟩

/-- A sequence fails if its first part does, or the second after it. -/
theorem path_bind_failure {program : ExceptT ε Program α} {next : α → ExceptT ε Program β}
    {events : List Event} {failure : ε} :
    (program >>= next).run.Path events (.ok (.error failure)) ↔
      program.run.Path events (.ok (.error failure)) ∨
        ∃ first front rest, events = front ++ rest ∧ program.run.Path front (.ok (.ok first)) ∧
          (next first).run.Path rest (.ok (.error failure)) := by
  rw [ExceptT.run_bind, path_bind_ok]
  constructor
  · intro h
    rcases h with ⟨first | first, front, rest, rfl, hfront, hrest⟩
    · -- the second part is not begun
      rcases hrest with ⟨rfl, hfailure⟩
      rw [List.append_nil, Except.error.inj (Except.ok.inj hfailure)]
      exact Or.inl hfront
    · exact Or.inr ⟨first, front, rest, rfl, hfront, hrest⟩
  · intro h
    rcases h with hfirst | ⟨first, front, rest, rfl, hfront, hrest⟩
    · exact ⟨.error failure, events, [], (List.append_nil events).symm, hfirst, rfl, rfl⟩
    · exact ⟨.ok first, front, rest, rfl, hfront, hrest⟩

theorem path_adapt_failure {program : ExceptT ε Program α} {f : ε → ε'} {events : List Event}
    {failure : ε'} :
    (program.adapt f).run.Path events (.ok (.error failure)) ↔
      ∃ cause, program.run.Path events (.ok (.error cause)) ∧ failure = f cause := by
  change (Except.mapError f <$> program.run).Path events (.ok (.error failure)) ↔ _
  rw [path_map_ok]
  constructor
  · intro h
    rcases h with ⟨first | first, hpath, hfailure⟩
    · exact ⟨first, hpath, Except.error.inj hfailure⟩
    · cases hfailure
  · intro h
    rcases h with ⟨cause, hpath, rfl⟩
    exact ⟨.error cause, hpath, rfl⟩

/-! ## Programs that work through a list -/

section Makes

variable {ι : Type} {Made : List ι → List Event → Except ε Unit → Prop} {first second : List ι}

/-- The program comes to an end on every path, and its events are what `Made` says of
    the list and of that end. -/
def Makes (Made : List ι → List Event → Except ε Unit → Prop) (program : ExceptT ε Program α)
    (list : List ι) : Prop :=
  ∀ events outcome, program.run.Path events outcome →
    ∃ result, outcome = .ok result ∧ Made list events (result.map fun _ => ())

/-- A sequence works through one list after the other, if what was made of a list can
    be gone on with after a good end and stands after a failure. -/
theorem makes_bind {program : ExceptT ε Program α} {next : α → ExceptT ε Program β}
    (happend : ∀ {front rest result}, Made first front (.ok ()) → Made second rest result →
      Made (first ++ second) (front ++ rest) result)
    (hstop : ∀ {events failure}, Made first events (.error failure) →
      Made (first ++ second) events (.error failure))
    (hfirst : Makes Made program first) (hnext : ∀ value, Makes Made (next value) second) :
    Makes Made (program >>= next) (first ++ second) := by
  intro events outcome h
  rw [ExceptT.run_bind, path_bind] at h
  rcases h with ⟨why, hpath, rfl⟩ | ⟨result, front, rest, rfl, hfront, hrest⟩
  · -- such a program always comes to an end
    rcases hfirst events _ hpath with ⟨result, hr, -⟩
    exact absurd hr (by simp only [reduceCtorEq, not_false_eq_true])
  · rcases hfirst front _ hfront with ⟨result', hr, hmade⟩
    rw [Except.ok.injEq] at hr
    rw [← hr] at hmade
    cases result with
    | error failure =>
        rcases hrest with ⟨rfl, rfl⟩
        rw [List.append_nil]
        exact ⟨.error failure, rfl, hstop hmade⟩
    | ok value =>
        rcases hnext value rest outcome hrest with ⟨last, ho, hlast⟩
        exact ⟨last, ho, happend hmade hlast⟩

end Makes

end Program

end FusionMpt
