import FusionMpt.Platform.Program

/-!
# Adapters

The other party to a program: something with a state that answers accesses.
Hardware, an emulation and a script of prepared answers are adapters alike,
and nothing is assumed of one beyond that it answers in the type of the
access.

`Program.run` plays a program against an adapter. It gives the events in the
order in which they happened, how the program ended, and the state the adapter
is left in. Running one program after another runs the second from where the
first left the adapter, and puts its events behind (`run_bind`).

## Main definitions

* `Adapter`: Answers to accesses, out of a state.
* `Run`: What a run consists of.
* `Program.run`: A program against an adapter.

## Theorems

* `Program.run_bind`: The run of a sequence is the sequence of the runs.
-/

namespace FusionMpt

/-- Something that answers accesses out of its state, which an access may
    change. -/
structure Adapter (σ : Type) where
  answer : (access : Access) → σ → access.Answer × σ

/-- What happened when a program met an adapter. -/
structure Run (σ α : Type) where
  /-- The events, in order. -/
  trace : List Event
  outcome : Except Halt α
  state : σ

namespace Run

variable {σ α β : Type}

/-- The run that goes on from another one, with its value and its state. -/
def andThen (r : Run σ α) (next : α → σ → Run σ β) : Run σ β :=
  match r.outcome with
  | .error why => ⟨r.trace, .error why, r.state⟩
  | .ok value =>
    let rest := next value r.state
    ⟨r.trace ++ rest.trace, rest.outcome, rest.state⟩

/-- The same run with one event in front. -/
def after (event : Event) (r : Run σ α) : Run σ α :=
  ⟨event :: r.trace, r.outcome, r.state⟩

theorem after_andThen (event : Event) (r : Run σ α) (next : α → σ → Run σ β) :
    (r.after event).andThen next = (r.andThen next).after event := by
  rcases r with ⟨trace, outcome | outcome, state⟩ <;> rfl

end Run

namespace Program

variable {σ α β : Type}

/-- Play a program against an adapter in a given state. -/
def run (adapter : Adapter σ) : Program α → σ → Run σ α
  | .done value, state => ⟨[], .ok value, state⟩
  | .halt why, state => ⟨[], .error why, state⟩
  | .call access next, state =>
    let answered := adapter.answer access state
    ((next answered.1).run adapter answered.2).after ⟨access, answered.1⟩

@[simp]
theorem run_done (adapter : Adapter σ) (value : α) (state : σ) :
    (Program.done value).run adapter state = ⟨[], .ok value, state⟩ :=
  rfl

@[simp]
theorem run_halt (adapter : Adapter σ) (why : Halt) (state : σ) :
    (Program.halt why : Program α).run adapter state = ⟨[], .error why, state⟩ :=
  rfl

@[simp]
theorem run_call (adapter : Adapter σ) (access : Access) (next : access.Answer → Program α)
    (state : σ) :
    (Program.call access next).run adapter state =
      ((next (adapter.answer access state).1).run adapter
        (adapter.answer access state).2).after ⟨access, (adapter.answer access state).1⟩ :=
  rfl

theorem run_bind (adapter : Adapter σ) (program : Program α) (next : α → Program β)
    (state : σ) :
    (program >>= next).run adapter state =
      (program.run adapter state).andThen fun value => (next value).run adapter := by
  induction program generalizing state with
  | done value => rfl
  | halt why => rfl
  | call access rest ih => simp only [call_bind, run_call, ih, Run.after_andThen]

end Program

end FusionMpt
