import FusionMpt.Proofs.Transfer.Exchange

/-!
# Playing a Program Forward

Paths say what a program may do. When the adapter's answers are known, what it
does is a matter of computing: each part is played from where the one before
left the adapter. The lemmas here do that for the three layers of the engine,
one step of a sequence at a time. `Run.behind` keeps the events in order.

What an adapter has become after some events is settled by the events alone
(`Adapter.after`), and a run leaves it in just that state. So a moment in the
middle of a run can be named by the events before it.

## Main definitions

* `Run.behind`: A run with events in front.
* `Adapter.after`: The adapter's state after some events.

## Theorems

* `Program.run_bind_ok`, `Program.run_bind_halt`: A sequence, by the run of its
  first part.
* `Program.run_map`: A value computed from another.
* `Program.run_bind_value`, `Program.run_adapt_value`: The same for programs
  that may fail.
* `Program.run_bind_failure`, `Program.run_adapt_failure`: And where they do.
* `Exchange.run_bind_value`, `Exchange.run_attempt`: And for those that fill in
  a packet.
* `Adapter.after_run`: The state that a run leaves.
* `Adapter.failure?_run`: The events of a run with an adapter that never refuses.
* `Adapter.view_after`: What events of some kinds leave unchanged.
-/

namespace FusionMpt

variable {σ α β ε ε' : Type} {adapter : Adapter σ} {s s' : σ} {events : List Event}

/-- The run with these events in front. -/
def Run.behind (events : List Event) (r : Run σ α) : Run σ α :=
  ⟨events ++ r.trace, r.outcome, r.state⟩

-- A part that makes no access leaves the events as they are.
theorem Run.behind_done (events : List Event) (outcome : Except Halt α) (s : σ) :
    (⟨[], outcome, s⟩ : Run σ α).behind events = ⟨events, outcome, s⟩ := by
  unfold behind
  rw [List.append_nil]

namespace Program

theorem run_bind_ok {program : Program α} {next : α → Program β} {value : α}
    (h : program.run adapter s = ⟨events, .ok value, s'⟩) :
    (program >>= next).run adapter s = ((next value).run adapter s').behind events := by
  rw [run_bind, h]
  rfl

/-- Computing on the value of a program changes nothing but the value. -/
theorem run_map (adapter : Adapter σ) (program : Program α) (f : α → β) (s : σ) :
    (f <$> program).run adapter s =
      ⟨(program.run adapter s).trace, (program.run adapter s).outcome.map f,
        (program.run adapter s).state⟩ := by
  rw [map_eq_pure_bind, run_bind]
  rcases program.run adapter s with ⟨trace, why | value, state⟩
  · rfl
  · exact Run.behind_done trace _ state

theorem run_bind_halt {program : Program α} {next : α → Program β} {why : Halt}
    (h : program.run adapter s = ⟨events, .error why, s'⟩) :
    (program >>= next).run adapter s = ⟨events, .error why, s'⟩ := by
  rw [run_bind, h]
  rfl

theorem run_bind_value {program : ExceptT ε Program α} {next : α → ExceptT ε Program β} {value : α}
    (h : program.run.run adapter s = ⟨events, .ok (.ok value), s'⟩) :
    (program >>= next).run.run adapter s = ((next value).run.run adapter s').behind events := by
  rw [ExceptT.run_bind, run_bind_ok h]

theorem run_adapt_value {program : ExceptT ε Program α} {f : ε → ε'} {value : α}
    (h : program.run.run adapter s = ⟨events, .ok (.ok value), s'⟩) :
    (program.adapt f).run.run adapter s = ⟨events, .ok (.ok value), s'⟩ := by
  change (Except.mapError f <$> program.run).run adapter s = _
  rw [map_eq_pure_bind, run_bind_ok h]
  exact Run.behind_done events _ s'

/-- A part that fails is the last. -/
theorem run_bind_failure {program : ExceptT ε Program α} {next : α → ExceptT ε Program β}
    {failure : ε} (h : program.run.run adapter s = ⟨events, .ok (.error failure), s'⟩) :
    (program >>= next).run.run adapter s = ⟨events, .ok (.error failure), s'⟩ := by
  rw [ExceptT.run_bind, run_bind_ok h]
  exact Run.behind_done events _ s'

theorem run_adapt_failure {program : ExceptT ε Program α} {f : ε → ε'} {failure : ε}
    (h : program.run.run adapter s = ⟨events, .ok (.error failure), s'⟩) :
    (program.adapt f).run.run adapter s = ⟨events, .ok (.error (f failure)), s'⟩ := by
  change (Except.mapError f <$> program.run).run adapter s = _
  rw [map_eq_pure_bind, run_bind_ok h]
  exact Run.behind_done events _ s'

end Program

namespace Bus

theorem run_readRegister_failure {offset : UInt32} {cause : BusError}
    (h : adapter.answer (.readRegister offset) s = (.error cause, s')) :
    (readRegister offset).run.run adapter s =
      ⟨[⟨.readRegister offset, .error cause⟩], .ok (.error cause), s'⟩ := by
  change Run.mk [⟨.readRegister offset, (adapter.answer (.readRegister offset) s).1⟩]
    (.ok (adapter.answer (.readRegister offset) s).1) (adapter.answer (.readRegister offset) s).2 = _
  rw [h]

theorem run_readRegister {offset value : UInt32}
    (h : adapter.answer (.readRegister offset) s = (.ok value, s')) :
    (readRegister offset).run.run adapter s =
      ⟨[⟨.readRegister offset, .ok value⟩], .ok (.ok value), s'⟩ := by
  change Run.mk [⟨.readRegister offset, (adapter.answer (.readRegister offset) s).1⟩]
    (.ok (adapter.answer (.readRegister offset) s).1) (adapter.answer (.readRegister offset) s).2 = _
  rw [h]

theorem run_writeRegister {offset value : UInt32} {answer : Unit}
    (h : adapter.answer (.writeRegister offset value) s = (.ok answer, s')) :
    (writeRegister offset value).run.run adapter s =
      ⟨[⟨.writeRegister offset value, .ok answer⟩], .ok (.ok answer), s'⟩ := by
  change Run.mk [⟨.writeRegister offset value, (adapter.answer (.writeRegister offset value) s).1⟩]
    (.ok (adapter.answer (.writeRegister offset value) s).1)
    (adapter.answer (.writeRegister offset value) s).2 = _
  rw [h]

theorem run_readMemory {offset len : Nat} {bytes : Vector UInt8 len}
    (h : adapter.answer (.readMemory offset len) s = (.ok bytes, s')) :
    (readMemory offset len).run.run adapter s =
      ⟨[⟨.readMemory offset len, .ok bytes⟩], .ok (.ok bytes), s'⟩ := by
  change Run.mk [⟨.readMemory offset len, (adapter.answer (.readMemory offset len) s).1⟩]
    (.ok (adapter.answer (.readMemory offset len) s).1) (adapter.answer (.readMemory offset len) s).2
      = _
  rw [h]

theorem run_writeMemory {offset : Nat} {bytes : List UInt8} {answer : Unit}
    (h : adapter.answer (.writeMemory offset bytes) s = (.ok answer, s')) :
    (writeMemory offset bytes).run.run adapter s =
      ⟨[⟨.writeMemory offset bytes, .ok answer⟩], .ok (.ok answer), s'⟩ := by
  change Run.mk [⟨.writeMemory offset bytes, (adapter.answer (.writeMemory offset bytes) s).1⟩]
    (.ok (adapter.answer (.writeMemory offset bytes) s).1)
    (adapter.answer (.writeMemory offset bytes) s).2 = _
  rw [h]

theorem run_attempt_value {bus : Bus α} {value : α}
    (h : bus.run.run adapter s = ⟨events, .ok (.ok value), s'⟩) :
    bus.attempt.run.run adapter s = ⟨events, .ok (.ok value), s'⟩ :=
  Program.run_adapt_value h

end Bus

namespace Exchange

variable {p q : Packet}

theorem run_bind_value {exchange : Exchange α} {next : α → Exchange β} {value : α}
    (h : (exchange.run p).run adapter s = ⟨events, .ok (.ok value, q), s'⟩) :
    ((exchange >>= next).run p).run adapter s =
      (((next value).run q).run adapter s').behind events := by
  rw [run_bind_apply, Program.run_bind_ok h]

theorem run_attempt {attempt : Attempt α} {result : Except Error α}
    (h : attempt.run.run adapter s = ⟨events, .ok result, s'⟩) :
    (attempt.exchange.run p).run adapter s = ⟨events, .ok (result, p), s'⟩ := by
  change (attempt.run >>= fun outcome => Program.done (outcome, p)).run adapter s = _
  rw [Program.run_bind_ok h]
  exact Run.behind_done events _ s'

end Exchange

namespace Adapter

/-- The adapter's state after it has been asked for these events. -/
def after (adapter : Adapter σ) : List Event → σ → σ
  | [], s => s
  | event :: rest, s => adapter.after rest (adapter.answer event.access s).2

theorem after_append (adapter : Adapter σ) (front rest : List Event) (s : σ) :
    adapter.after (front ++ rest) s = adapter.after rest (adapter.after front s) := by
  induction front generalizing s with
  | nil => rfl
  | cons event front ih => exact ih _

theorem after_run (adapter : Adapter σ) (program : Program α) (s : σ) :
    adapter.after (program.run adapter s).trace s = (program.run adapter s).state := by
  induction program generalizing s with
  | done value => rfl
  | halt why => rfl
  | call access next ih => exact ih _ _

-- An adapter that refuses no access has none of a run fail.
theorem failure?_run {adapter : Adapter σ}
    (h : ∀ (access : Access) s, access.failure? (adapter.answer access s).1 = none)
    (program : Program α)
    (s : σ) : ∀ event ∈ (program.run adapter s).trace, event.failure? = none := by
  induction program generalizing s with
  | done value => exact fun _ hmem => absurd hmem List.not_mem_nil
  | halt why => exact fun _ hmem => absurd hmem List.not_mem_nil
  | call access next ih =>
      intro event hmem
      rcases List.mem_cons.mp hmem with rfl | hmem
      · exact h access s
      · exact ih _ _ event hmem

/-- What accesses of these kinds do not change of an adapter is not changed by any
    number of them. -/
theorem view_after {β : Type} {adapter : Adapter σ} {view : σ → β} {allowed : Access → Prop}
    (hview : ∀ access s, allowed access → view (adapter.answer access s).2 = view s)
    {events : List Event} (hevents : ∀ event ∈ events, allowed event.access) (s : σ) :
    view (adapter.after events s) = view s := by
  induction events generalizing s with
  | nil => rfl
  | cons event rest ih =>
      have hrest := ih (fun later hmem => hevents later (List.mem_cons_of_mem _ hmem))
      exact (hrest _).trans (hview event.access s (hevents event List.mem_cons_self))

end Adapter

end FusionMpt
