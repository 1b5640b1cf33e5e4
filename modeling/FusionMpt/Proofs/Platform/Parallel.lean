import FusionMpt.Proofs.Platform.StraightLine

/-!
# Programs Side by Side

Two runs of the engine against adapters that behave alike differ in one thing:
what their reads of shared memory give. Registers read the same in both, and
the same accesses fail. To compare the two runs the programs are walked side by
side, at each access with a pair of answers that are alike.

What is read from memory may be the same in both, or the same in all that
counts. On the way it is noted whether it was. The note is a proposition that
begins as true and gets one more part with each read, and at the end of the
walk the relation between the two values may depend on it. So it can be said
that the values are equal exactly when all reads were the same.

The walk does not name an adapter or a memory. It is a matter of the programs,
and it composes like they do.

Two programs may also differ and the adapter be the same. They go in step if
they make one access and, whatever the answer is, go on in step. Nothing is
noted then, and an adapter cannot tell which of the two it serves.

## Main definitions

* `Access.Alike`: Two answers that differ at most in the bytes that were read.
* `Access.Agree`: The bytes read are the same in all that counts.
* `Program.Parallel`: Two programs that walk side by side.
* `Program.InStep`: Two programs that make the same accesses when they get the
  same answers.

## Theorems

* `Program.Parallel.read`, `Program.Parallel.ask`: One access.
* `Program.parallel_bind`: Sequences walk side by side if their parts do.
* `Program.parallel_of_uses`: A program that does not read memory, beside
  itself.
* `Program.inStep_bind`: Sequences go in step if their parts do.
* `Program.run_of_inStep`: Programs in step have one run.
-/

namespace FusionMpt

namespace Access

/-- The answers are the same, or both give the bytes that were asked for. -/
def Alike : (access : Access) → access.Answer → access.Answer → Prop
  | .readMemory _ _, .ok _, .ok _ => True
  | _, first, second => first = second

/-- The bytes that both answers give, if they give any, are the same in what
    counts of bytes read at that offset. -/
def Agree (counts : Nat → List UInt8 → List UInt8 → Prop) :
    (access : Access) → access.Answer → access.Answer → Prop
  | .readMemory offset _, .ok first, .ok second => counts offset first.toList second.toList
  | _, _, _ => True

theorem Alike.eq {access : Access} {first second : access.Answer} (h : access.Alike first second)
    (hread : ¬ access.IsMemoryRead) : first = second := by
  cases access with
  | readMemory offset len => exact absurd trivial hread
  | _ => exact h

end Access

namespace Program

variable {α β : Type} {counts : Nat → List UInt8 → List UInt8 → Prop}
  {R : Prop → α → α → Prop} {S : Prop → β → β → Prop} {same : Prop}

/-- The programs make the same accesses as long as they get answers that are
    alike, and end with values that are related, given whether all bytes read
    were the same in what counts. -/
inductive Parallel (counts : Nat → List UInt8 → List UInt8 → Prop) (R : Prop → α → α → Prop) :
    Prop → Program α → Program α → Prop where
  | done {same : Prop} {first second : α} (h : R same first second) :
      Parallel counts R same (.done first) (.done second)
  /-- Only programs that have read nothing different end without a value. -/
  | halt {same : Prop} (why : Halt) (h : same) : Parallel counts R same (.halt why) (.halt why)
  | call {same : Prop} {access : Access} {first second : access.Answer → Program α}
      (h : ∀ answer answer', access.Alike answer answer' →
        Parallel counts R (same ∧ access.Agree counts answer answer') (first answer)
          (second answer')) :
      Parallel counts R same (.call access first) (.call access second)

namespace Parallel

/-- Beside each other, programs read memory and go on as what was read allows. -/
theorem read {offset len : Nat} {first second : Except BusError (Vector UInt8 len) → Program α}
    (herror : ∀ cause, Parallel counts R same (first (.error cause)) (second (.error cause)))
    (hok : ∀ bytes bytes', Parallel counts R (same ∧ counts offset bytes.toList bytes'.toList)
      (first (.ok bytes)) (second (.ok bytes'))) :
    Parallel counts R same (.call (.readMemory offset len) first)
      (.call (.readMemory offset len) second) := by
  refine .call fun answer answer' halike => ?_
  cases answer with
  | error cause =>
      have hsame : Except.error cause = answer' := halike
      rw [← hsame]
      change Parallel counts R (same ∧ True) _ _
      rw [and_true]
      exact herror cause
  | ok bytes =>
      cases answer' with
      | error cause => exact nomatch (halike : Except.ok bytes = .error cause)
      | ok bytes' => exact hok bytes bytes'

/-- Any other access is answered the same in both runs. -/
theorem ask {access : Access} {first second : access.Answer → Program α}
    (hread : ¬ access.IsMemoryRead)
    (h : ∀ answer, Parallel counts R same (first answer) (second answer)) :
    Parallel counts R same (.call access first) (.call access second) := by
  refine .call fun answer answer' halike => ?_
  have hagree : access.Agree counts answer answer = True := by
    cases access with
    | readMemory offset len => exact absurd trivial hread
    | _ => rfl
  rw [← halike.eq hread, hagree, and_true]
  exact h answer

end Parallel

/-- Sequences walk side by side if their parts do. -/
theorem parallel_bind {first second : Program α} {next next' : α → Program β}
    (h : Parallel counts R same first second)
    (hnext : ∀ same value value', R same value value' →
      Parallel counts S same (next value) (next' value')) :
    Parallel counts S same (first >>= next) (second >>= next') := by
  induction h with
  | done h => exact hnext _ _ _ h
  | halt why h => exact .halt why h
  | call _ ih => exact .call fun answer answer' halike => ih answer answer' halike

/-- A program that reads no memory ends in both runs with the same value. -/
theorem parallel_of_uses {program : Program α}
    (huses : program.Uses fun access => ¬ access.IsMemoryRead) (h : same) :
    Parallel counts (fun same value value' => same ∧ value = value') same program program := by
  induction program generalizing same with
  | done value => exact .done ⟨h, rfl⟩
  | halt why => exact .halt why h
  | call access next ih => exact .ask huses.1 fun answer => ih answer (huses.2 answer) h

/-! ## In step -/

variable {α' β' γ σ : Type} {Q : α → α' → Prop} {T : β → β' → Prop}

/-- The programs make the same accesses as long as they get the same answers,
    and end with values that are related or both without one. -/
inductive InStep (Q : α → α' → Prop) : Program α → Program α' → Prop where
  | done {value : α} {value' : α'} (h : Q value value') : InStep Q (.done value) (.done value')
  | halt (why : Halt) : InStep Q (.halt why) (.halt why)
  | call {access : Access} {first : access.Answer → Program α}
      {second : access.Answer → Program α'} (h : ∀ answer, InStep Q (first answer) (second answer)) :
      InStep Q (.call access first) (.call access second)

theorem inStep_refl (program : Program α) : InStep Eq program program := by
  induction program with
  | done value => exact .done rfl
  | halt why => exact .halt why
  | call access next ih => exact .call ih

/-- Sequences go in step if their parts do. -/
theorem inStep_bind {first : Program α} {second : Program α'} {next : α → Program β}
    {next' : α' → Program β'} (h : InStep Q first second)
    (hnext : ∀ value value', Q value value' → InStep T (next value) (next' value')) :
    InStep T (first >>= next) (second >>= next') := by
  induction h with
  | done h => exact hnext _ _ h
  | halt why => exact .halt why
  | call _ ih => exact .call ih

/-- Against one adapter, programs in step have one run up to their values. Of
    these, what the relation says is the same is the same. -/
theorem run_of_inStep {first : Program α} {second : Program α'} (h : InStep Q first second)
    {view : α → γ} {view' : α' → γ} (hview : ∀ value value', Q value value' →
      view value = view' value') (adapter : Adapter σ) (s : σ) :
    (first.run adapter s).trace = (second.run adapter s).trace ∧
      (first.run adapter s).state = (second.run adapter s).state ∧
      (first.run adapter s).outcome.map view = (second.run adapter s).outcome.map view' := by
  induction h generalizing s with
  | done h => exact ⟨rfl, rfl, congrArg Except.ok (hview _ _ h)⟩
  | halt why => exact ⟨rfl, rfl, rfl⟩
  | @call access first second _ ih =>
      rcases ih (adapter.answer access s).1 (adapter.answer access s).2 with
        ⟨htrace, hstate, houtcome⟩
      exact ⟨congrArg (List.cons _) htrace, hstate, houtcome⟩

end Program

end FusionMpt
