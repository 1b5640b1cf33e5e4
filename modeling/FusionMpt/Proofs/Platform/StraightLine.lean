import FusionMpt.Proofs.Platform.Path

/-!
# Straight Lines

Programs that make a fixed list of accesses, one after the other, until one
fails. Most of the engine is of this kind: bringing an adapter up, placing a
request, copying results back. What such a program does is settled by the list
and by which access fails first, and `Performed` says it in those terms: every
access but the last succeeded, and the last one failed exactly when the whole
did, with the same error.

Where only the kind of access matters and not the order, `Program.Uses` is
enough. It holds of loops too, which have no list of accesses.

## Main definitions

* `Access.failure?`, `Event.failure?`: The error of an access that failed.
* `Performed`: The events of a list of accesses, up to the first failure.
* `Event.read?`, `valuesRead`: What a register was read as.
* `Event.written?`, `delivered`: What a register was given.
* `Bus.Performs`: A program whose paths are those of a list of accesses.
* `Access.IsMemoryRead`: An access that reads shared memory.
* `Program.Uses`: A program that makes only accesses of some kind.

## Theorems

* `Performed.append`: A list after one that was performed without failure.
* `Performed.stop`: Nothing follows a failure.
* `Performed.failure?_eq_none`: Without failure no access failed.
* `Performed.exists_failed`, `Performed.exists_split`: The last of the events is
  the one that failed.
* `Performed.mem`, `Performed.map_access_prefix`: No other access is made, and
  none out of order.
* `Performed.exists_parts`, `Performed.snoc`: The parts of a list, and its last
  access.
* `Performed.eq_ok_iff`, `Performed.exists_last_iff`: When the whole list is
  made without failure, and when the last access of it is made.
* `Performed.of_failure`: What was made if the access at some place failed.
* `Performed.delivered_eq`: What a list that was made has given to a register.
* `Bus.performs_bind`: The accesses of a sequence.
* `Bus.Performs.of_fine`, `Bus.Performs.of_failure`: How a program in a straight
  line ends if no access failed, and if one did.
* `Program.uses_bind`, `Program.uses_run_bind`: The kinds of access of a
  sequence.
* `Program.Uses.mem`: Every event of a path is of the kind.
-/

namespace FusionMpt

/-- The error of an answer that is one. -/
def BusError.of? {α : Type} : Except BusError α → Option BusError
  | .ok _ => none
  | .error cause => some cause

/-- The error of an access that failed. Letting time pass does not fail. -/
def Access.failure? : (access : Access) → access.Answer → Option BusError
  | .readRegister _, answer => BusError.of? answer
  | .writeRegister .., answer => BusError.of? answer
  | .readMemory .., answer => BusError.of? answer
  | .writeMemory .., answer => BusError.of? answer
  | .stall _, _ => none
  | .identity, answer => BusError.of? answer
  | .attributes, answer => BusError.of? answer
  | .enable _, answer => BusError.of? answer
  | .assign _, answer => BusError.of? answer
  | .mapRegisters, answer => BusError.of? answer
  | .allocate _, answer => BusError.of? answer

/-- The error of an event whose access failed. -/
def Event.failure? (event : Event) : Option BusError :=
  event.access.failure? event.answer

/-- The events of a list of accesses that are made in order until one fails,
    and how that ends. -/
inductive Performed : List Access → List Event → Except BusError Unit → Prop where
  | nil : Performed [] [] (.ok ())
  | failed {access : Access} {rest : List Access} {answer : access.Answer} {cause : BusError}
      (hfail : access.failure? answer = some cause) :
      Performed (access :: rest) [⟨access, answer⟩] (.error cause)
  | cons {access : Access} {rest : List Access} {answer : access.Answer} {events : List Event}
      {result : Except BusError Unit} (hok : access.failure? answer = none)
      (htail : Performed rest events result) :
      Performed (access :: rest) (⟨access, answer⟩ :: events) result

namespace Performed

variable {first second : List Access} {front rest events : List Event}
  {result : Except BusError Unit} {cause : BusError}

-- The index says how the first list ended. It is taken apart by induction only as
-- a variable, so the `generalize` here and in the next lemmas.
theorem append (hfirst : Performed first front (.ok ())) (hsecond : Performed second rest result) :
    Performed (first ++ second) (front ++ rest) result := by
  generalize hr : (Except.ok () : Except BusError Unit) = r at hfirst
  induction hfirst with
  | nil => exact hsecond
  | failed _ => exact absurd hr (by simp only [reduceCtorEq, not_false_eq_true])
  | cons hok _ ih => exact cons hok (ih hr)

/-- A list that failed stays failed, whatever was to come. -/
theorem stop (hfirst : Performed first events (.error cause)) (second : List Access) :
    Performed (first ++ second) events (.error cause) := by
  generalize hr : (Except.error cause : Except BusError Unit) = r at hfirst
  induction hfirst with
  | nil => exact absurd hr (by simp only [reduceCtorEq, not_false_eq_true])
  | failed hfail => exact failed hfail
  | cons hok _ ih => exact cons hok (ih hr)

theorem failure?_eq_none (h : Performed first events (.ok ())) :
    ∀ event ∈ events, event.failure? = none := by
  generalize hr : (Except.ok () : Except BusError Unit) = r at h
  induction h with
  | nil => simp only [List.not_mem_nil, false_implies, implies_true]
  | failed _ => exact absurd hr (by simp only [reduceCtorEq, not_false_eq_true])
  | cons hok _ ih =>
      intro event hmem
      rcases List.mem_cons.mp hmem with rfl | hmem
      · exact hok
      · exact ih hr event hmem

/-- What fails is the last event, and what it fails with is the whole's. -/
theorem exists_failed (h : Performed first events (.error cause)) :
    ∃ front last, events = front ++ [last] ∧ (∀ event ∈ front, event.failure? = none) ∧
      last.failure? = some cause := by
  generalize hr : (Except.error cause : Except BusError Unit) = r at h
  induction h with
  | nil => exact absurd hr (by simp only [reduceCtorEq, not_false_eq_true])
  | @failed access rest answer cause' hfail =>
      rw [Except.error.injEq] at hr
      refine ⟨[], ⟨access, answer⟩, rfl, ?_, ?_⟩
      · simp only [List.not_mem_nil, false_implies, implies_true]
      · rw [hr]
        exact hfail
  | @cons access rest answer events result hok _ ih =>
      rcases ih hr with ⟨front, last, rfl, hfront, hlast⟩
      refine ⟨⟨access, answer⟩ :: front, last, rfl, ?_, hlast⟩
      intro event hmem
      rcases List.mem_cons.mp hmem with rfl | hmem
      · exact hok
      · exact hfront event hmem

/-- A list that failed got as far as the access that did, and all before it
    succeeded. -/
theorem exists_split (h : Performed first events (.error cause)) :
    ∃ before access after front answer, first = before ++ access :: after ∧
      events = front ++ [⟨access, answer⟩] ∧ Performed before front (.ok ()) ∧
      access.failure? answer = some cause := by
  generalize hr : (Except.error cause : Except BusError Unit) = r at h
  induction h with
  | nil => exact absurd hr (by simp only [reduceCtorEq, not_false_eq_true])
  | @failed access rest answer cause' hfail =>
      rw [Except.error.injEq] at hr
      rw [← hr] at hfail
      exact ⟨[], access, rest, [], answer, rfl, rfl, .nil, hfail⟩
  | @cons access rest answer events result hok _ ih =>
      rcases ih hr with ⟨before, last, after, front, answer', rfl, rfl, hfront, hlast⟩
      exact ⟨access :: before, last, after, ⟨access, answer⟩ :: front, answer', rfl, rfl,
        .cons hok hfront, hlast⟩

theorem mem (h : Performed first events result) :
    ∀ event ∈ events, event.access ∈ first := by
  induction h with
  | nil => simp only [List.not_mem_nil, false_implies, implies_true]
  | failed _ =>
      intro event hmem
      rw [List.mem_singleton.mp hmem]
      exact List.mem_cons_self
  | cons _ _ ih =>
      intro event hmem
      rcases List.mem_cons.mp hmem with rfl | hmem
      · exact List.mem_cons_self
      · exact List.mem_cons_of_mem _ (ih event hmem)

theorem map_access_prefix (h : Performed first events result) :
    events.map Event.access <+: first := by
  induction h with
  | nil => exact List.prefix_rfl
  | @failed access rest answer cause _ => exact List.prefix_append [access] rest
  | @cons access rest answer events result _ _ ih =>
      exact List.cons_prefix_cons.mpr ⟨rfl, ih⟩

-- Without failure the list was made to its end.
theorem map_access_eq (h : Performed first events (.ok ())) :
    events.map Event.access = first := by
  generalize hr : (Except.ok () : Except BusError Unit) = r at h
  induction h with
  | nil => rfl
  | failed _ => exact absurd hr (by simp only [reduceCtorEq, not_false_eq_true])
  | cons _ _ ih => rw [List.map_cons, ih hr]

/-- Of a list that was performed without failure, so was each part. -/
theorem exists_parts (h : Performed (first ++ second) events (.ok ())) :
    ∃ front rest, events = front ++ rest ∧ Performed first front (.ok ()) ∧
      Performed second rest (.ok ()) := by
  -- The induction is on the list: the events do not say where the second part begins.
  induction first generalizing events with
  | nil => exact ⟨[], events, rfl, .nil, h⟩
  | cons access tail ih =>
      rw [List.cons_append] at h
      cases h with
      | cons hok htail =>
          rcases ih htail with ⟨front, rest, rfl, hfront, hrest⟩
          exact ⟨_ :: front, rest, rfl, .cons hok hfront, hrest⟩

/-- The last of a list that was performed without failure. -/
theorem snoc {last : Access} (h : Performed (first ++ [last]) events (.ok ())) :
    ∃ front answer, events = front ++ [⟨last, answer⟩] ∧ Performed first front (.ok ()) ∧
      last.failure? answer = none := by
  rcases h.exists_parts with ⟨front, rest, rfl, hfront, hrest⟩
  cases hrest with
  | cons hok htail =>
      cases htail
      exact ⟨front, _, rfl, hfront, hok⟩

theorem eq_ok_iff (h : Performed first events result) :
    result = .ok () ↔ ∀ event ∈ events, event.failure? = none := by
  cases result with
  | ok _ => exact ⟨fun _ => h.failure?_eq_none, fun _ => rfl⟩
  | error cause =>
      rcases h.exists_failed with ⟨front, last, rfl, -, hlast⟩
      constructor
      · intro hok
        exact absurd hok (by simp only [reduceCtorEq, not_false_eq_true])
      · intro hnone
        have hlast' := hnone last (List.mem_append_right _ List.mem_cons_self)
        rw [hlast] at hlast'
        exact absurd hlast' (Option.some_ne_none cause)

/-- A failure at some place is the end, and the accesses before it were made. -/
theorem of_failure {accesses : List Access} {i : Nat} (h : Performed accesses events result)
    (hi : events[i]?.bind Event.failure? = some cause) :
    result = .error cause ∧ ∃ front last, events = front ++ [last] ∧ front.length = i ∧
      last.failure? = some cause ∧ Performed (accesses.take i) front (.ok ()) := by
  induction h generalizing i with
  | nil => exact nomatch hi
  | @failed access rest answer cause' hfail =>
      cases i with
      | zero =>
          have hcause : some cause' = some cause := hfail.symm.trans hi
          rw [Option.some.inj hcause] at hfail ⊢
          exact ⟨rfl, [], _, rfl, rfl, hfail, .nil⟩
      | succ i => exact nomatch hi
  | @cons access rest answer events result hok _ ih =>
      cases i with
      | zero => exact nomatch hok.symm.trans hi
      | succ i =>
          rcases ih hi with ⟨hresult, front, last, rfl, hfront, hlast, hperformed⟩
          exact ⟨hresult, ⟨access, answer⟩ :: front, last, rfl, congrArg (· + 1) hfront, hlast,
            .cons hok hperformed⟩

/-- The last access of a list is made exactly when those before it succeed. -/
theorem exists_last_iff {P : Access → Prop} {last : Access}
    (hfirst : ∀ access ∈ first, ¬ P access) (hlast : P last)
    (h : Performed (first ++ [last]) events result) :
    (∃ event ∈ events, P event.access) ↔
      ∀ event ∈ events, ¬ P event.access → event.failure? = none := by
  -- As before, on the list. What is to be shown of the rest is the same statement,
  -- since the access in front is none of those asked for.
  induction first generalizing events with
  | nil =>
      have hmem := h.mem
      constructor
      · intro _ event hevent hnot
        rw [List.nil_append] at hmem
        exact absurd (List.mem_singleton.mp (hmem event hevent) ▸ hlast) hnot
      · intro _
        cases h with
        | failed _ => exact ⟨_, List.mem_cons_self, hlast⟩
        | cons _ _ => exact ⟨_, List.mem_cons_self, hlast⟩
  | cons access rest ih =>
      have hnot := hfirst access List.mem_cons_self
      rw [List.cons_append] at h
      cases h with
      | failed hfail =>
          constructor
          · intro hexists
            rcases hexists with ⟨event, hmem, hP⟩
            rw [List.mem_singleton.mp hmem] at hP
            exact absurd hP hnot
          · intro hnone
            have hok := hnone _ List.mem_cons_self hnot
            exact absurd (hfail.symm.trans hok) (Option.some_ne_none _)
      | cons hok htail =>
          have hiff := ih (fun access hmem => hfirst access (List.mem_cons_of_mem _ hmem)) htail
          constructor
          · intro hexists event hmem hevent
            rcases hexists with ⟨witness, hwitness, hP⟩
            rcases List.mem_cons.mp hwitness with rfl | hwitness
            · exact absurd hP hnot
            rcases List.mem_cons.mp hmem with rfl | hmem
            · exact hok
            · exact hiff.mp ⟨witness, hwitness, hP⟩ event hmem hevent
          · intro hnone
            rcases hiff.mpr fun event hmem => hnone event (List.mem_cons_of_mem _ hmem) with
              ⟨event, hmem, hP⟩
            exact ⟨event, List.mem_cons_of_mem _ hmem, hP⟩

end Performed

/-! ## What a register was read as -/

/-- The value of a read of a register that was answered. -/
def Event.read? (offset : UInt32) : Event → Option UInt32
  | ⟨.readRegister offset', .ok value⟩ => if offset' = offset then some value else none
  | _ => none

/-- What a register was read as, in order. -/
def valuesRead (offset : UInt32) (events : List Event) : List UInt32 :=
  events.filterMap (Event.read? offset)

-- Stated by what the accesses are not, so that it serves all other accesses alike.
theorem valuesRead_eq_nil {offset : UInt32} {events : List Event}
    (h : ∀ event ∈ events, event.access ≠ .readRegister offset) :
    valuesRead offset events = [] := by
  unfold valuesRead
  rw [List.filterMap_eq_nil_iff]
  intro event hmem
  have hother := h event hmem
  rcases event with ⟨access, answer⟩
  cases access with
  | readRegister offset' =>
      cases answer with
      | error cause => rfl
      | ok value =>
          change (if offset' = offset then some value else none) = none
          rw [if_neg fun heq => hother (by rw [heq])]
  | _ => rfl

theorem valuesRead_append {offset : UInt32} (front rest : List Event) :
    valuesRead offset (front ++ rest) = valuesRead offset front ++ valuesRead offset rest :=
  List.filterMap_append

/-! ## What a register was given -/

/-- What the access writes to the register. -/
def Access.written? (offset : UInt32) : Access → Option UInt32
  | .writeRegister offset' value => if offset' = offset then some value else none
  | _ => none

/-- What the register was given by the event. A write that failed gave it nothing. -/
def Event.written? (offset : UInt32) (event : Event) : Option UInt32 :=
  match event.failure? with
  | none => event.access.written? offset
  | some _ => none

/-- What the register was given, in order. -/
def delivered (offset : UInt32) (events : List Event) : List UInt32 :=
  events.filterMap (Event.written? offset)

-- The last event gives nothing if it failed.
theorem delivered_append_failed {offset : UInt32} {last : Event} {cause : BusError}
    (front : List Event) (hlast : last.failure? = some cause) :
    delivered offset (front ++ [last]) = delivered offset front := by
  have hnone : Event.written? offset last = none := by
    unfold Event.written?
    rw [hlast]
  unfold delivered
  rw [List.filterMap_append, List.filterMap_cons_none hnone, List.filterMap_nil, List.append_nil]

/-- Accesses that were all made have given a register what they write to it. -/
theorem Performed.delivered_eq {accesses : List Access} {events : List Event}
    (h : Performed accesses events (.ok ())) (offset : UInt32) :
    delivered offset events = accesses.filterMap (Access.written? offset) := by
  unfold delivered
  generalize hr : (Except.ok () : Except BusError Unit) = r at h
  induction h with
  | nil => rfl
  | failed _ => exact absurd hr (by simp only [reduceCtorEq, not_false_eq_true])
  | @cons access rest answer events result hok _ ih =>
      have hwritten : Event.written? offset ⟨access, answer⟩ = access.written? offset := by
        unfold Event.written? Event.failure?
        rw [hok]
      rw [List.filterMap_cons, List.filterMap_cons, hwritten, ih hr]

/-! ## Programs in a straight line -/

namespace Bus

variable {α β : Type}

/-- The program makes these accesses in order until one fails, and ends with
    its error; if none fails it ends with a value. -/
def Performs (program : Bus α) (accesses : List Access) : Prop :=
  ∀ events outcome, program.run.Path events outcome →
    ∃ result, outcome = .ok result ∧ Performed accesses events (result.map fun _ => ())

theorem performs_pure (value : α) : (pure value : Bus α).Performs [] := by
  rintro events outcome ⟨rfl, rfl⟩
  exact ⟨.ok value, rfl, .nil⟩

theorem performs_bind {program : Bus α} {next : α → Bus β} {first second : List Access}
    (hfirst : program.Performs first) (hnext : ∀ value, (next value).Performs second) :
    (program >>= next).Performs (first ++ second) :=
  Program.makes_bind Performed.append (Performed.stop · second) hfirst hnext

-- One access is a line of its own. What is asked of it is that its answer is the
-- program's value, or the error the program ends with.
theorem performs_perform {program : Bus α} {access : Access}
    {result : access.Answer → Except BusError α}
    (hprogram : program.run = .call access fun answer => .done (result answer))
    (hfailure : ∀ answer, access.failure? answer = BusError.of? (result answer)) :
    program.Performs [access] := by
  intro events outcome h
  rw [hprogram] at h
  rcases h with ⟨answer, rest, rfl, rfl, rfl⟩
  refine ⟨result answer, rfl, ?_⟩
  have hanswer := hfailure answer
  cases hresult : result answer with
  | ok value =>
      rw [hresult] at hanswer
      exact .cons hanswer .nil
  | error cause =>
      rw [hresult] at hanswer
      exact .failed hanswer

theorem performs_readRegister (offset : UInt32) :
    (readRegister offset).Performs [.readRegister offset] :=
  performs_perform rfl fun _ => rfl

theorem performs_writeRegister (offset value : UInt32) :
    (writeRegister offset value).Performs [.writeRegister offset value] :=
  performs_perform rfl fun _ => rfl

/-- Writing values one by one is a line with one write for each. -/
theorem performs_writeRegisterEach (offset : UInt32) (values : List UInt32) :
    (writeRegisterEach offset values).Performs (values.map (Access.writeRegister offset)) := by
  unfold writeRegisterEach
  induction values with
  | nil => exact performs_pure ()
  | cons value values ih =>
      exact performs_bind (performs_writeRegister offset value) fun _ => ih

theorem performs_readMemory (offset len : Nat) :
    (readMemory offset len).Performs [.readMemory offset len] :=
  performs_perform rfl fun _ => rfl

theorem performs_writeMemory (offset : Nat) (bytes : List UInt8) :
    (writeMemory offset bytes).Performs [.writeMemory offset bytes] :=
  performs_perform rfl fun _ => rfl

section

variable {program : Bus α} {accesses : List Access} {events : List Event}
  {outcome : Except Halt (Except BusError α)}

/-- A line of accesses of which none failed. -/
theorem Performs.of_fine (h : program.Performs accesses) (hpath : program.run.Path events outcome)
    (hfine : ∀ event ∈ events, event.failure? = none) :
    ∃ value, outcome = .ok (.ok value) ∧ Performed accesses events (.ok ()) := by
  rcases h events outcome hpath with ⟨result, houtcome, hperformed⟩
  have hok := hperformed.eq_ok_iff.mpr hfine
  rw [hok] at hperformed
  cases result with
  | error cause => exact nomatch hok
  | ok value => exact ⟨value, houtcome, hperformed⟩

/-- A line of accesses of which one failed. -/
theorem Performs.of_failure {cause : BusError} {i : Nat} (h : program.Performs accesses)
    (hpath : program.run.Path events outcome) (hi : events[i]?.bind Event.failure? = some cause) :
    outcome = .ok (.error cause) ∧ events.length = i + 1 ∧
    ∃ front last, events = front ++ [last] ∧ last.failure? = some cause ∧
      Performed (accesses.take i) front (.ok ()) := by
  rcases h events outcome hpath with ⟨result, houtcome, hperformed⟩
  rcases hperformed.of_failure hi with ⟨hresult, front, last, htrace, hfront, hlast, hbefore⟩
  refine ⟨?_, ?_, front, last, htrace, hlast, hbefore⟩
  · cases result with
    | error cause' => rw [houtcome, Except.error.inj hresult]
    | ok _ => exact nomatch hresult
  · rw [htrace, List.length_append, hfront]
    rfl

end

end Bus

/-! ## Kinds of access -/

/-- The access reads shared memory. -/
def Access.IsMemoryRead : Access → Prop
  | .readMemory .. => True
  | _ => False

namespace Program

variable {α β ε : Type}

/-- Whatever it is answered, the program makes only allowed accesses. -/
def Uses (allowed : Access → Prop) : Program α → Prop
  | .done _ => True
  | .halt _ => True
  | .call access next => allowed access ∧ ∀ answer, (next answer).Uses allowed

theorem uses_bind {allowed : Access → Prop} {program : Program α} {next : α → Program β}
    (hfirst : program.Uses allowed) (hnext : ∀ value, (next value).Uses allowed) :
    (program >>= next).Uses allowed := by
  induction program with
  -- only the end of the first program leads into the second
  | done value => exact hnext value
  | halt why => exact trivial
  | call access rest ih => exact ⟨hfirst.1, fun answer => ih answer (hfirst.2 answer)⟩

theorem uses_perform {allowed : Access → Prop} {access : Access} (h : allowed access) :
    (perform access).Uses allowed :=
  ⟨h, fun _ => trivial⟩

theorem uses_run_bind {allowed : Access → Prop} {program : ExceptT ε Program α}
    {next : α → ExceptT ε Program β} (hfirst : program.run.Uses allowed)
    (hnext : ∀ value, (next value).run.Uses allowed) :
    (program >>= next).run.Uses allowed := by
  rw [ExceptT.run_bind]
  refine uses_bind hfirst (fun result => ?_)
  cases result with
  | error failure => exact trivial
  | ok value => exact hnext value

theorem uses_run_adapt {ε' : Type} {allowed : Access → Prop} {program : ExceptT ε Program α}
    {f : ε → ε'} (h : program.run.Uses allowed) : (program.adapt f).run.Uses allowed :=
  uses_bind h fun _ => trivial

theorem Uses.mem {allowed : Access → Prop} {program : Program α} (h : program.Uses allowed)
    {events : List Event} {outcome : Except Halt α} (hpath : program.Path events outcome) :
    ∀ event ∈ events, allowed event.access := by
  induction program generalizing events with
  | done value =>
      rw [hpath.1]
      simp only [List.not_mem_nil, false_implies, implies_true]
  | halt why =>
      rw [hpath.1]
      simp only [List.not_mem_nil, false_implies, implies_true]
  | call access next ih =>
      rcases hpath with ⟨answer, rest, rfl, hrest⟩
      intro event hmem
      rcases List.mem_cons.mp hmem with rfl | hmem
      · exact h.1
      · exact ih answer (h.2 answer) hrest event hmem

end Program

end FusionMpt
