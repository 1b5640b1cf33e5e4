/-!
# Keeping a Log

Calls are made one after the other of something that has a state, and each leaves
an entry in a log. What holds of the log and the state together is kept by a
single call or it is not kept, so a claim about logs of any length comes down to
one call after an arbitrary past.

An entry in the middle of a log was made in a state of its own. Whatever a past
of that kind says about a state, it says about that one.

Where later calls override earlier ones, what counts is the last entry in which
anything is found.

## Main definitions

* `logged`: The entries that calls leave, and the state behind them.
* `latest?`: What is found last in a log.

## Theorems

* `logged_invariant`: What every call keeps holds in the end.
* `exists_of_logged_eq`: And it held when an entry was made.
* `latest?_snoc`: A new entry is the last, if anything is found in it.
-/

namespace FusionMpt

variable {σ κ δ β : Type} {make : κ → σ → δ × σ} {Keeps : List δ → σ → Prop} {past : List δ} {s : σ}

/-- The entries that calls leave, in order, and the state behind the last. -/
def logged (make : κ → σ → δ × σ) : σ → List κ → List δ × σ
  | s, [] => ([], s)
  | s, call :: rest =>
    let later := logged make (make call s).2 rest
    ((make call s).1 :: later.1, later.2)

/-- What is found in the last entry in which anything is found. -/
def latest? (find : δ → Option β) (log : List δ) : Option β :=
  log.reverse.findSome? find

theorem latest?_snoc (find : δ → Option β) (log : List δ) (entry : δ) :
    latest? find (log ++ [entry]) = (find entry).or (latest? find log) := by
  unfold latest?
  rw [List.reverse_append, List.reverse_singleton, List.singleton_append, List.findSome?_cons]
  cases find entry <;> rfl

/-- Something is found if it is found in some entry. -/
theorem isSome_latest? {find : δ → Option β} {log : List δ} {entry : δ} (hmem : entry ∈ log)
    (hfound : (find entry).isSome = true) : (latest? find log).isSome = true :=
  List.findSome?_isSome_iff.mpr ⟨entry, List.mem_reverse.mpr hmem, hfound⟩

/-- Every call is there, in its place. -/
theorem map_logged {asked : δ → κ} (hasked : ∀ call s, asked (make call s).1 = call) (s : σ)
    (calls : List κ) : (logged make s calls).1.map asked = calls := by
  induction calls generalizing s with
  | nil => rfl
  | cons call rest ih =>
      change asked (make call s).1 :: (logged make (make call s).2 rest).1.map asked = _
      rw [hasked, ih]

section

variable (hmake : ∀ past s call, Keeps past s → Keeps (past ++ [(make call s).1]) (make call s).2)

include hmake

theorem logged_invariant (h : Keeps past s) (calls : List κ) :
    Keeps (past ++ (logged make s calls).1) (logged make s calls).2 := by
  induction calls generalizing past s with
  | nil =>
      change Keeps (past ++ []) s
      rw [List.append_nil]
      exact h
  | cons call rest ih =>
      have hrest := ih (hmake past s call h)
      rw [List.append_assoc] at hrest
      exact hrest

/-- What is kept held when an entry was made, of the entries before it. -/
theorem exists_of_logged_eq (h : Keeps past s) {calls : List κ} {front later : List δ} {entry : δ}
    (hsplit : (logged make s calls).1 = front ++ entry :: later) :
    ∃ call s', Keeps (past ++ front) s' ∧ entry = (make call s').1 := by
  induction calls generalizing past s front with
  | nil => exact absurd hsplit.symm (List.append_ne_nil_of_right_ne_nil _ (List.cons_ne_nil _ _))
  | cons call rest ih =>
      cases front with
      | nil =>
          rw [List.append_nil]
          exact ⟨call, s, h, (List.cons.inj hsplit).1.symm⟩
      | cons first front =>
          rcases List.cons.inj hsplit with ⟨rfl, hrest⟩
          have hlater := ih (hmake past s call h) hrest
          rw [List.append_assoc] at hlater
          exact hlater

end

end FusionMpt
