import FusionMpt.Proofs.Device.Patient
import FusionMpt.Proofs.Platform.Parallel

/-!
# An Adapter's Conduct

To say that an adapter behaves the same in two runs, its behaviour has to be
told apart from the memory it shares. A `Conduct` is that: what it answers,
which accesses it lets fail, and what it stores in memory at which moment. The
memory is the only thing that may differ, and reads of it give what lies there.

A byte of memory is after some stores what the last store that reached it has
put there, and what it was before if none did. So two memories that went
through the same stores differ at most in the bytes that none of them reached.

## Main definitions

* `Conduct`: What an adapter does, apart from what lies in memory.
* `Conduct.adapter`: The adapter with a memory.
* `Conduct.putsOf`: What the engine and the adapter have stored in some events.
* `Conduct.SameReads`: What the two runs have read is the same.
* `HostMemory.Reaches`: A store puts a byte somewhere.

## Theorems

* `HostMemory.getElem?_putAll_eq_iff`: Where memories agree after the same
  stores.
* `Conduct.sameReads_iff`: What was read, read by read.
* `Conduct.outcomes_of_parallel`: Programs that walk side by side, against the
  same conduct with different memories.
-/

namespace FusionMpt

namespace HostMemory

variable {m m₁ m₂ : HostMemory} {k : Nat}

/-- The memory after some stores, those that do not fit left out. -/
def putAll (m : HostMemory) (puts : List (Nat × List UInt8)) : HostMemory :=
  puts.foldl (fun m put => m.put put.1 put.2) m

/-- In a memory of this size, the store puts a byte at `k`. -/
def Reaches (size : Nat) (store : Nat × List UInt8) (k : Nat) : Prop :=
  store.1 + store.2.length ≤ size ∧ store.1 ≤ k ∧ k < store.1 + store.2.length

theorem putAll_append (m : HostMemory) (first second : List (Nat × List UInt8)) :
    m.putAll (first ++ second) = (m.putAll first).putAll second :=
  List.foldl_append

theorem size_put (m : HostMemory) (offset : Nat) (data : List UInt8) :
    (m.put offset data).size = m.size :=
  congrArg Buffer.size (m.buffer_put offset data)

theorem buffer_putAll (m : HostMemory) (stores : List (Nat × List UInt8)) :
    (m.putAll stores).buffer = m.buffer := by
  induction stores generalizing m with
  | nil => rfl
  | cons store stores ih => exact (ih _).trans (m.buffer_put store.1 store.2)

theorem size_putAll (m : HostMemory) (stores : List (Nat × List UInt8)) :
    (m.putAll stores).size = m.size :=
  congrArg Buffer.size (m.buffer_putAll stores)

theorem getElem?_put_of_reaches {store : Nat × List UInt8} (h : Reaches m.size store k) :
    (m.put store.1 store.2).bytes[k]? = store.2[k - store.1]? := by
  rcases h with ⟨hfits, hwithin⟩
  rw [put_eq_stored hfits, getElem?_stored hfits, if_pos hwithin]

theorem getElem?_put_of_not_reaches {store : Nat × List UInt8} (h : ¬ Reaches m.size store k) :
    (m.put store.1 store.2).bytes[k]? = m.bytes[k]? := by
  by_cases hfits : store.1 + store.2.length ≤ m.size
  · rw [put_eq_stored hfits, getElem?_stored hfits, if_neg fun hwithin => h ⟨hfits, hwithin⟩]
  · have hwrite : m.write store.1 store.2 = .error (.outOfBounds store.1 store.2.length m.size) :=
      if_neg hfits
    unfold put
    rw [hwrite]

/-- After the same stores, two memories agree where one of the stores has put a
    byte, and where they agreed before. -/
theorem getElem?_putAll_eq_iff (hsize : m₁.size = m₂.size) (stores : List (Nat × List UInt8)) :
    (m₁.putAll stores).bytes[k]? = (m₂.putAll stores).bytes[k]? ↔
      (∃ store ∈ stores, Reaches m₁.size store k) ∨ m₁.bytes[k]? = m₂.bytes[k]? := by
  induction stores generalizing m₁ m₂ with
  | nil =>
      simp only [List.not_mem_nil, false_and, exists_false, false_or]
      exact Iff.rfl
  | cons store stores ih =>
      have hsize' : (m₁.put store.1 store.2).size = (m₂.put store.1 store.2).size := by
        rw [size_put, size_put, hsize]
      have hrest := ih hsize'
      rw [size_put] at hrest
      refine hrest.trans ?_
      simp only [List.mem_cons, exists_eq_or_imp]
      by_cases hreaches : Reaches m₁.size store k
      · -- this store has put the byte in both
        have hequal : (m₁.put store.1 store.2).bytes[k]? = (m₂.put store.1 store.2).bytes[k]? := by
          rw [getElem?_put_of_reaches hreaches, getElem?_put_of_reaches (hsize ▸ hreaches)]
        exact iff_of_true (Or.inr hequal) (Or.inl (Or.inl hreaches))
      · rw [getElem?_put_of_not_reaches hreaches,
          getElem?_put_of_not_reaches (by rw [← hsize]; exact hreaches)]
        simp only [hreaches, false_or]

end HostMemory

/-- What an adapter does, apart from what lies in the memory that it shares. -/
structure Conduct (τ : Type) where
  /-- What it answers, and which accesses fail. Of a read of memory only that
      counts. -/
  mind : Adapter τ
  /-- What it stores in memory at an access. -/
  stores : Access → τ → List (Nat × List UInt8)

namespace Conduct

variable {τ α : Type} {conduct : Conduct τ} {counts : Nat → List UInt8 → List UInt8 → Prop}
  {R : Prop → α → α → Prop} {same : Prop} {m₁ m₂ : HostMemory} {t : τ} {events : List Event}

/-- What is stored at an access: what the engine writes, if that does not fail,
    and what the adapter stores. -/
def puts (conduct : Conduct τ) (access : Access) (t : τ) : List (Nat × List UInt8) :=
  (match access, (conduct.mind.answer access t).1 with
    | .writeMemory offset bytes, .ok _ => [(offset, bytes)]
    | _, _ => []) ++ conduct.stores access t

/-- The answer with the bytes that lie in the memory. -/
def reply (m : HostMemory) : (access : Access) → access.Answer → access.Answer
  | .readMemory offset len, .ok _ => m.read offset len
  | _, answer => answer

/-- The adapter of this conduct, with the memory that it shares. -/
def adapter (conduct : Conduct τ) : Adapter (HostMemory × τ) where
  answer access s :=
    (reply s.1 access (conduct.mind.answer access s.2).1,
      s.1.putAll (conduct.puts access s.2), (conduct.mind.answer access s.2).2)

/-- What is stored in the course of the events. -/
def putsOf (conduct : Conduct τ) : List Event → τ → List (Nat × List UInt8)
  | [], _ => []
  | event :: rest, t =>
    conduct.puts event.access t ++ conduct.putsOf rest (conduct.mind.answer event.access t).2

/-- If the event is a read, what lies in the two memories is the same in what
    counts. -/
def SameRead (counts : Nat → List UInt8 → List UInt8 → Prop) (m₁ m₂ : HostMemory) : Event → Prop
  | ⟨.readMemory offset len, .ok _⟩ => counts offset (m₁.segment offset len) (m₂.segment offset len)
  | _ => True

/-- All that is read in the course of the events is the same in what counts. -/
def SameReads (conduct : Conduct τ) (counts : Nat → List UInt8 → List UInt8 → Prop) :
    HostMemory → HostMemory → τ → List Event → Prop
  | _, _, _, [] => True
  | m₁, m₂, t, event :: rest =>
    SameRead counts m₁ m₂ event ∧
      conduct.SameReads counts (m₁.putAll (conduct.puts event.access t))
        (m₂.putAll (conduct.puts event.access t)) (conduct.mind.answer event.access t).2 rest

theorem sameReads_iff : conduct.SameReads counts m₁ m₂ t events ↔
    ∀ front event rest, events = front ++ event :: rest →
      SameRead counts (m₁.putAll (conduct.putsOf front t)) (m₂.putAll (conduct.putsOf front t))
        event := by
  induction events generalizing m₁ m₂ t with
  | nil =>
      refine iff_of_true trivial fun front event rest h => ?_
      exact absurd h.symm (List.append_ne_nil_of_right_ne_nil _ (List.cons_ne_nil _ _))
  | cons first events ih =>
      unfold SameReads
      rw [ih]
      constructor
      · rintro ⟨hfirst, hrest⟩ front event rest hsplit
        cases front with
        | nil =>
            rw [(List.cons.inj hsplit).1] at hfirst
            exact hfirst
        | cons head front =>
            rw [List.cons_append, List.cons.injEq] at hsplit
            have hread := hrest front event rest hsplit.2
            rw [← HostMemory.putAll_append, ← HostMemory.putAll_append, hsplit.1] at hread
            exact hread
      · intro h
        refine ⟨h [] first events rfl, fun front event rest hsplit => ?_⟩
        rw [← HostMemory.putAll_append, ← HostMemory.putAll_append]
        exact h (first :: front) event rest (by rw [hsplit, List.cons_append])

/-- How two runs end that go side by side: with related values, or both without
    one. -/
def Outcomes (R : Prop → α → α → Prop) (same : Prop) : Except Halt α → Except Halt α → Prop
  | .ok first, .ok second => R same first second
  | .error why, .error why' => why = why' ∧ same
  | _, _ => False

-- One access, answered out of two memories of one size.
theorem alike_reply (counts : Nat → List UInt8 → List UInt8 → Prop) (hsize : m₁.size = m₂.size)
    (access : Access) (answer : access.Answer) :
    access.Alike (reply m₁ access answer) (reply m₂ access answer) ∧
      access.Agree counts (reply m₁ access answer) (reply m₂ access answer) =
        SameRead counts m₁ m₂ ⟨access, reply m₁ access answer⟩ := by
  cases access with
  | readMemory offset len =>
      cases answer with
      | error cause => exact ⟨rfl, rfl⟩
      | ok bytes =>
          change Access.Alike (.readMemory offset len) (m₁.read offset len) (m₂.read offset len) ∧
            Access.Agree counts (.readMemory offset len) (m₁.read offset len)
                (m₂.read offset len) =
              SameRead counts m₁ m₂ ⟨.readMemory offset len, m₁.read offset len⟩
          unfold HostMemory.size at hsize
          unfold HostMemory.read HostMemory.size
          by_cases hfits : offset + len ≤ m₁.bytes.length
          · rw [dif_pos hfits, dif_pos (hsize ▸ hfits)]
            exact ⟨trivial, rfl⟩
          · rw [dif_neg hfits, dif_neg (hsize ▸ hfits), hsize]
            exact ⟨rfl, rfl⟩
  | _ => exact ⟨rfl, rfl⟩

/-- Programs that walk side by side make the same accesses against the same
    conduct, whatever lies in the two memories. -/
theorem outcomes_of_parallel {first second : Program α}
    (h : Program.Parallel counts R same first second) (hsize : m₁.size = m₂.size) (t : τ) :
    (first.run conduct.adapter (m₁, t)).trace.map Event.access =
        (second.run conduct.adapter (m₂, t)).trace.map Event.access ∧
      Outcomes R
        (same ∧ conduct.SameReads counts m₁ m₂ t (first.run conduct.adapter (m₁, t)).trace)
        (first.run conduct.adapter (m₁, t)).outcome
        (second.run conduct.adapter (m₂, t)).outcome := by
  induction h generalizing m₁ m₂ t with
  | @done same first second h =>
      refine ⟨rfl, ?_⟩
      change R (same ∧ True) first second
      rw [and_true]
      exact h
  | halt why h => exact ⟨rfl, rfl, h, trivial⟩
  | @call same access first second _ ih =>
      rcases alike_reply counts hsize access (conduct.mind.answer access t).1 with
        ⟨halike, hagree⟩
      have hsize' : (m₁.putAll (conduct.puts access t)).size =
          (m₂.putAll (conduct.puts access t)).size := by
        rw [HostMemory.size_putAll, HostMemory.size_putAll, hsize]
      rcases ih _ _ halike hsize' (conduct.mind.answer access t).2 with ⟨haccesses, houtcomes⟩
      refine ⟨congrArg (access :: ·) haccesses, ?_⟩
      rw [hagree, and_assoc] at houtcomes
      exact houtcomes

end Conduct

end FusionMpt
