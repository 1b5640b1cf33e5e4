import FusionMpt.Proofs.Platform.Log
import FusionMpt.Proofs.Region.Operation
import Mathlib.Data.List.TakeWhile

/-!
# Four Memories in One

The slots share one buffer, and whoever uses them may think of four memories. A
slot remembers what was stored in it last, byte for byte. What is done to another
slot is not noticed, and neither is an operation that failed.

What has been done is a list of deeds, each with its result. The bytes that were
stored last can be read off it, with no buffer in mind: the last deed on the slot
that succeeded and covers the byte has them. That this is what lies in the buffer
is kept by every single operation, and so by any number of them in any order.

Leaving out what was done to other slots is a test of that. The deeds on a slot
are the same without them, results included.

An operation that aims at a place which is no 64-bit number has no result, and
with it a sequence ends. What has been done until then is what the operations in
front of it do.

## Main definitions

* `SlotDeed`: An operation with its result.
* `lastStored?`: What was stored last at a place in a slot.
* `SlotDeed.Follows`: The deed is what is expected after others.
* `Recalls`: The memory is what the deeds have made of it.
* `SlotCall.makeAll`: Operations one after the other.
* `SlotCall.reached`: Those in front of the first that has no result.
* `HostMemory.plain`: Memory without an adapter behind it.

## Theorems

* `Recalls.snoc`: One more operation.
* `SlotCall.run_makeAll`, `SlotCall.run_makeAll_stopped`: Runs with and without a
  result.
* `SlotCall.follows_play`, `SlotCall.recalls_play`: Any number of operations.
* `SlotCall.play_filter`: Operations on the other slots left out.
* `SlotCall.four_memories`: All of it, for runs.
-/

namespace FusionMpt

/-- An operation on a slot and what it resulted in. -/
structure SlotDeed where
  call : SlotCall
  result : Except BusError (List UInt8)

/-- The byte that the deed has stored at a place in the slot. -/
def SlotDeed.stored? (deed : SlotDeed) (slot : Slot) (i : Nat) : Option UInt8 :=
  if deed.result.isOk = true ∧ deed.call.slot = slot ∧ deed.call.offset.toNat ≤ i then
    deed.call.data[i - deed.call.offset.toNat]?
  else none

/-- The byte that was stored last at a place in the slot. -/
def lastStored? (deeds : List SlotDeed) (slot : Slot) (i : Nat) : Option UInt8 :=
  latest? (fun deed => deed.stored? slot i) deeds

/-- The deed is what is expected of it when the deeds `past` have gone before,
    and `m₀` is the memory before those. -/
structure SlotDeed.Follows (m₀ : HostMemory) (past : List SlotDeed) (deed : SlotDeed) : Prop where
  /-- It succeeds if its range is inside the slot. -/
  ok_iff : (∃ bytes, deed.result = .ok bytes) ↔ deed.call.Fits
  /-- A read gives what was stored last, or what was there at first. -/
  read_eq : ∀ slot offset len bytes, deed.call = .read slot offset len → deed.result = .ok bytes →
    bytes.length = len ∧ ∀ i < len, bytes[i]? =
      (lastStored? past slot (offset.toNat + i)).or m₀.bytes[slot.offset + (offset.toNat + i)]?

/-- The memory `m` is what the deeds have made of `m₀`. -/
structure Recalls (m₀ : HostMemory) (deeds : List SlotDeed) (m : HostMemory) : Prop where
  byte_eq : ∀ slot : Slot, ∀ i < slot.size,
    m.bytes[slot.offset + i]? = (lastStored? deeds slot i).or m₀.bytes[slot.offset + i]?
  /-- The bytes behind the slots. -/
  beyond_eq : m.bytes.drop Slot.total = m₀.bytes.drop Slot.total
  buffer_eq : m.buffer = m₀.buffer

example : lastStored? [⟨.write .sense 250 [1, 2, 3, 4, 5], .ok []⟩,
    ⟨.write .sense 251 [6, 7, 8, 9, 10], .error (.outOfBounds 347 5 351)⟩, ⟨.zero .data, .ok []⟩]
    .sense 254 = some 5 := by
  decide

namespace Recalls

variable {m₀ m : HostMemory} {past : List SlotDeed}

theorem nil (m : HostMemory) : Recalls m [] m :=
  ⟨fun _ _ _ => rfl, rfl, rfl⟩

/-- What an operation results in follows from what the memory recalls. -/
theorem follows (h : Recalls m₀ past m) (hroom : Slot.total ≤ m.size) (call : SlotCall) :
    SlotDeed.Follows m₀ past ⟨call, call.result m⟩ := by
  constructor
  case ok_iff =>
    rw [← call.isOk_result_iff m]
    cases call.result m with
    | ok bytes => exact iff_of_true ⟨bytes, rfl⟩ rfl
    | error cause => exact iff_of_false (fun hok => nomatch hok) Bool.noConfusion
  case read_eq =>
    rintro slot offset len bytes rfl hresult
    have hfits : (SlotCall.read slot offset len).Fits :=
      ((SlotCall.read slot offset len).isOk_result_iff m).mp (congrArg Except.isOk hresult)
    have hrange : offset.toNat + len ≤ slot.size := hfits
    have hbytes : m.segment (slot.offset + offset.toNat) len = bytes := by
      unfold SlotCall.result at hresult
      rw [if_pos hfits] at hresult
      exact Except.ok.inj hresult
    rw [← hbytes]
    refine ⟨HostMemory.length_segment (Nat.le_trans (SlotCall.end_le_total hfits) hroom),
      fun i hi => ?_⟩
    rw [HostMemory.getElem?_segment, if_pos hi, Nat.add_assoc]
    exact h.byte_eq slot (offset.toNat + i) (by omega)

/-- After one more operation the memory recalls that too. -/
theorem snoc (h : Recalls m₀ past m) (hroom : Slot.total ≤ m.size) (call : SlotCall) :
    Recalls m₀ (past ++ [⟨call, call.result m⟩]) (call.effect m) := by
  constructor
  case byte_eq =>
    intro slot i hi
    have hstored : SlotDeed.stored? ⟨call, call.result m⟩ slot i =
        if call.Fits ∧ call.slot = slot ∧ call.offset.toNat ≤ i then
          call.data[i - call.offset.toNat]? else none := by
      simp only [SlotDeed.stored?, SlotCall.isOk_result_iff]
    have hlast := latest?_snoc (fun deed => deed.stored? slot i) past ⟨call, call.result m⟩
    rw [SlotCall.getElem?_effect hroom call hi, h.byte_eq slot i hi, ← hstored, ← Option.or_assoc]
    exact congrArg (Option.or · _) hlast.symm
  case beyond_eq => exact (SlotCall.drop_effect hroom call).trans h.beyond_eq
  case buffer_eq => exact (SlotCall.buffer_effect hroom call).trans h.buffer_eq

end Recalls

namespace SlotCall

/-! ## Sequences of operations -/

/-- The operations one after the other, whatever their results. -/
def makeAll : List SlotCall → Program (List SlotDeed)
  | [] => return []
  | call :: rest => do
    let result ← call.bus.run
    let deeds ← makeAll rest
    return ⟨call, result⟩ :: deeds

/-- The operations in front of the first that aims at a place which is no 64-bit
    number. -/
def reached (calls : List SlotCall) : List SlotCall :=
  calls.takeWhile fun call => call.Placed

/-- The deed that the operation comes to and the memory after it. -/
def made (call : SlotCall) (m : HostMemory) : SlotDeed × HostMemory :=
  (⟨call, call.result m⟩, call.effect m)

/-- What the operations come to, as a function of the memory. -/
def play (m : HostMemory) (calls : List SlotCall) : List SlotDeed × HostMemory :=
  logged made m calls

variable {σ : Type} {adapter : Adapter σ} {memory : σ → HostMemory} {s : σ} {slot : Slot}
  {m₀ m m' : HostMemory} {past : List SlotDeed}

/-! ### Where a sequence ends -/

theorem reached_cons (call : SlotCall) (rest : List SlotCall) :
    reached (call :: rest) = if call.Placed then call :: reached rest else [] := by
  unfold reached
  simp only [List.takeWhile_cons, decide_eq_true_eq]

theorem placed_of_mem_reached {calls : List SlotCall} : ∀ call ∈ reached calls, call.Placed := by
  intro call hmem
  unfold reached at hmem
  have hdecided := List.mem_takeWhile_imp hmem
  exact of_decide_eq_true hdecided

theorem reached_of_placed {calls : List SlotCall} (h : ∀ call ∈ calls, call.Placed) :
    reached calls = calls :=
  List.takeWhile_eq_self_iff.mpr fun call hmem => decide_eq_true (h call hmem)

theorem exists_of_not_placed {calls : List SlotCall} (h : ¬ ∀ call ∈ calls, call.Placed) :
    ∃ call rest, calls = reached calls ++ call :: rest ∧ ¬ call.Placed := by
  induction calls with
  | nil => exact absurd (fun _ hmem => absurd hmem List.not_mem_nil) h
  | cons first rest ih =>
      rw [reached_cons]
      by_cases hfirst : first.Placed
      · rcases ih fun hrest => h (List.forall_mem_cons.mpr ⟨hfirst, hrest⟩) with
          ⟨call, later, hsplit, hcall⟩
        rw [if_pos hfirst]
        exact ⟨call, later, congrArg (first :: ·) hsplit, hcall⟩
      · rw [if_neg hfirst]
        exact ⟨first, rest, rfl, hfirst⟩

theorem makeAll_append (front rest : List SlotCall) :
    makeAll (front ++ rest) = do
      let deeds ← makeAll front
      let later ← makeAll rest
      return deeds ++ later := by
  induction front with
  | nil => exact (bind_pure (makeAll rest)).symm
  | cons call front ih =>
      simp only [List.cons_append, makeAll, ih, bind_assoc, pure_bind]

/-- Runs come to what is played. -/
theorem run_makeAll (hshared : SharesMemory adapter memory) (hroom : Slot.total ≤ (memory s).size)
    {calls : List SlotCall} (hplaced : ∀ call ∈ calls, call.Placed) :
    ∃ trace s', (makeAll calls).run adapter s = ⟨trace, .ok (play (memory s) calls).1, s'⟩ ∧
      memory s' = (play (memory s) calls).2 := by
  induction calls generalizing s with
  | nil => exact ⟨[], s, rfl, rfl⟩
  | cons call rest ih =>
      rcases List.forall_mem_cons.mp hplaced with ⟨hfirst, hlater⟩
      rcases run_bus hshared hroom call with ⟨events, s₁, hcall, heffect⟩
      rw [outcome_of_placed hfirst] at hcall
      have hroom₁ : Slot.total ≤ (memory s₁).size := by
        rw [heffect]
        exact total_le_effect hroom call
      rcases ih hroom₁ hlater with ⟨trace, s₂, hrest, hmemory⟩
      rw [heffect] at hrest hmemory
      refine ⟨events ++ (trace ++ []), s₂, ?_, hmemory⟩
      unfold makeAll
      rw [Program.run_bind_ok hcall, Program.run_bind_ok hrest]
      rfl

/-- An operation that is not placed ends a run where those before it have led. -/
theorem run_makeAll_stopped {front : List SlotCall} {call : SlotCall} {trace : List Event}
    {deeds : List SlotDeed} {s' : σ}
    (hrun : (makeAll front).run adapter s = ⟨trace, .ok deeds, s'⟩) (hplaced : ¬ call.Placed)
    (rest : List SlotCall) :
    (makeAll (front ++ call :: rest)).run adapter s = ⟨trace, .error .overflow, s'⟩ := by
  have hstopped : (makeAll (call :: rest)).run adapter s' = ⟨[], .error .overflow, s'⟩ :=
    Program.run_bind_halt (run_bus_of_not_placed hplaced adapter s')
  rw [makeAll_append, Program.run_bind_ok hrun, Program.run_bind_halt hstopped]
  exact Run.behind_done trace _ s'

/-- What becomes of a run is settled by the operations in front of the first that is
    not placed. -/
theorem run_makeAll_of_reached {calls : List SlotCall} {trace : List Event}
    {deeds : List SlotDeed} {s' : σ}
    (hrun : (makeAll (reached calls)).run adapter s = ⟨trace, .ok deeds, s'⟩) :
    (makeAll calls).run adapter s =
      ⟨trace, if ∀ call ∈ calls, call.Placed then .ok deeds else .error .overflow, s'⟩ := by
  by_cases hall : ∀ call ∈ calls, call.Placed
  · rw [if_pos hall]
    rw [reached_of_placed hall] at hrun
    exact hrun
  · rw [if_neg hall]
    rcases exists_of_not_placed hall with ⟨call, rest, hsplit, hcall⟩
    have hstopped := run_makeAll_stopped hrun hcall rest
    rw [← hsplit] at hstopped
    exact hstopped

/-! ### What is played -/

-- What was recalled is, and the slots are still in the memory.
theorem recalls_made (past : List SlotDeed) (m : HostMemory) (call : SlotCall)
    (h : Recalls m₀ past m ∧ Slot.total ≤ m.size) :
    Recalls m₀ (past ++ [(call.made m).1]) (call.made m).2 ∧
      Slot.total ≤ (call.made m).2.size :=
  ⟨h.1.snoc h.2 call, total_le_effect h.2 call⟩

/-- What the operations make of the memory is recalled in the end. -/
theorem recalls_play (h : Recalls m₀ past m) (hroom : Slot.total ≤ m.size) (calls : List SlotCall) :
    Recalls m₀ (past ++ (play m calls).1) (play m calls).2 ∧
      Slot.total ≤ (play m calls).2.size :=
  logged_invariant recalls_made ⟨h, hroom⟩ calls

/-- Each operation results in what is expected after those before it. -/
theorem follows_play (h : Recalls m₀ past m) (hroom : Slot.total ≤ m.size) (calls : List SlotCall)
    {front later : List SlotDeed} {deed : SlotDeed}
    (hsplit : (play m calls).1 = front ++ deed :: later) : deed.Follows m₀ (past ++ front) := by
  rcases exists_of_logged_eq recalls_made ⟨h, hroom⟩ hsplit with ⟨call, m', hbefore, rfl⟩
  exact hbefore.1.follows hbefore.2 call

/-- Without the operations on other slots, those on a slot result in the same. -/
theorem play_filter (hsame : HostMemory.SameIn slot m m') (hroom : Slot.total ≤ m.size)
    (hroom' : Slot.total ≤ m'.size) (calls : List SlotCall) :
    (play m' (calls.filter fun call => call.slot = slot)).1 =
      (play m calls).1.filter fun deed => deed.call.slot = slot := by
  induction calls generalizing m m' with
  | nil => rfl
  | cons call rest ih =>
      change _ = List.filter _ (⟨call, call.result m⟩ :: (play (call.effect m) rest).1)
      rw [List.filter_cons, List.filter_cons]
      by_cases hslot : call.slot = slot
      · have hresult : call.result m = call.result m' := result_congr (hslot ▸ hsame)
        have hrest := ih (sameIn_effect hroom hroom' hsame call) (total_le_effect hroom call)
          (total_le_effect hroom' call)
        simp only [hslot, decide_true, if_true]
        rw [hresult, ← hrest]
        rfl
      · -- the slot is as it was, so the rest results in the same
        have hleft : HostMemory.SameIn slot (call.effect m) m' := fun i hi =>
          (sameIn_effect_other hroom hslot i hi).trans (hsame i hi)
        simp only [hslot, decide_false, Bool.false_eq_true, if_false]
        exact ih hleft (total_le_effect hroom call) hroom'

/-- Operations on the slots of a buffer, in any number and any order, behave as if
    each slot were a memory of its own. One that aims at a place which is no 64-bit
    number ends the sequence, with everything as those before it have left it. Each
    of these has a result, and succeeds if its range is inside its slot. A read
    gives, byte for byte, what was stored in its slot last. The bytes behind the
    slots stay. The deeds on a slot are the same when the operations on the others
    are left out, and an operation that does not succeed changes nothing at all. -/
theorem four_memories (hshared : SharesMemory adapter memory)
    (hroom : Slot.total ≤ (memory s).size) (calls : List SlotCall) :
    ∃ trace deeds s', (makeAll (reached calls)).run adapter s = ⟨trace, .ok deeds, s'⟩ ∧
      (makeAll calls).run adapter s =
        ⟨trace, if ∀ call ∈ calls, call.Placed then .ok deeds else .error .overflow, s'⟩ ∧
      deeds.map SlotDeed.call = reached calls ∧
      (∀ past deed later, deeds = past ++ deed :: later → deed.Follows (memory s) past) ∧
      Recalls (memory s) deeds (memory s') ∧
      (∀ slot : Slot, ∃ trace' s'',
        (makeAll ((reached calls).filter fun call => call.slot = slot)).run adapter s =
          ⟨trace', .ok (deeds.filter fun deed => deed.call.slot = slot), s''⟩) ∧
      ∀ (call : SlotCall) (trace' : List Event)
        (outcome : Except Halt (Except BusError (List UInt8))) (s'' : σ),
        call.bus.run.run adapter s' = ⟨trace', outcome, s''⟩ →
        (∀ bytes, outcome ≠ .ok (.ok bytes)) → memory s'' = memory s' := by
  have hplaced : ∀ call ∈ reached calls, call.Placed := placed_of_mem_reached
  rcases run_makeAll hshared hroom hplaced with ⟨trace, s', hrun, hmemory⟩
  refine ⟨trace, (play (memory s) (reached calls)).1, s', hrun, ?_,
    map_logged (fun _ _ => rfl) _ (reached calls), ?_, ?_, ?_, ?_⟩
  · exact run_makeAll_of_reached hrun
  · intro past deed later hsplit
    exact follows_play (Recalls.nil (memory s)) hroom (reached calls) hsplit
  · rw [hmemory]
    exact (recalls_play (Recalls.nil (memory s)) hroom (reached calls)).1
  · intro slot
    have hfiltered : ∀ call ∈ (reached calls).filter fun call => call.slot = slot, call.Placed :=
      fun call hmem => hplaced call (List.mem_filter.mp hmem).1
    rcases run_makeAll hshared hroom hfiltered with ⟨trace', s'', hrun', -⟩
    rw [play_filter (fun _ _ => rfl) hroom hroom (reached calls)] at hrun'
    exact ⟨trace', s'', hrun'⟩
  · intro call trace' outcome s'' hended hfailed
    have hroom' : Slot.total ≤ (memory s').size := by
      rw [hmemory]
      exact (recalls_play (Recalls.nil (memory s)) hroom (reached calls)).2
    exact memory_of_failed hshared hroom' hended hfailed

end SlotCall

/-- Host memory that does what it is asked to and is nothing but memory. -/
def HostMemory.plain : Adapter HostMemory where
  answer
    | .readMemory offset len, m => (m.read offset len, m)
    | .writeMemory offset bytes, m =>
      match m.write offset bytes with
      | .ok m' => (.ok (), m')
      | .error cause => (.error cause, m)
    | access, m => (Script.failure { memory := m } access, m)

theorem HostMemory.sharesMemory_plain : SharesMemory plain id where
  buffer_eq access m := by
    cases access with
    | writeMemory offset bytes =>
        change (plain.answer (.writeMemory offset bytes) m).2.buffer = m.buffer
        simp only [plain]
        by_cases hinside : offset + bytes.length ≤ m.size
        · rw [write_eq_ok hinside]
          exact buffer_stored hinside
        · have hwrite : m.write offset bytes = .error (.outOfBounds offset bytes.length m.size) :=
            if_neg hinside
          rw [hwrite]
    | _ => rfl
  write m offset bytes m' hwrite := by
    change m.write offset bytes = .ok m' at hwrite
    simp only [plain, hwrite, id_eq, and_self]
  read m offset len bytes hread := ⟨hread, rfl⟩

namespace SlotCall

/-- Five bytes at the end of a slot, five more that would reach over it, a read of
    the first five after the next slot was cleared, a read that is not placed, and a
    write after that. -/
def edgeCalls : List SlotCall :=
  [.write .sense 250 [1, 2, 3, 4, 5], .write .sense 251 [6, 7, 8, 9, 10], .zero .data,
    .read .sense 250 5, .read .request 0xffffffffffffffff 1, .write .sense 254 [11]]

/-- They are made in memory that is one byte longer than the slots, up to the read
    that is not placed, and every deed follows those before it. -/
theorem four_memories_at_an_edge :
    ∃ trace deeds m',
      (makeAll (edgeCalls.take 4)).run HostMemory.plain (.zeroed 0 8544) =
        ⟨trace, .ok deeds, m'⟩ ∧
      (makeAll edgeCalls).run HostMemory.plain (.zeroed 0 8544) =
        ⟨trace, .error .overflow, m'⟩ ∧
      deeds.map SlotDeed.call = edgeCalls.take 4 ∧ Recalls (.zeroed 0 8544) deeds m' ∧
      ∀ past deed later, deeds = past ++ deed :: later →
        deed.Follows (.zeroed 0 8544) past := by
  have hroom : Slot.total ≤ (HostMemory.zeroed 0 8544).size := by
    unfold HostMemory.size HostMemory.zeroed
    rw [List.length_replicate]
    decide
  rcases four_memories HostMemory.sharesMemory_plain hroom edgeCalls with
    ⟨trace, deeds, m', hreached, hrun, hcalls, hfollows, hrecalls, -, -⟩
  have hstops : ¬ ∀ call ∈ edgeCalls, call.Placed := by
    decide
  rw [if_neg hstops] at hrun
  exact ⟨trace, deeds, m', hreached, hrun, hcalls, hrecalls, hfollows⟩

end SlotCall

end FusionMpt
