import FusionMpt.Proofs.Region.Guard
import FusionMpt.Proofs.Transfer.Sharing

/-!
# Operations on Slots

A slot is read, written or cleared. Over memory that an adapter shares, each of
these is a function of the memory: what it results in, and what the memory is
afterwards. Of the adapter nothing more is used than that it shares the memory,
and of the memory that the slots are in it. An operation at a place that is no
64-bit number ends without a result, and does nothing either.

The three are alike in having a range in their slot and some bytes to store from
its start on. A read has none, and clearing has a zero for every byte of the slot.
So what becomes of a byte is said once, for every operation, every slot, and every
place in it. An operation on another slot does not reach it, since slots do not
overlap.

## Main definitions

* `SlotCall`: One operation.
* `SlotCall.bus`: Its accesses.
* `SlotCall.Fits`: Its range is inside the slot.
* `SlotCall.Placed`: Its range begins at a place that can be named.
* `SlotCall.result`, `SlotCall.outcome`, `SlotCall.effect`: What it results in,
  how it ends and what it changes, as functions of the memory.
* `HostMemory.SameIn`: Two memories have the same bytes in a slot.

## Theorems

* `SlotCall.run_bus`: The accesses do what the functions say.
* `SlotCall.run_bus_of_not_fits`: Which is nothing, if the range is not inside.
* `SlotCall.getElem?_effect`: A byte of a slot afterwards.
* `SlotCall.result_congr`, `SlotCall.sameIn_effect`, `SlotCall.sameIn_effect_other`:
  An operation depends on its own slot and leaves the others.
-/

namespace FusionMpt

/-- One operation on a slot. -/
inductive SlotCall where
  | read (slot : Slot) (offset : UInt64) (len : Nat)
  | write (slot : Slot) (offset : UInt64) (bytes : List UInt8)
  /-- Store zeros all over the slot. -/
  | zero (slot : Slot)
deriving DecidableEq

/-- The two memories have the same bytes in the slot. -/
def HostMemory.SameIn (slot : Slot) (m m' : HostMemory) : Prop :=
  ∀ i < slot.size, m.bytes[slot.offset + i]? = m'.bytes[slot.offset + i]?

namespace SlotCall

def slot : SlotCall → Slot
  | .read slot _ _ => slot
  | .write slot _ _ => slot
  | .zero slot => slot

/-- Where the range begins, counted from the start of the slot. -/
def offset : SlotCall → UInt64
  | .read _ offset _ => offset
  | .write _ offset _ => offset
  | .zero _ => 0

/-- The bytes of the range. -/
def length : SlotCall → Nat
  | .read _ _ len => len
  | .write _ _ bytes => bytes.length
  | .zero slot => slot.size

/-- The bytes that are to be stored from the start of the range on. -/
def data : SlotCall → List UInt8
  | .read _ _ _ => []
  | .write _ _ bytes => bytes
  | .zero slot => List.replicate slot.size 0

/-- The range is inside the slot. -/
def Fits (call : SlotCall) : Prop :=
  call.offset.toNat + call.length ≤ call.slot.size

instance (call : SlotCall) : Decidable call.Fits :=
  inferInstanceAs (Decidable (_ ≤ _))

/-- The place where the range begins, counted from the start of the memory, is a
    64-bit number. -/
def Placed (call : SlotCall) : Prop :=
  call.slot.offset + call.offset.toNat < UInt64.size

instance (call : SlotCall) : Decidable call.Placed :=
  inferInstanceAs (Decidable (_ < _))

/-- The accesses of the operation, with the bytes that it reads. -/
def bus : SlotCall → Bus (List UInt8)
  | .read slot offset len => Vector.toList <$> slot.read offset len
  | .write slot offset bytes => (fun _ => []) <$> slot.write offset bytes
  | .zero slot => (fun _ => []) <$> slot.zero

/-- The bytes that the operation finds in the memory. -/
def found (m : HostMemory) : SlotCall → List UInt8
  | .read slot offset len => m.segment (slot.offset + offset.toNat) len
  | .write _ _ _ => []
  | .zero _ => []

/-- What the operation results in, if it has a result. -/
def result (call : SlotCall) (m : HostMemory) : Except BusError (List UInt8) :=
  if call.Fits then .ok (call.found m) else .error (call.slot.outside call.offset call.length)

/-- How the operation ends: with its result, unless it aims at a place that is no
    64-bit number. -/
def outcome (call : SlotCall) (m : HostMemory) : Except Halt (Except BusError (List UInt8)) :=
  if call.Placed then .ok (call.result m) else .error .overflow

/-- The memory after the operation. -/
def effect (call : SlotCall) (m : HostMemory) : HostMemory :=
  if call.Fits then m.stored (call.slot.offset + call.offset.toNat) call.data else m

variable {σ α : Type} {adapter : Adapter σ} {memory : σ → HostMemory} {s : σ} {call : SlotCall}
  {slot : Slot} {m m' : HostMemory} {i : Nat}

/-! ## Runs -/

theorem fits_zero (slot : Slot) : (zero slot).Fits :=
  Nat.le_of_eq (Nat.zero_add _)

theorem length_data_le (call : SlotCall) : call.data.length ≤ call.length := by
  cases call with
  | read slot offset len => exact Nat.zero_le len
  | write slot offset bytes => exact Nat.le_refl _
  | zero slot => exact Nat.le_of_eq List.length_replicate

-- What fits its slot ends before the slots do.
theorem end_le_total (hfits : call.Fits) :
    call.slot.offset + call.offset.toNat + call.length ≤ Slot.total := by
  have hend := call.slot.end_le_total
  unfold Fits at hfits
  omega

theorem data_end_le_total (hfits : call.Fits) :
    call.slot.offset + call.offset.toNat + call.data.length ≤ Slot.total := by
  have hend := end_le_total hfits
  have hlength := call.length_data_le
  omega

theorem placed_of_fits (hfits : call.Fits) : call.Placed :=
  Slot.place_lt_of_inside hfits

theorem outcome_of_placed (hplaced : call.Placed) (m : HostMemory) :
    call.outcome m = .ok (call.result m) :=
  if_pos hplaced

theorem outcome_of_fits (hfits : call.Fits) : call.outcome m = .ok (.ok (call.found m)) := by
  rw [outcome_of_placed (placed_of_fits hfits)]
  exact congrArg Except.ok (if_pos hfits)

-- What is refused is refused in one way, whatever was to become of the bytes.
theorem run_map_refused {offset : UInt64} {len : Nat} (hlong : ¬ offset.toNat + len ≤ slot.size)
    (f : α → List UInt8) (accesses : Bus α) (adapter : Adapter σ) (s : σ) :
    (f <$> slot.guarded offset len accesses).run.run adapter s =
      ⟨[], if slot.offset + offset.toNat < UInt64.size then .ok (.error (slot.outside offset len))
        else .error .overflow, s⟩ := by
  rw [ExceptT.run_map, Program.run_map, Slot.run_guarded, if_neg hlong]
  by_cases hplace : slot.offset + offset.toNat < UInt64.size
  · rw [if_pos hplace, if_pos hplace]
    rfl
  · rw [if_neg hplace, if_neg hplace]
    rfl

/-- An operation that does not fit its slot makes no access. It is reported if it
    aims at a place that can be named. -/
theorem run_bus_of_not_fits (hfits : ¬ call.Fits) (adapter : Adapter σ) (s : σ) :
    call.bus.run.run adapter s =
      ⟨[], if call.Placed then .ok (.error (call.slot.outside call.offset call.length))
        else .error .overflow, s⟩ := by
  cases call with
  | read slot offset len => exact run_map_refused hfits _ _ adapter s
  | write slot offset bytes => exact run_map_refused hfits _ _ adapter s
  | zero slot => exact absurd (fits_zero slot) hfits

theorem run_bus_of_not_placed (hplaced : ¬ call.Placed) (adapter : Adapter σ) (s : σ) :
    call.bus.run.run adapter s = ⟨[], .error .overflow, s⟩ := by
  rw [run_bus_of_not_fits (mt placed_of_fits hplaced), if_neg hplaced]

theorem run_map_guarded {offset : UInt64} {len : Nat} {events : List Event} {value : α} {s s' : σ}
    (hfits : offset.toNat + len ≤ slot.size) (f : α → List UInt8) {accesses : Bus α}
    (hrun : accesses.run.run adapter s = ⟨events, .ok (.ok value), s'⟩) :
    (f <$> slot.guarded offset len accesses).run.run adapter s =
      ⟨events, .ok (.ok (f value)), s'⟩ := by
  rw [ExceptT.run_map, Program.run_map, Slot.run_guarded, if_pos hfits, hrun]
  rfl

-- Clearing a slot is a write that the guard would let through.
theorem bus_zero (slot : Slot) :
    (zero slot).bus = (fun _ => []) <$> slot.guarded 0 slot.size
      (Bus.writeMemory slot.offset (List.replicate slot.size 0)) := by
  have hfits : (0 : UInt64).toNat + slot.size ≤ slot.size := fits_zero slot
  unfold Slot.guarded
  rw [if_pos hfits]
  rfl

/-- With an adapter that shares its memory, the accesses of an operation have the
    outcome and the effect that it has on the memory. -/
theorem run_bus (hshared : SharesMemory adapter memory) (hroom : Slot.total ≤ (memory s).size)
    (call : SlotCall) :
    ∃ events s', call.bus.run.run adapter s = ⟨events, call.outcome (memory s), s'⟩ ∧
      memory s' = call.effect (memory s) := by
  unfold effect
  by_cases hfits : call.Fits
  · have hinside := Nat.le_trans (end_le_total hfits) hroom
    rw [outcome_of_fits hfits, if_pos hfits]
    cases call with
    | read slot offset len =>
        rcases hshared.run_readMemory hinside with ⟨bytes, s', hrun, hmemory, hbytes⟩
        have hfound : found (memory s) (.read slot offset len) = bytes.toList := hbytes.symm
        rw [hfound]
        exact ⟨_, s', run_map_guarded hfits Vector.toList hrun,
          hmemory.trans (HostMemory.stored_nil _ _).symm⟩
    | write slot offset bytes =>
        rcases hshared.run_writeMemory hinside with ⟨s', hrun, hmemory⟩
        exact ⟨_, s', run_map_guarded hfits (fun _ => []) hrun, hmemory⟩
    | zero slot =>
        rcases hshared.run_writeSlot hroom slot (Nat.le_of_eq List.length_replicate) with
          ⟨s', hrun, hmemory, -⟩
        rw [bus_zero]
        exact ⟨_, s', run_map_guarded hfits (fun _ => []) hrun, hmemory⟩
  · rw [if_neg hfits]
    refine ⟨[], s, ?_, rfl⟩
    unfold outcome result
    rw [if_neg hfits]
    exact run_bus_of_not_fits hfits adapter s

/-- An operation that does not succeed leaves the memory as it is. -/
theorem memory_of_failed (hshared : SharesMemory adapter memory)
    (hroom : Slot.total ≤ (memory s).size) {events : List Event}
    {outcome : Except Halt (Except BusError (List UInt8))} {s' : σ}
    (hrun : call.bus.run.run adapter s = ⟨events, outcome, s'⟩)
    (hfailed : ∀ bytes, outcome ≠ .ok (.ok bytes)) : memory s' = memory s := by
  rcases run_bus hshared hroom call with ⟨front, last, hcall, heffect⟩
  rw [hcall] at hrun
  rcases Run.mk.inj hrun with ⟨-, rfl, rfl⟩
  have hmisfit : ¬ call.Fits := fun hfits => hfailed _ (outcome_of_fits hfits)
  rw [heffect]
  exact if_neg hmisfit

/-! ## The memory afterwards -/

theorem isOk_result_iff (call : SlotCall) (m : HostMemory) :
    (call.result m).isOk = true ↔ call.Fits := by
  unfold result
  by_cases hfits : call.Fits
  · rw [if_pos hfits]
    exact iff_of_true rfl hfits
  · rw [if_neg hfits]
    exact iff_of_false Bool.noConfusion hfits

section

variable (hroom : Slot.total ≤ m.size)

include hroom

theorem buffer_effect (call : SlotCall) : (call.effect m).buffer = m.buffer := by
  unfold effect
  by_cases hfits : call.Fits
  · rw [if_pos hfits, HostMemory.buffer_stored (Nat.le_trans (data_end_le_total hfits) hroom)]
  · rw [if_neg hfits]

theorem total_le_effect (call : SlotCall) : Slot.total ≤ (call.effect m).size := by
  have hsize : (call.effect m).size = m.size := congrArg Buffer.size (buffer_effect hroom call)
  rw [hsize]
  exact hroom

/-- Nothing changes behind the slots. -/
theorem drop_effect (call : SlotCall) :
    (call.effect m).bytes.drop Slot.total = m.bytes.drop Slot.total := by
  unfold effect
  by_cases hfits : call.Fits
  · have hend := data_end_le_total hfits
    rw [if_pos hfits, HostMemory.drop_stored (Nat.le_trans hend hroom) hend]
  · rw [if_neg hfits]

/-- A byte of a slot after an operation that fits is one of the bytes stored, if
    these cover it, and otherwise what it was. -/
theorem getElem?_effect (call : SlotCall) (hi : i < slot.size) :
    (call.effect m).bytes[slot.offset + i]? =
      (if call.Fits ∧ call.slot = slot ∧ call.offset.toNat ≤ i then
        call.data[i - call.offset.toNat]? else none).or m.bytes[slot.offset + i]? := by
  unfold effect
  by_cases hfits : call.Fits
  · have hend := data_end_le_total hfits
    have hlength := call.length_data_le
    have hrange : call.offset.toNat + call.length ≤ call.slot.size := hfits
    rw [if_pos hfits, HostMemory.getElem?_stored (Nat.le_trans hend hroom)]
    by_cases hslot : call.slot = slot
    · rw [hslot] at hrange ⊢
      by_cases hcovered : call.offset.toNat ≤ i ∧ i < call.offset.toNat + call.data.length
      · have hindex : slot.offset + i - (slot.offset + call.offset.toNat) =
            i - call.offset.toNat := by
          omega
        have hsome : i - call.offset.toNat < call.data.length := by
          omega
        rw [if_pos (by omega), if_pos ⟨hfits, rfl, hcovered.1⟩, hindex,
          List.getElem?_eq_getElem hsome]
        rfl
      · rw [if_neg (by omega)]
        by_cases hfrom : call.offset.toNat ≤ i
        · have hnone : call.data.length ≤ i - call.offset.toNat := by
            omega
          rw [if_pos ⟨hfits, rfl, hfrom⟩, List.getElem?_eq_none hnone]
          rfl
        · rw [if_neg fun h => hfrom h.2.2]
          rfl
    · -- the slots do not overlap
      have hapart := Slot.apart hslot
      rw [if_neg (by omega), if_neg fun h => hslot h.2.1]
      rfl
  · rw [if_neg hfits, if_neg fun h => hfits h.1]
    rfl

/-- What an operation leaves in a slot depends on what it found there. -/
theorem sameIn_effect (hroom' : Slot.total ≤ m'.size) (hsame : HostMemory.SameIn slot m m')
    (call : SlotCall) : HostMemory.SameIn slot (call.effect m) (call.effect m') := by
  intro i hi
  rw [getElem?_effect hroom call hi, getElem?_effect hroom' call hi, hsame i hi]

theorem sameIn_effect_other (hother : call.slot ≠ slot) :
    HostMemory.SameIn slot (call.effect m) m := by
  intro i hi
  rw [getElem?_effect hroom call hi, if_neg fun h => hother h.2.1]
  rfl

end

/-- What an operation results in depends on what lies in its slot. -/
theorem result_congr (hsame : HostMemory.SameIn call.slot m m') :
    call.result m = call.result m' := by
  unfold result
  by_cases hfits : call.Fits
  · have hfound : call.found m = call.found m' := by
      cases call with
      | read slot offset len =>
          refine HostMemory.segment_eq_iff.mpr fun k hfrom hto => ?_
          have hrange : offset.toNat + len ≤ slot.size := hfits
          have hbyte := hsame (k - slot.offset) (by change k - slot.offset < slot.size; omega)
          have hplace : slot.offset + (k - slot.offset) = k := by
            omega
          change m.bytes[slot.offset + (k - slot.offset)]? =
            m'.bytes[slot.offset + (k - slot.offset)]? at hbyte
          rw [hplace] at hbyte
          exact hbyte
      | write slot offset bytes => rfl
      | zero slot => rfl
    rw [if_pos hfits, if_pos hfits, hfound]
  · rw [if_neg hfits, if_neg hfits]

end SlotCall

end FusionMpt
