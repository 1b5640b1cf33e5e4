import FusionMpt.Proofs.Region.Guard
import FusionMpt.Proofs.Transfer.Admission
import FusionMpt.Transfer.Placement

/-!
# What Placing a Packet Does

Placing an admitted packet is a straight line of writes to shared memory: the
data when there is some for the device, the zeros, the frame. None of them can
leave its slot. The data fits because admission has compared its length with
the slot, and the frame because the slot was cut for it; so the refusals that
access to a slot knows do not occur, and the only way for a packet not to be
placed is that a write fails.

## Main definitions

* `Packet.dataAccesses`, `Packet.placeAccesses`: The writes, in order.

## Theorems

* `Packet.dataPhase_cases`: The data phases and where they come from.
* `Packet.performs_place`: Placing an admitted packet makes these writes.
* `Packet.isMemoryWrite_of_placed`: They are all writes to shared memory.
* `Packet.uses_place`: Placing any packet makes accesses of this kind.
-/

namespace FusionMpt

/-- The access writes to shared memory. -/
def Access.IsMemoryWrite : Access → Prop
  | .writeMemory .. => True
  | _ => False

namespace Packet

variable {p : Packet}

/-- The write that puts the packet's data into its slot, if there is data for
    the device. -/
def dataAccesses (p : Packet) : List Access :=
  match p.dataPhase with
  | .toDevice length => [.writeMemory Slot.data.offset (p.outData.take length.toNat)]
  | .none | .toHost _ => []

/-- The writes that place a packet. -/
def placeAccesses (p : Packet) (request : IoRequest) : List Access :=
  p.dataAccesses ++
    [.writeMemory Slot.request.offset (List.replicate Slot.request.size 0),
      .writeMemory Slot.request.offset request.encode.toList]

/-- A packet has no data phase, or that of its direction with a length that is
    not zero. -/
theorem dataPhase_cases (p : Packet) :
    p.dataPhase = .none ∨
      (p.dataPhase = .toHost p.inLength ∧ p.direction = .read ∧ p.inLength ≠ 0) ∨
      (p.dataPhase = .toDevice p.outLength ∧ p.direction = .write ∧ p.outLength ≠ 0) := by
  unfold dataPhase
  cases p.direction with
  | none => exact Or.inl rfl
  | bidirectional => exact Or.inl rfl
  | read =>
      by_cases hzero : p.inLength = 0
      · exact Or.inl (if_pos hzero)
      · exact Or.inr (Or.inl ⟨if_neg hzero, rfl, hzero⟩)
  | write =>
      by_cases hzero : p.outLength = 0
      · exact Or.inl (if_pos hzero)
      · exact Or.inr (Or.inr ⟨if_neg hzero, rfl, hzero⟩)

-- A phase to the device is a writing packet's, with its own length.
theorem eq_outLength_of_toDevice {length : UInt32} (h : p.dataPhase = .toDevice length) :
    p.direction = .write ∧ length = p.outLength := by
  rcases p.dataPhase_cases with hphase | ⟨hphase, -⟩ | ⟨hphase, hwrite, -⟩
  · exact nomatch hphase.symm.trans h
  · exact nomatch hphase.symm.trans h
  · exact ⟨hwrite, DataPhase.toDevice.inj (h.symm.trans hphase)⟩

-- A phase to the host is a reading packet's, with its own length.
theorem eq_inLength_of_toHost {length : UInt32} (h : p.dataPhase = .toHost length) :
    p.direction = .read ∧ length = p.inLength := by
  rcases p.dataPhase_cases with hphase | ⟨hphase, hread, -⟩ | ⟨hphase, -⟩
  · exact nomatch hphase.symm.trans h
  · exact ⟨hread, DataPhase.toHost.inj (h.symm.trans hphase)⟩
  · exact nomatch hphase.symm.trans h

-- A reading packet that moves nothing asks for nothing.
theorem inLength_eq_zero_of_none (hread : p.direction = .read) (h : p.dataPhase = .none) :
    p.inLength = 0 := by
  unfold dataPhase at h
  rw [hread] at h
  by_cases hzero : p.inLength = 0
  · exact hzero
  · simp only [hzero, ite_false, reduceCtorEq] at h

theorem length_dataPhase_of_read (hread : p.direction = .read) :
    p.dataPhase.length = p.inLength := by
  cases hphase : p.dataPhase with
  | none => exact (inLength_eq_zero_of_none hread hphase).symm
  | toHost length => exact (eq_inLength_of_toHost hphase).2
  | toDevice length =>
      have hwrite := (eq_outLength_of_toDevice hphase).1
      exact absurd (hread.symm.trans hwrite) Direction.noConfusion

theorem performs_placeData (hadmitted : p.Admitted) : p.placeData.Performs p.dataAccesses := by
  unfold placeData dataAccesses
  cases hphase : p.dataPhase with
  | none => exact Bus.performs_pure ()
  | toHost length => exact Bus.performs_pure ()
  | toDevice length =>
      -- admission has bounded the length by the slot
      have hlength := (eq_outLength_of_toDevice hphase).2
      have hcapacity := hadmitted.outLength_le
      have hfits : (p.outData.take length.toNat).length ≤ Slot.data.size := by
        rw [List.length_take, hlength]
        change min _ _ ≤ 8192
        omega
      simp only [Slot.write_start Slot.data hfits]
      exact Bus.performs_writeMemory _ _

theorem performs_place (hadmitted : p.Admitted) (request : IoRequest) :
    (p.place request).Performs (p.placeAccesses request) := by
  have hframe : request.encode.toList.length ≤ Slot.request.size := by
    rw [Vector.length_toList]
    decide
  unfold place
  -- zeros and frame both fit, so neither is refused by the slot
  rw [Slot.write_start Slot.request hframe]
  exact Bus.performs_bind (performs_placeData hadmitted) fun _ =>
    Bus.performs_bind (Bus.performs_writeMemory _ _) fun _ => Bus.performs_writeMemory _ _

theorem isMemoryWrite_placeAccesses (p : Packet) (request : IoRequest) :
    ∀ access ∈ p.placeAccesses request, access.IsMemoryWrite := by
  intro access hmem
  unfold placeAccesses dataAccesses at hmem
  rcases List.mem_append.mp hmem with hmem | hmem
  · cases hphase : p.dataPhase <;> rw [hphase] at hmem
    · exact absurd hmem List.not_mem_nil
    · exact absurd hmem List.not_mem_nil
    · rw [List.mem_singleton.mp hmem]
      exact trivial
  · rcases List.mem_cons.mp hmem with rfl | hmem
    · exact trivial
    · rw [List.mem_singleton.mp hmem]
      exact trivial

theorem isMemoryWrite_of_placed {request : IoRequest} {events : List Event}
    {result : Except BusError Unit} (h : Performed (p.placeAccesses request) events result) :
    ∀ event ∈ events, event.access.IsMemoryWrite :=
  fun event hmem => p.isMemoryWrite_placeAccesses request _ (h.mem event hmem)

/-! ## Kinds of access -/

theorem uses_slotWrite {allowed : Access → Prop}
    (hwrite : ∀ offset bytes, allowed (.writeMemory offset bytes)) (slot : Slot) (offset : UInt64)
    (bytes : List UInt8) : (slot.write offset bytes).run.Uses allowed :=
  Slot.uses_guarded (Program.uses_perform (hwrite _ _))

/-- Placing a packet, whatever the packet, only writes to memory. -/
theorem uses_place {allowed : Access → Prop}
    (hwrite : ∀ offset bytes, allowed (.writeMemory offset bytes)) (p : Packet)
    (request : IoRequest) : (p.place request).run.Uses allowed := by
  refine Program.uses_run_bind ?_ fun _ => Program.uses_run_bind
    (Program.uses_perform (hwrite _ _)) fun _ => uses_slotWrite hwrite _ _ _
  unfold placeData
  cases p.dataPhase with
  | none => exact trivial
  | toHost length => exact trivial
  | toDevice length => exact uses_slotWrite hwrite _ _ _

end Packet

end FusionMpt
