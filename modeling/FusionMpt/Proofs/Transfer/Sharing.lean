import FusionMpt.Proofs.Frame.IoRequest
import FusionMpt.Proofs.Platform.Playing
import FusionMpt.Proofs.Transfer.Completion
import FusionMpt.Proofs.Transfer.Layout

/-!
# Sharing Memory with an Adapter

An adapter shares memory when some host memory can be read off its state that
writes go to and reads come from. The adapter may change that memory too, at
any access but a read or a write of it: that is how data and sense bytes get
there.

With such an adapter, placing a packet leaves it laid out in memory, and copying
back takes the results from the slots. Placing asks of the memory only that the
slots are in it.

## Main definitions

* `SharesMemory`: The adapter reads and writes this memory.
* `Packet.collected`: The packet with the results that lie in memory.

## Theorems

* `Packet.run_stage_laidOut`: Staging an admitted packet lays it out in memory.
* `Packet.run_stage`: So the frame and the data are found there.
* `Packet.run_copyBack`: Copying back takes the results from there.
* `Packet.run_complete_context`: Finishing a packet that succeeded takes its
  results from memory.
-/

namespace FusionMpt

/-- The adapter serves accesses to shared memory from the memory that `memory`
    reads off its state. -/
structure SharesMemory {σ : Type} (adapter : Adapter σ) (memory : σ → HostMemory) : Prop where
  /-- The memory stays where it is. -/
  buffer_eq : ∀ access s, (memory (adapter.answer access s).2).buffer = (memory s).buffer
  write : ∀ s offset bytes m, (memory s).write offset bytes = .ok m →
    (adapter.answer (.writeMemory offset bytes) s).1 = .ok () ∧
      memory (adapter.answer (.writeMemory offset bytes) s).2 = m
  read : ∀ s offset len bytes, (memory s).read offset len = .ok bytes →
    (adapter.answer (.readMemory offset len) s).1 = .ok bytes ∧
      memory (adapter.answer (.readMemory offset len) s).2 = memory s

variable {σ : Type} {adapter : Adapter σ} {memory : σ → HostMemory} {s : σ} {region : Region}
  {p : Packet}

theorem Region.total_le_of_buffer {m : HostMemory} (hbuffer : m.buffer = region.buffer) :
    Slot.total ≤ m.size := by
  rw [show m.size = region.buffer.size from congrArg Buffer.size hbuffer]
  exact region.total_le

-- A slot lies in the memory of its region.
theorem Slot.end_le_size {m : HostMemory} (hbuffer : m.buffer = region.buffer) (slot : Slot) :
    slot.offset + slot.size ≤ m.size :=
  Nat.le_trans slot.end_le_total (Region.total_le_of_buffer hbuffer)

theorem HostMemory.length_segment_slot {m : HostMemory} (hbuffer : m.buffer = region.buffer)
    (slot : Slot) {len : Nat} (hfits : len ≤ slot.size) :
    (m.segment slot.offset len).length = len := by
  have hend := slot.end_le_size hbuffer
  exact length_segment (by omega)

theorem HostMemory.at?_slot {m : HostMemory} (hbuffer : m.buffer = region.buffer) (slot : Slot)
    {len : Nat} {data : List UInt8} :
    m.at? (region.address slot) len = some data ↔
      slot.offset + len ≤ m.size ∧ data = m.segment slot.offset len := by
  refine at?_eq_some_iff ?_
  have haddress : m.address = region.buffer.address := congrArg Buffer.address hbuffer
  rw [region.toNat_address, haddress]
  rfl

namespace SharesMemory

theorem buffer_after (hshared : SharesMemory adapter memory) (events : List Event) (s : σ) :
    (memory (adapter.after events s)).buffer = (memory s).buffer := by
  induction events generalizing s with
  | nil => rfl
  | cons event rest ih => exact (ih _).trans (hshared.buffer_eq event.access s)

-- A write inside the memory is taken.
theorem run_writeMemory (hshared : SharesMemory adapter memory) {offset : Nat} {bytes : List UInt8}
    (hinside : offset + bytes.length ≤ (memory s).size) :
    ∃ s', (Bus.writeMemory offset bytes).run.run adapter s =
        ⟨[⟨.writeMemory offset bytes, .ok ()⟩], .ok (.ok ()), s'⟩ ∧
      memory s' = (memory s).stored offset bytes := by
  have hwrite := hshared.write s offset bytes _ (HostMemory.write_eq_ok hinside)
  have hanswer : adapter.answer (.writeMemory offset bytes) s =
      (.ok (), (adapter.answer (.writeMemory offset bytes) s).2) := Prod.ext hwrite.1 rfl
  exact ⟨_, Bus.run_writeMemory hanswer, hwrite.2⟩

-- A read inside the memory gives the bytes that lie there.
theorem run_readMemory (hshared : SharesMemory adapter memory) {offset len : Nat}
    (hinside : offset + len ≤ (memory s).size) :
    ∃ (bytes : Vector UInt8 len) (s' : σ), (Bus.readMemory offset len).run.run adapter s =
        ⟨[⟨.readMemory offset len, .ok bytes⟩], .ok (.ok bytes), s'⟩ ∧
      memory s' = memory s ∧ bytes.toList = (memory s).segment offset len := by
  have hlength := HostMemory.length_segment hinside
  have hbytes : (⟨((memory s).segment offset len).toArray, hlength⟩ : Vector UInt8 len).toList =
      (memory s).segment offset len := rfl
  have hread := hshared.read s offset len _ (HostMemory.read_eq_ok_iff.mpr ⟨hinside, hbytes⟩)
  have hanswer : adapter.answer (.readMemory offset len) s =
      (.ok _, (adapter.answer (.readMemory offset len) s).2) := Prod.ext hread.1 rfl
  exact ⟨_, _, Bus.run_readMemory hanswer, hread.2, hbytes⟩

-- A write that fits its slot is inside the memory, so the adapter takes it.
theorem run_writeSlot (hshared : SharesMemory adapter memory) (hroom : Slot.total ≤ (memory s).size)
    (slot : Slot) {bytes : List UInt8} (hfits : bytes.length ≤ slot.size) :
    ∃ s', (Bus.writeMemory slot.offset bytes).run.run adapter s =
        ⟨[⟨.writeMemory slot.offset bytes, .ok ()⟩], .ok (.ok ()), s'⟩ ∧
      memory s' = (memory s).stored slot.offset bytes ∧ Slot.total ≤ (memory s').size := by
  have hend := slot.end_le_total
  have hinside : slot.offset + bytes.length ≤ (memory s).size := by
    omega
  rcases hshared.run_writeMemory hinside with ⟨s', hrun, hmemory⟩
  refine ⟨s', hrun, hmemory, ?_⟩
  rw [hmemory, HostMemory.size_stored hinside]
  exact hroom

-- A read that fits its slot is inside the memory of the region.
theorem run_readSlot (hshared : SharesMemory adapter memory)
    (hbuffer : (memory s).buffer = region.buffer) (slot : Slot) {len : Nat}
    (hfits : len ≤ slot.size) :
    ∃ (bytes : Vector UInt8 len) (s' : σ), (Bus.readMemory slot.offset len).run.run adapter s =
        ⟨[⟨.readMemory slot.offset len, .ok bytes⟩], .ok (.ok bytes), s'⟩ ∧
      memory s' = memory s ∧ bytes.toList = (memory s).segment slot.offset len := by
  have hend := slot.end_le_size hbuffer
  exact hshared.run_readMemory (by omega)

end SharesMemory

namespace Packet

/-! ## Placing -/

theorem run_placeData (hshared : SharesMemory adapter memory)
    (hroom : Slot.total ≤ (memory s).size) (hadmitted : p.Admitted) :
    ∃ events s', p.placeData.run.run adapter s = ⟨events, .ok (.ok ()), s'⟩ ∧
      memory s' = (memory s).stored Slot.data.offset p.payload ∧
      Slot.total ≤ (memory s').size := by
  have hpayload := p.length_payload_le hadmitted
  unfold payload at hpayload ⊢
  unfold placeData
  cases hphase : p.dataPhase with
  | none | toHost _ => exact ⟨[], s, rfl, (HostMemory.stored_nil _ _).symm, hroom⟩
  | toDevice length =>
      rw [hphase] at hpayload
      simp only [Slot.write_start .data hpayload]
      rcases hshared.run_writeSlot hroom .data hpayload with ⟨s', hrun, hmemory⟩
      exact ⟨_, s', hrun, hmemory⟩

/-- Data, zeros and frame are written one after the other, and the packet is
    laid out then. -/
theorem run_place (hshared : SharesMemory adapter memory) (hroom : Slot.total ≤ (memory s).size)
    (hadmitted : p.Admitted) (request : IoRequest) :
    ∃ events s', (p.place request).run.run adapter s = ⟨events, .ok (.ok ()), s'⟩ ∧
      memory s' = p.laidOut request (memory s) := by
  have hzeros : (List.replicate Slot.request.size (0 : UInt8)).length ≤ Slot.request.size :=
    Nat.le_of_eq List.length_replicate
  have hframe : request.encode.toList.length ≤ Slot.request.size := by
    rw [Vector.length_toList]
    decide
  rcases run_placeData hshared hroom hadmitted with ⟨first, s₁, hdata, hmemory₁, hroom₁⟩
  rcases hshared.run_writeSlot hroom₁ .request hzeros with ⟨s₂, hzero, hmemory₂, hroom₂⟩
  rcases hshared.run_writeSlot hroom₂ .request hframe with ⟨s₃, hwrite, hmemory₃, -⟩
  refine ⟨first ++ ([⟨.writeMemory Slot.request.offset (List.replicate Slot.request.size 0), .ok ()⟩]
    ++ [⟨.writeMemory Slot.request.offset request.encode.toList, .ok ()⟩]), s₃, ?_, ?_⟩
  · unfold place Slot.zero
    rw [Program.run_bind_value hdata, Program.run_bind_value hzero,
      Slot.write_start .request hframe, hwrite]
    rfl
  · rw [hmemory₃, hmemory₂, stored_zeros_frame hroom₁, hmemory₁]
    rfl

/-- Staging an admitted packet lays it out in memory. -/
theorem run_stage_laidOut (region : Region) (hshared : SharesMemory adapter memory)
    (hroom : Slot.total ≤ (memory s).size) {target : Target} {lun : UInt64}
    (hcheck : p.check target lun = .ok ()) :
    ∃ events s', (p.stage region target lun).run adapter s =
        ⟨events, .ok (.ok (IoRequest.ofPacket region target lun p), p), s'⟩ ∧
      memory s' = p.laidOut (IoRequest.ofPacket region target lun p) (memory s) := by
  have hadmitted := ((p.check_eq_ok_iff target lun).mp hcheck).1
  rcases run_place hshared hroom hadmitted (IoRequest.ofPacket region target lun p) with
    ⟨events, s', hplace, hmemory⟩
  refine ⟨events ++ [], s', ?_, hmemory⟩
  unfold stage
  rw [hcheck]
  change (((p.place (IoRequest.ofPacket region target lun p)).attempt.run) >>= _).run adapter s = _
  rw [Program.run_bind_ok (Bus.run_attempt_value hplace)]
  rfl

/-- The frame and the data of a staged packet are in memory where the slots
    are. -/
theorem run_stage (hshared : SharesMemory adapter memory)
    (hbuffer : (memory s).buffer = region.buffer) {target : Target} {lun : UInt64}
    (hcheck : p.check target lun = .ok ()) :
    ∃ events s', (p.stage region target lun).run adapter s =
        ⟨events, .ok (.ok (IoRequest.ofPacket region target lun p), p), s'⟩ ∧
      (memory s').buffer = region.buffer ∧
      (memory s').segment Slot.request.offset 60 =
        (IoRequest.ofPacket region target lun p).encode.toList ∧
      ∀ length, p.dataPhase = .toDevice length →
        (memory s').segment Slot.data.offset length.toNat = p.outData.take length.toNat := by
  have hroom := Region.total_le_of_buffer hbuffer
  have hadmitted := ((p.check_eq_ok_iff target lun).mp hcheck).1
  have hpayload := p.length_payload_le hadmitted
  rcases run_stage_laidOut region hshared hroom hcheck with
    ⟨events, s', hstage, hmemory⟩
  refine ⟨events, s', hstage, ?_, ?_, fun length hphase => ?_⟩
  · rw [hmemory, buffer_laidOut hroom hpayload, hbuffer]
  · rw [hmemory, segment_laidOut_frame hroom hpayload]
  · rcases eq_outLength_of_toDevice hphase with ⟨hwrite, rfl⟩
    rw [hmemory, segment_laidOut_sent hroom hadmitted hwrite]

/-! ## Copying back -/

/-- The packet with the data that lies in memory. One that does not read takes
    none from there. -/
def withData (m : HostMemory) (p : Packet) : Packet :=
  { p with
    inData :=
      if p.direction = .read then
        m.segment Slot.data.offset p.inLength.toNat ++ p.inData.drop p.inLength.toNat
      else p.inData }

/-- The packet with all the results that lie in memory. -/
def collected (m : HostMemory) (p : Packet) : Packet :=
  (p.storeSense (m.segment Slot.sense.offset p.senseLength.toNat)).withData m

-- Of nothing no byte is taken, and none is dropped.
theorem withData_eq_self (m : HostMemory) (h : p.direction = .read → p.inLength = 0) :
    p.withData m = p := by
  unfold withData
  by_cases hread : p.direction = .read
  · have hnone : m.segment Slot.data.offset p.inLength.toNat ++ p.inData.drop p.inLength.toNat =
        p.inData := by
      rw [h hread]
      exact congrArg (· ++ p.inData) List.take_zero
    rw [if_pos hread, hnone]
  · rw [if_neg hread]

theorem sense_collected {m : HostMemory} (p : Packet) (hbuffer : m.buffer = region.buffer) :
    (p.collected m).sense = m.segment Slot.sense.offset p.senseLength.toNat :=
  List.take_left' (HostMemory.length_segment_slot hbuffer .sense p.senseLength_le_slot)

theorem dataIn_collected {m : HostMemory} (hbuffer : m.buffer = region.buffer)
    (hfits : p.ResultsFit) (hread : p.direction = .read) :
    (p.collected m).dataIn = m.segment Slot.data.offset p.dataPhase.length.toNat := by
  rw [length_dataPhase_of_read hread]
  change (ite (p.direction = .read) _ _ : List UInt8).take p.inLength.toNat = _
  rw [if_pos hread]
  exact List.take_left'
    (HostMemory.length_segment_slot hbuffer .data (hfits.inLength_le hread))

theorem run_copySense (hshared : SharesMemory adapter memory)
    (hbuffer : (memory s).buffer = region.buffer)
    (hfits : p.senseLength.toNat ≤ p.senseData.length) :
    ∃ events s', (copySense.run p).run adapter s =
        ⟨events, .ok (.ok (), p.storeSense ((memory s).segment Slot.sense.offset
          p.senseLength.toNat)), s'⟩ ∧
      memory s' = memory s ∧
      Performed [.readMemory Slot.sense.offset p.senseLength.toNat] events (.ok ()) := by
  rcases hshared.run_readSlot hbuffer .sense p.senseLength_le_slot with
    ⟨bytes, s', hread, hmemory, hbytes⟩
  refine ⟨[⟨.readMemory Slot.sense.offset p.senseLength.toNat, .ok bytes⟩], s', ?_, hmemory,
    .cons rfl .nil⟩
  rw [copySense_run hfits,
    Exchange.run_bind_value (Exchange.run_attempt (Bus.run_attempt_value hread)), ← hbytes]
  rfl

theorem run_copyData (hshared : SharesMemory adapter memory)
    (hbuffer : (memory s).buffer = region.buffer) (hfits : p.ResultsFit) :
    ∃ events s', (copyData.run p).run adapter s =
        ⟨events, .ok (.ok (), p.withData (memory s)), s'⟩ ∧
      memory s' = memory s ∧ Performed p.dataReads events (.ok ()) := by
  unfold dataReads
  cases hphase : p.dataPhase with
  | toHost length =>
      rcases eq_inLength_of_toHost hphase with ⟨hread, rfl⟩
      rcases hshared.run_readSlot hbuffer .data (hfits.inLength_le hread) with
        ⟨bytes, s', hrun, hmemory, hbytes⟩
      refine ⟨[⟨.readMemory Slot.data.offset p.inLength.toNat, .ok bytes⟩], s', ?_, hmemory,
        .cons rfl .nil⟩
      unfold withData
      rw [copyData_run hfits hphase,
        Exchange.run_bind_value (Exchange.run_attempt (Bus.run_attempt_value hrun)), if_pos hread,
        ← hbytes]
      rfl
  | none =>
      refine ⟨[], s, ?_, rfl, .nil⟩
      rw [copyData_run_of_not_toHost fun length => by rw [hphase]; exact DataPhase.noConfusion,
        withData_eq_self _ fun hread => inLength_eq_zero_of_none hread hphase]
      rfl
  | toDevice length =>
      refine ⟨[], s, ?_, rfl, .nil⟩
      have hwrite := (eq_outLength_of_toDevice hphase).1
      rw [copyData_run_of_not_toHost fun length => by rw [hphase]; exact DataPhase.noConfusion,
        withData_eq_self _ fun hread => absurd (hread.symm.trans hwrite) Direction.noConfusion]
      rfl

/-- Copying back takes the results from memory, and leaves memory as it is. -/
theorem run_copyBack (hshared : SharesMemory adapter memory)
    (hbuffer : (memory s).buffer = region.buffer) (hfits : p.ResultsFit) :
    ∃ events s', (copyBack.run p).run adapter s =
        ⟨events, .ok (.ok (), p.collected (memory s)), s'⟩ ∧
      memory s' = memory s ∧ Performed p.resultAccesses events (.ok ()) := by
  have hlength := HostMemory.length_segment_slot hbuffer .sense p.senseLength_le_slot
  rcases run_copySense hshared hbuffer hfits.sense_fits with ⟨first, s₁, hsense, hmemory₁, hfirst⟩
  have hbuffer₁ : (memory s₁).buffer = region.buffer := by
    rw [hmemory₁]
    exact hbuffer
  rcases run_copyData hshared hbuffer₁ (hfits.storeSense hlength) with
    ⟨second, s₂, hdata, hmemory₂, hsecond⟩
  refine ⟨first ++ second, s₂, ?_, hmemory₂.trans hmemory₁, hfirst.append hsecond⟩
  unfold copyBack collected
  rw [Exchange.run_bind_value hsense, hdata, hmemory₁]
  rfl

/-- Finishing a packet that succeeded takes its results from memory. -/
theorem run_complete_context (hshared : SharesMemory adapter memory)
    (hbuffer : (memory s).buffer = region.buffer) (hfits : p.ResultsFit) :
    ∃ events s', ((complete region IoRequest.context).run p).run adapter s =
        ⟨events, .ok (.ok (), { p.collected (memory s) with
          hostStatus := .ok, targetStatus := .good }), s'⟩ ∧
      memory s' = memory s ∧ Performed p.resultAccesses events (.ok ()) := by
  rcases run_copyBack hshared hbuffer hfits with ⟨events, s', hcopy, hrest⟩
  refine ⟨events, s', ?_, hrest⟩
  unfold complete
  rw [Exchange.run_bind_value hcopy, if_pos rfl]
  exact Run.behind_done events _ s'

end Packet

end FusionMpt
