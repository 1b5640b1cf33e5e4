import FusionMpt.Proofs.Controller.Containment
import FusionMpt.Proofs.Transfer.Requirement

/-!
# What Staging Leaves in Memory

Staging is the one time that the engine writes to shared memory, so what the
adapter finds there is what staging has left. `Packet.Imprint` says it for all
of the memory, byte by byte: the frame with its zeros, the data in front of
what lay in the slot before, and everything else as it was.

The frame is made of the packet, and of the memory no more than its address is
looked at. So nothing that was there before shows in the request slot, neither
an earlier frame nor anything that was written over it since, and a packet that
is staged again brings the same frame.

## Main definitions

* `Packet.Imprint`: What a staged packet changes of memory, and what it leaves.

## Theorems

* `Packet.imprint_laidOut`: A packet laid out leaves its imprint.
* `IoRequest.ofPacket_congr`: Regions with one base address give one frame.
* `Packet.imprint_of_stage`: Staging leaves the imprint of the packet, and the
  same frame each time.
-/

namespace FusionMpt

/-- What memory `m` has become, as memory `m'`, by staging a packet whose frame
    is `request`. -/
structure Packet.Imprint (p : Packet) (request : IoRequest) (m m' : HostMemory) : Prop where
  request_eq : m'.segment Slot.request.offset Slot.request.size =
    request.encode.toList ++ List.replicate 4 0
  /-- Who reads the bytes of a frame there gets this one. -/
  decode_eq : ∃ bytes, m'.read Slot.request.offset 60 = .ok bytes ∧ IoRequest.decode bytes = request
  data_of_sent : p.direction = .write → p.outLength ≠ 0 →
    m'.segment Slot.data.offset Slot.data.size =
      p.outData.take p.outLength.toNat ++
        m.segment (Slot.data.offset + p.outLength.toNat) (Slot.data.size - p.outLength.toNat)
  data_of_unsent : p.direction ≠ .write ∨ p.outLength = 0 →
    m'.segment Slot.data.offset Slot.data.size = m.segment Slot.data.offset Slot.data.size
  errorReply_eq : m'.segment Slot.errorReply.offset Slot.errorReply.size =
    m.segment Slot.errorReply.offset Slot.errorReply.size
  sense_eq : m'.segment Slot.sense.offset Slot.sense.size =
    m.segment Slot.sense.offset Slot.sense.size
  /-- The bytes behind the slots. -/
  beyond_eq : m'.bytes.drop Slot.total = m.bytes.drop Slot.total
  buffer_eq : m'.buffer = m.buffer

/-- The frame shows the base address of the region, and nothing else of it. -/
theorem IoRequest.ofPacket_congr {region region' : Region} (h : region'.base = region.base)
    (target : Target) (lun : UInt64) (p : Packet) :
    IoRequest.ofPacket region' target lun p = IoRequest.ofPacket region target lun p := by
  unfold ofPacket Region.lowAddress Region.address
  rw [h]

namespace Packet

variable {p : Packet} {m : HostMemory} {target : Target} {lun : UInt64}

/-- A packet that is laid out leaves its imprint, whatever lay there. -/
theorem imprint_laidOut (hadmitted : p.Admitted) (hroom : Slot.total ≤ m.size)
    (region : Region) (target : Target) (lun : UInt64) :
    p.Imprint (IoRequest.ofPacket region target lun p) m
      (p.laidOut (IoRequest.ofPacket region target lun p) m) := by
  have hpayload := length_payload_le hadmitted
  have hbuffer := buffer_laidOut hroom hpayload (IoRequest.ofPacket region target lun p)
  constructor
  case request_eq => exact segment_laidOut_request hroom hpayload _
  case decode_eq =>
    have hend := Slot.end_le_total .request
    have hsize : (p.laidOut (IoRequest.ofPacket region target lun p) m).size = m.size :=
      congrArg Buffer.size hbuffer
    have hslot : Slot.request.size = 64 := rfl
    refine ⟨(IoRequest.ofPacket region target lun p).encode,
      HostMemory.read_eq_ok_iff.mpr ⟨by omega, ?_⟩,
      (IoRequest.consistent_ofPacket hadmitted region target lun).decode_eq⟩
    exact (segment_laidOut_frame hroom hpayload _).symm
  case data_of_sent =>
    intro hwrite _
    rw [segment_laidOut_data hroom hpayload _ hpayload, length_payload_of_write hadmitted hwrite,
      payload_of_write hwrite]
  case data_of_unsent =>
    intro hunsent
    exact segment_laidOut_unsent hroom hunsent _ _
  case errorReply_eq => exact segment_laidOut_other hroom hpayload _ (by decide) (by decide)
  case sense_eq => exact segment_laidOut_other hroom hpayload _ (by decide) (by decide)
  case beyond_eq => exact drop_laidOut hroom hpayload _
  case buffer_eq => exact hbuffer

/-- Staging a packet that meets the requirements succeeds, leaves the packet as
    it is and its imprint in memory. Staged again, over any memory at the same
    address and through any adapter that shares it, the packet brings the same
    frame and the same bytes in the request slot. -/
theorem imprint_of_stage {σ : Type} {adapter : Adapter σ} {memory : σ → HostMemory} {s : σ}
    (region : Region) (hshared : SharesMemory adapter memory)
    (hroom : Slot.total ≤ (memory s).size) (hmet : ∀ r : Requirement, r.Met p target lun) :
    ∃ request events s', (p.stage region target lun).run adapter s =
        ⟨events, .ok (.ok request, p), s'⟩ ∧
      p.Imprint request (memory s) (memory s') ∧
      ∀ {τ : Type} (again : Adapter τ) (memory' : τ → HostMemory) (t : τ) (region' : Region)
        (target' : Target) (lun' : UInt64), SharesMemory again memory' →
        Slot.total ≤ (memory' t).size → region'.base = region.base →
        (∀ r : Requirement, r.Met p target' lun') →
        ∃ events' t', (p.stage region' target' lun').run again t =
            ⟨events', .ok (.ok request, p), t'⟩ ∧
          (memory' t').segment Slot.request.offset Slot.request.size =
            (memory s').segment Slot.request.offset Slot.request.size := by
  have hcheck := check_eq_ok_iff_met.mpr hmet
  rcases (p.check_eq_ok_iff target lun).mp hcheck with ⟨hadmitted, htarget, hlun⟩
  have himprint := imprint_laidOut hadmitted hroom region target lun
  rcases run_stage_laidOut region hshared hroom hcheck with
    ⟨events, s', hstage, hmemory⟩
  rw [← hmemory] at himprint
  refine ⟨_, events, s', hstage, himprint, ?_⟩
  intro τ again memory' t region' target' lun' hshared' hroom' hbase hmet'
  have hcheck' := check_eq_ok_iff_met.mpr hmet'
  rcases (p.check_eq_ok_iff target' lun').mp hcheck' with ⟨-, htarget', hlun'⟩
  -- there is one address that packets are let through to
  have hrequest : IoRequest.ofPacket region' target' lun' p =
      IoRequest.ofPacket region target lun p := by
    rw [htarget', hlun', htarget, hlun]
    exact IoRequest.ofPacket_congr hbase .zero 0 p
  rcases run_stage_laidOut region' hshared' hroom' hcheck' with
    ⟨events', t', hstage', hmemory'⟩
  have himprint' := imprint_laidOut hadmitted hroom' region' target' lun'
  rw [hrequest] at hstage' hmemory' himprint'
  rw [← hmemory'] at himprint'
  exact ⟨events', t', hstage', himprint'.request_eq.trans himprint.request_eq.symm⟩

/-- A device with nothing to do, whose memory lies where that of `edge` does and
    is full of one byte. -/
def strewn (byte : UInt8) : PatientDevice :=
  ⟨⟨edge.base, List.replicate Slot.total byte⟩, none⟩

theorem total_le_strewn (byte : UInt8) : Slot.total ≤ (strewn byte).memory.size :=
  Nat.le_of_eq List.length_replicate.symm

theorem met_sampleWrite : ∀ r : Requirement, r.Met sampleWrite .zero 0 :=
  check_eq_ok_iff_met.mp rfl

/-- A packet staged over different leftovers. -/
theorem imprint_over_leftovers :
    ∃ request first second d d',
      (sampleWrite.stage edge .zero 0).run (PatientDevice.adapter 0 [] []) (strewn 0xaa) =
        ⟨first, .ok (.ok request, sampleWrite), d⟩ ∧
      sampleWrite.Imprint request (strewn 0xaa).memory d.memory ∧
      (sampleWrite.stage edge .zero 0).run (PatientDevice.adapter 0 [] []) (strewn 0x55) =
        ⟨second, .ok (.ok request, sampleWrite), d'⟩ ∧
      d'.memory.segment Slot.request.offset Slot.request.size =
        d.memory.segment Slot.request.offset Slot.request.size := by
  have hshared := PatientDevice.sharesMemory 0 [] []
  rcases imprint_of_stage edge hshared (total_le_strewn 0xaa) met_sampleWrite with
    ⟨request, first, d, hfirst, himprint, hagain⟩
  rcases hagain _ _ (strewn 0x55) edge .zero 0 hshared (total_le_strewn 0x55) rfl met_sampleWrite
    with ⟨second, d', hsecond, hsame⟩
  exact ⟨request, first, second, d, d', hfirst, himprint, hsecond, hsame⟩

end Packet

end FusionMpt
