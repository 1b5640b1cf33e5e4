import FusionMpt.Proofs.Platform.HostMemory
import FusionMpt.Proofs.Transfer.Placement

/-!
# A Packet Laid Out in Memory

Placing a packet makes up to three writes, and two of them go to the same slot:
first zeros, then the frame. What they come to is simpler than that. The frame
and four zeros fill the request slot, the data for the device lies at the front
of its own slot, and no other byte has changed.

`Packet.laidOut` is the memory after that, as a function of the memory before.
It does not know of adapters and of failing writes. A run that succeeds ends
with this memory, and what is asked of such a run is asked of it.

## Main definitions

* `Packet.payload`: The bytes that a packet has for the device.
* `Packet.laidOut`: Memory with a packet laid out in it.

## Theorems

* `Slot.apart`: Different slots do not overlap.
* `Packet.stored_zeros_frame`: Zeros and a frame over them are one write.
* `Packet.segment_laidOut_request`, `Packet.segment_laidOut_frame`,
  `Packet.segment_laidOut_data`, `Packet.segment_laidOut_other`: What lies in the
  slots.
* `Packet.segment_laidOut_sent`, `Packet.segment_laidOut_unsent`: What lies at the
  front of the data slot.
* `Packet.buffer_laidOut`, `Packet.drop_laidOut`: What lies beyond them stays.
-/

namespace FusionMpt

/-- Different slots do not overlap. -/
theorem Slot.apart {slot slot' : Slot} (h : slot ≠ slot') :
    slot.offset + slot.size ≤ slot'.offset ∨ slot'.offset + slot'.size ≤ slot.offset := by
  cases slot <;> cases slot' <;> first | exact absurd rfl h | decide

namespace Packet

variable {p : Packet} {m : HostMemory}

/-- The bytes that the packet has for the device. -/
def payload (p : Packet) : List UInt8 :=
  match p.dataPhase with
  | .toDevice length => p.outData.take length.toNat
  | .none | .toHost _ => []

-- A length of zero makes no phase, and takes no byte either.
theorem payload_of_write (hwrite : p.direction = .write) :
    p.payload = p.outData.take p.outLength.toNat := by
  unfold payload dataPhase
  rw [hwrite]
  by_cases hzero : p.outLength = 0
  · simp only [hzero, ite_true]
    exact List.take_zero.symm
  · simp only [hzero, ite_false]

theorem payload_of_ne_write (h : p.direction ≠ .write) : p.payload = [] := by
  unfold payload
  cases hphase : p.dataPhase with
  | none => rfl
  | toHost length => rfl
  | toDevice length => exact absurd (eq_outLength_of_toDevice hphase).1 h

theorem payload_of_unsent (h : p.direction ≠ .write ∨ p.outLength = 0) : p.payload = [] := by
  by_cases hwrite : p.direction = .write
  · have hzero : p.outLength = 0 := h.resolve_left (not_not_intro hwrite)
    rw [payload_of_write hwrite, hzero]
    exact List.take_zero
  · exact payload_of_ne_write hwrite

-- An admitted packet has as many bytes as its length says.
theorem length_payload_of_write (hadmitted : p.Admitted) (hwrite : p.direction = .write) :
    p.payload.length = p.outLength.toNat := by
  rw [payload_of_write hwrite, List.length_take, Nat.min_eq_left (hadmitted.outData_fits hwrite)]

theorem length_payload_le (hadmitted : p.Admitted) : p.payload.length ≤ Slot.data.size := by
  by_cases hwrite : p.direction = .write
  · have hcapacity : p.outLength.toNat ≤ Slot.data.size := hadmitted.outLength_le
    rw [payload_of_write hwrite, List.length_take]
    omega
  · rw [payload_of_ne_write hwrite]
    exact Nat.zero_le _

/-- The bytes of the request slot: the frame, with zeros behind. -/
def frameSlot (request : IoRequest) : List UInt8 :=
  request.encode.toList ++ List.replicate 4 0

theorem length_frameSlot (request : IoRequest) :
    (frameSlot request).length = Slot.request.size := by
  unfold frameSlot
  rw [List.length_append, Vector.length_toList, List.length_replicate]
  rfl

/-- Memory with a packet and its frame laid out in it. -/
def laidOut (p : Packet) (request : IoRequest) (m : HostMemory) : HostMemory :=
  (m.stored Slot.data.offset p.payload).stored Slot.request.offset (frameSlot request)

/-- Zeros all over the request slot and a frame over them are one write. -/
theorem stored_zeros_frame (hroom : Slot.total ≤ m.size) (request : IoRequest) :
    (m.stored Slot.request.offset (List.replicate Slot.request.size 0)).stored Slot.request.offset
      request.encode.toList = m.stored Slot.request.offset (frameSlot request) := by
  have hend := Slot.end_le_total .request
  have hframe : request.encode.toList.length = 60 := Vector.length_toList
  have hslot : Slot.request.size = 64 := rfl
  rw [HostMemory.stored_stored (by rw [List.length_replicate]; omega)
    (by rw [List.length_replicate]; omega), hframe, List.drop_replicate]
  rfl

/-! ## Slot by slot -/

variable (hroom : Slot.total ≤ m.size) (hpayload : p.payload.length ≤ Slot.data.size)

include hroom hpayload

-- Both writes are inside the memory, the second as the first has left it.
theorem inside_laidOut (request : IoRequest) :
    Slot.data.offset + p.payload.length ≤ m.size ∧
      (m.stored Slot.data.offset p.payload).buffer = m.buffer ∧
      Slot.request.offset + (frameSlot request).length ≤
        (m.stored Slot.data.offset p.payload).size := by
  have hdata := Slot.end_le_total .data
  have hrequest := Slot.end_le_total .request
  have hinside : Slot.data.offset + p.payload.length ≤ m.size := by
    omega
  refine ⟨hinside, HostMemory.buffer_stored hinside, ?_⟩
  rw [length_frameSlot, HostMemory.size_stored hinside]
  omega

/-- The memory is where it was, and as large. -/
theorem buffer_laidOut (request : IoRequest) : (p.laidOut request m).buffer = m.buffer := by
  rcases inside_laidOut hroom hpayload request with ⟨-, hbuffer, hinside⟩
  exact (HostMemory.buffer_stored hinside).trans hbuffer

theorem segment_laidOut_request (request : IoRequest) :
    (p.laidOut request m).segment Slot.request.offset Slot.request.size = frameSlot request := by
  rcases inside_laidOut hroom hpayload request with ⟨-, -, hinside⟩
  have hstored := HostMemory.segment_stored hinside
  rw [length_frameSlot] at hstored
  exact hstored

theorem segment_laidOut_frame (request : IoRequest) :
    (p.laidOut request m).segment Slot.request.offset 60 = request.encode.toList := by
  have hfront : 60 ≤ Slot.request.size := by
    decide
  rw [← HostMemory.take_segment hfront, segment_laidOut_request hroom hpayload]
  exact List.take_left' Vector.length_toList

-- A range that neither write reaches is as it was.
theorem segment_laidOut_of_disjoint (request : IoRequest) {offset len : Nat}
    (hdata : offset + len ≤ Slot.data.offset ∨ Slot.data.offset + Slot.data.size ≤ offset)
    (hrequest : offset + len ≤ Slot.request.offset ∨
      Slot.request.offset + Slot.request.size ≤ offset) :
    (p.laidOut request m).segment offset len = m.segment offset len := by
  rcases inside_laidOut hroom hpayload request with ⟨hfirst, -, hsecond⟩
  unfold laidOut
  rw [HostMemory.segment_stored_of_disjoint hsecond (by rw [length_frameSlot]; exact hrequest),
    HostMemory.segment_stored_of_disjoint hfirst (by omega)]

theorem segment_laidOut_other (request : IoRequest) {slot : Slot} (hrequest : slot ≠ .request)
    (hdata : slot ≠ .data) :
    (p.laidOut request m).segment slot.offset slot.size = m.segment slot.offset slot.size :=
  segment_laidOut_of_disjoint hroom hpayload request (Slot.apart hdata) (Slot.apart hrequest)

/-- The payload lies in front of the data slot, and behind it what lay there
    before. -/
theorem segment_laidOut_data (request : IoRequest) {len : Nat} (hle : p.payload.length ≤ len) :
    (p.laidOut request m).segment Slot.data.offset len =
      p.payload ++ m.segment (Slot.data.offset + p.payload.length) (len - p.payload.length) := by
  rcases inside_laidOut hroom hpayload request with ⟨hfirst, -, hsecond⟩
  have hbehind : Slot.request.offset + (frameSlot request).length ≤ Slot.data.offset := by
    rw [length_frameSlot]
    decide
  unfold laidOut
  rw [HostMemory.segment_stored_of_disjoint hsecond (Or.inr hbehind),
    HostMemory.segment_stored_front hfirst hle]

omit hpayload in
/-- What an admitted packet sends is found at the front of the data slot. -/
theorem segment_laidOut_sent (hadmitted : p.Admitted) (hwrite : p.direction = .write)
    (request : IoRequest) :
    (p.laidOut request m).segment Slot.data.offset p.outLength.toNat =
      p.outData.take p.outLength.toNat := by
  have hlength := length_payload_of_write hadmitted hwrite
  rw [segment_laidOut_data hroom (length_payload_le hadmitted) request (Nat.le_of_eq hlength),
    hlength, Nat.sub_self, payload_of_write hwrite]
  exact List.append_nil _

omit hpayload in
/-- A packet that sends nothing leaves what is found there. -/
theorem segment_laidOut_unsent (h : p.direction ≠ .write ∨ p.outLength = 0) (request : IoRequest)
    (len : Nat) :
    (p.laidOut request m).segment Slot.data.offset len = m.segment Slot.data.offset len := by
  have hnone := payload_of_unsent h
  have hle (k : Nat) : p.payload.length ≤ k := by
    rw [hnone]
    exact Nat.zero_le k
  rw [segment_laidOut_data hroom (hle _) request (hle len), hnone]
  rfl

theorem drop_laidOut (request : IoRequest) :
    (p.laidOut request m).bytes.drop Slot.total = m.bytes.drop Slot.total := by
  rcases inside_laidOut hroom hpayload request with ⟨hfirst, -, hsecond⟩
  have hdata : Slot.data.offset + p.payload.length ≤ Slot.total := by
    have hend := Slot.end_le_total .data
    omega
  have hrequest : Slot.request.offset + (frameSlot request).length ≤ Slot.total := by
    rw [length_frameSlot]
    exact Slot.end_le_total .request
  unfold laidOut
  rw [HostMemory.drop_stored hsecond hrequest, HostMemory.drop_stored hfirst hdata]

end Packet

end FusionMpt
