import FusionMpt.Proofs.Controller.Reissue
import FusionMpt.Proofs.Controller.Staging

/-!
# Writing All of the Data

A packet made by `Packet.write` is to write all of the data that it is given.
If the data slot does not hold that much it can only be refused. But the length
that is compared with the slot is one of 32 bits, and the constructor has
brought the number of bytes down to those.

Up to 4 GiB nothing is lost by that. Beyond, a packet is taken for one with as
much data as is left of its length in 32 bits. Of 4 GiB and four bytes it
writes the first four, and reports success.

## Main definitions

* `Packet.WholeOrRefused`: All of the data is on its way, or the packet was
  refused because there is too much.

## Theorems

* `Packet.staged_of_counted`, `Packet.refused_of_counted`: What the length in 32
  bits decides.
* `Packet.write_whole_iff`: For which data the packet does as it should.
* `Packet.write_cuts_excess`: Data for which it does not.
-/

namespace FusionMpt

namespace Packet

variable {σ : Type} {adapter : Adapter σ} {memory : σ → HostMemory} {s : σ} {region : Region}
  {cdb data : List UInt8}

/-- All of the data is in the data slot and in the lengths of the frame, or the
    packet was refused because there is too much of it. -/
def WholeOrRefused (data : List UInt8) (outcome : Except Halt (Except Error IoRequest × Packet))
    (m : HostMemory) : Prop :=
  (∃ request q, outcome = .ok (.ok request, q) ∧ request.dataLength.toNat = data.length ∧
    request.sg.length.toNat = data.length ∧
    data <+: m.segment Slot.data.offset Slot.data.size) ∨ TooSmall outcome

-- The length that the constructor counts.
theorem toNat_outLength_write (cdb data : List UInt8) :
    (Packet.write cdb data).outLength.toNat = data.length % UInt32.size :=
  UInt32.toNat_ofNat'

/-- A packet whose length fits in the end is staged, with the data up to that
    length. -/
theorem staged_of_counted (region : Region) (hshared : SharesMemory adapter memory)
    (hroom : Slot.total ≤ (memory s).size) (hcdb : cdb.length ≤ 16)
    (hfits : data.length % UInt32.size ≤ 8192) :
    ∃ events request s', ((Packet.write cdb data).stage region .zero 0).run adapter s =
        ⟨events, .ok (.ok request, Packet.write cdb data), s'⟩ ∧
      request.dataLength.toNat = data.length % UInt32.size ∧
      request.sg.length.toNat = data.length % UInt32.size ∧
      data.take (data.length % UInt32.size) <+:
        (memory s').segment Slot.data.offset Slot.data.size := by
  have hlength := toNat_outLength_write cdb data
  have hmet (r : Requirement) : r.Met (Packet.write cdb data) .zero 0 := by
    cases r with
    | direction => exact Direction.noConfusion
    | command => exact hcdb
    | target => exact Requirement.met_target_iff.mpr rfl
    | lun => rfl
    | capacity => exact ⟨Nat.zero_le _, by omega⟩
    | buffer =>
        refine ⟨fun hread => Direction.noConfusion hread, fun _ => ?_⟩
        rw [hlength]
        exact Nat.mod_le _ _
    | sense => exact Nat.le_refl _
  have hcheck := check_eq_ok_iff_met.mpr hmet
  have hpayload := length_payload_le ((check_eq_ok_iff _ _ _).mp hcheck).1
  rcases run_stage_laidOut region hshared hroom hcheck with
    ⟨events, s', hstage, hmemory⟩
  have hmoved : (IoRequest.ofPacket region .zero 0 (Packet.write cdb data)).dataLength.toNat =
      data.length % UInt32.size := by
    change (Packet.write cdb data).dataPhase.length.toNat = _
    rw [length_dataPhase]
    exact hlength
  refine ⟨events, _, s', hstage, hmoved, hmoved, ?_⟩
  rw [hmemory, segment_laidOut_data hroom hpayload _ hpayload, payload_of_write rfl, hlength]
  exact List.prefix_append _ _

/-- One whose length does not is refused, and nothing has been done. -/
theorem refused_of_counted (adapter : Adapter σ) (s : σ) (region : Region) (hcdb : cdb.length ≤ 16)
    (hlong : 8192 < data.length % UInt32.size) :
    ((Packet.write cdb data).stage region .zero 0).run adapter s =
      ⟨[], .ok (.error (.bufferTooSmall .write (UInt32.ofNat data.length) 8192),
        (Packet.write cdb data).clamped), s⟩ := by
  have hoverlong : (Packet.write cdb data).Overlong := by
    refine Or.inr ?_
    rw [toNat_outLength_write]
    exact hlong
  rw [stage_of_overlong Direction.noConfusion hcdb hoverlong]
  rfl

/-- A packet that was staged has all of its data only if 32 bits can count it. -/
theorem whole_of_staged_iff {request : IoRequest} {q : Packet} {m : HostMemory}
    (hmoved : request.dataLength.toNat = data.length % UInt32.size)
    (helement : request.sg.length.toNat = data.length % UInt32.size)
    (hstored : data.take (data.length % UInt32.size) <+: m.segment Slot.data.offset Slot.data.size) :
    WholeOrRefused data (.ok (.ok request, q)) m ↔ data.length < UInt32.size := by
  constructor
  · rintro (⟨request', q', hok, hwhole, -⟩ | ⟨_, _, _, _, hrefused⟩)
    · rw [Except.ok.injEq, Prod.mk.injEq, Except.ok.injEq] at hok
      rw [← hok.1, hmoved] at hwhole
      rw [← hwhole]
      exact Nat.mod_lt _ (by decide)
    · exact absurd hrefused (by simp only [Except.ok.injEq, Prod.mk.injEq, reduceCtorEq, false_and,
        not_false_eq_true])
  · intro hlt
    have hlength : data.length % UInt32.size = data.length := Nat.mod_eq_of_lt hlt
    rw [hlength] at hmoved helement hstored
    rw [List.take_length] at hstored
    exact Or.inl ⟨request, q, rfl, hmoved, helement, hstored⟩

/-- A packet made to write some data writes all of it or is refused exactly if
    32 bits can count the bytes, or what they count is still too much. It is
    what they count that decides: as much is staged if it fits, and if not the
    packet is refused. -/
theorem write_whole_iff (hshared : SharesMemory adapter memory)
    (hroom : Slot.total ≤ (memory s).size) (hcdb : cdb.length ≤ 16) (data : List UInt8)
    (region : Region) :
    ∃ events outcome s', ((Packet.write cdb data).stage region .zero 0).run adapter s =
        ⟨events, .ok outcome, s'⟩ ∧
      (WholeOrRefused data (.ok outcome) (memory s') ↔
        data.length < UInt32.size ∨ 8192 < data.length % UInt32.size) ∧
      (data.length % UInt32.size ≤ 8192 → ∃ request, outcome = (.ok request, Packet.write cdb data) ∧
        request.dataLength.toNat = data.length % UInt32.size ∧
        request.sg.length.toNat = data.length % UInt32.size ∧
        data.take (data.length % UInt32.size) <+:
          (memory s').segment Slot.data.offset Slot.data.size) ∧
      (8192 < data.length % UInt32.size → events = [] ∧ s' = s ∧
        outcome = (.error (.bufferTooSmall .write (UInt32.ofNat data.length) 8192),
          (Packet.write cdb data).clamped)) := by
  by_cases hfits : data.length % UInt32.size ≤ 8192
  · rcases staged_of_counted region hshared hroom hcdb hfits with
      ⟨events, request, s', hstage, hmoved, helement, hstored⟩
    refine ⟨events, _, s', hstage, ?_, fun _ => ⟨request, rfl, hmoved, helement, hstored⟩,
      fun hlong => absurd hlong (Nat.not_lt.mpr hfits)⟩
    rw [whole_of_staged_iff hmoved helement hstored]
    exact ⟨Or.inl, fun h => h.resolve_right (Nat.not_lt.mpr hfits)⟩
  · have hlong := Nat.lt_of_not_le hfits
    refine ⟨_, _, _, refused_of_counted adapter s region hcdb hlong, ?_,
      fun h => absurd h hfits, fun _ => ⟨rfl, rfl, rfl⟩⟩
    exact iff_of_true (Or.inr ⟨_, _, _, _, rfl⟩) (Or.inr hlong)

/-- The command that writes one block. -/
def writeBlock : List UInt8 :=
  [0x2a, 0, 0, 0, 0, 0, 0, 0, 1, 0]

theorem length_writeBlock : writeBlock.length ≤ 16 := by
  decide

/-- Four bytes are written as a whole. -/
theorem write_whole_four :
    ∃ events outcome d,
      ((Packet.write writeBlock [1, 2, 3, 4]).stage edge .zero 0).run
        (PatientDevice.adapter 0 [] []) (strewn 0xaa) = ⟨events, .ok outcome, d⟩ ∧
      WholeOrRefused [1, 2, 3, 4] (.ok outcome) d.memory := by
  rcases write_whole_iff (PatientDevice.sharesMemory 0 [] []) (total_le_strewn 0xaa)
      length_writeBlock [1, 2, 3, 4] edge with
    ⟨events, outcome, d, hrun, hwhole, -⟩
  exact ⟨events, outcome, d, hrun, hwhole.mpr (Or.inl (by decide))⟩

/-- Zeros, four more than 32 bits can count. -/
def excess : List UInt8 :=
  List.replicate 4294967300 0

theorem length_excess : excess.length = 4294967300 :=
  List.length_replicate

/-- The packet is staged with four of the zeros, and nothing says that there were
    more. -/
theorem write_cuts_excess :
    ∃ events request d,
      ((Packet.write writeBlock excess).stage edge .zero 0).run
        (PatientDevice.adapter 0 [] []) (strewn 0xaa) =
        ⟨events, .ok (.ok request, Packet.write writeBlock excess), d⟩ ∧
      request.dataLength.toNat = 4 ∧ request.sg.length.toNat = 4 ∧ 8192 < excess.length ∧
      ¬ WholeOrRefused excess (.ok (.ok request, Packet.write writeBlock excess)) d.memory := by
  have hcounted : excess.length % UInt32.size = 4 := by
    rw [length_excess]
    decide
  have hfits : excess.length % UInt32.size ≤ 8192 := by
    rw [hcounted]
    decide
  rcases staged_of_counted edge (PatientDevice.sharesMemory 0 [] []) (total_le_strewn 0xaa)
      length_writeBlock hfits with
    ⟨events, request, d, hstage, hmoved, helement, hstored⟩
  refine ⟨events, request, d, hstage, hmoved.trans hcounted, helement.trans hcounted, ?_, ?_⟩
  · rw [length_excess]
    decide
  · rw [whole_of_staged_iff hmoved helement hstored, length_excess]
    decide

end Packet

end FusionMpt
