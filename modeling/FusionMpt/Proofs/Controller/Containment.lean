import FusionMpt.Proofs.Controller.Delivery
import FusionMpt.Proofs.Frame.RoundTrip

/-!
# A Frame Points into Its Region

A device writes to memory where the frame tells it to, so a frame that points
elsewhere lets it overwrite what is not the engine's. The frame names three
stretches of memory: the data by a full address in the element, and the sense
buffer and the frame itself by lower halves, to which the adapter adds the
upper halves that it was given when it was brought up.

Three checks keep these stretches in their slots. The region is one that
shares one upper half and does not reach past the last address, so halves
join to the address they were taken from. Admission has bounded the lengths by
the slots. And a length of 24 bits is longer than the longest slot, so the
element's word holds the length and the flags apart.

The frame also has to agree with itself: its three ways of saying whether data
is moved, and which way, are all computed from the packet's data phase.

## Main definitions

* `Region.Holds`: A stretch of bus addresses inside a slot.
* `IoRequest.Contained`: A frame that points nowhere but into its region.
* `IoRequest.Consistent`: A frame that says one thing of the data.

## Theorems

* `IoRequest.contained_ofPacket`, `IoRequest.consistent_ofPacket`: The frame of
  an admitted packet.
* `Packet.staged_contained`: What staging puts into the request slot is such a
  frame.
-/

namespace FusionMpt

/-- The bus addresses from `start` on lie in the slot, and with it in the
    region's memory and below the last address there is. -/
structure Region.Holds (region : Region) (slot : Slot) (start len : Nat) : Prop where
  start_le : region.base.toNat + slot.offset ≤ start
  end_le : start + len ≤ region.base.toNat + slot.offset + slot.size
  end_le_size : start + len ≤ region.base.toNat + region.buffer.size
  end_le_last : start + len ≤ UInt64.size

/-- What starts with a slot and is no longer lies in it. -/
theorem Region.holds_slot (region : Region) (slot : Slot) {len : Nat} (h : len ≤ slot.size) :
    region.Holds slot (region.address slot).toNat len := by
  have htotal := region.total_le
  have hlast := region.last_lt
  have hend := slot.end_le_total
  have hsome : 0 < Slot.total := by decide
  have hbase : region.base.toNat = region.buffer.address.toNat := rfl
  have haddress := region.toNat_address slot
  constructor <;> omega

namespace IoRequest

/-- The frame points nowhere but into the region. -/
structure Contained (region : Region) (r : IoRequest) : Prop where
  holds_data : region.Holds .data r.sg.address.toNat r.sg.length.toNat
  /-- The upper half is the one that the adapter was brought up with. -/
  holds_sense : region.Holds .sense
    (joinHalves (BringUp.request region).senseHighAddress r.senseLowAddress).toNat
    r.senseLength.toNat
  holds_frame : region.Holds .request
    (joinHalves (BringUp.request region).frameHighAddress (region.lowAddress .request)).toNat
    r.encode.toList.length
  /-- No carry is lost between the halves. -/
  sense_eq : (joinHalves (BringUp.request region).senseHighAddress r.senseLowAddress).toNat =
    region.base.toNat + Slot.sense.offset
  frame_eq : (joinHalves (BringUp.request region).frameHighAddress
    (region.lowAddress .request)).toNat = region.base.toNat + Slot.request.offset

/-- What the frame says of the data agrees, with itself and with the packet. -/
structure Consistent (p : Packet) (r : IoRequest) : Prop where
  length_eq : r.sg.length = r.dataLength
  length_le : r.sg.length.toNat ≤ ScatterGather.lengthMask.toNat
  /-- The bytes of the frame spell it, with the length and the flags that share
      a word. -/
  decode_eq : IoRequest.decode r.encode = r
  moves_iff : r.control = .read ∨ r.control = .write ↔ 0 < r.dataLength
  holdsData_iff : r.sg.flags.contains ScatterFlags.bufferContainsData ↔ r.control = .write
  direction_of_read : r.control = .read → p.direction = .read
  direction_of_write : r.control = .write → p.direction = .write

end IoRequest

namespace Packet

variable {p : Packet}

theorem length_dataPhase_le (hadmitted : p.Admitted) :
    p.dataPhase.length.toNat ≤ Slot.data.size := by
  rcases p.dataPhase_cases with hphase | ⟨hphase, -⟩ | ⟨hphase, -⟩
  · rw [hphase]
    exact Nat.zero_le _
  · rw [hphase]
    exact hadmitted.inLength_le
  · rw [hphase]
    exact hadmitted.outLength_le

end Packet

theorem TransferControl.read_ne_write : read ≠ write := by
  decide

namespace DataPhase

-- Every flag of an element is one that its word has a bit for.
theorem truncate_scatterFlags (phase : DataPhase) :
    FlagSet.truncate phase.scatterFlags.bits = phase.scatterFlags := by
  have hsingle : FlagSet.truncate scatterFlags.single.bits = scatterFlags.single := by decide
  have hholding :
      FlagSet.truncate (scatterFlags.single.union ScatterFlags.bufferContainsData).bits =
        scatterFlags.single.union ScatterFlags.bufferContainsData := by decide
  cases phase with
  | none => exact hsingle
  | toHost _ => exact hsingle
  | toDevice _ => exact hholding

theorem contains_scatterFlags_iff (phase : DataPhase) :
    phase.scatterFlags.contains ScatterFlags.bufferContainsData ↔ phase.control = .write := by
  have hsingle : ¬ scatterFlags.single.contains ScatterFlags.bufferContainsData := by decide
  have hholding : (scatterFlags.single.union ScatterFlags.bufferContainsData).contains
      ScatterFlags.bufferContainsData := by decide
  cases phase with
  | none => exact iff_of_false hsingle (by decide)
  | toHost _ => exact iff_of_false hsingle TransferControl.read_ne_write
  | toDevice _ => exact iff_of_true hholding rfl

end DataPhase

namespace IoRequest

variable {p : Packet}

/-- The frame of an admitted packet points into its region. -/
theorem contained_ofPacket (hadmitted : p.Admitted) (region : Region) (target : Target)
    (lun : UInt64) : (ofPacket region target lun p).Contained region := by
  have hsense := joinHalves_slot region .sense
  have hframe := joinHalves_slot region .request
  -- both upper halves that the adapter was given are the region's
  have hhigh : (BringUp.request region).senseHighAddress = region.highAddress ∧
      (BringUp.request region).frameHighAddress = region.highAddress := ⟨rfl, rfl⟩
  have hlow : (ofPacket region target lun p).senseLowAddress = region.lowAddress .sense := rfl
  constructor
  case holds_data => exact region.holds_slot .data (p.length_dataPhase_le hadmitted)
  case holds_sense =>
    rw [hhigh.1, hlow, hsense]
    exact region.holds_slot .sense (Nat.le_of_lt_succ (UInt8.toNat_lt _))
  case holds_frame =>
    rw [hhigh.2, hframe, Vector.length_toList]
    exact region.holds_slot .request (by decide)
  case sense_eq => rw [hhigh.1, hlow, hsense, region.toNat_address]
  case frame_eq => rw [hhigh.2, hframe, region.toNat_address]

/-- The frame of an admitted packet says one thing of the data. -/
theorem consistent_ofPacket (hadmitted : p.Admitted) (region : Region) (target : Target)
    (lun : UInt64) : (ofPacket region target lun p).Consistent p := by
  have hlength : p.dataPhase.length.toNat ≤ ScatterGather.lengthMask.toNat :=
    Nat.le_trans (p.length_dataPhase_le hadmitted) (by decide)
  have hdecode : IoRequest.decode (ofPacket region target lun p).encode =
      ofPacket region target lun p := by
    rw [IoRequest.decode_encode]
    -- neither the length nor the flags reach into the other's bits
    rw [(ScatterGather.ofControl_control_eq_self_iff _).mpr
      ⟨hlength, p.dataPhase.truncate_scatterFlags⟩]
  -- The rest is about values that are each computed from the data phase.
  have hcontrol : (ofPacket region target lun p).control = p.dataPhase.control := rfl
  have hmoved : (ofPacket region target lun p).dataLength = p.dataPhase.length := rfl
  refine ⟨rfl, hlength, hdecode, ?_, p.dataPhase.contains_scatterFlags_iff, ?_, ?_⟩
  · rw [hcontrol, hmoved]
    rcases p.dataPhase_cases with hphase | ⟨hphase, -, hsome⟩ | ⟨hphase, -, hsome⟩
    · rw [hphase]
      decide
    · rw [hphase]
      exact iff_of_true (Or.inl rfl) (UInt32.pos_iff_ne_zero.mpr hsome)
    · rw [hphase]
      exact iff_of_true (Or.inr rfl) (UInt32.pos_iff_ne_zero.mpr hsome)
  · intro hread
    rw [hcontrol] at hread
    rcases p.dataPhase_cases with hphase | ⟨-, hdirection, -⟩ | ⟨hphase, -, -⟩
    · rw [hphase] at hread
      exact absurd hread (by decide)
    · exact hdirection
    · rw [hphase] at hread
      exact absurd hread TransferControl.read_ne_write.symm
  · intro hwrite
    rw [hcontrol] at hwrite
    rcases p.dataPhase_cases with hphase | ⟨hphase, -, -⟩ | ⟨-, hdirection, -⟩
    · rw [hphase] at hwrite
      exact absurd hwrite (by decide)
    · rw [hphase] at hwrite
      exact absurd hwrite TransferControl.read_ne_write
    · exact hdirection

end IoRequest

namespace Packet

variable {p : Packet} {region : Region} {target : Target} {lun : UInt64}

/-- What staging has put into the request slot is a frame that points into the
    region and agrees with itself, for every region, packet and adapter. -/
theorem staged_contained {σ : Type} (adapter : Adapter σ) (s : σ) {frame : IoRequest} {q : Packet}
    (hstaged : ((p.stage region target lun).run adapter s).outcome = .ok (.ok frame, q)) :
    (∃ front, ((p.stage region target lun).run adapter s).trace =
      front ++ [⟨.writeMemory Slot.request.offset frame.encode.toList, .ok ()⟩]) ∧
    frame.Contained region ∧ frame.Consistent p := by
  have hpath := Program.path_run adapter (p.stage region target lun) s
  rw [hstaged] at hpath
  generalize ((p.stage region target lun).run adapter s).trace = events at hpath ⊢
  cases hcheck : p.check target lun with
  | error refusal =>
      unfold stage at hpath
      rw [hcheck] at hpath
      exact absurd hpath.2 (by simp only [Except.ok.injEq, Prod.mk.injEq, reduceCtorEq, false_and,
        not_false_eq_true])
  | ok _ =>
      have hadmitted := ((p.check_eq_ok_iff target lun).mp hcheck).1
      rcases Controller.path_stage hcheck hpath with ⟨placed, hplace, houtcome⟩
      cases placed with
      | error cause => cases houtcome
      | ok _ =>
          have hframe : frame = IoRequest.ofPacket region target lun p :=
            Except.ok.inj (Prod.mk.inj (Except.ok.inj houtcome)).1
          rw [hframe]
          refine ⟨?_, IoRequest.contained_ofPacket hadmitted region target lun,
            IoRequest.consistent_ofPacket hadmitted region target lun⟩
          -- the last write of placing is that of the frame
          unfold placeAccesses at hplace
          rw [List.append_cons] at hplace
          rcases hplace.snoc with ⟨front, answer, rfl, -, hok⟩
          cases answer with
          | ok _ => exact ⟨front, rfl⟩
          | error cause => exact absurd hok (Option.some_ne_none cause)

/-- A region whose last byte is the last one below a boundary of 4 GiB. -/
def edge : Region where
  buffer := ⟨0x4ffffdea1, Slot.total⟩
  total_le := Nat.le_refl _
  last_lt := by decide
  high_eq := by decide

/-- A packet that writes four bytes and has room for sense data. -/
def sampleWrite : Packet :=
  (Packet.write [0x2a, 0, 0, 0, 0, 0, 0, 0, 1, 0] [1, 2, 3, 4]).withSense 18

/-- At the boundary the halves still join to the addresses they come from. -/
theorem staged_contained_at_edge :
    ∃ frame,
      ((sampleWrite.stage edge .zero 0).run (Controller.steady (fun _ => 0) true) ()).outcome =
        .ok (.ok frame, sampleWrite) ∧
      frame.Contained edge ∧ frame.Consistent sampleWrite ∧ frame.sg.length = 4 := by
  have hstaged :
      ((sampleWrite.stage edge .zero 0).run (Controller.steady (fun _ => 0) true) ()).outcome =
        .ok (.ok (IoRequest.ofPacket edge .zero 0 sampleWrite), sampleWrite) := rfl
  have hcontained := staged_contained (Controller.steady (fun _ => 0) true) () hstaged
  exact ⟨_, hstaged, hcontained.2.1, hcontained.2.2, rfl⟩

end Packet

end FusionMpt
