import FusionMpt.Proofs.Controller.Delivery
import FusionMpt.Proofs.Transfer.Requirement

/-!
# A Packet Cut to Fit

A packet has two lengths, and only that of its own direction says how much it
moves. Both have to fit the data slot all the same. When one does not, both are
cut, the complaint names the one that was too large, or the one in if both
were, and the caller may issue the packet again as it is left.

Cutting serves its purpose: the capacity is the one requirement that fails, and
of a packet that was cut it does not fail again. Nor does another fail for it.
A buffer that was long enough for the length is long enough for what is left of
it, and there is no sense length any more.

## Main definitions

* `Packet.Overlong`: A length exceeds the data slot.
* `Packet.TooSmall`: Staging has complained that it does.

## Theorems

* `Packet.stage_of_overlong`: What such a packet is answered and comes to.
* `Packet.not_tooSmall_of_fit`: Lengths that fit are not complained about.
* `Packet.met_clamped`: A packet that was cut meets the requirements.
* `Packet.cut_and_reissued`: Exactly the packets with such a length are cut, and
  then they can be issued.
-/

namespace FusionMpt

namespace Packet

variable {σ : Type} {adapter : Adapter σ} {s : σ} {region : Region} {p : Packet} {target : Target}
  {lun : UInt64}

/-- A length of the packet exceeds the data slot, be it that of its direction or
    not. -/
def Overlong (p : Packet) : Prop :=
  8192 < p.inLength.toNat ∨ 8192 < p.outLength.toNat

/-- Staging has ended with the complaint that the data slot is too small. -/
def TooSmall (outcome : Except Halt (Except Error IoRequest × Packet)) : Prop :=
  ∃ direction requested limit q,
    outcome = .ok (.error (.bufferTooSmall direction requested limit), q)

theorem not_met_capacity_iff : ¬ Requirement.capacity.Met p target lun ↔ p.Overlong := by
  unfold Requirement.Met Overlong
  omega

/-! ## Cutting -/

-- Lengths are cut as words, and compared as numbers.
theorem toNat_min_capacity (length : UInt32) : (min length capacity).toNat = min length.toNat 8192 := by
  rw [← capacity_toNat]
  by_cases h : length ≤ capacity
  · have hmin : min length capacity = length := if_pos h
    rw [hmin, Nat.min_eq_left (UInt32.le_iff_toNat_le.mp h)]
  · have hmin : min length capacity = capacity := if_neg h
    rw [hmin, Nat.min_eq_right (Nat.le_of_not_le (mt UInt32.le_iff_toNat_le.mpr h))]

theorem toNat_inLength_clamped (p : Packet) :
    p.clamped.inLength.toNat = min p.inLength.toNat 8192 :=
  toNat_min_capacity _

theorem toNat_outLength_clamped (p : Packet) :
    p.clamped.outLength.toNat = min p.outLength.toNat 8192 :=
  toNat_min_capacity _

theorem toNat_transferLength_clamped (p : Packet) :
    p.clamped.transferLength.toNat = min p.transferLength.toNat 8192 := by
  have hdirection : p.clamped.direction = p.direction := rfl
  unfold transferLength
  rw [hdirection]
  cases p.direction with
  | read => exact p.toNat_inLength_clamped
  | write => exact p.toNat_outLength_clamped
  | none | bidirectional => rfl

theorem not_overlong_clamped (p : Packet) : ¬ p.clamped.Overlong := by
  have hinLength := p.toNat_inLength_clamped
  have houtLength := p.toNat_outLength_clamped
  unfold Overlong
  omega

/-- A packet that was cut meets every requirement, if only its buffer was as long
    as its length said. -/
theorem met_clamped (hdirection : p.direction ≠ .bidirectional) (hcdb : p.cdb.length ≤ 16)
    (hin : p.direction = .read → p.inLength.toNat ≤ p.inData.length)
    (hout : p.direction = .write → p.outLength.toNat ≤ p.outData.length) (r : Requirement) :
    r.Met p.clamped .zero 0 := by
  cases r with
  | direction => exact hdirection
  | command => exact hcdb
  | target => exact Requirement.met_target_iff.mpr rfl
  | lun => rfl
  | capacity => exact Decidable.not_not.mp (mt not_met_capacity_iff.mp p.not_overlong_clamped)
  | buffer =>
      refine ⟨fun hread => ?_, fun hwrite => ?_⟩
      · rw [toNat_inLength_clamped]
        exact Nat.le_trans (Nat.min_le_left _ _) (hin hread)
      · rw [toNat_outLength_clamped]
        exact Nat.le_trans (Nat.min_le_left _ _) (hout hwrite)
  | sense => exact Nat.zero_le _

/-! ## Staging -/

/-- Whatever else is wrong, lengths that fit the data slot are not complained
    about. -/
theorem not_tooSmall_of_fit (adapter : Adapter σ) (s : σ) (region : Region) (target : Target)
    (lun : UInt64) (h : ¬ p.Overlong) :
    ¬ TooSmall ((p.stage region target lun).run adapter s).outcome := by
  rintro ⟨direction, requested, limit, q, houtcome⟩
  rcases p.check_cases target lun with ⟨-, hcheck⟩ | ⟨-, r, -, -, -, hr, hcheck⟩
  · -- what can still fail is an access
    have hpath := Program.path_run adapter (p.stage region target lun) s
    rw [houtcome] at hpath
    rcases Controller.path_stage hcheck hpath with ⟨placed, -, hplaced⟩
    cases placed with
    | ok _ => cases hplaced
    | error cause => cases hplaced
  · unfold stage at houtcome
    rw [hcheck] at houtcome
    have hrefusal : r.refusal p = .bufferTooSmall direction requested limit :=
      Except.error.inj (Prod.mk.inj (Except.ok.inj houtcome)).1
    rw [Requirement.eq_capacity_of_refusal hrefusal] at hr
    exact h (not_met_capacity_iff.mp hr)

theorem stage_of_overlong (hdirection : p.direction ≠ .bidirectional) (hcdb : p.cdb.length ≤ 16)
    (h : p.Overlong) :
    p.stage region .zero 0 = .done (.error (Requirement.capacity.refusal p), p.clamped) := by
  have hbefore : ∀ earlier ∈ [Requirement.direction, .command, .target, .lun],
      earlier.Met p .zero 0 := by
    simp only [List.forall_mem_cons]
    exact ⟨hdirection, hcdb, Requirement.met_target_iff.mpr rfl, rfl, fun _ => nofun⟩
  have hcheck := check_eq_error_of_first rfl hbefore (not_met_capacity_iff.mpr h)
  unfold stage
  rw [hcheck]
  change Program.done (_, p.refused (Requirement.capacity.refusal p)) = _
  rw [p.refused_refusal, if_pos rfl]

theorem tooSmall_refusal (p : Packet) :
    TooSmall (.ok (.error (Requirement.capacity.refusal p), p.clamped)) := by
  unfold Requirement.refusal
  by_cases hin : 8192 < p.inLength.toNat
  · exact ⟨.read, p.inLength, 8192, p.clamped, by rw [if_pos hin]⟩
  · exact ⟨.write, p.outLength, 8192, p.clamped, by rw [if_neg hin]⟩

/-- A packet is refused for its lengths exactly when one of them exceeds the data
    slot. Both are cut then, and nothing is asked of the adapter. The packet as
    it is left is not refused for its lengths again, and if its buffer was long
    enough it is staged, and moves what fits of what it was to move. -/
theorem cut_and_reissued (adapter : Adapter σ) (s : σ) (region : Region)
    (hdirection : p.direction ≠ .bidirectional) (hcdb : p.cdb.length ≤ 16) :
    (TooSmall ((p.stage region .zero 0).run adapter s).outcome ↔ p.Overlong) ∧
    (p.Overlong → ∃ q,
      (p.stage region .zero 0).run adapter s =
        ⟨[], .ok (.error (if 8192 < p.inLength.toNat then .bufferTooSmall .read p.inLength 8192
          else .bufferTooSmall .write p.outLength 8192), q), s⟩ ∧
      q = { p with
        inLength := min p.inLength 8192
        outLength := min p.outLength 8192
        senseLength := 0
        hostStatus := .dataOverrunUnderrun
        targetStatus := .good } ∧
      (∀ {τ : Type} (again : Adapter τ) (t : τ) (region' : Region) (target : Target)
        (lun : UInt64), ¬ TooSmall ((q.stage region' target lun).run again t).outcome) ∧
      ((p.direction = .read → p.inLength.toNat ≤ p.inData.length) →
        (p.direction = .write → p.outLength.toNat ≤ p.outData.length) →
        (∀ r : Requirement, r.Met q .zero 0) ∧
        ∀ {τ : Type} {again : Adapter τ} {memory : τ → HostMemory} {t : τ} (region' : Region),
          SharesMemory again memory → Slot.total ≤ (memory t).size →
          ∃ request events t', (q.stage region' .zero 0).run again t =
              ⟨events, .ok (.ok request, q), t'⟩ ∧
            request.sg.length.toNat = min p.transferLength.toNat 8192)) := by
  have hrefused (h : p.Overlong) : (p.stage region .zero 0).run adapter s =
      ⟨[], .ok (.error (Requirement.capacity.refusal p), p.clamped), s⟩ := by
    rw [stage_of_overlong hdirection hcdb h]
    rfl
  refine ⟨⟨fun hsmall => ?_, fun h => ?_⟩, fun h => ⟨p.clamped, hrefused h, rfl, ?_, ?_⟩⟩
  · exact Classical.not_not.mp fun hfit =>
      not_tooSmall_of_fit adapter s region .zero 0 hfit hsmall
  · rw [hrefused h]
    exact p.tooSmall_refusal
  · intro τ again t region' target lun
    exact not_tooSmall_of_fit again t region' target lun p.not_overlong_clamped
  · intro hin hout
    have hmet := met_clamped hdirection hcdb hin hout
    refine ⟨hmet, fun region' hshared hroom => ?_⟩
    rcases run_stage_laidOut region' hshared hroom (check_eq_ok_iff_met.mpr hmet) with
      ⟨events, t', hstage, -⟩
    refine ⟨_, events, t', hstage, ?_⟩
    change p.clamped.dataPhase.length.toNat = _
    rw [length_dataPhase, toNat_transferLength_clamped]

/-- A packet that reads, with a length out that makes no sense. -/
def crossed : Packet :=
  { Packet.read [0x28, 0, 0, 0, 0, 0, 0, 0, 1, 0] 16 with outLength := 9000 }

/-- It is refused for that length, and reads what it was to read when it is
    issued again. -/
theorem cut_and_reissued_crossed :
    ∃ q request events d,
      (crossed.stage Controller.sample.region .zero 0).run (Controller.steady (fun _ => 0) true) () =
        ⟨[], .ok (.error (.bufferTooSmall .write 9000 8192), q), ()⟩ ∧
      (q.stage Controller.sample.region .zero 0).run (PatientDevice.adapter 0 [] []) .idle =
        ⟨events, .ok (.ok request, q), d⟩ ∧
      request.sg.length.toNat = 16 := by
  have hlong : crossed.Overlong := Or.inr (by decide)
  rcases (cut_and_reissued (Controller.steady (fun _ => 0) true) () Controller.sample.region
      (p := crossed) (by decide) (by decide)).2 hlong with ⟨q, hrefused, -, -, hpasses⟩
  rcases (hpasses (by decide) (by decide)).2 Controller.sample.region
      (t := .idle) (PatientDevice.sharesMemory 0 [] []) (Nat.le_of_eq List.length_replicate.symm) with
    ⟨request, events, d, hstage, hlength⟩
  exact ⟨q, request, events, d, hrefused, hstage, hlength⟩

end Packet

end FusionMpt
