import FusionMpt.Proofs.Transfer.Admission

/-!
# What Is Required of a Packet

Admission as its users know it: a list of requirements, and the first that is
not met is the reason for which a packet is refused. The requirements are
stated here as numbers and bytes, apart from how admission goes about checking
them, and `Packet.check_eq_forM` says that checking is going through the list.

Each requirement has its complaint. That about the capacity names the direction
whose length is too large, and of two such lengths the one in; it is the only
one upon which the packet is changed.

## Main definitions

* `Requirement`: The requirements, and `Requirement.all`, their order.
* `Requirement.Met`: A packet and an address meet a requirement.
* `Requirement.refusal`: The complaint about a packet that does not.
* `Requirement.require`: Refuse a packet that does not.

## Theorems

* `Requirement.forM_require_of_met`, `Requirement.forM_require_of_first`: Going
  through a list of requirements ends well or stops at the first that is not met.
* `Packet.check_eq_forM`: Admission goes through the requirements in order.
* `Packet.check_cases`: It lets a packet through that meets them all, and
  complains about the first that is not met.
* `Packet.check_eq_ok_iff_met`, `Packet.check_eq_error_of_first`: The same of a
  packet of which it is known which.
* `Packet.refused_refusal`: What a refusal makes of the packet.
-/

namespace FusionMpt

/-- What is required of a packet and the address it is sent to. -/
inductive Requirement where
  | direction
  | command
  | target
  | lun
  /-- The lengths fit the data slot. -/
  | capacity
  /-- The length of the packet's own direction fits the caller's buffer. -/
  | buffer
  | sense
deriving DecidableEq, Repr

namespace Requirement

/-- Every requirement, in order. -/
def all : List Requirement :=
  [direction, command, target, lun, capacity, buffer, sense]

theorem mem_all (r : Requirement) : r ∈ all := by
  cases r <;> decide

variable (p : Packet) (target : Target) (lun : UInt64)

/-- The packet and the address meet the requirement. -/
def Met (r : Requirement) : Prop :=
  match r with
  | .direction => p.direction ≠ .bidirectional
  | .command => p.cdb.length ≤ 16
  | .target => ∀ byte ∈ target.bytes.toList, byte = 0
  | .lun => lun = 0
  | .capacity => p.inLength.toNat ≤ 8192 ∧ p.outLength.toNat ≤ 8192
  | .buffer =>
    (p.direction = .read → p.inLength.toNat ≤ p.inData.length) ∧
      (p.direction = .write → p.outLength.toNat ≤ p.outData.length)
  | .sense => p.senseLength.toNat ≤ p.senseData.length

instance (r : Requirement) : Decidable (r.Met p target lun) :=
  match r with
  | .direction => inferInstanceAs (Decidable (_ ≠ _))
  | .command => inferInstanceAs (Decidable (_ ≤ _))
  | .target => inferInstanceAs (Decidable (∀ byte ∈ target.bytes.toList, byte = 0))
  | .lun => inferInstanceAs (Decidable (_ = _))
  | .capacity => inferInstanceAs (Decidable (_ ∧ _))
  | .buffer => inferInstanceAs (Decidable (_ ∧ _))
  | .sense => inferInstanceAs (Decidable (_ ≤ _))

/-- The complaint about a packet that does not meet the requirement. -/
def refusal (r : Requirement) : Error :=
  match r with
  | .direction => .unsupported .bidirectionalTransfer
  | .command => .unsupported .longCommand
  | .target => .invalidParameter .target
  | .lun => .invalidParameter .lun
  | .capacity =>
    if 8192 < p.inLength.toNat then .bufferTooSmall .read p.inLength 8192
    else .bufferTooSmall .write p.outLength 8192
  | .buffer =>
    if p.direction = .read then .invalidParameter .inLength else .invalidParameter .outLength
  | .sense => .invalidParameter .senseLength

/-- Refuse a packet that does not meet the requirement. -/
def require (r : Requirement) : Except Error Unit :=
  if r.Met p target lun then .ok () else .error (r.refusal p)

variable {p target lun}

theorem require_of_met {r : Requirement} (h : r.Met p target lun) :
    r.require p target lun = .ok () :=
  if_pos h

theorem require_of_not_met {r : Requirement} (h : ¬ r.Met p target lun) :
    r.require p target lun = .error (r.refusal p) :=
  if_neg h

-- The target of zeros is the one whose bytes are all zero.
theorem met_target_iff : Requirement.target.Met p target lun ↔ target = .zero := by
  constructor
  · intro h
    rcases target with ⟨bytes⟩
    have hbytes : bytes = Vector.replicate 16 0 := by
      refine Vector.ext (fun i hi => ?_)
      rw [Vector.getElem_replicate]
      exact h _ (Vector.mem_toList_iff.mpr (Vector.getElem_mem hi))
    rw [hbytes]
    rfl
  · intro h byte hmem
    rw [h] at hmem
    change byte ∈ (Vector.replicate 16 0).toList at hmem
    rw [Vector.toList_replicate] at hmem
    exact List.eq_of_mem_replicate hmem

/-- Going through a list of requirements ends well when all are met. -/
theorem forM_require_of_met {rs : List Requirement} (h : ∀ r ∈ rs, r.Met p target lun) :
    rs.forM (fun r => r.require p target lun) = .ok () := by
  induction rs with
  | nil => rfl
  | cons r rs ih =>
      rcases List.forall_mem_cons.mp h with ⟨hr, hrest⟩
      rw [List.forM, require_of_met hr]
      exact ih hrest

/-- It stops at the first that is not met, and what comes behind is not looked
    at. -/
theorem forM_require_of_first {before after : List Requirement} {r : Requirement}
    (hbefore : ∀ earlier ∈ before, earlier.Met p target lun) (hr : ¬ r.Met p target lun) :
    (before ++ r :: after).forM (fun r => r.require p target lun) = .error (r.refusal p) := by
  induction before with
  | nil =>
      rw [List.nil_append, List.forM, require_of_not_met hr]
      rfl
  | cons first rest ih =>
      rcases List.forall_mem_cons.mp hbefore with ⟨hfirst, hrest⟩
      rw [List.cons_append, List.forM, require_of_met hfirst]
      exact ih hrest

-- Either all of a list are met, or there is a first that is not.
theorem exists_first_not_met (p : Packet) (target : Target) (lun : UInt64)
    (rs : List Requirement) :
    (∀ r ∈ rs, r.Met p target lun) ∨
    ∃ before r after, rs = before ++ r :: after ∧
      (∀ earlier ∈ before, earlier.Met p target lun) ∧ ¬ r.Met p target lun := by
  induction rs with
  | nil => exact Or.inl fun r hmem => absurd hmem List.not_mem_nil
  | cons r rs ih =>
      by_cases hmet : r.Met p target lun
      · rcases ih with hall | ⟨before, first, after, rfl, hbefore, hfirst⟩
        · exact Or.inl (List.forall_mem_cons.mpr ⟨hmet, hall⟩)
        · exact Or.inr ⟨r :: before, first, after, rfl, List.forall_mem_cons.mpr ⟨hmet, hbefore⟩,
            hfirst⟩
      · exact Or.inr ⟨[], r, rs, rfl, fun earlier hmem => absurd hmem List.not_mem_nil, hmet⟩

/-- No complaint but that about the capacity says that there is too little of
    it. -/
theorem eq_capacity_of_refusal {r : Requirement} {direction : Direction} {requested limit : UInt32}
    (h : r.refusal p = .bufferTooSmall direction requested limit) : r = .capacity := by
  cases r with
  | capacity => rfl
  | buffer =>
      change (if p.direction = .read then _ else _) = _ at h
      by_cases hread : p.direction = .read
      · rw [if_pos hread] at h
        exact Error.noConfusion h
      · rw [if_neg hread] at h
        exact Error.noConfusion h
  | direction | command | target | lun | sense => exact Error.noConfusion h

end Requirement

namespace Packet

open Requirement (require_of_met require_of_not_met met_target_iff refusal)

variable (p : Packet) (target : Target) (lun : UInt64)

theorem checkCommand_eq : p.checkCommand =
    (do Requirement.direction.require p target lun; Requirement.command.require p target lun) := by
  unfold checkCommand maxCommand
  by_cases hdirection : p.direction = .bidirectional
  · rw [if_pos hdirection, require_of_not_met (r := .direction) fun h => h hdirection]
    rfl
  · rw [if_neg hdirection, require_of_met (r := .direction) hdirection]
    by_cases hlength : 16 < p.cdb.length
    · rw [if_pos hlength]
      exact (require_of_not_met (r := .command) (Nat.not_le.mpr hlength)).symm
    · rw [if_neg hlength]
      exact (require_of_met (r := .command) (Nat.le_of_not_lt hlength)).symm

theorem checkAddress_eq : checkAddress target lun =
    (do Requirement.target.require p target lun; Requirement.lun.require p target lun) := by
  unfold checkAddress
  by_cases htarget : target = .zero
  · rw [if_neg (not_not_intro htarget), require_of_met (met_target_iff.mpr htarget)]
    by_cases hlun : lun = 0
    · rw [if_neg (not_not_intro hlun)]
      exact (require_of_met (r := .lun) hlun).symm
    · rw [if_pos hlun]
      exact (require_of_not_met (r := .lun) hlun).symm
  · rw [if_pos htarget, require_of_not_met (mt met_target_iff.mp htarget)]
    rfl

theorem checkCapacity_eq : p.checkCapacity = Requirement.capacity.require p target lun := by
  have hcapacity : capacity = 8192 := rfl
  unfold checkCapacity
  by_cases hin : 8192 < p.inLength.toNat
  · rw [require_of_not_met (r := .capacity) (fun h => absurd h.1 (by omega))]
    unfold refusal
    rw [if_pos hin, hcapacity]
    exact if_pos hin
  · rw [if_neg (show ¬ capacity < p.inLength from hin)]
    by_cases hout : 8192 < p.outLength.toNat
    · rw [require_of_not_met (r := .capacity) (fun h => absurd h.2 (by omega))]
      unfold refusal
      rw [if_neg hin, hcapacity]
      exact if_pos hout
    · rw [require_of_met (r := .capacity) ⟨by omega, by omega⟩]
      exact if_neg hout

theorem checkBuffers_eq : p.checkBuffers =
    (do Requirement.buffer.require p target lun; Requirement.sense.require p target lun) := by
  unfold checkBuffers
  by_cases hin : p.direction = .read ∧ p.inData.length < p.inLength.toNat
  · rw [if_pos hin, require_of_not_met (r := .buffer) (fun h => absurd (h.1 hin.1) (by omega))]
    unfold refusal
    rw [if_pos hin.1]
    rfl
  · rw [if_neg hin]
    by_cases hout : p.direction = .write ∧ p.outData.length < p.outLength.toNat
    · have hread : p.direction ≠ .read := by
        rw [hout.1]
        decide
      rw [if_pos hout, require_of_not_met (r := .buffer) (fun h => absurd (h.2 hout.1) (by omega))]
      unfold refusal
      rw [if_neg hread]
      rfl
    · have hbuffer : Requirement.buffer.Met p target lun :=
        ⟨fun h => Nat.le_of_not_lt fun hlt => hin ⟨h, hlt⟩,
          fun h => Nat.le_of_not_lt fun hlt => hout ⟨h, hlt⟩⟩
      rw [if_neg hout, require_of_met hbuffer]
      by_cases hsense : p.senseData.length < p.senseLength.toNat
      · rw [if_pos hsense]
        exact (require_of_not_met (r := .sense) (Nat.not_le.mpr hsense)).symm
      · rw [if_neg hsense]
        exact (require_of_met (r := .sense) (Nat.le_of_not_lt hsense)).symm

/-- Admission goes through the requirements in order. -/
theorem check_eq_forM :
    p.check target lun = Requirement.all.forM (fun r => r.require p target lun) := by
  unfold check
  rw [p.checkCommand_eq target lun, checkAddress_eq p target lun, p.checkCapacity_eq target lun,
    p.checkBuffers_eq target lun]
  change _ = List.forM [_, _, _, _, _, _, _] _
  simp only [bind_assoc, List.forM, bind_pure_unit]

/-- A packet that meets every requirement is let through; any other is refused
    for the first that it does not meet. -/
theorem check_cases :
    (∀ r : Requirement, r.Met p target lun) ∧ p.check target lun = .ok () ∨
    ∃ before r after, Requirement.all = before ++ r :: after ∧
      (∀ earlier ∈ before, earlier.Met p target lun) ∧ ¬ r.Met p target lun ∧
      p.check target lun = .error (r.refusal p) := by
  rw [p.check_eq_forM target lun]
  rcases Requirement.exists_first_not_met p target lun Requirement.all with
    hall | ⟨before, r, after, hsplit, hbefore, hr⟩
  · exact Or.inl ⟨fun r => hall r r.mem_all, Requirement.forM_require_of_met hall⟩
  · refine Or.inr ⟨before, r, after, hsplit, hbefore, hr, ?_⟩
    rw [hsplit]
    exact Requirement.forM_require_of_first hbefore hr

variable {p target lun} in
theorem check_eq_error_of_first {before after : List Requirement} {r : Requirement}
    (hall : Requirement.all = before ++ r :: after)
    (hbefore : ∀ earlier ∈ before, earlier.Met p target lun) (hr : ¬ r.Met p target lun) :
    p.check target lun = .error (r.refusal p) := by
  rw [p.check_eq_forM target lun, hall]
  exact Requirement.forM_require_of_first hbefore hr

variable {p target lun} in
theorem check_eq_ok_iff_met :
    p.check target lun = .ok () ↔ ∀ r : Requirement, r.Met p target lun := by
  rcases p.check_cases target lun with ⟨hall, hok⟩ | ⟨-, r, -, -, -, hr, herror⟩
  · exact iff_of_true hok hall
  · rw [herror]
    exact iff_of_false (error_ne_ok _) fun h => hr (h r)

/-- Only a complaint about the capacity changes the packet. -/
theorem refused_refusal (r : Requirement) :
    p.refused (r.refusal p) = if r = .capacity then p.clamped else p := by
  cases r with
  | capacity =>
      change p.refused (if 8192 < p.inLength.toNat then _ else _) = p.clamped
      by_cases hin : 8192 < p.inLength.toNat
      · rw [if_pos hin]
        rfl
      · rw [if_neg hin]
        rfl
  | buffer =>
      change p.refused (if p.direction = .read then _ else _) = p
      by_cases hread : p.direction = .read
      · rw [if_pos hread]
        rfl
      · rw [if_neg hread]
        rfl
  | _ => rfl

end Packet

end FusionMpt
