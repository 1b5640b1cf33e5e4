import FusionMpt.Transfer.Admission

/-!
# What Admission Promises

Admission looks at a packet in a fixed order and stops at the first complaint.
Whoever comes after it does not care about the order: the packet is through,
so every single condition holds. `Packet.Admitted` collects them as numbers,
which is the form in which lengths are compared with the slots and buffers they
have to fit.

## Main definitions

* `Packet.Admitted`: The conditions on an admitted packet.

## Theorems

* `Packet.check_eq_ok_iff`: Admission lets exactly these packets through, to
  the one address there is.
-/

namespace FusionMpt

theorem error_ne_ok (failure : Error) : (.error failure : Except Error Unit) ≠ .ok () := by
  simp only [ne_eq, reduceCtorEq, not_false_eq_true]

namespace Packet

/-- The packet is one that admission has no complaint about. -/
structure Admitted (p : Packet) : Prop where
  direction_ne : p.direction ≠ .bidirectional
  cdb_le : p.cdb.length ≤ 16
  inLength_le : p.inLength.toNat ≤ 8192
  outLength_le : p.outLength.toNat ≤ 8192
  inData_fits : p.direction = .read → p.inLength.toNat ≤ p.inData.length
  outData_fits : p.direction = .write → p.outLength.toNat ≤ p.outData.length
  sense_fits : p.senseLength.toNat ≤ p.senseData.length

theorem checkCommand_eq_ok_iff (p : Packet) :
    p.checkCommand = .ok () ↔ p.direction ≠ .bidirectional ∧ p.cdb.length ≤ 16 := by
  unfold checkCommand maxCommand
  by_cases hdirection : p.direction = .bidirectional
  · rw [if_pos hdirection]
    exact ⟨fun h => absurd h (error_ne_ok _),
      fun h => absurd hdirection h.1⟩
  · rw [if_neg hdirection]
    by_cases hlength : 16 < p.cdb.length
    · rw [if_pos hlength]
      exact ⟨fun h => absurd h (error_ne_ok _),
        fun h => absurd h.2 (by omega)⟩
    · rw [if_neg hlength]
      exact ⟨fun _ => ⟨hdirection, by omega⟩, fun _ => rfl⟩

theorem capacity_toNat : capacity.toNat = 8192 := by
  decide

theorem checkCapacity_eq_ok_iff (p : Packet) :
    p.checkCapacity = .ok () ↔ p.inLength.toNat ≤ 8192 ∧ p.outLength.toNat ≤ 8192 := by
  unfold checkCapacity
  by_cases hin : capacity < p.inLength
  · rw [if_pos hin]
    -- lengths are compared as words, and used as numbers
    rw [UInt32.lt_iff_toNat_lt, capacity_toNat] at hin
    exact ⟨fun h => absurd h (error_ne_ok _),
      fun h => absurd h.1 (by omega)⟩
  · rw [if_neg hin]
    rw [UInt32.lt_iff_toNat_lt, capacity_toNat] at hin
    by_cases hout : capacity < p.outLength
    · rw [if_pos hout]
      rw [UInt32.lt_iff_toNat_lt, capacity_toNat] at hout
      exact ⟨fun h => absurd h (error_ne_ok _),
        fun h => absurd h.2 (by omega)⟩
    · rw [if_neg hout]
      rw [UInt32.lt_iff_toNat_lt, capacity_toNat] at hout
      exact ⟨fun _ => ⟨by omega, by omega⟩, fun _ => rfl⟩

theorem checkBuffers_eq_ok_iff (p : Packet) :
    p.checkBuffers = .ok () ↔
      (p.direction = .read → p.inLength.toNat ≤ p.inData.length) ∧
        (p.direction = .write → p.outLength.toNat ≤ p.outData.length) ∧
        p.senseLength.toNat ≤ p.senseData.length := by
  unfold checkBuffers
  by_cases hin : p.direction = .read ∧ p.inData.length < p.inLength.toNat
  · rw [if_pos hin]
    exact ⟨fun h => absurd h (error_ne_ok _),
      fun h => absurd (h.1 hin.1) (by omega)⟩
  · rw [if_neg hin]
    by_cases hout : p.direction = .write ∧ p.outData.length < p.outLength.toNat
    · rw [if_pos hout]
      exact ⟨fun h => absurd h (error_ne_ok _),
        fun h => absurd (h.2.1 hout.1) (by omega)⟩
    · rw [if_neg hout]
      by_cases hsense : p.senseData.length < p.senseLength.toNat
      · rw [if_pos hsense]
        exact ⟨fun h => absurd h (error_ne_ok _),
          fun h => absurd h.2.2 (by omega)⟩
      · rw [if_neg hsense]
        refine ⟨fun _ => ⟨fun h => ?_, fun h => ?_, by omega⟩, fun _ => rfl⟩
        · exact Nat.le_of_not_lt fun hlt => hin ⟨h, hlt⟩
        · exact Nat.le_of_not_lt fun hlt => hout ⟨h, hlt⟩

theorem checkAddress_eq_ok_iff (target : Target) (lun : UInt64) :
    checkAddress target lun = .ok () ↔ target = .zero ∧ lun = 0 := by
  unfold checkAddress
  by_cases htarget : target = .zero
  · rw [if_neg (not_not_intro htarget)]
    by_cases hlun : lun = 0
    · rw [if_neg (not_not_intro hlun)]
      exact ⟨fun _ => ⟨htarget, hlun⟩, fun _ => rfl⟩
    · rw [if_pos hlun]
      exact ⟨fun h => absurd h (error_ne_ok _),
        fun h => absurd h.2 hlun⟩
  · rw [if_pos htarget]
    exact ⟨fun h => absurd h (error_ne_ok _),
      fun h => absurd h.1 htarget⟩

-- A check that comes before others has to pass, and so have the others.
theorem bind_eq_ok_iff {check rest : Except Error Unit} :
    (check >>= fun _ => rest) = .ok () ↔ check = .ok () ∧ rest = .ok () := by
  cases check with
  | error failure =>
      change Except.error failure = .ok () ↔ _
      simp only [reduceCtorEq, false_and]
  | ok value => exact ⟨fun h => ⟨rfl, h⟩, fun h => h.2⟩

theorem check_eq_ok_iff (p : Packet) (target : Target) (lun : UInt64) :
    p.check target lun = .ok () ↔ p.Admitted ∧ target = .zero ∧ lun = 0 := by
  unfold check
  -- the order of the checks is lost here; only the error depends on it
  rw [bind_eq_ok_iff, bind_eq_ok_iff, bind_eq_ok_iff, checkCommand_eq_ok_iff,
    checkAddress_eq_ok_iff, checkCapacity_eq_ok_iff, checkBuffers_eq_ok_iff]
  constructor
  · intro h
    rcases h with ⟨⟨hdirection, hcdb⟩, haddress, ⟨hin, hout⟩, hinData, houtData, hsense⟩
    exact ⟨⟨hdirection, hcdb, hin, hout, hinData, houtData, hsense⟩, haddress⟩
  · intro hall
    rcases hall with ⟨h, haddress⟩
    exact ⟨⟨h.direction_ne, h.cdb_le⟩, haddress, ⟨h.inLength_le, h.outLength_le⟩,
      h.inData_fits, h.outData_fits, h.sense_fits⟩

end Packet

end FusionMpt
