import FusionMpt.Proofs.Transfer.Admission
import FusionMpt.Topology.Enumeration
import Mathlib.Logic.Basic

/-!
# Addresses and Their Names

A device has an address, by which packets are passed through to it, and a path
node, by which firmware names it. Whoever builds the node of an address and
resolves it again expects the address back, and expects packets to be taken
there.

Admission compares the whole target with the one there is. A path node has
room for the number of a target only, and building it looks at the number only.
So there are targets that are told apart from the zero target by admission and
not by naming: those with number zero and something behind it. The node of such
a target is that of the zero target, and resolving it gives the zero target.

The bytes behind the number decide everything. If they are zero the two views
of an address agree, and if not they disagree both ways.

## Theorems

* `DevicePath.parse_encode`: A node is found in front of anything.
* `Target.eq_zero_iff`: The zero target, by its number and the bytes behind.
* `DevicePath.ofAddress_eq_ok_iff`: Which addresses have a node.
* `DevicePath.named_iff_plain`: When a node names the address it was built from.
* `DevicePath.node_of_missing_target`: A node that does not.
-/

namespace FusionMpt

open LittleEndian

namespace Target

/-- A target is the zero target if its number is zero and so is everything
    behind it. -/
theorem eq_zero_iff (target : Target) :
    target = .zero ↔ target.number = 0 ∧ ∀ i : Fin 16, i ≠ 0 → target.bytes.get i = 0 := by
  constructor
  · intro h
    rw [h]
    exact ⟨rfl, by decide⟩
  · intro h
    rcases h with ⟨hnumber, hbehind⟩
    have hbytes : target.bytes = Vector.replicate 16 0 := by
      apply Vector.ext
      intro i hi
      rw [Vector.getElem_replicate]
      by_cases hzero : i = 0
      · rcases hzero with rfl
        exact hnumber
      · exact hbehind ⟨i, hi⟩ (fun heq => hzero (congrArg Fin.val heq))
    rcases target with ⟨bytes⟩
    exact congrArg Target.mk hbytes

end Target

namespace DevicePath

variable {target : Target} {lun : UInt64} {path : DevicePath}

/-- A node is found in front of anything that follows it. -/
theorem parse_encode (path : DevicePath) (rest : List UInt8) :
    parse (path.encode.toList ++ rest) = .ok path := by
  -- the length field of the node is that of a node
  change Except.ok (DevicePath.mk (word16 (octet path.pun.toNat 0) (octet path.pun.toNat 1))
    (word16 (octet path.lun.toNat 0) (octet path.lun.toNat 1))) = _
  rw [word16_octet, word16_octet]

theorem resolvePath_encode (path : DevicePath) : resolvePath path.encode.toList = path.address := by
  have hparse := path.parse_encode []
  rw [List.append_nil] at hparse
  unfold resolvePath
  rw [hparse]
  rfl

/-- The addresses that have a node are those with both numbers zero, and they
    have the same one. -/
theorem ofAddress_eq_ok_iff :
    ofAddress target lun = .ok path ↔ (target.number = 0 ∧ lun = 0) ∧ path = ⟨0, 0⟩ := by
  have hrange : (Target.last < target.number ∨ 0 < lun) ↔ ¬ (target.number = 0 ∧ lun = 0) := by
    change 0 < target.number ∨ 0 < lun ↔ _
    rw [UInt8.pos_iff_ne_zero, UInt64.pos_iff_ne_zero, not_and_or]
  unfold ofAddress
  by_cases hzero : target.number = 0 ∧ lun = 0
  · rw [if_neg fun h => hrange.mp h hzero, hzero.1, hzero.2, Except.ok.injEq]
    exact ⟨fun h => ⟨⟨rfl, rfl⟩, h.symm⟩, fun h => h.2.symm⟩
  · rw [if_pos (hrange.mpr hzero)]
    exact ⟨fun h => absurd h (by simp only [reduceCtorEq, not_false_eq_true]),
      fun h => absurd h.1 hzero⟩

/-- Every address with both numbers zero has the node of the zero target. That
    node names the address it was built from, and admission takes packets to that
    address, exactly if the target has nothing behind its number. -/
theorem named_iff_plain (h : ofAddress target lun = .ok path) :
    resolvePath path.encode.toList = .ok (.zero, 0) ∧
    (resolvePath path.encode.toList = .ok (target, lun) ↔
      ∀ i : Fin 16, i ≠ 0 → target.bytes.get i = 0) ∧
    (checkAddress target lun = .ok () ↔ ∀ i : Fin 16, i ≠ 0 → target.bytes.get i = 0) := by
  rcases ofAddress_eq_ok_iff.mp h with ⟨⟨hnumber, rfl⟩, rfl⟩
  have hresolve : resolvePath (encode ⟨0, 0⟩).toList = .ok (.zero, 0) := by
    rw [resolvePath_encode]
    rfl
  have hplain : target = .zero ↔ ∀ i : Fin 16, i ≠ 0 → target.bytes.get i = 0 := by
    rw [target.eq_zero_iff]
    exact and_iff_right hnumber
  refine ⟨hresolve, ?_, ?_⟩
  · rw [hresolve, Except.ok.injEq, Prod.mk.injEq, ← hplain]
    exact ⟨fun heq => heq.1.symm, fun heq => ⟨heq.symm, rfl⟩⟩
  · rw [Packet.checkAddress_eq_ok_iff, ← hplain]
    exact and_iff_left rfl

theorem named_iff_plain_of_zero :
    ofAddress .zero 0 = .ok ⟨0, 0⟩ ∧
    resolvePath (encode ⟨0, 0⟩).toList = .ok (.zero, 0) ∧ checkAddress .zero 0 = .ok () := by
  have hbuilt : ofAddress .zero 0 = .ok ⟨0, 0⟩ := rfl
  have hbehind : ∀ i : Fin 16, i ≠ 0 → Target.zero.bytes.get i = 0 := by
    decide
  rcases named_iff_plain hbuilt with ⟨hresolve, -, haddress⟩
  exact ⟨hbuilt, hresolve, haddress.mpr hbehind⟩

/-- A target that is told from the zero target by its second byte only. -/
def missingTarget : Target :=
  ⟨#v[0, 1, 0, 0, 0, 0, 0, 0, 0, 0, 0, 0, 0, 0, 0, 0]⟩

/-- It has a node, which names another target, and no packet is taken to it. -/
theorem node_of_missing_target :
    ofAddress missingTarget 0 = .ok ⟨0, 0⟩ ∧
    resolvePath (encode ⟨0, 0⟩).toList = .ok (.zero, 0) ∧ Target.zero ≠ missingTarget ∧
    checkAddress missingTarget 0 = .error (.invalidParameter .target) :=
  ⟨rfl, rfl, by decide, rfl⟩

end DevicePath

end FusionMpt
