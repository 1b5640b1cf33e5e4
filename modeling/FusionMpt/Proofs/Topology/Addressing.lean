import FusionMpt.Proofs.Topology.Naming
import FusionMpt.Proofs.Topology.Walk

/-!
# One Set of Addresses

Three parts of the library know which devices there are. Admission refuses packets to
any other address, a walk comes to their addresses one after the other, and path nodes
are resolved to them. They have nothing in common but the greatest target number, and
admission has not even that: it compares an address with the one that exists.

So each is brought to the same form, the addresses of target numbers up to the
greatest (`device`). A walk comes to these and nothing else is named by a node, however
many there are. Only for admission it matters that the greatest number is zero
(`mem_addresses_iff_admitted`).

A walk may also be made over targets alone. It ends in the same way as one over
addresses with unit zero, though what its errors complain about is another thing.

## Main definitions

* `SameKind`: Two outcomes that differ in no more than what an error is about.

## Theorems

* `advanceTarget_agrees`: Going on by targets and going on by addresses.
* `DevicePath.address_eq_ok_iff`: What a node can be resolved to.
* `mem_addresses_iff_admitted`, `mem_addresses_iff_resolved`: The other two views.
* `resolvePath_ofAddress`: What was resolved is named by a node that resolves to it.
* `one_address_space`: All of it.
-/

namespace FusionMpt

open DevicePath

variable {target : Target} {lun : UInt64} {here : Target × UInt64} {bytes : List UInt8}

/-! ## Targets alone -/

/-- Both are good, or both are errors of one kind. -/
def SameKind (first second : Except Error Unit) : Prop :=
  first.mapError Error.ctorIdx = second.mapError Error.ctorIdx

theorem advanceTarget_agrees (target : Target) :
    SameKind (advanceTarget.make target).1 (advance.make (target, 0)).1 ∧
      (advanceTarget.make target).2 = (advance.make (target, 0)).2.1 := by
  rw [make_advanceTarget, make_advance]
  unfold nextTarget nextAddress
  by_cases hunset : target = .unset
  · rw [if_pos hunset, if_pos hunset]
    exact ⟨rfl, rfl⟩
  rw [if_neg hunset, if_neg hunset]
  by_cases hpast : Target.last < target.number
  · rw [if_pos hpast, if_pos (Or.inl hpast)]
    exact ⟨rfl, rfl⟩
  rw [if_neg hpast, if_neg (not_or.mpr ⟨hpast, UInt64.lt_irrefl 0⟩)]
  by_cases hbefore : target.number < Target.last
  · rw [if_pos hbefore, if_pos hbefore]
    exact ⟨rfl, rfl⟩
  · rw [if_neg hbefore, if_neg hbefore]
    exact ⟨rfl, rfl⟩

/-! ## Path nodes -/

namespace DevicePath

variable {path : DevicePath}

-- A node has room for numbers that no target has.
theorem exists_number_of_le {pun : UInt16} (h : pun ≤ Target.last.toUInt16) :
    ∃ number, number ≤ Target.last ∧ number.toUInt16 = pun ∧ pun.toUInt8 = number := by
  have hsize := Target.last.toNat_lt
  rw [UInt16.le_iff_toNat_le, UInt8.toNat_toUInt16] at h
  refine ⟨pun.toUInt8, ?_, ?_, rfl⟩
  · rw [UInt8.le_iff_toNat_le, UInt16.toNat_toUInt8]
    omega
  · rw [← UInt16.toNat_inj, UInt8.toNat_toUInt16, UInt16.toNat_toUInt8]
    omega

/-- A node is resolved to the device of its target number, if there is one and the unit
    is zero. -/
theorem address_eq_ok_iff :
    path.address = .ok here ↔
      ∃ number, number ≤ Target.last ∧ path = ⟨number.toUInt16, 0⟩ ∧ here = device number := by
  unfold address
  constructor
  · intro h
    by_cases hrange : Target.last.toUInt16 < path.pun ∨ 0 < path.lun
    · rw [if_pos hrange] at h
      nomatch h
    · rw [if_neg hrange, Except.ok.injEq] at h
      rcases not_or.mp hrange with ⟨hpun, hlun⟩
      rcases exists_number_of_le (UInt16.not_lt.mp hpun) with ⟨number, hnumber, hsame, hback⟩
      have hzero : path.lun = 0 := UInt16.le_zero_iff.mp (UInt16.not_lt.mp hlun)
      refine ⟨number, hnumber, DevicePath.ext hsame.symm hzero, ?_⟩
      rw [← h, hback, hzero]
      rfl
  · intro h
    rcases h with ⟨number, hnumber, rfl, rfl⟩
    have hrange : ¬ (Target.last.toUInt16 < number.toUInt16 ∨ (0 : UInt16) < 0) := by
      rw [UInt16.lt_iff_toNat_lt, UInt8.toNat_toUInt16, UInt8.toNat_toUInt16,
        ← UInt8.lt_iff_toNat_lt]
      exact not_or.mpr ⟨UInt8.not_lt.mpr hnumber, UInt16.lt_irrefl 0⟩
    rw [if_neg hrange, UInt8.toUInt8_toUInt16]
    rfl

theorem ofAddress_device {number : UInt8} (h : number ≤ Target.last) :
    ofAddress (.ofNumber number) 0 = .ok ⟨number.toUInt16, 0⟩ := by
  unfold ofAddress
  rw [Target.number_ofNumber, if_neg (not_or.mpr ⟨UInt8.not_lt.mpr h, UInt64.lt_irrefl 0⟩)]
  rfl

end DevicePath

theorem exists_parse_of_resolvePath (h : resolvePath bytes = .ok here) :
    ∃ path, parse bytes = .ok path ∧ path.address = .ok here := by
  unfold resolvePath at h
  cases hparse : parse bytes with
  | error failure =>
      rw [hparse] at h
      nomatch h
  | ok path =>
      rw [hparse] at h
      exact ⟨path, rfl, h⟩

/-- The address that some bytes are resolved to has a node, which is resolved to it
    again. -/
theorem resolvePath_ofAddress (h : resolvePath bytes = .ok (target, lun)) :
    ∃ path, ofAddress target lun = .ok path ∧
      resolvePath path.encode.toList = .ok (target, lun) := by
  rcases exists_parse_of_resolvePath h with ⟨path, -, haddress⟩
  rcases address_eq_ok_iff.mp haddress with ⟨number, hnumber, rfl, heq⟩
  rcases Prod.mk.inj heq with ⟨rfl, rfl⟩
  exact ⟨_, ofAddress_device hnumber, (resolvePath_encode _).trans haddress⟩

/-! ## The addresses -/

/-- The addresses that some bytes are resolved to. -/
theorem mem_addresses_iff_resolved : here ∈ addresses ↔ ∃ bytes, resolvePath bytes = .ok here := by
  rw [mem_addresses_iff]
  constructor
  · intro h
    rcases h with ⟨number, hnumber, rfl⟩
    refine ⟨(encode ⟨number.toUInt16, 0⟩).toList, ?_⟩
    rw [resolvePath_encode]
    exact address_eq_ok_iff.mpr ⟨number, hnumber, rfl, rfl⟩
  · intro h
    rcases h with ⟨bytes, hresolved⟩
    rcases exists_parse_of_resolvePath hresolved with ⟨path, -, haddress⟩
    rcases address_eq_ok_iff.mp haddress with ⟨number, hnumber, -, rfl⟩
    exact ⟨number, hnumber, rfl⟩

/-- The addresses that packets are admitted to. -/
theorem mem_addresses_iff_admitted :
    (target, lun) ∈ addresses ↔ checkAddress target lun = .ok () := by
  -- zero is the greatest number, and the target of that number is the one there is
  have hlast (number : UInt8) : number ≤ Target.last ↔ number = 0 := UInt8.le_zero_iff
  rw [mem_addresses_iff, Packet.checkAddress_eq_ok_iff]
  constructor
  · intro h
    rcases h with ⟨number, hnumber, heq⟩
    rw [(hlast number).mp hnumber] at heq
    exact Prod.mk.inj heq
  · intro h
    rcases h with ⟨rfl, rfl⟩
    exact ⟨0, (hlast 0).mpr rfl, rfl⟩

/-- There is one set of addresses. Whoever starts from the unset target, with any unit,
    has only one walk to make. It comes to all addresses that packets are admitted to, to
    each of them once and to no other, and finds no more. These are also the addresses
    that bytes are resolved to, and each has a node that is resolved to it again. A step
    that fails leaves both the target and the unit as they were. A step over targets alone
    ends in the same way as a step from the same target and unit zero, at the same
    target. -/
theorem one_address_space :
    (∀ start : UInt64, ∃ visited : List (Target × UInt64),
      (∀ trail failure,
        advance.Walk (.unset, start) trail failure ↔ trail = visited ∧ failure = .notFound) ∧
      visited.Nodup ∧
      (∀ target lun, (target, lun) ∈ visited ↔ checkAddress target lun = .ok ()) ∧
      (∀ target lun, (target, lun) ∈ visited ↔ ∃ bytes, resolvePath bytes = .ok (target, lun))) ∧
    (∀ bytes target lun, resolvePath bytes = .ok (target, lun) →
      checkAddress target lun = .ok () ∧
      ∃ path, ofAddress target lun = .ok path ∧
        resolvePath path.encode.toList = .ok (target, lun)) ∧
    (∀ target lun failure, (advance.make (target, lun)).1 = .error failure →
      (advance.make (target, lun)).2 = (target, lun)) ∧
    ∀ target, SameKind (advanceTarget.make target).1 (advance.make (target, 0)).1 ∧
      (advanceTarget.make target).2 = (advance.make (target, 0)).2.1 := by
  refine ⟨fun start => ⟨addresses, fun trail failure => ?_, nodup_addresses,
    fun _ _ => mem_addresses_iff_admitted, fun _ _ => mem_addresses_iff_resolved⟩,
    fun bytes target lun hresolved => ⟨?_, resolvePath_ofAddress hresolved⟩,
    fun target lun failure hfailed => ?_, advanceTarget_agrees⟩
  · constructor
    · exact fun hwalk => (walk_unset start).unique hwalk
    · intro h
      rcases h with ⟨rfl, rfl⟩
      exact walk_unset start
  · exact mem_addresses_iff_admitted.mp (mem_addresses_iff_resolved.mpr ⟨bytes, hresolved⟩)
  · rw [make_advance] at hfailed ⊢
    exact Move.moved_of_error hfailed

/-- A node of the zero target that claims 300 bytes, with one byte behind it. -/
def roomyNode : List UInt8 :=
  [0x03, 0x02, 0x2c, 0x01, 0x00, 0x00, 0x00, 0x00, 0xff]

/-- Its address is one that packets are admitted to and that a walk from any unit comes
    to. Going on from the unit after it fails and stays there. -/
theorem one_address_space_of_roomyNode :
    resolvePath roomyNode = .ok (.zero, 0) ∧ checkAddress .zero 0 = .ok () ∧
      (∃ path, ofAddress .zero 0 = .ok path ∧ resolvePath path.encode.toList = .ok (.zero, 0)) ∧
      (∃ visited, advance.Walk (.unset, 42) visited .notFound ∧ (.zero, 0) ∈ visited) ∧
      (advance.make (.zero, 1)).1 = .error (.invalidParameter .addressRange) ∧
      (advance.make (.zero, 1)).2 = (.zero, 1) := by
  rcases one_address_space with ⟨hwalks, hresolve, hfail, -⟩
  rcases hwalks 42 with ⟨visited, hwalk, -, -, hresolved⟩
  have hnode : resolvePath roomyNode = .ok (.zero, 0) := rfl
  have hfailed : (advance.make (.zero, 1)).1 = .error (.invalidParameter .addressRange) := rfl
  rcases hresolve roomyNode .zero 0 hnode with ⟨hadmitted, hnamed⟩
  exact ⟨hnode, hadmitted, hnamed,
    ⟨visited, (hwalk visited .notFound).mpr ⟨rfl, rfl⟩, (hresolved .zero 0).mpr ⟨roomyNode, hnode⟩⟩,
    hfailed, hfail .zero 1 _ hfailed⟩

end FusionMpt
