import FusionMpt.Proofs.Transfer.Exchange
import FusionMpt.Proofs.Transfer.Placement

/-!
# What Finishing a Packet Does

For an admitted packet, copying back is a straight line: the sense data, then
the data if the packet reads any. The buffers are large enough, so neither of
the two complaints that copying back knows of a packet can be raised, and the
slots are too, so no read is refused before the platform sees it. Only a read
that fails can stop the line.

The token is looked at after that. A token that points at the error frame adds
two accesses, the read of the frame and the write that hands it back, and that
write is the only one to the reply queue that a packet ever causes.

## Main definitions

* `Packet.storeSense`, `Packet.storeData`: The packet with the results in its
  buffers.
* `Packet.ResultsFit`: There is room for the results.
* `Packet.resultAccesses`: The reads that copy the results back.
* `Packet.errorAccesses`: The accesses that an error frame adds.
* `Packet.completeAccesses`: The accesses that finish a packet.
* `Packet.failureReads`: Those before an error frame is handed back.
* `Packet.Finished`: The ways in which finishing a packet ends.

## Theorems

* `Packet.copySense_run`, `Packet.copyData_run`: Copying back without the
  complaints.
* `Packet.performs_complete`: Finishing an admitted packet makes these accesses.
* `Packet.path_complete_finished`: By any token it ends in one of the ways.
* `Packet.path_complete_performed`: It makes the first so many of the accesses.
* `Packet.uses_complete`: Finishing any packet makes accesses of these kinds.
-/

namespace FusionMpt

theorem Exchange.performs_set (p q : Packet) : (set q : Exchange Unit).Performs p [] := by
  intro events outcome h
  rcases h with ⟨rfl, rfl⟩
  exact ⟨.ok (), q, rfl, .nil⟩

namespace Packet

variable {p : Packet}

def storeSense (p : Packet) (bytes : List UInt8) : Packet :=
  { p with senseData := bytes ++ p.senseData.drop p.senseLength.toNat }

def storeData (p : Packet) (bytes : List UInt8) : Packet :=
  { p with inData := bytes ++ p.inData.drop p.inLength.toNat }

/-- The read that copies the data back, if the packet reads any. -/
def dataReads (p : Packet) : List Access :=
  match p.dataPhase with
  | .toHost length => [.readMemory Slot.data.offset length.toNat]
  | .none | .toDevice _ => []

/-- The reads that copy the results back. -/
def resultAccesses (p : Packet) : List Access :=
  .readMemory Slot.sense.offset p.senseLength.toNat :: p.dataReads

/-- The accesses that an error frame adds. -/
def errorAccesses (region : Region) : List Access :=
  [.readMemory Slot.errorReply.offset 32,
    .writeRegister Register.replyQueue (region.lowAddress .errorReply)]

/-- The accesses that finish a packet by a token, if it is no stray. -/
def completeAccesses (p : Packet) (region : Region) (token : UInt32) : List Access :=
  p.resultAccesses ++ if token = IoRequest.context then [] else errorAccesses region

theorem isRead_resultAccesses (p : Packet) :
    ∀ access ∈ p.resultAccesses, ∃ offset len, access = .readMemory offset len := by
  intro access hmem
  unfold resultAccesses dataReads at hmem
  rcases List.mem_cons.mp hmem with rfl | hmem
  · exact ⟨_, _, rfl⟩
  · cases hphase : p.dataPhase <;> rw [hphase] at hmem
    · exact absurd hmem List.not_mem_nil
    · exact ⟨_, _, List.mem_singleton.mp hmem⟩
    · exact absurd hmem List.not_mem_nil

/-- The reads that come before an error frame is handed back. -/
def failureReads (p : Packet) : List Access :=
  p.resultAccesses ++ [.readMemory Slot.errorReply.offset 32]

theorem isRead_failureReads (p : Packet) :
    ∀ access ∈ p.failureReads, ∃ offset len, access = .readMemory offset len := by
  intro access hmem
  rcases List.mem_append.mp hmem with hmem | hmem
  · exact p.isRead_resultAccesses access hmem
  · exact ⟨_, _, List.mem_singleton.mp hmem⟩

theorem completeAccesses_of_ne {region : Region} {token : UInt32} (h : token ≠ IoRequest.context) :
    p.completeAccesses region token = p.failureReads ++
      [.writeRegister Register.replyQueue (region.lowAddress .errorReply)] := by
  unfold completeAccesses failureReads errorAccesses
  rw [if_neg h, List.append_assoc]
  rfl

theorem senseLength_le_slot (p : Packet) : p.senseLength.toNat ≤ Slot.sense.size :=
  Nat.lt_succ_iff.mp p.senseLength.toNat_lt

theorem copySense_run (hfits : p.senseLength.toNat ≤ p.senseData.length) :
    copySense.run p =
      ((Bus.readMemory Slot.sense.offset p.senseLength.toNat).attempt.exchange >>= fun bytes =>
        set (p.storeSense bytes.toList)).run p := by
  -- a length of eight bits never leaves the slot of 255 bytes
  rw [← Slot.read_start .sense p.senseLength_le_slot]
  change (ite (p.senseData.length < p.senseLength.toNat) _ _ : Exchange Unit).run p = _
  rw [if_neg (Nat.not_lt.mpr hfits)]
  rfl

/-- The buffers have room for the results that are asked for, and so has the data
    slot. Of the slot for sense bytes no length asks too much. -/
structure ResultsFit (p : Packet) : Prop where
  sense_fits : p.senseLength.toNat ≤ p.senseData.length
  inLength_le : p.direction = .read → p.inLength.toNat ≤ Slot.data.size
  inData_fits : p.direction = .read → p.inLength.toNat ≤ p.inData.length

theorem Admitted.resultsFit (hadmitted : p.Admitted) : p.ResultsFit where
  sense_fits := hadmitted.sense_fits
  inLength_le _ := hadmitted.inLength_le
  inData_fits := hadmitted.inData_fits

theorem ResultsFit.storeSense (hfits : p.ResultsFit) {bytes : List UInt8}
    (hlength : bytes.length = p.senseLength.toNat) : (p.storeSense bytes).ResultsFit where
  sense_fits := by
    change p.senseLength.toNat ≤ (bytes ++ p.senseData.drop p.senseLength.toNat).length
    rw [List.length_append, hlength]
    omega
  inLength_le := hfits.inLength_le
  inData_fits := hfits.inData_fits

theorem ResultsFit.storeData (hfits : p.ResultsFit) {bytes : List UInt8}
    (hlength : bytes.length = p.inLength.toNat) : (p.storeData bytes).ResultsFit where
  sense_fits := hfits.sense_fits
  inLength_le := hfits.inLength_le
  inData_fits _ := by
    change p.inLength.toNat ≤ (bytes ++ p.inData.drop p.inLength.toNat).length
    rw [List.length_append, hlength]
    omega

theorem copyData_run (hfits : p.ResultsFit) {length : UInt32}
    (hphase : p.dataPhase = .toHost length) :
    copyData.run p =
      ((Bus.readMemory Slot.data.offset length.toNat).attempt.exchange >>= fun bytes =>
        set (p.storeData bytes.toList)).run p := by
  rcases eq_inLength_of_toHost hphase with ⟨hread, rfl⟩
  rw [← Slot.read_start .data (hfits.inLength_le hread)]
  unfold copyData
  rw [Exchange.run_get_bind]
  simp only [hphase]
  rw [if_neg (Nat.not_lt.mpr (hfits.inData_fits hread))]
  rfl

theorem copyData_run_of_not_toHost (hphase : ∀ length, p.dataPhase ≠ .toHost length) :
    copyData.run p = (pure () : Exchange Unit).run p := by
  unfold copyData
  rw [Exchange.run_get_bind]
  cases h : p.dataPhase with
  | none => rfl
  | toDevice length => rfl
  | toHost length => exact absurd h (hphase length)

/-- Storing sense data leaves the packet as admission saw it. -/
theorem Admitted.storeSense (hadmitted : p.Admitted) {bytes : List UInt8}
    (hlength : bytes.length = p.senseLength.toNat) : (p.storeSense bytes).Admitted where
  direction_ne := hadmitted.direction_ne
  cdb_le := hadmitted.cdb_le
  inLength_le := hadmitted.inLength_le
  outLength_le := hadmitted.outLength_le
  inData_fits := hadmitted.inData_fits
  outData_fits := hadmitted.outData_fits
  sense_fits := (hadmitted.resultsFit.storeSense hlength).sense_fits

theorem performs_copyData (hadmitted : p.Admitted) : copyData.Performs p p.dataReads := by
  unfold dataReads
  intro events outcome h
  cases hphase : p.dataPhase with
  | toHost length =>
      rw [copyData_run hadmitted.resultsFit hphase] at h
      exact Exchange.performs_bind (Exchange.performs_attempt (Bus.performs_readMemory _ _))
        (fun _ _ _ _ => Exchange.performs_set _ _) events outcome h
  | none =>
      rw [copyData_run_of_not_toHost fun length => by rw [hphase]; exact DataPhase.noConfusion] at h
      rcases h with ⟨rfl, rfl⟩
      exact ⟨.ok (), p, rfl, .nil⟩
  | toDevice length =>
      rw [copyData_run_of_not_toHost fun length => by rw [hphase]; exact DataPhase.noConfusion] at h
      rcases h with ⟨rfl, rfl⟩
      exact ⟨.ok (), p, rfl, .nil⟩

theorem path_copySense_value (hfits : p.senseLength.toNat ≤ p.senseData.length)
    {events : List Event} {value : Unit} {q : Packet}
    (h : (copySense.run p).Path events (.ok (.ok value, q))) :
    ∃ bytes : List UInt8, bytes.length = p.senseLength.toNat ∧ q = p.storeSense bytes := by
  rw [copySense_run hfits, Exchange.path_bind_value] at h
  rcases h with ⟨bytes, r, front, rest, rfl, -, hset⟩
  rcases hset with ⟨-, hset⟩
  simp only [Except.ok.injEq, Prod.mk.injEq] at hset
  exact ⟨bytes.toList, bytes.length_toList, hset.2⟩

theorem performs_copyBack (hadmitted : p.Admitted) : copyBack.Performs p p.resultAccesses := by
  -- The data reads are those of the packet as copying the sense bytes leaves it.
  have hsense : copySense.Performs p [.readMemory Slot.sense.offset p.senseLength.toNat] := by
    intro events outcome h
    rw [copySense_run hadmitted.sense_fits] at h
    exact Exchange.performs_bind (Exchange.performs_attempt (Bus.performs_readMemory _ _))
      (fun _ _ _ _ => Exchange.performs_set _ _) events outcome h
  refine Exchange.performs_bind hsense (fun events value q hpath => ?_)
  -- what is left of the packet still is an admitted packet with the same data phase
  rcases path_copySense_value hadmitted.sense_fits hpath with ⟨bytes, hlength, rfl⟩
  exact performs_copyData (hadmitted.storeSense hlength)

theorem performs_completeFailed (region : Region) (p : Packet) :
    (completeFailed region).Performs p (errorAccesses region) := by
  have hframe : 32 ≤ Slot.errorReply.size := by
    decide
  unfold completeFailed
  rw [Slot.read_start .errorReply hframe]
  refine Exchange.performs_bind (Exchange.performs_attempt (Bus.performs_readMemory _ _))
    (fun events bytes q _ => ?_)
  exact Exchange.performs_bind (Exchange.performs_modify _) fun _ _ _ _ =>
    Exchange.performs_attempt (Bus.performs_writeRegister _ _)

theorem performs_complete (hadmitted : p.Admitted) (region : Region) {token : UInt32}
    (htoken : token = IoRequest.context ∨ token &&& replyAddressFlag ≠ 0) :
    (complete region token).Performs p (p.completeAccesses region token) := by
  refine Exchange.performs_bind (performs_copyBack hadmitted) (fun events value q _ => ?_)
  by_cases hcontext : token = IoRequest.context
  · rw [if_pos hcontext, if_pos hcontext]
    exact Exchange.performs_modify _
  · rw [if_neg hcontext, if_neg hcontext]
    rcases htoken with htoken | htoken
    · exact absurd htoken hcontext
    · rw [if_neg htoken]
      exact performs_completeFailed region q

/-- The ways in which finishing an admitted packet by a token ends. -/
inductive Finished (region : Region) (token : UInt32) (p : Packet) :
    List Event → Except Error Unit → Prop where
  /-- An access failed. -/
  | failed {accesses : List Access} {events : List Event} {cause : BusError}
      (hmade : accesses <+: p.failureReads ++
        [.writeRegister Register.replyQueue (region.lowAddress .errorReply)])
      (hperformed : Performed accesses events (.error cause)) :
      Finished region token p events (.error (.bus cause))
  /-- The token is neither the context nor the address of a frame. -/
  | stray {events : List Event} (hperformed : Performed p.resultAccesses events (.ok ()))
      (hcontext : token ≠ IoRequest.context) (hflag : token &&& replyAddressFlag = 0) :
      Finished region token p events (.error (.device (.unexpectedReply token)))
  | finished {events : List Event}
      (hperformed : Performed (p.completeAccesses region token) events (.ok ()))
      (htoken : token = IoRequest.context ∨ token &&& replyAddressFlag ≠ 0) :
      Finished region token p events (.ok ())

theorem resultAccesses_prefix (p : Packet) (region : Region) :
    p.resultAccesses <+: p.failureReads ++
      [.writeRegister Register.replyQueue (region.lowAddress .errorReply)] := by
  unfold failureReads
  rw [List.append_assoc]
  exact List.prefix_append _ _

theorem completeAccesses_prefix (p : Packet) (region : Region) (token : UInt32) :
    p.completeAccesses region token <+: p.failureReads ++
      [.writeRegister Register.replyQueue (region.lowAddress .errorReply)] := by
  by_cases hcontext : token = IoRequest.context
  · unfold completeAccesses
    rw [if_pos hcontext, List.append_nil]
    exact p.resultAccesses_prefix region
  · refine ⟨[], ?_⟩
    rw [List.append_nil, completeAccesses_of_ne hcontext]

theorem path_complete_finished (hadmitted : p.Admitted) {region : Region} {token : UInt32}
    {events : List Event} {outcome : Except Halt (Except Error Unit × Packet)}
    (h : ((complete region token).run p).Path events outcome) :
    ∃ result q, outcome = .ok (result, q) ∧ Finished region token p events result := by
  by_cases hstray : token ≠ IoRequest.context ∧ token &&& replyAddressFlag = 0
  · -- a stray token is looked at when the results have been copied back
    unfold complete at h
    rw [Exchange.run_bind_apply, Program.path_bind] at h
    rcases h with ⟨why, hcopy, rfl⟩ | ⟨⟨copied, q⟩, front, rest, rfl, hcopy, hrest⟩
    · rcases performs_copyBack hadmitted events _ hcopy with ⟨_, _, ho, -⟩
      exact absurd ho (by simp only [reduceCtorEq, not_false_eq_true])
    · rcases performs_copyBack hadmitted front _ hcopy with ⟨result, _, ho, hperformed⟩
      rw [Except.ok.injEq, Prod.mk.injEq] at ho
      rcases ho with ⟨rfl, rfl⟩
      cases result with
      | error cause =>
          rcases hrest with ⟨rfl, rfl⟩
          rw [List.append_nil]
          exact ⟨_, q, rfl, .failed (p.resultAccesses_prefix region) hperformed⟩
      | ok _ =>
          rw [if_neg hstray.1, if_pos hstray.2] at hrest
          rcases hrest with ⟨rfl, rfl⟩
          rw [List.append_nil]
          exact ⟨_, q, rfl, .stray hperformed hstray.1 hstray.2⟩
  · have htoken : token = IoRequest.context ∨ token &&& replyAddressFlag ≠ 0 := by
      by_cases hcontext : token = IoRequest.context
      · exact Or.inl hcontext
      · exact Or.inr fun hflag => hstray ⟨hcontext, hflag⟩
    rcases performs_complete hadmitted region htoken events outcome h with
      ⟨result, q, rfl, hperformed⟩
    cases result with
    | error cause =>
        exact ⟨_, q, rfl, .failed (p.completeAccesses_prefix region token) hperformed⟩
    | ok _ => exact ⟨_, q, rfl, .finished hperformed htoken⟩

/-- Finishing an admitted packet makes the first so many of these accesses. It
    ends with the error of an access or with a complaint about a stray token. -/
theorem path_complete_performed (hadmitted : p.Admitted) {region : Region} {token : UInt32}
    {events : List Event} {outcome : Except Halt (Except Error Unit × Packet)}
    (h : ((complete region token).run p).Path events outcome) :
    ∃ accesses result q, accesses <+: p.failureReads ++
        [.writeRegister Register.replyQueue (region.lowAddress .errorReply)] ∧
      Performed accesses events (result.map fun _ => ()) ∧
      (outcome = .ok (Except.mapError Error.bus result, q) ∨
        outcome = .ok (.error (.device (.unexpectedReply token)), q)) := by
  rcases path_complete_finished hadmitted h with ⟨result, q, rfl, hfinished⟩
  cases hfinished with
  | @failed _ _ cause hmade hperformed =>
      exact ⟨_, .error cause, q, hmade, hperformed, Or.inl rfl⟩
  | stray hperformed _ _ =>
      exact ⟨_, .ok (), q, p.resultAccesses_prefix region, hperformed, Or.inr rfl⟩
  | finished hperformed _ =>
      exact ⟨_, .ok (), q, p.completeAccesses_prefix region token, hperformed, Or.inl rfl⟩

/-- Finishing an admitted packet comes to an end, also by a stray token. -/
theorem path_complete (hadmitted : p.Admitted) {region : Region} {token : UInt32}
    {events : List Event} {outcome : Except Halt (Except Error Unit × Packet)}
    (h : ((complete region token).run p).Path events outcome) :
    ∃ result, outcome = .ok result := by
  rcases path_complete_performed hadmitted h with ⟨_, _, _, -, -, ho | ho⟩
  · exact ⟨_, ho⟩
  · exact ⟨_, ho⟩

/-! ## Kinds of access -/

theorem uses_slotRead {allowed : Access → Prop} (hread : ∀ offset len, allowed (.readMemory offset len))
    (slot : Slot) (offset : UInt64) (len : Nat) :
    ((slot.read offset len).attempt.exchange.run p).Uses allowed :=
  Exchange.uses_attempt
    (Program.uses_run_adapt (Slot.uses_guarded (Program.uses_perform (hread _ _))))

theorem uses_copyBack {allowed : Access → Prop}
    (hread : ∀ offset len, allowed (.readMemory offset len)) (p : Packet) :
    (copyBack.run p).Uses allowed := by
  refine Exchange.uses_bind ?_ (fun _ q => ?_)
  · change ((ite (p.senseData.length < p.senseLength.toNat) _ _ : Exchange Unit).run p).Uses allowed
    by_cases hshort : p.senseData.length < p.senseLength.toNat
    · rw [if_pos hshort]
      exact trivial
    · rw [if_neg hshort]
      exact Exchange.uses_bind (uses_slotRead hread _ _ _) fun _ _ => trivial
  · unfold copyData
    rw [Exchange.run_get_bind]
    cases hphase : q.dataPhase with
    | none => exact trivial
    | toDevice length => exact trivial
    | toHost length =>
        change ((ite (q.inData.length < length.toNat) _ _ : Exchange Unit).run q).Uses allowed
        by_cases hshort : q.inData.length < length.toNat
        · rw [if_pos hshort]
          exact trivial
        · rw [if_neg hshort]
          exact Exchange.uses_bind (uses_slotRead hread _ _ _) fun _ _ => trivial

/-- Finishing a packet, whatever the packet and the token, only reads memory
    and hands the error frame back. -/
theorem uses_complete (allowed : Access → Prop) {region : Region}
    (hread : ∀ offset len, allowed (.readMemory offset len))
    (harm : allowed (.writeRegister Register.replyQueue (region.lowAddress .errorReply)))
    (token : UInt32) (p : Packet) : ((complete region token).run p).Uses allowed := by
  refine Exchange.uses_bind (uses_copyBack hread p) (fun _ q => ?_)
  by_cases hcontext : token = IoRequest.context
  · rw [if_pos hcontext]
    exact trivial
  · rw [if_neg hcontext]
    by_cases hstray : token &&& replyAddressFlag = 0
    · rw [if_pos hstray]
      exact trivial
    · rw [if_neg hstray]
      refine Exchange.uses_bind (uses_slotRead hread _ _ _) (fun _ _ => ?_)
      exact Exchange.uses_bind trivial fun _ _ =>
        Exchange.uses_attempt (Program.uses_run_adapt (Program.uses_perform harm))

end Packet

end FusionMpt
