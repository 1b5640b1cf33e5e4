import FusionMpt.Proofs.Controller.Delivery

/-!
# What a Token Comes To

A packet that is finished gets its results first and its verdict then. The
results are the same for every token: the first bytes of the slots, in the
lengths that were asked for, in front of what the buffers held behind them. The
verdict is the token's.

Three kinds of token are told apart. The context of the request says that it
succeeded. Another token whose top bit is clear says nothing at all, and the
statuses stay what they were. A token with its top bit set, whatever the rest
of it, sends the engine to the error frame, of which the status word alone
decides, and in that word the top bit does not count. Since neither status that
an error frame comes down to is a success, a packet reports one only by the
context.

Memory is not written by any of this. The only access that is not a read is the
write that hands the frame back, and what an adapter does to memory when it gets
the frame is its own affair.

## Main definitions

* `frameStatus`: What an error frame comes down to.
* `errorWord`: The status word of the error frame that lies in memory.

## Theorems

* `and_replyAddressFlag_eq_zero_iff`: The engine tests bit 31.
* `HostStatus.ofReplyStatus_eq`: What a status word comes down to.
* `Packet.run_complete_stray`, `Packet.run_complete_flagged`: Finishing a packet
  by the other kinds of token.
* `Packet.complete_classifies`: The kinds of token, and what they come to.
-/

namespace FusionMpt

/-- The host status that the bytes of an error frame come down to. -/
def frameStatus (bytes : List UInt8) : HostStatus :=
  .ofReplyStatus (LittleEndian.word16 (bytes.getD 14 0) (bytes.getD 15 0))

theorem ofReplyStatus_decode (bytes : Vector UInt8 32) :
    HostStatus.ofReplyStatus (ErrorReply.decode bytes).status = frameStatus bytes.toList := by
  have h14 : bytes.toList.getD 14 0 = bytes[14] := by
    rw [List.getD_eq_getElem?_getD, List.getElem?_eq_getElem (by rw [Vector.length_toList]; decide)]
    rfl
  have h15 : bytes.toList.getD 15 0 = bytes[15] := by
    rw [List.getD_eq_getElem?_getD, List.getElem?_eq_getElem (by rw [Vector.length_toList]; decide)]
    rfl
  unfold frameStatus
  rw [h14, h15]
  rfl

theorem HostStatus.ofReplyStatus_eq (word : UInt16) :
    HostStatus.ofReplyStatus word =
      if word &&& 0x7fff = 0x0043 then .selectionTimeout else .other := by
  unfold ofReplyStatus
  by_cases h : word &&& 0x7fff = 0x0043
  · have hmasked : ReplyStatus.masked word = .deviceNotThere := congrArg ReplyStatus.mk h
    rw [if_pos h, if_pos hmasked]
  · have hmasked : ReplyStatus.masked word ≠ .deviceNotThere := fun heq =>
      h (congrArg ReplyStatus.word heq)
    rw [if_neg h, if_neg hmasked]

theorem ofReplyStatus_ne_ok (word : UInt16) : HostStatus.ofReplyStatus word ≠ .ok := by
  rw [HostStatus.ofReplyStatus_eq]
  by_cases h : word &&& 0x7fff = 0x0043
  · rw [if_pos h]
    decide
  · rw [if_neg h]
    decide

/-- The status word of the error frame that lies in memory. -/
def errorWord (m : HostMemory) : UInt16 :=
  LittleEndian.word16 (m.bytes.getD (Slot.errorReply.offset + 14) 0)
    (m.bytes.getD (Slot.errorReply.offset + 15) 0)

theorem frameStatus_segment (m : HostMemory) :
    frameStatus (m.segment Slot.errorReply.offset 32) = .ofReplyStatus (errorWord m) := by
  have hbyte : ∀ i < 32, (m.segment Slot.errorReply.offset 32).getD i 0 =
      m.bytes.getD (Slot.errorReply.offset + i) 0 := by
    intro i hi
    unfold HostMemory.segment
    rw [List.getD_eq_getElem?_getD, List.getD_eq_getElem?_getD, List.getElem?_take_of_lt hi,
      List.getElem?_drop]
  unfold frameStatus errorWord
  rw [hbyte 14 (by decide), hbyte 15 (by decide)]

/-- The top bit of a token is the one that sends to the error frame. -/
theorem and_replyAddressFlag_eq_zero_iff (token : UInt32) :
    token &&& replyAddressFlag = 0 ↔ token.toBitVec.getLsbD 31 = false := by
  have hflag : replyAddressFlag.toBitVec = BitVec.twoPow 32 31 := by
    decide
  rw [← UInt32.toBitVec_inj, UInt32.toBitVec_and, hflag, BitVec.and_twoPow]
  cases token.toBitVec.getLsbD 31 with
  | true =>
      rw [if_pos rfl]
      exact ⟨fun h => absurd h (by decide), fun h => absurd h (by decide)⟩
  | false =>
      rw [if_neg Bool.false_ne_true]
      exact ⟨fun _ => rfl, fun _ => rfl⟩

namespace Packet

variable {σ : Type} {adapter : Adapter σ} {memory : σ → HostMemory} {s : σ} {region : Region}
  {p : Packet} {token : UInt32}

theorem run_complete_stray (hshared : SharesMemory adapter memory)
    (hbuffer : (memory s).buffer = region.buffer) (hfits : p.ResultsFit)
    (hcontext : token ≠ IoRequest.context) (hbit : token.toBitVec.getLsbD 31 = false) :
    ∃ events s', ((complete region token).run p).run adapter s =
        ⟨events, .ok (.error (.device (.unexpectedReply token)), p.collected (memory s)), s'⟩ ∧
      memory s' = memory s ∧ Performed p.resultAccesses events (.ok ()) := by
  rcases run_copyBack hshared hbuffer hfits with ⟨events, s', hcopy, hrest⟩
  refine ⟨events, s', ?_, hrest⟩
  unfold complete
  rw [Exchange.run_bind_value hcopy, if_neg hcontext,
    if_pos ((and_replyAddressFlag_eq_zero_iff token).mpr hbit)]
  exact Run.behind_done events _ s'

/-- The error frame is read from memory, and handed back. -/
theorem run_completeFailed (hshared : SharesMemory adapter memory)
    (hbuffer : (memory s).buffer = region.buffer) (p : Packet) :
    ∃ events before answer after, memory before = memory s ∧
      Performed [.readMemory Slot.errorReply.offset 32] events (.ok ()) ∧
      adapter.answer (.writeRegister Register.replyQueue (region.lowAddress .errorReply)) before =
        (answer, after) ∧
      ((completeFailed region).run p).run adapter s =
        ⟨events ++ [⟨.writeRegister Register.replyQueue (region.lowAddress .errorReply), answer⟩],
          .ok (answer.mapError Error.bus,
            { p with hostStatus := .ofReplyStatus (errorWord (memory s)) }), after⟩ := by
  have hslot : 32 ≤ Slot.errorReply.size := by
    decide
  rcases hshared.run_readSlot hbuffer .errorReply hslot with ⟨bytes, before, hread, hmemory, hbytes⟩
  refine ⟨[⟨.readMemory Slot.errorReply.offset 32, .ok bytes⟩], before, _, _, hmemory,
    .cons rfl .nil, rfl, ?_⟩
  unfold completeFailed
  rw [Slot.read_start .errorReply hslot,
    Exchange.run_bind_value (Exchange.run_attempt (Bus.run_attempt_value hread)),
    ← frameStatus_segment, ← hbytes, ← ofReplyStatus_decode]
  rfl

theorem run_complete_flagged (hshared : SharesMemory adapter memory)
    (hbuffer : (memory s).buffer = region.buffer) (hfits : p.ResultsFit)
    (hbit : token.toBitVec.getLsbD 31 = true) :
    ∃ events before answer after, memory before = memory s ∧
      Performed p.failureReads events (.ok ()) ∧
      adapter.answer (.writeRegister Register.replyQueue (region.lowAddress .errorReply)) before =
        (answer, after) ∧
      ((complete region token).run p).run adapter s =
        ⟨events ++ [⟨.writeRegister Register.replyQueue (region.lowAddress .errorReply), answer⟩],
          .ok (answer.mapError Error.bus, { p.collected (memory s) with
            hostStatus := .ofReplyStatus (errorWord (memory s)) }), after⟩ := by
  rcases run_copyBack hshared hbuffer hfits with ⟨copying, copied, hcopy, hmemory, hcopying⟩
  have hbuffer' : (memory copied).buffer = region.buffer := by
    rw [hmemory]
    exact hbuffer
  rcases run_completeFailed hshared hbuffer' (p.collected (memory s)) with
    ⟨reading, before, answer, after, hmemory', hreading, hanswer, hfailed⟩
  have hcontext : token ≠ IoRequest.context := by
    rintro rfl
    exact absurd hbit (by decide)
  have hflag : token &&& replyAddressFlag ≠ 0 := by
    rw [Ne, and_replyAddressFlag_eq_zero_iff, hbit]
    exact Bool.noConfusion
  refine ⟨copying ++ reading, before, answer, after, hmemory'.trans hmemory,
    hcopying.append hreading, hanswer, ?_⟩
  unfold complete
  rw [Exchange.run_bind_value hcopy, if_neg hcontext, if_neg hflag, hfailed, hmemory]
  unfold Run.behind
  rw [List.append_assoc]

-- What is not the context is either stray or flagged, and neither is a success.
theorem hostStatus_ne_ok_of_ne (hshared : SharesMemory adapter memory)
    (hbuffer : (memory s).buffer = region.buffer) (hfits : p.ResultsFit)
    (hcontext : token ≠ IoRequest.context) {q : Packet}
    (houtcome : (((complete region token).run p).run adapter s).outcome = .ok (.ok (), q)) :
    q.hostStatus ≠ .ok := by
  cases hbit : token.toBitVec.getLsbD 31 with
  | false =>
      rcases run_complete_stray hshared hbuffer hfits hcontext hbit with ⟨events, s', hrun, -⟩
      rw [hrun] at houtcome
      exact absurd houtcome (by simp only [Except.ok.injEq, Prod.mk.injEq, reduceCtorEq,
        false_and, not_false_eq_true])
  | true =>
      rcases run_complete_flagged hshared hbuffer hfits hbit with
        ⟨events, before, answer, after, -, -, -, hrun⟩
      rw [hrun] at houtcome
      have hq := congrArg Packet.hostStatus (Prod.mk.inj (Except.ok.inj houtcome)).2
      rw [← hq]
      exact ofReplyStatus_ne_ok _

/-- A packet is finished by a token, and no access fails. For every token the
    results are taken from memory, and nothing else in the packet changes but the
    statuses. The context makes them those of a success. A token that is neither
    the context nor flagged is an error that leaves them alone. A flagged token
    makes the host status what the error frame says, and it is the only one by
    which a register is written: the frame is handed back, once. So a packet is
    finished as a success by the context and by nothing else. -/
theorem complete_classifies (hshared : SharesMemory adapter memory)
    (hbuffer : (memory s).buffer = region.buffer) (hfits : p.ResultsFit) (token : UInt32)
    (hfine : ∀ event ∈ (((complete region token).run p).run adapter s).trace,
      event.failure? = none) :
    let run := ((complete region token).run p).run adapter s
    (token = IoRequest.context →
      run.outcome = .ok (.ok (), { p.collected (memory s) with
        hostStatus := .ok, targetStatus := .good }) ∧
      run.trace.map Event.access = p.resultAccesses ∧ memory run.state = memory s) ∧
    (token ≠ IoRequest.context → token.toBitVec.getLsbD 31 = false →
      run.outcome = .ok (.error (.device (.unexpectedReply token)), p.collected (memory s)) ∧
      run.trace.map Event.access = p.resultAccesses ∧ memory run.state = memory s) ∧
    (token.toBitVec.getLsbD 31 = true →
      run.outcome = .ok (.ok (), { p.collected (memory s) with
        hostStatus :=
          if errorWord (memory s) &&& 0x7fff = 0x0043 then .selectionTimeout else .other }) ∧
      run.trace.map Event.access = p.resultAccesses ++ errorAccesses region ∧
      ∃ before, memory before = memory s ∧ run.state = (adapter.answer
        (.writeRegister Register.replyQueue (region.lowAddress .errorReply)) before).2) ∧
    ((∃ q, run.outcome = .ok (.ok (), q) ∧ q.hostStatus = .ok) ↔ token = IoRequest.context) := by
  intro run
  refine ⟨fun hcontext => ?_, fun hcontext hbit => ?_, fun hbit => ?_, ?_⟩
  · rcases run_complete_context hshared hbuffer hfits with ⟨events, s', hrun, hmemory, hmade⟩
    rw [← hcontext] at hrun
    change run = _ at hrun
    rw [hrun]
    exact ⟨rfl, hmade.map_access_eq, hmemory⟩
  · rcases run_complete_stray hshared hbuffer hfits hcontext hbit with
      ⟨events, s', hrun, hmemory, hmade⟩
    change run = _ at hrun
    rw [hrun]
    exact ⟨rfl, hmade.map_access_eq, hmemory⟩
  · rcases run_complete_flagged hshared hbuffer hfits hbit with
      ⟨events, before, answer, after, hmemory, hmade, hanswer, hrun⟩
    change run = _ at hrun
    change ∀ event ∈ run.trace, event.failure? = none at hfine
    rw [hrun] at hfine ⊢
    -- the frame was taken back, since no access has failed
    cases answer with
    | error cause =>
        exact absurd (hfine _ (List.mem_append_right _ List.mem_cons_self))
          (Option.some_ne_none cause)
    | ok _ =>
        refine ⟨?_, ?_, before, hmemory, ?_⟩
        · rw [← HostStatus.ofReplyStatus_eq]
          rfl
        · rw [List.map_append, hmade.map_access_eq]
          unfold failureReads errorAccesses
          rw [List.append_assoc]
          rfl
        · rw [hanswer]
  · constructor
    · rintro ⟨q, houtcome, hok⟩
      exact Decidable.byContradiction fun hcontext =>
        hostStatus_ne_ok_of_ne hshared hbuffer hfits hcontext houtcome hok
    · intro hcontext
      rcases run_complete_context hshared hbuffer hfits with ⟨events, s', hrun, -⟩
      rw [← hcontext] at hrun
      change run = _ at hrun
      rw [hrun]
      exact ⟨_, rfl, rfl⟩

/-- A device at 256 MiB with an error frame in memory. It says that no device
    answers, and the bit above the status is set. -/
def forsaken : PatientDevice where
  memory := ⟨0x10000000, List.replicate 14 0 ++ [0x43, 0x80] ++ List.replicate (Slot.total - 16) 0⟩
  looks? := none

/-- A packet that reads four bytes and two sense bytes, and has failed before. -/
def retried : Packet :=
  { (Packet.read [0x28, 0, 0, 0, 0, 0, 0, 0, 1, 0] 4).withSense 2 with
    targetStatus := .checkCondition }

theorem buffer_forsaken : forsaken.memory.buffer = Controller.sample.region.buffer := by
  have hsize : forsaken.memory.size = Slot.total := by
    dsimp only [forsaken, HostMemory.size]
    rw [List.length_append, List.length_append, List.length_replicate, List.length_replicate]
    rfl
  unfold HostMemory.buffer
  rw [hsize]
  rfl

-- No access fails: the device takes whatever is written to a register.
theorem complete_classifies_of_forsaken :
    retried.ResultsFit ∧
    (∀ event ∈ (((complete Controller.sample.region 0x88000000).run retried).run
      (PatientDevice.adapter 0 [] []) forsaken).trace, event.failure? = none) ∧
    ∃ q, (((complete Controller.sample.region 0x88000000).run retried).run
        (PatientDevice.adapter 0 [] []) forsaken).outcome = .ok (.ok (), q) ∧
      q.hostStatus = .selectionTimeout ∧ q.targetStatus = .checkCondition := by
  have hshared := PatientDevice.sharesMemory 0 [] []
  have hbit : (0x88000000 : UInt32).toBitVec.getLsbD 31 = true := by
    decide
  have hfits : retried.ResultsFit := ⟨by decide, fun _ => by decide, fun _ => by decide⟩
  have hfine : ∀ event ∈ (((complete Controller.sample.region 0x88000000).run retried).run
      (PatientDevice.adapter 0 [] []) forsaken).trace, event.failure? = none := by
    rcases run_complete_flagged hshared buffer_forsaken hfits hbit with
      ⟨events, before, answer, after, -, hmade, hanswer, hrun⟩
    have htaken : .ok () = answer := congrArg Prod.fst hanswer
    rw [hrun, ← htaken]
    intro event hmem
    rcases List.mem_append.mp hmem with hmem | hmem
    · exact hmade.failure?_eq_none event hmem
    · rw [List.mem_singleton.mp hmem]
      rfl
  have hflagged := (complete_classifies hshared buffer_forsaken hfits 0x88000000 hfine).2.2.1 hbit
  exact ⟨hfits, hfine, _, hflagged.1, by decide, rfl⟩

end Packet

end FusionMpt
