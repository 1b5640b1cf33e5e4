import FusionMpt.Proofs.Channel.Rounds
import FusionMpt.Proofs.Controller.Classification
import FusionMpt.Proofs.Controller.Reissue
import FusionMpt.Proofs.Transfer.SameRequest

/-!
# Whose Status It Is

A packet comes with statuses in it. A request that is finished has them set. One
that fails under way reports `HostStatus.other`, unless its host status is already
not that of a success. So what an error frame has said before something else
failed is kept, and so is a status that the packet came with.

The error frame that was read can be found among the events (`verdict?`), and
with it the two are told apart. The status of a failed packet is what the error
frame comes down to, if one was read. If none was, it is the one that the caller
gave, with a success made into `HostStatus.other`. So it is this request's own
exactly when a frame was read or the caller gave one of these two.

The usual way to a packet with another one is a length that exceeds the data
slot. It is refused with a status of its own and cut to fit, in order to be
issued again, and that status is what it reports if it fails then.

## Main definitions

* `verdict?`: What the error frame that was read comes down to.
* `OwnStatus`: A status that a failure of this request accounts for.

## Theorems

* `Packet.hostStatus_of_complete`, `Controller.hostStatus_of_receive`: Finishing
  that fails leaves the verdict, and otherwise the status that it found.
* `Controller.hostStatus_of_failed`: So does passing through, but for a success.
* `Controller.hostStatus_of_reissued`: What a packet that was cut reports.
* `Controller.ownStatus_iff`: When the status is the request's own.
-/

namespace FusionMpt

/-- What the event's error frame comes down to, if it has read the frame. -/
def Event.verdict? : Event → Option HostStatus
  | ⟨.readMemory offset _, .ok bytes⟩ =>
    if offset = Slot.errorReply.offset then some (frameStatus bytes.toList) else none
  | _ => none

/-- What the error frame comes down to, if it was read. -/
def verdict? (events : List Event) : Option HostStatus :=
  events.findSome? Event.verdict?

/-- A status that a failure with these events accounts for: it says no more than
    that something went wrong, or it is what the error frame said. -/
def OwnStatus (events : List Event) (status : HostStatus) : Prop :=
  status = .other ∨ verdict? events = some status

/-- The access does not read the error frame. -/
def Access.SparesErrorReply (access : Access) : Prop :=
  ∀ len, access ≠ .readMemory Slot.errorReply.offset len

variable {events front rest : List Event}

theorem verdict?_eq_none (h : ∀ event ∈ events, event.access.SparesErrorReply) :
    verdict? events = none := by
  refine List.findSome?_eq_none_iff.mpr fun event hmem => ?_
  have hspared := h event hmem
  rcases event with ⟨access, answer⟩
  cases access with
  | readMemory offset len =>
      cases answer with
      | error cause => rfl
      | ok bytes => exact if_neg fun heq => hspared len (by rw [heq])
  | _ => rfl

theorem verdict?_append (h : verdict? front = none) : verdict? (front ++ rest) = verdict? rest := by
  unfold verdict? at h ⊢
  rw [List.findSome?_append, h, Option.none_or]

/-- No error frame comes down to a success. -/
theorem verdict?_ne_ok : verdict? events ≠ some .ok := by
  intro h
  rcases List.exists_of_findSome?_eq_some h with ⟨⟨access, answer⟩, -, hverdict⟩
  cases access with
  | readMemory offset len =>
      cases answer with
      | error cause => exact nomatch hverdict
      | ok bytes =>
          change (if offset = Slot.errorReply.offset then some (frameStatus bytes.toList) else none) =
            some .ok at hverdict
          by_cases hslot : offset = Slot.errorReply.offset
          · rw [if_pos hslot] at hverdict
            exact ofReplyStatus_ne_ok _ (Option.some.inj hverdict)
          · rw [if_neg hslot] at hverdict
            exact nomatch hverdict
  | _ => exact nomatch hverdict

/-! ## Finishing -/

namespace Packet

variable {p q : Packet} {region : Region} {token : UInt32} {failure : Error}

-- Results go into the buffers.
theorem leaves_copyBack_hostStatus (p : Packet) :
    copyBack.Leaves p fun q => q.hostStatus = p.hostStatus :=
  leaves_copyBack rfl (fun _ h _ _ => h) fun _ h _ _ => h

theorem sparesErrorReply_resultAccesses (p : Packet) :
    ∀ access ∈ p.resultAccesses, access.SparesErrorReply := by
  have hread : ∀ offset len, offset ≠ Slot.errorReply.offset →
      (Access.readMemory offset len).SparesErrorReply :=
    fun offset len hne len' heq => hne (Access.readMemory.inj heq).1
  intro access hmem
  unfold resultAccesses dataReads at hmem
  rcases List.mem_cons.mp hmem with rfl | hmem
  · exact hread _ _ (by decide)
  · cases hphase : p.dataPhase <;> rw [hphase] at hmem
    · exact absurd hmem List.not_mem_nil
    · rw [List.mem_singleton.mp hmem]
      exact hread _ _ (by decide)
    · exact absurd hmem List.not_mem_nil

/-- Taking the results from the error frame sets the status to its verdict, also
    if handing the frame back fails. -/
theorem hostStatus_of_completeFailed {result : Except Error Unit}
    (h : ((completeFailed region).run p).Path events (.ok (result, q))) :
    q.hostStatus = (verdict? events).getD p.hostStatus := by
  have hframe : 32 ≤ Slot.errorReply.size := by
    decide
  unfold completeFailed at h
  rw [Slot.read_start .errorReply hframe, Exchange.run_bind_apply, Program.path_bind_ok] at h
  rcases h with ⟨⟨read, r⟩, front, rest, rfl, hread, hrest⟩
  rcases hread with ⟨answer, tail, rfl, rfl, hread⟩
  cases answer with
  | error cause =>
      rcases Prod.mk.inj (Except.ok.inj hread) with ⟨rfl, rfl⟩
      rcases hrest with ⟨rfl, hq⟩
      rw [(Prod.mk.inj (Except.ok.inj hq)).2]
      rfl
  | ok bytes =>
      rcases Prod.mk.inj (Except.ok.inj hread) with ⟨rfl, rfl⟩
      rcases hrest with ⟨answer, tail, rfl, rfl, hq⟩
      rw [(Prod.mk.inj (Except.ok.inj hq)).2]
      exact ofReplyStatus_decode bytes

/-- Finishing that fails leaves the verdict of the error frame, and the status that
    it found if it has not read the frame. -/
theorem hostStatus_of_complete (hadmitted : p.Admitted)
    (h : ((complete region token).run p).Path events (.ok (.error failure, q))) :
    q.hostStatus = (verdict? events).getD p.hostStatus := by
  unfold complete at h
  rw [Exchange.run_bind_apply, Program.path_bind_ok] at h
  rcases h with ⟨⟨copied, r⟩, copying, rest, rfl, hcopy, hrest⟩
  have hkept : r.hostStatus = p.hostStatus := p.leaves_copyBack_hostStatus copying copied r hcopy
  have hspared : verdict? copying = none := by
    rcases performs_copyBack hadmitted copying _ hcopy with ⟨_, _, -, hperformed⟩
    exact verdict?_eq_none fun event hmem =>
      p.sparesErrorReply_resultAccesses _ (hperformed.mem event hmem)
  rw [verdict?_append hspared, ← hkept]
  cases copied with
  | error cause =>
      rcases hrest with ⟨rfl, hq⟩
      rw [(Prod.mk.inj (Except.ok.inj hq)).2]
      rfl
  | ok _ =>
      by_cases hcontext : token = IoRequest.context
      · -- a success does not fail
        rw [if_pos hcontext] at hrest
        exact nomatch hrest.2
      · rw [if_neg hcontext] at hrest
        by_cases hstray : token &&& replyAddressFlag = 0
        · rw [if_pos hstray] at hrest
          rcases hrest with ⟨rfl, hq⟩
          rw [(Prod.mk.inj (Except.ok.inj hq)).2]
          rfl
        · rw [if_neg hstray] at hrest
          exact hostStatus_of_completeFailed hrest

end Packet

/-! ## Passing through -/

namespace Controller

variable {σ : Type} {c : Controller} {polls : Nat} {target : Target} {lun : UInt64} {p q : Packet}
  {failure : Error} {served : Served}

-- Waiting does not look at memory.
theorem verdict?_awaitReply {policy : PollPolicy} {outcome : Except Halt (Except Error UInt32)}
    (h : (Queue.awaitReply policy polls).run.Path events outcome) : verdict? events = none := by
  have huses : (Queue.awaitReply policy polls).run.Uses Access.SparesErrorReply :=
    Queue.uses_awaitReply _ policy (fun _ _ => Access.noConfusion) (fun _ => Access.noConfusion)
      fun _ => Access.noConfusion
  exact verdict?_eq_none (huses.mem h)

-- Nor does placing and posting, but to write it.
theorem verdict?_posted {request : IoRequest} {placing : List Event}
    {result : Except BusError Unit} (hplace : Performed (p.placeAccesses request) placing result)
    (answer : Except BusError Unit) : verdict? (placing ++ [c.post answer]) = none := by
  refine verdict?_eq_none fun event hmem len heq => ?_
  rcases List.mem_append.mp hmem with hmem | hmem
  · have hwrite := Packet.isMemoryWrite_of_placed hplace event hmem
    rw [heq] at hwrite
    exact hwrite
  · rw [List.mem_singleton.mp hmem] at heq
    exact nomatch heq

theorem hostStatus_of_receive (hadmitted : p.Admitted)
    (h : ((c.receive polls).run p).Path events (.ok (.error failure, q))) :
    q.hostStatus = (verdict? events).getD p.hostStatus := by
  cases path_receive hadmitted h with
  | unanswered hawait =>
      rw [verdict?_awaitReply hawait]
      rfl
  | answered hawait hcomplete =>
      rw [verdict?_append (verdict?_awaitReply hawait)]
      exact Packet.hostStatus_of_complete hadmitted hcomplete

theorem hostStatus_of_failed (hcheck : p.check target lun = .ok ())
    (h : (c.passThrough polls target lun p).Path events (.ok served))
    (hposted : c.post (.ok ()) ∈ events) (hfailure : served.outcome = .error failure) :
    served.packet.hostStatus = (verdict? events).getD p.aborted.hostStatus := by
  have hadmitted := ((p.check_eq_ok_iff target lun).mp hcheck).1
  cases path_passThrough hcheck h with
  | unplaced hplace => exact absurd rfl (not_isPost_of_placed hplace _ hposted)
  | unposted hplace =>
      rcases List.mem_append.mp hposted with hmem | hmem
      · exact absurd rfl (not_isPost_of_placed hplace _ hmem)
      · exact nomatch List.mem_singleton.mp hmem
  | @failed _ rest _ q hplace hreceive =>
      have hreceived := hostStatus_of_receive hadmitted hreceive
      rw [List.append_cons, verdict?_append (verdict?_posted hplace _)]
      change (if q.hostStatus = .ok then HostStatus.other else q.hostStatus) = _
      rw [hreceived]
      cases hverdict : verdict? rest with
      | none => rfl
      -- what an error frame came down to is kept, since it is no success
      | some status => exact if_neg fun hok => verdict?_ne_ok (hverdict.trans (congrArg some hok))
  | finished hplace hreceive => exact nomatch hfailure

/-- A packet that was cut to fit has a status from that, and if it fails when it is
    issued again this is the status that it reports. -/
theorem hostStatus_of_reissued (hdirection : p.direction ≠ .bidirectional)
    (hcdb : p.cdb.length ≤ 16) (hin : p.direction = .read → p.inLength.toNat ≤ p.inData.length)
    (hout : p.direction = .write → p.outLength.toNat ≤ p.outData.length)
    (h : (c.passThrough polls .zero 0 p.clamped).Path events (.ok served))
    (hposted : c.post (.ok ()) ∈ events) (hfailure : served.outcome = .error failure) :
    served.packet.hostStatus = (verdict? events).getD .dataOverrunUnderrun :=
  hostStatus_of_failed
    (Packet.check_eq_ok_iff_met.mpr (Packet.met_clamped hdirection hcdb hin hout)) h hposted hfailure

/-- A request that was posted and fails leaves the packet with the verdict of the
    error frame if it has read one. If not, the packet has the status that the
    caller gave, or `HostStatus.other` for a success. So the status is the
    request's own exactly when an error frame was read, or when the caller gave
    one of these two. -/
theorem ownStatus_iff (adapter : Adapter σ) (s : σ) (hcheck : p.check target lun = .ok ())
    (hposted : c.post (.ok ()) ∈ ((c.passThrough polls target lun p).run adapter s).trace)
    (hserved : ((c.passThrough polls target lun p).run adapter s).outcome = .ok served)
    (hfailure : served.outcome = .error failure) :
    let trace := ((c.passThrough polls target lun p).run adapter s).trace
    served.packet.hostStatus =
      (verdict? trace).getD (if p.hostStatus = .ok then .other else p.hostStatus) ∧
    (OwnStatus trace served.packet.hostStatus ↔
      verdict? trace ≠ none ∨ p.hostStatus = .ok ∨ p.hostStatus = .other) := by
  intro trace
  have hpath := Program.path_run adapter (c.passThrough polls target lun p) s
  rw [hserved] at hpath
  have hstatus : served.packet.hostStatus =
      (verdict? trace).getD (if p.hostStatus = .ok then .other else p.hostStatus) :=
    hostStatus_of_failed hcheck hpath hposted hfailure
  refine ⟨hstatus, ?_⟩
  unfold OwnStatus
  rw [hstatus]
  cases verdict? trace with
  | some status => exact ⟨fun _ => Or.inl (Option.some_ne_none status), fun _ => Or.inr rfl⟩
  | none =>
      change ((if p.hostStatus = .ok then HostStatus.other else p.hostStatus) = .other ∨ _) ↔ _
      by_cases hok : p.hostStatus = .ok
      · rw [if_pos hok]
        exact ⟨fun _ => Or.inr (Or.inl hok), fun _ => Or.inl rfl⟩
      · rw [if_neg hok]
        constructor
        · rintro (hother | hnone)
          · exact Or.inr (Or.inr hother)
          · exact nomatch hnone
        · rintro (hnone | hok' | hother)
          · exact absurd rfl hnone
          · exact absurd hok' hok
          · exact Or.inl hother

/-! ## A packet that is issued again -/

/-- A controller that waits for 35 microseconds at the most. -/
def hasty : Controller :=
  { sample with policy := Queue.briefPolicy }

-- The device would answer after nine looks, and the fifth is the last.
theorem run_receive_hasty (p : Packet) (memory : HostMemory) :
    ∃ waiting d, ((hasty.receive 9).run p).run (PatientDevice.adapter 9 [] []) ⟨memory, some 9⟩ =
        ⟨waiting, .ok (.error (.timeout 40), p), d⟩ ∧ verdict? waiting = none := by
  have hwait : ∃ waiting d, (Queue.awaitReply hasty.policy 9).run.run (PatientDevice.adapter 9 [] [])
      ⟨memory, some 9⟩ = ⟨waiting, .ok (.error (.timeout 40)), d⟩ := ⟨_, _, rfl⟩
  rcases hwait with ⟨waiting, d, hawait⟩
  have hpath := Program.path_run (PatientDevice.adapter 9 [] [])
    (Queue.awaitReply hasty.policy 9).run ⟨memory, some 9⟩
  rw [hawait] at hpath
  refine ⟨waiting, d, ?_, verdict?_awaitReply hpath⟩
  unfold receive
  rw [Exchange.run_bind_apply, Program.run_bind_ok (Exchange.run_attempt hawait)]
  exact Run.behind_done waiting _ d

theorem run_passThrough_hasty (hcheck : p.check .zero 0 = .ok ()) :
    ∃ events d, (hasty.passThrough 9 .zero 0 p).run (PatientDevice.adapter 9 [] []) .idle =
        ⟨events, .ok ⟨.error (.timeout 40), p.aborted, { hasty with health := .faulted }⟩, d⟩ ∧
      hasty.post (.ok ()) ∈ events ∧ verdict? events = none := by
  have hshared := PatientDevice.sharesMemory 9 [] []
  have hroom : Slot.total ≤ PatientDevice.idle.memory.size := Nat.le_of_eq List.length_replicate.symm
  rcases Packet.run_stage_laidOut hasty.region hshared hroom hcheck with ⟨placing, staged, hstage, -⟩
  rcases run_receive_hasty p _ with ⟨waiting, d, hreceive, hwaiting⟩
  have hrun : (hasty.passThrough 9 .zero 0 p).run (PatientDevice.adapter 9 [] []) .idle = _ :=
    run_passThrough hstage (PatientDevice.answer_post _ staged)
  rw [Program.run_bind_ok hreceive] at hrun
  refine ⟨placing ++ hasty.post (.ok ()) :: waiting, d, ?_,
    List.mem_append_right _ List.mem_cons_self, ?_⟩
  · rw [hrun]
    change Run.mk (placing ++ ([hasty.post (.ok ())] ++ (waiting ++ []))) _ d = _
    rw [List.append_nil]
    rfl
  · have hpath := Program.path_run (PatientDevice.adapter 9 [] []) (p.stage hasty.region .zero 0)
      .idle
    rw [hstage] at hpath
    rcases path_stage hcheck hpath with ⟨_, hplace, -⟩
    rw [List.append_cons, verdict?_append (verdict?_posted hplace _), hwaiting]

-- A packet that has failed before, but with a host status of a success, has nothing
-- to report but that something went wrong.
theorem ownStatus_iff_of_retried :
    let run := (hasty.passThrough 9 .zero 0 Packet.retried).run (PatientDevice.adapter 9 [] []) .idle
    Packet.retried.check .zero 0 = .ok () ∧ hasty.post (.ok ()) ∈ run.trace ∧
    ∃ served, run.outcome = .ok served ∧ served.outcome = .error (.timeout 40) ∧
      served.packet.hostStatus = .other ∧ OwnStatus run.trace served.packet.hostStatus := by
  intro run
  have hcheck : Packet.retried.check .zero 0 = .ok () := rfl
  rcases run_passThrough_hasty hcheck with ⟨events, d, hrun, hevents, hnone⟩
  have htrace : run.trace = events := congrArg Run.trace hrun
  have houtcome := congrArg Run.outcome hrun
  have hposted : hasty.post (.ok ()) ∈ run.trace := by
    rw [htrace]
    exact hevents
  have hstatus := ownStatus_iff _ _ hcheck hposted houtcome rfl
  refine ⟨hcheck, hposted, _, houtcome, rfl, hstatus.1.trans ?_,
    hstatus.2.mpr (Or.inr (Or.inl rfl))⟩
  change (verdict? run.trace).getD _ = _
  rw [htrace, hnone]
  rfl

theorem passThrough_of_overlong (hdirection : p.direction ≠ .bidirectional)
    (hcdb : p.cdb.length ≤ 16) (h : p.Overlong) :
    c.passThrough polls .zero 0 p =
      .done ⟨.error (Requirement.capacity.refusal p), p.clamped, c⟩ := by
  unfold passThrough
  rw [Packet.stage_of_overlong hdirection hcdb h]
  rfl

/-- A packet that reads ten thousand bytes. -/
def oversized : Packet :=
  .read [0x28, 0, 0, 0, 0, 0, 0, 0, 1, 0] 10000

/-- It is refused and cut to fit. Issued again it is not answered in time, and
    without an error frame it keeps the overrun for which it had been refused. -/
theorem oversized_reports_overrun :
    let first := (hasty.passThrough 9 .zero 0 oversized).run (PatientDevice.adapter 9 [] []) .idle
    let again := (hasty.passThrough 9 .zero 0 oversized.clamped).run
      (PatientDevice.adapter 9 [] []) .idle
    first = ⟨[], .ok ⟨.error (.bufferTooSmall .read 10000 8192), oversized.clamped, hasty⟩, .idle⟩ ∧
    oversized.clamped.check .zero 0 = .ok () ∧ hasty.post (.ok ()) ∈ again.trace ∧
    ∃ served, again.outcome = .ok served ∧ served.outcome = .error (.timeout 40) ∧
      served.packet.hostStatus = .dataOverrunUnderrun ∧
      ¬ OwnStatus again.trace served.packet.hostStatus := by
  intro first again
  have hdirection : oversized.direction ≠ .bidirectional := by
    decide
  have hcdb : oversized.cdb.length ≤ 16 := by
    decide
  have hlong : oversized.Overlong := Or.inl (by decide)
  have hcheck : oversized.clamped.check .zero 0 = .ok () :=
    Packet.check_eq_ok_iff_met.mpr (Packet.met_clamped hdirection hcdb
      (fun _ => Nat.le_of_eq List.length_replicate.symm) fun hwrite => nomatch hwrite)
  rcases run_passThrough_hasty hcheck with ⟨events, d, hrun, hposted, hnone⟩
  have htrace : again.trace = events := congrArg Run.trace hrun
  have hfirst : first = ⟨[], .ok ⟨.error (.bufferTooSmall .read 10000 8192), oversized.clamped,
      hasty⟩, .idle⟩ := by
    have hdone : hasty.passThrough 9 .zero 0 oversized = _ :=
      passThrough_of_overlong hdirection hcdb hlong
    change Program.run _ (hasty.passThrough 9 .zero 0 oversized) _ = _
    rw [hdone]
    rfl
  rw [htrace]
  refine ⟨hfirst, hcheck, hposted, _, congrArg Run.outcome hrun, rfl, rfl, ?_⟩
  rintro (hother | hverdict)
  · exact absurd hother (by decide)
  · exact nomatch hnone.symm.trans hverdict

end Controller

end FusionMpt
