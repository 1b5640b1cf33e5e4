import FusionMpt.Proofs.Channel.Polling
import FusionMpt.Proofs.Controller.Report
import FusionMpt.Proofs.Transfer.SameRequest

/-!
# What Went Wrong

While the adapter has a request there are some ten places where passing it
through can fail, in three stages: waiting for the reply, taking it, and
finishing the packet by it. Some of them come when part of the results has been
copied back already. The caller should not have to care. Whatever went wrong is
what is returned, the packet claims nothing, and the controller is faulted.

What went wrong can be read off the events alone, and `mishap?` does so. An
access that failed comes first. Without one, the reply queue tells: read twice
it shows a second reply or a stray one, and never read it shows a wait that was
given up. Nothing else is a mishap.

The one failure that is not of this kind is that of posting the request. The
adapter has not heard of it then, and the controller stays as it was.

## Main definitions

* `Controller.mishap?`: What went wrong while the adapter had the request.

## Theorems

* `Controller.mishap?_of_receive`: Waiting and finishing fail with what went
  wrong.
* `Controller.settled_by_mishap`: What a packet and its controller come to when
  posting it fails, and when something goes wrong after that.
-/

namespace FusionMpt

-- Of a list of accesses, the one that failed is found.
theorem Performed.findSome?_eq {accesses : List Access} {events : List Event} {cause : BusError}
    (h : Performed accesses events (.error cause)) :
    events.findSome? Event.failure? = some cause := by
  rcases h.exists_failed with ⟨front, last, rfl, hfront, hlast⟩
  rw [List.findSome?_append, List.findSome?_eq_none_iff.mpr hfront, List.findSome?_singleton, hlast]
  rfl

theorem Performed.findSome?_eq_none {accesses : List Access} {events : List Event}
    (h : Performed accesses events (.ok ())) : events.findSome? Event.failure? = none :=
  List.findSome?_eq_none_iff.mpr h.failure?_eq_none

namespace Controller

variable {σ : Type} {c : Controller} {policy : PollPolicy} {polls : Nat} {target : Target}
  {lun : UInt64} {p : Packet} {events front rest : List Event}

/-- What the two reads of the reply queue say is wrong. -/
def breach? (token next : UInt32) : Option Error :=
  if next ≠ Register.noReply then some (.device (.desync token next))
  else if token ≠ IoRequest.context ∧ token &&& replyAddressFlag = 0 then
    some (.device (.unexpectedReply token))
  else none

/-- The wait was given up: its last look was in vain when the limit had been
    reached. -/
def timeout? (policy : PollPolicy) (events : List Event) : Option Error :=
  let nanos := stalls events * policy.stall.nanos
  if endsInVain events ∧ policy.isReached nanos then some (.timeout (UInt64.ofNat (nanos / 1000)))
  else none

/-- What went wrong while the adapter had the request, by the events since then:
    an access that failed, a wait that was given up, a second reply or a reply
    to no request. -/
def mishap? (policy : PollPolicy) (events : List Event) : Option Error :=
  match events.findSome? Event.failure? with
  | some cause => some (.bus cause)
  | none =>
    match replies events with
    | [] => timeout? policy events
    | [token, next] => breach? token next
    | _ => none

/-- The error that finishing a packet has ended with, if it has. -/
def failureOf : Except Halt (Except Error Unit × Packet) → Option Error
  | .ok (.error failure, _) => some failure
  | _ => none

theorem mishap?_of_failed {cause : BusError} (h : events.findSome? Event.failure? = some cause) :
    mishap? policy events = some (.bus cause) := by
  unfold mishap?
  rw [h]

theorem mishap?_of_replies {token next : UInt32} (hnone : events.findSome? Event.failure? = none)
    (hreplies : replies events = [token, next]) : mishap? policy events = breach? token next := by
  unfold mishap?
  rw [hnone, hreplies]

theorem mishap?_of_no_replies (hnone : events.findSome? Event.failure? = none)
    (hreplies : replies events = []) : mishap? policy events = timeout? policy events := by
  unfold mishap?
  rw [hnone, hreplies]

-- The wait for the reply.
theorem mishap?_of_poll {outcome : Except Halt (Except Error Unit)}
    (h : (Queue.poll policy polls .zero).run.Path events outcome) :
    (∀ why, outcome = .error why → mishap? policy events = none) ∧
      ∀ failure, outcome = .ok (.error failure) → mishap? policy events = some failure := by
  have hreplies := Queue.replies_poll h
  have hpolled := Queue.path_poll h
  constructor
  · rintro why rfl
    rcases hpolled.halted with ⟨hnone, hend⟩
    rw [mishap?_of_no_replies hnone hreplies]
    unfold timeout?
    rw [hend]
    rfl
  · rintro failure rfl
    rcases hpolled.error_cases with ⟨cause, hcause, rfl⟩ | ⟨hnone, hend, hreached, rfl⟩
    · exact mishap?_of_failed hcause
    · have hzero : Duration.zero.nanos = 0 := rfl
      rw [hzero, Nat.zero_add] at hreached ⊢
      rw [mishap?_of_no_replies hnone hreplies]
      exact if_pos ⟨hend, hreached⟩

-- Taking the reply, after a wait that saw it.
theorem mishap?_of_taken {waiting taking : List Event} {failure : Error}
    (hpoll : (Queue.poll policy polls .zero).run.Path waiting (.ok (.ok ())))
    (htaken : Queue.Taken taking (.error failure)) :
    mishap? policy (waiting ++ taking) = some failure := by
  have hnone : waiting.findSome? Event.failure? = none :=
    List.findSome?_eq_none_iff.mpr (Queue.failure?_poll hpoll)
  have hfailed : (waiting ++ taking).findSome? Event.failure? =
      taking.findSome? Event.failure? := by
    rw [List.findSome?_append, hnone, Option.none_or]
  cases htaken with
  | unread | unchecked | unacknowledged => exact mishap?_of_failed hfailed
  | @desync token next hnext =>
      have hreplies : replies (waiting ++ [Queue.reply token, Queue.reply next]) =
          [token, next] := by
        rw [replies_append, Queue.replies_poll hpoll]
        rfl
      rw [mishap?_of_replies hfailed hreplies]
      exact if_pos hnext

-- Finishing a packet does not look at the reply queue.
theorem ne_readRegister_of_finishing (p : Packet) (region : Region) (offset : UInt32) :
    ∀ access ∈ p.failureReads ++
      [.writeRegister Register.replyQueue (region.lowAddress .errorReply)],
      access ≠ .readRegister offset := by
  intro access hmem
  rcases List.mem_append.mp hmem with hmem | hmem
  · rcases p.isRead_failureReads access hmem with ⟨_, _, rfl⟩
    exact Access.noConfusion
  · rw [List.mem_singleton.mp hmem]
    exact Access.noConfusion

-- Finishing the packet, by a token that was taken.
theorem mishap?_of_finished {waiting rest : List Event} {token : UInt32}
    {result : Except Error Unit}
    (hawait : (Queue.awaitReply policy polls).run.Path waiting (.ok (.ok token)))
    (hfinished : Packet.Finished c.region token p rest result) :
    mishap? policy (waiting ++ rest) = failureOf (.ok (result, p)) := by
  rcases Queue.replies_of_awaitReply hawait with ⟨htaken, hfine⟩
  have hnone : waiting.findSome? Event.failure? = none := List.findSome?_eq_none_iff.mpr hfine
  have hfailed : (waiting ++ rest).findSome? Event.failure? = rest.findSome? Event.failure? := by
    rw [List.findSome?_append, hnone, Option.none_or]
  have hbreach : ∀ accesses, Performed accesses rest (.ok ()) →
      accesses <+: p.failureReads ++
        [.writeRegister Register.replyQueue (c.region.lowAddress .errorReply)] →
      mishap? policy (waiting ++ rest) = breach? token Register.noReply := by
    intro accesses hperformed hmade
    have hother : ∀ event ∈ rest, event.access ≠ .readRegister Register.replyQueue :=
      fun event hmem => ne_readRegister_of_finishing p c.region _ _
        (hmade.subset (hperformed.mem event hmem))
    refine mishap?_of_replies (hfailed.trans hperformed.findSome?_eq_none) ?_
    rw [replies_append, htaken, replies_eq_nil hother, List.append_nil]
  cases hfinished with
  | failed hmade hperformed => exact mishap?_of_failed (hfailed.trans hperformed.findSome?_eq)
  | stray hperformed hcontext hflag =>
      rw [hbreach _ hperformed (p.resultAccesses_prefix c.region)]
      unfold breach?
      rw [if_neg (not_not_intro rfl), if_pos ⟨hcontext, hflag⟩]
      rfl
  | finished hperformed htoken =>
      rw [hbreach _ hperformed (p.completeAccesses_prefix c.region token)]
      have hfits : ¬ (token ≠ IoRequest.context ∧ token &&& replyAddressFlag = 0) := by
        intro hstray
        rcases htoken with hcontext | hflag
        · exact hstray.1 hcontext
        · exact hflag hstray.2
      unfold breach?
      rw [if_neg (not_not_intro rfl), if_neg hfits]
      rfl

/-- Waiting for the reply and finishing the packet by it fail exactly with what
    went wrong. -/
theorem mishap?_of_receive (hadmitted : p.Admitted)
    {outcome : Except Halt (Except Error Unit × Packet)}
    (h : ((c.receive polls).run p).Path events outcome) :
    mishap? c.policy events = failureOf outcome := by
  cases path_receive hadmitted h with
  | halted hawait =>
      cases Queue.path_awaitReply hawait with
      | halted hpoll => exact (mishap?_of_poll hpoll).1 _ rfl
  | unanswered hawait =>
      cases Queue.path_awaitReply hawait with
      | unanswered hpoll => exact (mishap?_of_poll hpoll).2 _ rfl
      | answered hpoll htaken => exact mishap?_of_taken hpoll htaken
  | answered hawait hcomplete =>
      rcases Packet.path_complete_finished hadmitted hcomplete with ⟨result, q, hresult, hfinished⟩
      rw [hresult, mishap?_of_finished hawait hfinished]
      cases result <;> rfl

theorem leaves_receive : (c.receive polls).Leaves p p.SameRequest :=
  Exchange.leaves_bind (Exchange.leaves_attempt (.refl p)) fun token _ h =>
    Packet.leaves_complete h c.region token

/-- A packet that was placed is posted next. If posting it fails, that is all,
    and the controller stays as it was. If not, the packet fails exactly when
    something went wrong, and with that, and the controller is faulted. Either
    way the packet claims nothing, and it is still the same request. -/
theorem settled_by_mishap (adapter : Adapter σ) (s : σ) (hcheck : p.check target lun = .ok ())
    (hplaced : ∀ event ∈ ((c.passThrough polls target lun p).run adapter s).trace,
      ¬ event.IsFailedMemoryWrite) :
    ∃ placing answer rest,
      ((c.passThrough polls target lun p).run adapter s).trace =
        placing ++ c.post answer :: rest ∧
      placing.map Event.access = p.placeAccesses (IoRequest.ofPacket c.region target lun p) ∧
      (∀ cause, answer = .error cause → rest = [] ∧
        ∃ q, ((c.passThrough polls target lun p).run adapter s).outcome =
            .ok ⟨.error (.device (.submission cause)), q, c⟩ ∧
          q.hostStatus = .other ∧ q.targetStatus = .good ∧ q.Blank ∧ p.SameRequest q) ∧
      (answer = .ok () → ∀ failure, mishap? c.policy rest = some failure ↔
        ∃ q, ((c.passThrough polls target lun p).run adapter s).outcome =
            .ok ⟨.error failure, q, { c with health := .faulted }⟩ ∧
          q.targetStatus = .taskAborted ∧ q.Blank ∧ p.SameRequest q) := by
  have hpath := Program.path_run adapter (c.passThrough polls target lun p) s
  generalize ((c.passThrough polls target lun p).run adapter s).trace = events at hpath hplaced ⊢
  generalize ((c.passThrough polls target lun p).run adapter s).outcome = outcome at hpath ⊢
  have hadmitted := ((p.check_eq_ok_iff target lun).mp hcheck).1
  have hno : ∀ cause, (Except.ok () : Except BusError Unit) ≠ .error cause := fun _ h => nomatch h
  cases path_passThrough hcheck hpath with
  | unplaced hplace =>
      rcases exists_failedMemoryWrite hplace with ⟨event, hmem, hfailed⟩
      exact absurd hfailed (hplaced event hmem)
  | @unposted placing cause hplace =>
      refine ⟨placing, .error cause, [], rfl, hplace.map_access_eq, fun cause' h => ⟨rfl, ?_⟩,
        fun h => absurd h.symm (hno cause)⟩
      rw [Except.error.inj h]
      exact ⟨_, rfl, rfl, rfl, p.blank_undelivered, .undelivered p⟩
  -- the other courses have the request posted, and differ in what receiving came to
  | @halted placing rest why hplace hreceive =>
      refine ⟨placing, .ok (), rest, rfl, hplace.map_access_eq, fun cause h => absurd h (hno cause),
        fun _ failure => ?_⟩
      rw [mishap?_of_receive hadmitted hreceive]
      exact ⟨fun h => absurd h.symm (Option.some_ne_none failure), fun ⟨_, h, _⟩ => nomatch h⟩
  | @failed placing rest failure q hplace hreceive =>
      refine ⟨placing, .ok (), rest, rfl, hplace.map_access_eq, fun cause h => absurd h (hno cause),
        fun _ failure' => ?_⟩
      rw [mishap?_of_receive hadmitted hreceive]
      constructor
      · intro h
        rw [← Option.some.inj h]
        exact ⟨_, rfl, rfl, q.blank_aborted, (leaves_receive _ _ q hreceive).trans (.aborted q)⟩
      · rintro ⟨q', houtcome, -⟩
        rw [Except.error.inj (Served.mk.inj (Except.ok.inj houtcome)).1]
        rfl
  | @finished placing rest q hplace hreceive =>
      refine ⟨placing, .ok (), rest, rfl, hplace.map_access_eq, fun cause h => absurd h (hno cause),
        fun _ failure => ?_⟩
      rw [mishap?_of_receive hadmitted hreceive]
      exact ⟨fun h => absurd h.symm (Option.some_ne_none failure), fun ⟨_, h, _⟩ => nomatch h⟩

/-- A packet that reads four bytes and has room for two sense bytes. -/
def sampleSensing : Packet :=
  (Packet.read [0x28, 0, 0, 0, 0, 0, 0, 0, 1, 0] 4).withSense 2

/-- An adapter that always shows a reply, has these tokens in its queue, and has
    memory that reads as ones. -/
def answering : Adapter (List UInt32) where
  answer
    | .readRegister offset, tokens =>
      if offset = Register.replyQueue then (.ok (tokens.headD Register.noReply), tokens.tail)
      else (.ok 8, tokens)
    | .readMemory _ len, tokens => (.ok (Vector.replicate len 1), tokens)
    | access, tokens => (((steady (fun _ => 0) true).answer access ()).1, tokens)

/-- A stray reply is noticed when sense bytes and data have been copied back, and
    still the packet claims nothing. -/
theorem settled_by_mishap_of_answering :
    sampleSensing.check .zero 0 = .ok () ∧
    (∀ event ∈ ((sample.passThrough 1 .zero 0 sampleSensing).run answering [5]).trace,
      ¬ event.IsFailedMemoryWrite) ∧
    ∃ q, ((sample.passThrough 1 .zero 0 sampleSensing).run answering [5]).outcome =
        .ok ⟨.error (.device (.unexpectedReply 5)), q, { sample with health := .faulted }⟩ ∧
      q.inData = [1, 1, 1, 1] ∧ q.senseData = [1, 1] ∧
      q.targetStatus = .taskAborted ∧ q.Blank ∧ sampleSensing.SameRequest q := by
  have hcheck : sampleSensing.check .zero 0 = .ok () := rfl
  generalize hrun : (sample.passThrough 1 .zero 0 sampleSensing).run answering [5] = run
  have hfine : (run.trace.all fun event => event.failure?.isNone) = true := by
    rw [← hrun]
    rfl
  have hplaced : ∀ event ∈ run.trace, ¬ event.IsFailedMemoryWrite := fun event hmem hfailed =>
    hfailed.2 (Option.isNone_iff_eq_none.mp (List.all_eq_true.mp hfine event hmem))
  have hsettled := settled_by_mishap answering [5] hcheck (hrun ▸ hplaced)
  rw [hrun] at hsettled
  rcases hsettled with ⟨placing, answer, rest, htrace, hplacing, -, hposted⟩
  -- two writes place the packet, so the post is the third event
  have hlength : placing.length = 2 := by
    rw [← List.length_map Event.access, hplacing]
    rfl
  have hsplit : sample.post answer :: rest = sample.post (.ok ()) :: run.trace.drop 3 := by
    have hdrop : run.trace.drop 2 = sample.post answer :: rest := by
      rw [htrace]
      exact List.drop_left' hlength
    rw [← hdrop, ← hrun]
    rfl
  rw [List.cons.injEq] at hsplit
  have hanswer : answer = .ok () := eq_of_heq (Event.mk.inj hsplit.1).2
  have hmishap : mishap? sample.policy rest = some (.device (.unexpectedReply 5)) := by
    rw [hsplit.2, ← hrun]
    rfl
  have hfilled : (run.outcome.map fun served => (served.packet.inData, served.packet.senseData)) =
      .ok ([1, 1, 1, 1], [1, 1]) := by
    rw [← hrun]
    rfl
  rcases (hposted hanswer _).mp hmishap with ⟨q, houtcome, htarget, hblank, hsame⟩
  rw [houtcome] at hfilled
  have hbuffers := Prod.mk.inj (Except.ok.inj hfilled)
  exact ⟨hcheck, hplaced, q, houtcome, hbuffers.1, hbuffers.2, htarget, hblank, hsame⟩

end Controller

end FusionMpt
