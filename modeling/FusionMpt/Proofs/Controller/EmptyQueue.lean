import FusionMpt.Proofs.Controller.Course

/-!
# Replies That Were Not There

An empty reply queue reads as a word of ones. The engine looks for that word
only in its second read: the first read is the token, and whatever it gives is
taken for one. So when the interrupt status shows a reply that the queue does
not hold, both reads give the word of ones, and the engine goes on with it as
the token of a reply.

As a token, the word of ones has the top bit set and points at the error frame.
The engine reads a frame that nobody has filled in, hands it back to the
adapter, and reports that the packet was finished. Only an access that fails on
the way keeps it from doing so.

## Main definitions

* `Access.IsArm`: The access hands the adapter a frame for an error reply.

## Theorems

* `Queue.awaitReply_eq_noReply_iff`: When the empty queue is taken for a reply.
* `Controller.received_of_empty_queue`: What follows then.
* `Controller.completes_on_empty_queue_iff`: When a packet is finished without
  a reply, and when the frame is handed back.
-/

namespace FusionMpt

/-- The access hands the adapter a frame for an error reply. -/
def Access.IsArm : Access → Prop
  | .writeRegister offset _ => offset = Register.replyQueue
  | _ => False

namespace Queue

variable {policy : PollPolicy} {polls : Nat} {waited : Duration} {events : List Event}

theorem awaitReply_eq_noReply_iff {outcome : Except Halt (Except Error UInt32)}
    (h : (awaitReply policy polls).run.Path events outcome) :
    outcome = .ok (.ok Register.noReply) ↔
      replies events = [Register.noReply, Register.noReply] ∧
        ∀ event ∈ events, event.failure? = none := by
  constructor
  · intro houtcome
    rw [houtcome] at h
    exact replies_of_awaitReply h
  · intro hall
    rcases hall with ⟨hreplies, hnone⟩
    -- Of the ways of taking a reply only one has these two reads and no failure.
    cases path_awaitReply h with
    | halted hpoll =>
        rw [replies_poll hpoll] at hreplies
        exact absurd hreplies (List.cons_ne_nil _ _).symm
    | unanswered hpoll =>
        rw [replies_poll hpoll] at hreplies
        exact absurd hreplies (List.cons_ne_nil _ _).symm
    | answered hpoll htake =>
        rw [replies_append, replies_poll hpoll, List.nil_append] at hreplies
        cases htake with
        | unread => exact absurd hreplies (List.cons_ne_nil _ _).symm
        | @unchecked token cause =>
            change [token] = _ at hreplies
            rw [List.cons.injEq] at hreplies
            exact absurd hreplies.2 (List.cons_ne_nil _ _).symm
        | @desync token next hnext =>
            change [token, next] = _ at hreplies
            rw [List.cons.injEq, List.cons.injEq] at hreplies
            exact absurd hreplies.2.1 hnext
        | unacknowledged =>
            have hack := hnone _ (List.mem_append_right _ (List.mem_cons_of_mem _
              (List.mem_cons_of_mem _ List.mem_cons_self)))
            exact absurd hack (Option.some_ne_none _)
        | @taken token =>
            change [token, Register.noReply] = _ at hreplies
            rw [List.cons.injEq] at hreplies
            rw [hreplies.1]

end Queue

namespace Controller

variable {σ : Type} {c : Controller} {polls : Nat} {target : Target} {lun : UInt64} {p : Packet}
  {events : List Event}

/-- Only a failing access gets in the way: the packet is finished exactly when
    no access fails, and the frame is handed back exactly when none fails
    before. -/
def GoesThrough (finished : Prop) (events : List Event) : Prop :=
  (finished ↔ ∀ event ∈ events, event.failure? = none) ∧
    ((∃ event ∈ events, event.access.IsArm) ↔
      ∀ event ∈ events, ¬ event.access.IsArm → event.failure? = none)

-- Events in front that did not fail and handed nothing back change nothing.
theorem GoesThrough.append {finished : Prop} {front rest : List Event}
    (hfront : ∀ event ∈ front, ¬ event.access.IsArm ∧ event.failure? = none)
    (h : GoesThrough finished rest) : GoesThrough finished (front ++ rest) := by
  refine ⟨h.1.trans ⟨fun hrest event hmem => ?_, fun hall event hmem => ?_⟩,
    ⟨fun hexists => ?_, fun hall => ?_⟩⟩
  · rcases List.mem_append.mp hmem with hmem | hmem
    · exact (hfront event hmem).2
    · exact hrest event hmem
  · exact hall event (List.mem_append_right _ hmem)
  · rcases hexists with ⟨armed, hmem, harmed⟩
    rcases List.mem_append.mp hmem with hmem | hmem
    · exact absurd harmed (hfront armed hmem).1
    · intro event hmem' hevent
      rcases List.mem_append.mp hmem' with hmem' | hmem'
      · exact (hfront event hmem').2
      · exact h.2.mp ⟨armed, hmem, harmed⟩ event hmem' hevent
  · rcases h.2.mpr fun event hmem => hall event (List.mem_append_right _ hmem) with
      ⟨event, hmem, hevent⟩
    exact ⟨event, List.mem_append_right _ hmem, hevent⟩

-- Waiting for a reply and taking it hands no frame back.
theorem not_isArm_of_awaitReply {policy : PollPolicy} {outcome : Except Halt (Except Error UInt32)}
    (h : (Queue.awaitReply policy polls).run.Path events outcome) :
    ∀ event ∈ events, ¬ event.access.IsArm := by
  have hother : Register.interruptStatus ≠ Register.replyQueue := by
    decide
  exact (Queue.uses_awaitReply (fun access => ¬ access.IsArm) policy
    (fun _ => not_false) not_false hother).mem h

-- The word of ones is completed like any token that points at the error frame: the
-- same accesses in a straight line, of which the last hands the frame back.
theorem path_complete_noReply (hadmitted : p.Admitted)
    {outcome : Except Halt (Except Error Unit × Packet)}
    (h : ((Packet.complete c.region Register.noReply).run p).Path events outcome) :
    ∃ result q, outcome = .ok (result, q) ∧ GoesThrough (result = .ok ()) events := by
  have hflagged : Register.noReply &&& replyAddressFlag ≠ 0 := by
    decide
  have hcontext : Register.noReply ≠ IoRequest.context := by
    decide
  rcases Packet.performs_complete hadmitted c.region (Or.inr hflagged) events outcome h with
    ⟨result, q, rfl, hperformed⟩
  refine ⟨_, q, rfl, ?_, ?_⟩
  · rw [← hperformed.eq_ok_iff]
    cases result with
    | ok _ => exact ⟨fun _ => rfl, fun _ => rfl⟩
    | error cause =>
        constructor
        · intro h
          cases h
        · intro h
          cases h
  · rw [Packet.completeAccesses_of_ne hcontext] at hperformed
    -- all that comes before the last access are reads of memory
    have harm : (Access.writeRegister Register.replyQueue
      (c.region.lowAddress .errorReply)).IsArm := rfl
    refine hperformed.exists_last_iff (fun access hmem => ?_) harm
    rcases p.isRead_failureReads access hmem with ⟨_, _, rfl⟩
    exact not_false

/-- What follows once both reads have found the queue empty. -/
theorem received_of_empty_queue (hadmitted : p.Admitted)
    {outcome : Except Halt (Except Error Unit × Packet)}
    (h : ((c.receive polls).run p).Path events outcome)
    (hreplies : replies events = [Register.noReply, Register.noReply]) :
    ∃ result q, outcome = .ok (result, q) ∧ GoesThrough (result = .ok ()) events := by
  cases path_receive hadmitted h with
  | halted hawait =>
      cases Queue.path_awaitReply hawait with
      | halted hpoll =>
          rw [Queue.replies_poll hpoll] at hreplies
          exact absurd hreplies (List.cons_ne_nil _ _).symm
  | @unanswered _ failure hawait =>
      -- the wait failed, so some access did: the queue would have been accepted otherwise
      have hiff := Queue.awaitReply_eq_noReply_iff hawait
      have hnot : ¬ ∀ event ∈ events, event.failure? = none := by
        intro hnone
        exact absurd (hiff.mpr ⟨hreplies, hnone⟩)
          (by simp only [Except.ok.injEq, reduceCtorEq, not_false_eq_true])
      have harm := not_isArm_of_awaitReply hawait
      refine ⟨.error failure, p, rfl, ⟨fun hok => ?_, fun hnone => absurd hnone hnot⟩,
        ⟨fun hexists => ?_, fun hnone => ?_⟩⟩
      · exact absurd hok (by simp only [reduceCtorEq, not_false_eq_true])
      · rcases hexists with ⟨event, hmem, hevent⟩
        exact absurd hevent (harm event hmem)
      · exact absurd (fun event hmem => hnone event hmem (harm event hmem)) hnot
  | @answered waiting rest token result hawait hcomplete =>
      rcases Queue.replies_of_awaitReply hawait with ⟨htaken, hnone⟩
      have hrest : replies rest = [] :=
        replies_eq_nil ((Packet.uses_complete
          (fun access => access ≠ .readRegister Register.replyQueue)
          (fun _ _ => Access.noConfusion) Access.noConfusion token p).mem hcomplete)
      rw [replies_append, htaken, hrest, List.append_nil, List.cons.injEq] at hreplies
      rw [hreplies.1] at hcomplete
      rcases path_complete_noReply hadmitted hcomplete with ⟨result, q, houtcome, hthrough⟩
      have hwaiting := not_isArm_of_awaitReply hawait
      exact ⟨result, q, houtcome,
        hthrough.append fun event hmem => ⟨hwaiting event hmem, hnone event hmem⟩⟩

theorem not_isArm_of_placed {request : IoRequest} {result : Except BusError Unit}
    (h : Performed (p.placeAccesses request) events result) :
    ∀ event ∈ events, ¬ event.access.IsArm := by
  intro event hmem harm
  have hwrite := Packet.isMemoryWrite_of_placed h event hmem
  rcases event with ⟨access, answer⟩
  cases access with
  | writeRegister offset value => exact hwrite
  | _ => exact harm

theorem not_isArm_post (c : Controller) (answer : Except BusError Unit) :
    ¬ (c.post answer).access.IsArm := by
  change ¬ Register.requestQueue = Register.replyQueue
  decide

-- Neither placing nor posting reads the reply queue, hands a frame back or has
-- failed, so what is true of the rest is true of the whole.
theorem goesThrough_of_posted (hadmitted : p.Admitted) {request : IoRequest}
    {front rest : List Event} {outcome : Except Halt (Except Error Unit × Packet)} {finished : Prop}
    (hplace : Performed (p.placeAccesses request) front (.ok ()))
    (hreceive : ((c.receive polls).run p).Path rest outcome)
    (hreplies :
      replies (front ++ c.post (.ok ()) :: rest) = [Register.noReply, Register.noReply])
    (hfinished : ∀ result q, outcome = .ok (result, q) → (result = .ok () ↔ finished)) :
    GoesThrough finished (front ++ c.post (.ok ()) :: rest) := by
  rw [replies_append, replies_of_placed hplace, List.nil_append] at hreplies
  rcases received_of_empty_queue hadmitted hreceive hreplies with ⟨result, q, houtcome, hthrough⟩
  rw [← List.singleton_append, ← List.append_assoc]
  refine GoesThrough.append (fun event hmem => ?_)
    ⟨(hfinished result q houtcome).symm.trans hthrough.1, hthrough.2⟩
  rcases List.mem_append.mp hmem with hmem | hmem
  · exact ⟨not_isArm_of_placed hplace event hmem, hplace.failure?_eq_none event hmem⟩
  · rw [List.mem_singleton.mp hmem]
    exact ⟨not_isArm_post c _, rfl⟩

/-- What a packet's course comes to once both reads have found the queue
    empty. -/
theorem passed_on_empty_queue (hcheck : p.check target lun = .ok ())
    {outcome : Except Halt Served} (h : (c.passThrough polls target lun p).Path events outcome)
    (hreplies : replies events = [Register.noReply, Register.noReply]) :
    GoesThrough (∃ served, outcome = .ok served ∧ served.outcome = .ok ()) events := by
  have hadmitted := ((p.check_eq_ok_iff target lun).mp hcheck).1
  -- A packet that was not posted has read nothing, so two of the courses are out.
  cases path_passThrough hcheck h with
  | unplaced hplace =>
      rw [replies_of_placed hplace] at hreplies
      exact absurd hreplies (List.cons_ne_nil _ _).symm
  | unposted hplace =>
      rw [replies_append, replies_of_placed hplace] at hreplies
      exact absurd hreplies (List.cons_ne_nil _ _).symm
  | halted hplace hreceive =>
      refine goesThrough_of_posted hadmitted hplace hreceive hreplies (fun result q heq => ?_)
      exact absurd heq (by simp only [reduceCtorEq, not_false_eq_true])
  | @failed _ _ failure q hplace hreceive =>
      refine goesThrough_of_posted hadmitted hplace hreceive hreplies (fun result q heq => ?_)
      rw [Except.ok.injEq, Prod.mk.injEq] at heq
      rw [← heq.1]
      simp only [Except.ok.injEq, reduceCtorEq, exists_eq_left']
  | finished hplace hreceive =>
      refine goesThrough_of_posted hadmitted hplace hreceive hreplies (fun result q heq => ?_)
      rw [Except.ok.injEq, Prod.mk.injEq] at heq
      exact ⟨fun _ => ⟨_, rfl, rfl⟩, fun _ => heq.1.symm⟩

/-- An answer of the empty queue is taken for a reply exactly when both reads
    gave it and nothing failed, and a packet is finished by it, and the frame
    handed back, unless an access fails. Every other token that is taken was
    read from the queue before the queue was read as empty. -/
theorem completes_on_empty_queue_iff (adapter : Adapter σ) (s : σ) (policy : PollPolicy)
    (hcheck : p.check target lun = .ok ()) :
    (∀ token, ((Queue.awaitReply policy polls).run.run adapter s).outcome = .ok (.ok token) →
      replies ((Queue.awaitReply policy polls).run.run adapter s).trace =
        [token, Register.noReply]) ∧
    (((Queue.awaitReply policy polls).run.run adapter s).outcome = .ok (.ok Register.noReply) ↔
      replies ((Queue.awaitReply policy polls).run.run adapter s).trace =
        [Register.noReply, Register.noReply] ∧
      ∀ event ∈ ((Queue.awaitReply policy polls).run.run adapter s).trace,
        event.failure? = none) ∧
    (replies ((c.passThrough polls target lun p).run adapter s).trace =
        [Register.noReply, Register.noReply] →
      GoesThrough (∃ served, ((c.passThrough polls target lun p).run adapter s).outcome =
        .ok served ∧ served.outcome = .ok ())
        ((c.passThrough polls target lun p).run adapter s).trace) := by
  have hawait := Program.path_run adapter (Queue.awaitReply policy polls).run s
  have hpass := Program.path_run adapter (c.passThrough polls target lun p) s
  refine ⟨fun token htoken => ?_, Queue.awaitReply_eq_noReply_iff hawait, fun hreplies => ?_⟩
  · rw [htoken] at hawait
    exact (Queue.replies_of_awaitReply hawait).1
  · exact passed_on_empty_queue hcheck hpass hreplies

/-- An adapter that always shows a reply and never has one. -/
def boaster : Adapter Unit :=
  steady (fun offset => if offset = Register.replyQueue then Register.noReply else 8) true

theorem completes_on_empty_queue_of_boaster :
    (Packet.noData [0, 0, 0, 0, 0, 0]).check .zero 0 = .ok () ∧
    GoesThrough (∃ served, ((sample.passThrough 1 .zero 0 (.noData [0, 0, 0, 0, 0, 0])).run
        boaster ()).outcome = .ok served ∧ served.outcome = .ok ())
      ((sample.passThrough 1 .zero 0 (.noData [0, 0, 0, 0, 0, 0])).run boaster ()).trace := by
  have hcheck : (Packet.noData [0, 0, 0, 0, 0, 0]).check .zero 0 = .ok () := rfl
  exact ⟨hcheck, (completes_on_empty_queue_iff boaster () {} hcheck).2.2 rfl⟩

/-- A packet that nobody has answered is reported as finished. -/
theorem finished_without_reply :
    let run := (sample.passThrough 1 .zero 0 (.noData [0, 0, 0, 0, 0, 0])).run boaster ()
    replies run.trace = [Register.noReply, Register.noReply] ∧
    (∃ served, run.outcome = .ok served ∧ served.outcome = .ok ()) ∧
    (∃ event ∈ run.trace, event.access.IsArm) ∧
    ((Queue.awaitReply {} 1).run.run boaster ()).outcome = .ok (.ok Register.noReply) := by
  refine ⟨rfl, ⟨_, rfl, rfl⟩, ?_, rfl⟩
  refine ⟨⟨.writeRegister Register.replyQueue (sample.region.lowAddress .errorReply), .ok ()⟩,
    ?_, rfl⟩
  exact List.mem_of_getElem? (i := 9) rfl

end Controller

end FusionMpt
