import FusionMpt.Proofs.Controller.Course

/-!
# Whose the Memory Is

The memory that the engine shares with the adapter is used by one of them at a
time. It is the engine's while a packet is placed. The write of the request
queue hands it over, and it comes back with the reply: not when the interrupt
status shows that there is one, but once its token has been read, the queue
has been found empty behind it, and the reply has been acknowledged. A write or
a read on the wrong side of either moment would go unnoticed most of the time
and spoil data now and then.

`Handover` says this of the events of one packet, event by event: what must
have come before an access of a kind, and what cannot come after. It holds of
every packet on every adapter, also of packets that fail halfway and of those
that are refused.

The proof is by the shape of the events. Up to the post they are those of
placing. After it there are looks at the interrupt status, then perhaps the
accesses that take the reply, then perhaps those that finish the packet
(`Watched`).

## Main definitions

* `accessesOf`: The accesses of a kind, in order.
* `Controller.Watched`: What the engine does while the adapter has the request.
* `Controller.Handover`: Memory is written before the post and read after the
  reply.

## Theorems

* `Controller.watched_of_receive`: The wait and what follows it have that shape.
* `Controller.handover_of_posted`: A packet that is posted hands memory over.
* `Controller.handover_of_passThrough`: Every packet does, or leaves the adapter
  alone.
-/

namespace FusionMpt

instance : DecidablePred Access.IsMemoryRead
  | .readMemory .. => .isTrue trivial
  | .readRegister _ | .writeRegister .. | .writeMemory .. | .stall _ | .identity | .attributes
  | .enable _ | .assign _ | .mapRegisters | .allocate _ => .isFalse not_false

instance : DecidablePred Access.IsMemoryWrite
  | .writeMemory .. => .isTrue trivial
  | .readRegister _ | .writeRegister .. | .readMemory .. | .stall _ | .identity | .attributes
  | .enable _ | .assign _ | .mapRegisters | .allocate _ => .isFalse not_false

/-- The accesses of a kind, in order. -/
def accessesOf (kind : Access → Prop) [DecidablePred kind] (events : List Event) : List Access :=
  (events.map Event.access).filter kind

section

variable {kind : Access → Prop} [DecidablePred kind] {front rest events : List Event}

theorem accessesOf_append : accessesOf kind (front ++ rest) =
    accessesOf kind front ++ accessesOf kind rest := by
  unfold accessesOf
  rw [List.map_append, List.filter_append]

theorem accessesOf_eq_nil (h : ∀ event ∈ events, ¬ kind event.access) :
    accessesOf kind events = [] := by
  unfold accessesOf
  rw [List.filter_eq_nil_iff]
  intro access hmem
  rcases List.mem_map.mp hmem with ⟨event, hevent, rfl⟩
  rw [decide_eq_true_eq]
  exact h event hevent

theorem accessesOf_eq_map (h : ∀ event ∈ events, kind event.access) :
    accessesOf kind events = events.map Event.access := by
  unfold accessesOf
  rw [List.filter_eq_self]
  intro access hmem
  rcases List.mem_map.mp hmem with ⟨event, hevent, rfl⟩
  rw [decide_eq_true_eq]
  exact h event hevent

theorem accessesOf_prefix {accesses : List Access}
    (h : events.map Event.access <+: accesses) : accessesOf kind events <+: accesses.filter kind :=
  h.filter _

end

-- Where an element of a list lies that was put together from two.
theorem split_append {α : Type} {first second front rest : List α} {x : α}
    (h : first ++ second = front ++ x :: rest) :
    (∃ back, first = front ++ x :: back) ∨
      ∃ between, front = first ++ between ∧ second = between ++ x :: rest := by
  rcases List.append_eq_append_iff.mp h with ⟨between, rfl, hsecond⟩ | ⟨back, rfl, hback⟩
  · exact Or.inr ⟨between, rfl, hsecond⟩
  · cases back with
    | nil => exact Or.inr ⟨[], by rw [List.append_nil, List.append_nil], hback.symm⟩
    | cons y back =>
        rw [List.cons_append, List.cons.injEq] at hback
        rw [hback.1]
        exact Or.inl ⟨back, rfl⟩

-- The same with one element between the two.
theorem split_middle {α : Type} {first second front rest : List α} {x y : α}
    (h : first ++ y :: second = front ++ x :: rest) :
    (∃ back, first = front ++ x :: back) ∨ (front = first ∧ x = y ∧ rest = second) ∨
      ∃ between, front = first ++ y :: between ∧ second = between ++ x :: rest := by
  rcases split_append h with hfirst | ⟨between, rfl, hbetween⟩
  · exact Or.inl hfirst
  · cases between with
    | nil =>
        rw [List.nil_append, List.cons.injEq] at hbetween
        exact Or.inr (Or.inl ⟨List.append_nil first, hbetween.1.symm, hbetween.2.symm⟩)
    | cons z between =>
        rw [List.cons_append, List.cons.injEq] at hbetween
        rw [hbetween.1]
        exact Or.inr (Or.inr ⟨between, rfl, hbetween.2⟩)

namespace Controller

variable {σ : Type} {c : Controller} {polls : Nat} {target : Target} {lun : UInt64} {p : Packet}
  {request : IoRequest} {events placing rest : List Event}

/-- The event of acknowledging a reply. -/
def acknowledged : Event :=
  ⟨.writeRegister Register.interruptStatus 0, .ok ()⟩

/-- The access is one of those that take a reply. -/
def IsTaking : Access → Prop
  | .readRegister offset => offset = Register.replyQueue
  | .writeRegister offset _ => offset = Register.interruptStatus
  | _ => False

/-- What the engine does while the adapter has the request. -/
inductive Watched (c : Controller) (p : Packet) : List Event → Prop where
  /-- No look has seen a reply. -/
  | unseen {looking : List Event} (hlooking : ∀ event ∈ looking, Queue.IsLook event.access) :
      Watched c p looking
  /-- A reply was seen, and taking it failed. -/
  | untaken {looking taking : List Event} {word : UInt32}
      (hlooking : ∀ event ∈ looking, Queue.IsLook event.access) (hword : Register.ShowsReply word)
      (htaking : ∀ event ∈ taking, IsTaking event.access) :
      Watched c p (looking ++ Queue.look word :: taking)
  /-- A reply was taken, and the packet is being finished by it. -/
  | taken {looking finishing : List Event} {word token : UInt32}
      (hlooking : ∀ event ∈ looking, Queue.IsLook event.access) (hword : Register.ShowsReply word)
      (hfinishing : finishing.map Event.access <+: p.failureReads ++
        [.writeRegister Register.replyQueue (c.region.lowAddress .errorReply)]) :
      Watched c p (looking ++ Queue.look word ::
        [Queue.reply token, Queue.reply Register.noReply, acknowledged] ++ finishing)

theorem isTaking_of_taken {taking : List Event} {failure : Error}
    (h : Queue.Taken taking (.error failure)) : ∀ event ∈ taking, IsTaking event.access := by
  intro event hmem
  cases h with
  | unread | unchecked | desync | unacknowledged =>
      simp only [List.mem_cons, List.not_mem_nil, or_false] at hmem
      rcases hmem with rfl | rfl | rfl <;> exact rfl

/-- The wait for the reply and what follows it have that shape. -/
theorem watched_of_receive (hadmitted : p.Admitted)
    {outcome : Except Halt (Except Error Unit × Packet)}
    (h : ((c.receive polls).run p).Path rest outcome) : Watched c p rest := by
  cases path_receive hadmitted h with
  | halted hawait =>
      cases Queue.path_awaitReply hawait with
      | halted hpoll => exact .unseen (Queue.isLook_of_poll hpoll)
  | unanswered hawait =>
      cases Queue.path_awaitReply hawait with
      | unanswered hpoll => exact .unseen (Queue.isLook_of_poll hpoll)
      | answered hpoll htake =>
          rcases Queue.exists_look_of_poll hpoll with ⟨looking, word, rfl, hword, hlooking⟩
          rw [List.append_assoc]
          exact .untaken hlooking hword (isTaking_of_taken htake)
  | answered hawait hcomplete =>
      cases Queue.path_awaitReply hawait with
      | answered hpoll htake =>
          rcases Queue.exists_look_of_poll hpoll with ⟨looking, word, rfl, hword, hlooking⟩
          cases htake
          rw [List.append_assoc looking]
          rcases Packet.path_complete_performed hadmitted hcomplete with
            ⟨_, _, _, hprefix, hperformed, -⟩
          exact .taken hlooking hword (hperformed.map_access_prefix.trans hprefix)

-- Looks come first, and one that sees the reply is the last of them.
theorem look_of_split {looking after front : List Event} {word : UInt32} {event : Event}
    (hlooking : ∀ event ∈ looking, Queue.IsLook event.access) (hword : Register.ShowsReply word)
    (hsplit : looking ++ Queue.look word :: after = front ++ event :: rest)
    (hevent : event.access = .readRegister Register.replyQueue) :
    ∃ word, Queue.look word ∈ front ∧ Register.ShowsReply word := by
  have hother : Register.replyQueue ≠ Register.interruptStatus := by
    decide
  rcases split_middle hsplit with ⟨back, rfl⟩ | ⟨-, rfl, -⟩ | ⟨between, rfl, -⟩
  · have hlook := hlooking event List.mem_append_cons_self
    rw [hevent] at hlook
    exact absurd hlook hother
  · exact absurd (Access.readRegister.inj hevent).symm hother
  · exact ⟨word, List.mem_append_cons_self, hword⟩

/-- A read of the reply queue comes after a look that saw the reply. -/
theorem Watched.look_before (h : Watched c p events) {front : List Event} {event : Event}
    (hsplit : events = front ++ event :: rest)
    (hevent : event.access = .readRegister Register.replyQueue) :
    ∃ word, Queue.look word ∈ front ∧ Register.ShowsReply word := by
  cases h with
  | unseen hlooking =>
      have hother : Register.replyQueue ≠ Register.interruptStatus := by
        decide
      have hlook := hlooking event (by rw [hsplit]; exact List.mem_append_cons_self)
      rw [hevent] at hlook
      exact absurd hlook hother
  | untaken hlooking hword _ => exact look_of_split hlooking hword hsplit hevent
  | taken hlooking hword _ =>
      rw [List.append_assoc] at hsplit
      exact look_of_split hlooking hword hsplit hevent

theorem not_isMemoryRead_of_isLook (hlooking : ∀ event ∈ events, Queue.IsLook event.access) :
    ∀ event ∈ events, ¬ event.access.IsMemoryRead := by
  intro event hmem hread
  have hlook := hlooking event hmem
  rcases event with ⟨access, answer⟩
  cases access with
  | readMemory offset len => exact hlook
  | _ => exact hread

theorem not_isMemoryRead_of_isTaking (htaking : ∀ event ∈ events, IsTaking event.access) :
    ∀ event ∈ events, ¬ event.access.IsMemoryRead := by
  intro event hmem hread
  have htake := htaking event hmem
  rcases event with ⟨access, answer⟩
  cases access with
  | readMemory offset len => exact htake
  | _ => exact hread

-- Up to the acknowledgement of a reply that was taken, memory is not read.
theorem not_isMemoryRead_of_looking {looking taking : List Event} {word : UInt32}
    (hlooking : ∀ event ∈ looking, Queue.IsLook event.access)
    (htaking : ∀ event ∈ taking, IsTaking event.access) :
    ∀ event ∈ looking ++ Queue.look word :: taking, ¬ event.access.IsMemoryRead := by
  intro event hmem
  rcases List.mem_append.mp hmem with hmem | hmem
  · exact not_isMemoryRead_of_isLook hlooking event hmem
  · rcases List.mem_cons.mp hmem with rfl | hmem
    · exact not_false
    · exact not_isMemoryRead_of_isTaking htaking event hmem

-- The accesses that took a reply.
theorem isTaking_reply (token : UInt32) :
    ∀ event ∈ [Queue.reply token, Queue.reply Register.noReply, acknowledged],
      IsTaking event.access := by
  intro event hmem
  simp only [List.mem_cons, List.not_mem_nil, or_false] at hmem
  rcases hmem with rfl | rfl | rfl <;> exact rfl

/-- A read of memory comes after the reply has been taken and acknowledged. -/
theorem Watched.taken_before (h : Watched c p events) {front : List Event} {event : Event}
    (hsplit : events = front ++ event :: rest) (hevent : event.access.IsMemoryRead) :
    ∃ before token after, front = before ++
      [Queue.reply token, Queue.reply Register.noReply, acknowledged] ++ after := by
  have hmem : event ∈ events := by
    rw [hsplit]
    exact List.mem_append_cons_self
  cases h with
  | unseen hlooking => exact absurd hevent (not_isMemoryRead_of_isLook hlooking event hmem)
  | untaken hlooking _ htaking =>
      exact absurd hevent (not_isMemoryRead_of_looking hlooking htaking event hmem)
  | @taken looking finishing word token hlooking _ _ =>
      rcases split_append hsplit with ⟨back, hback⟩ | ⟨after, rfl, -⟩
      · have hfirst : event ∈ looking ++ Queue.look word ::
            [Queue.reply token, Queue.reply Register.noReply, acknowledged] := by
          rw [hback]
          exact List.mem_append_cons_self
        exact absurd hevent
          (not_isMemoryRead_of_looking hlooking (isTaking_reply token) event hfirst)
      · refine ⟨looking ++ [Queue.look word], token, after, ?_⟩
        simp only [List.append_assoc, List.cons_append, List.nil_append]

/-- Memory is read in the order of the results, with the error frame last. -/
theorem Watched.reads_prefix (h : Watched c p events) :
    accessesOf Access.IsMemoryRead events <+: p.failureReads := by
  cases h with
  | unseen hlooking =>
      rw [accessesOf_eq_nil (not_isMemoryRead_of_isLook hlooking)]
      exact List.nil_prefix
  | untaken hlooking _ htaking =>
      rw [accessesOf_eq_nil (not_isMemoryRead_of_looking hlooking htaking)]
      exact List.nil_prefix
  | @taken looking finishing word token hlooking _ hfinishing =>
      rw [accessesOf_append, accessesOf_eq_nil
        (not_isMemoryRead_of_looking hlooking (isTaking_reply token)), List.nil_append]
      -- all but the last access of finishing a packet are reads, and the last is none
      have hread : ∀ access ∈ p.failureReads, decide access.IsMemoryRead = true := by
        intro access hmem
        rcases p.isRead_failureReads access hmem with ⟨offset, len, rfl⟩
        rfl
      have harm : [Access.writeRegister Register.replyQueue
          (c.region.lowAddress .errorReply)].filter (fun access => access.IsMemoryRead) = [] := rfl
      have hprefix : accessesOf Access.IsMemoryRead finishing <+: _ := accessesOf_prefix hfinishing
      rw [List.filter_append, List.filter_eq_self.mpr hread, harm, List.append_nil] at hprefix
      exact hprefix

/-- Memory is written before the post and read after the reply. What is said of
    an event is said of the events in front of it and of those behind. -/
structure Handover (c : Controller) (p : Packet) (request : IoRequest) (events : List Event) :
    Prop where
  /-- While memory is written, nothing has been posted. -/
  write_before_post : ∀ front event rest, events = front ++ event :: rest →
    event.access.IsMemoryWrite → ∀ earlier ∈ front, ¬ earlier.access.IsPost
  /-- The frame is posted when everything is in its place, and after that
      nothing is written and nothing is posted. -/
  post_of_placed : ∀ front event rest, events = front ++ event :: rest → event.access.IsPost →
    event.access = .writeRegister Register.requestQueue (c.region.lowAddress .request) ∧
      front.map Event.access = p.placeAccesses request ∧
      (∀ earlier ∈ front, earlier.failure? = none) ∧
      ∀ later ∈ rest, ¬ later.access.IsMemoryWrite ∧ ¬ later.access.IsPost
  /-- The reply queue is read when a look has seen a reply. -/
  reply_after_look : ∀ front event rest, events = front ++ event :: rest →
    event.access = .readRegister Register.replyQueue →
    ∃ word, Queue.look word ∈ front ∧ Register.ShowsReply word
  /-- Memory is read when a reply has been taken and acknowledged. -/
  read_after_reply : ∀ front event rest, events = front ++ event :: rest →
    event.access.IsMemoryRead →
    ∃ before token after, front = before ++
      [Queue.reply token, Queue.reply Register.noReply, acknowledged] ++ after
  /-- What is written is the data, the zeros and the frame, in this order. -/
  writes_prefix : accessesOf Access.IsMemoryWrite events <+: p.placeAccesses request
  /-- What is read is the sense data, the data and the error frame, in this
      order. -/
  reads_prefix : accessesOf Access.IsMemoryRead events <+: p.failureReads

-- A write to memory is none of the other accesses that are spoken of.
theorem not_other_of_isMemoryWrite {access : Access} (h : access.IsMemoryWrite) :
    ¬ access.IsPost ∧ ¬ access.IsMemoryRead ∧ access ≠ .readRegister Register.replyQueue := by
  cases access with
  | writeMemory offset bytes => exact ⟨not_false, not_false, Access.noConfusion⟩
  | _ => exact absurd h not_false

/-- A packet of which only writes were made, as far as they got. -/
theorem handover_of_placing (h : events.map Event.access <+: p.placeAccesses request) :
    Handover c p request events := by
  have hwrite : ∀ event ∈ events, event.access.IsMemoryWrite := by
    intro event hmem
    exact p.isMemoryWrite_placeAccesses request _ (h.subset (List.mem_map_of_mem hmem))
  have hother : ∀ front event rest, events = front ++ event :: rest →
      ¬ event.access.IsPost ∧ ¬ event.access.IsMemoryRead ∧
        event.access ≠ .readRegister Register.replyQueue := by
    intro front event rest hsplit
    exact not_other_of_isMemoryWrite (hwrite event (by rw [hsplit]; exact List.mem_append_cons_self))
  refine ⟨?_, ?_, ?_, ?_, ?_, ?_⟩
  · intro front event rest hsplit _ earlier hmem
    have hearlier := hwrite earlier (by rw [hsplit]; exact List.mem_append_left _ hmem)
    exact (not_other_of_isMemoryWrite hearlier).1
  · intro front event rest hsplit hevent
    exact absurd hevent (hother front event rest hsplit).1
  · intro front event rest hsplit hevent
    exact absurd hevent (hother front event rest hsplit).2.2
  · intro front event rest hsplit hevent
    exact absurd hevent (hother front event rest hsplit).2.1
  · rw [accessesOf_eq_map hwrite]
    exact h
  · have hread : ∀ event ∈ events, ¬ event.access.IsMemoryRead := by
      intro event hmem
      exact (not_other_of_isMemoryWrite (hwrite event hmem)).2.1
    rw [accessesOf_eq_nil hread]
    exact List.nil_prefix

/-- A packet that was placed and whose frame was posted, whether or not the
    adapter has taken it, and what was done while the adapter had it. -/
theorem handover_of_posted (answer : Except BusError Unit)
    (hplace : Performed (p.placeAccesses request) placing (.ok ())) (hwatched : Watched c p rest)
    (hrest : ∀ event ∈ rest, ¬ event.access.IsMemoryWrite ∧ ¬ event.access.IsPost) :
    Handover c p request (placing ++ c.post answer :: rest) := by
  have hplacing := Packet.isMemoryWrite_of_placed hplace
  have hwrites : accessesOf Access.IsMemoryWrite (c.post answer :: rest) = [] := by
    refine accessesOf_eq_nil (fun event hmem => ?_)
    rcases List.mem_cons.mp hmem with rfl | hmem
    · exact not_false
    · exact (hrest event hmem).1
  -- An event is among the writes, or it is the post, or it comes after. The writes are
  -- as they are without the post; of the others only those after it read anything.
  refine ⟨?_, ?_, ?_, ?_, ?_, ?_⟩
  · intro front event tail hsplit hevent earlier hmem
    rcases split_middle hsplit with ⟨back, rfl⟩ | ⟨-, rfl, -⟩ | ⟨between, rfl, hbetween⟩
    · exact (not_other_of_isMemoryWrite (hplacing earlier (List.mem_append_left _ hmem))).1
    · exact absurd hevent not_false
    · exact absurd hevent (hrest event (by rw [hbetween]; exact List.mem_append_cons_self)).1
  · intro front event tail hsplit hevent
    rcases split_middle hsplit with ⟨back, rfl⟩ | ⟨rfl, rfl, rfl⟩ | ⟨between, rfl, hbetween⟩
    · have hwrite := hplacing event List.mem_append_cons_self
      exact absurd hevent (not_other_of_isMemoryWrite hwrite).1
    · exact ⟨rfl, hplace.map_access_eq, hplace.failure?_eq_none, hrest⟩
    · exact absurd hevent (hrest event (by rw [hbetween]; exact List.mem_append_cons_self)).2
  · intro front event tail hsplit hevent
    rcases split_middle hsplit with ⟨back, rfl⟩ | ⟨-, rfl, -⟩ | ⟨between, rfl, hbetween⟩
    · have hwrite := hplacing event List.mem_append_cons_self
      exact absurd hevent (not_other_of_isMemoryWrite hwrite).2.2
    · exact absurd hevent Access.noConfusion
    · rcases hwatched.look_before hbetween hevent with ⟨word, hmem, hword⟩
      exact ⟨word, List.mem_append_right _ (List.mem_cons_of_mem _ hmem), hword⟩
  · intro front event tail hsplit hevent
    rcases split_middle hsplit with ⟨back, rfl⟩ | ⟨-, rfl, -⟩ | ⟨between, rfl, hbetween⟩
    · have hwrite := hplacing event List.mem_append_cons_self
      exact absurd hevent (not_other_of_isMemoryWrite hwrite).2.1
    · exact absurd hevent not_false
    · rcases hwatched.taken_before hbetween hevent with ⟨before, token, after, rfl⟩
      refine ⟨placing ++ c.post answer :: before, token, after, ?_⟩
      simp only [List.append_assoc, List.cons_append]
  · rw [accessesOf_append, hwrites, List.append_nil, accessesOf_eq_map hplacing]
    exact hplace.map_access_prefix
  · have hnothing : ∀ event ∈ placing ++ [c.post answer], ¬ event.access.IsMemoryRead := by
      intro event hmem
      rcases List.mem_append.mp hmem with hmem | hmem
      · exact (not_other_of_isMemoryWrite (hplacing event hmem)).2.1
      · rw [List.mem_singleton.mp hmem]
        exact not_false
    rw [← List.singleton_append, ← List.append_assoc, accessesOf_append,
      accessesOf_eq_nil hnothing, List.nil_append]
    exact hwatched.reads_prefix

-- While the adapter has the request, memory is not written and nothing is posted.
theorem idle_of_receive {outcome : Except Halt (Except Error Unit × Packet)}
    (h : ((c.receive polls).run p).Path rest outcome) :
    ∀ event ∈ rest, ¬ event.access.IsMemoryWrite ∧ ¬ event.access.IsPost := by
  have hacknowledge : Register.interruptStatus ≠ Register.requestQueue := by
    decide
  have harm : Register.replyQueue ≠ Register.requestQueue := by
    decide
  exact (uses_receive (fun access => ¬ access.IsMemoryWrite ∧ ¬ access.IsPost)
    (fun _ => ⟨not_false, not_false⟩) (fun _ _ => ⟨not_false, not_false⟩) ⟨not_false, not_false⟩
    ⟨not_false, hacknowledge⟩ ⟨not_false, harm⟩ p).mem h

/-- Whatever the packet, the controller and the adapter, memory is written
    before the post and read after the reply. -/
theorem handover_of_passThrough (adapter : Adapter σ) (s : σ) (c : Controller) (polls : Nat)
    (target : Target) (lun : UInt64) (p : Packet) :
    Handover c p (IoRequest.ofPacket c.region target lun p)
      ((c.passThrough polls target lun p).run adapter s).trace := by
  have hpath := Program.path_run adapter (c.passThrough polls target lun p) s
  generalize ((c.passThrough polls target lun p).run adapter s).trace = events at hpath ⊢
  generalize ((c.passThrough polls target lun p).run adapter s).outcome = outcome at hpath
  cases hcheck : p.check target lun with
  | error refusal =>
      rw [passThrough_refused hcheck] at hpath
      rw [hpath.1]
      exact handover_of_placing List.nil_prefix
  | ok _ =>
      have hadmitted := ((p.check_eq_ok_iff target lun).mp hcheck).1
      cases path_passThrough hcheck hpath with
      | unplaced hplace => exact handover_of_placing hplace.map_access_prefix
      | unposted hplace =>
          have hnothing : ∀ event ∈ ([] : List Event), Queue.IsLook event.access := by
            simp only [List.not_mem_nil, false_implies, implies_true]
          refine handover_of_posted _ hplace (.unseen hnothing) ?_
          simp only [List.not_mem_nil, false_implies, implies_true]
      | halted hplace hreceive | failed hplace hreceive | finished hplace hreceive =>
          exact handover_of_posted _ hplace (watched_of_receive hadmitted hreceive)
            (idle_of_receive hreceive)

end Controller

end FusionMpt
