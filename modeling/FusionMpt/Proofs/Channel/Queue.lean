import FusionMpt.Channel.Queue
import FusionMpt.Proofs.Platform.StraightLine

/-!
# What Waiting for a Reply Does

Waiting is the only loop of the engine, and all it does to the adapter is look
at the interrupt status and let time pass. If it ends well, the last look saw
the reply bit, and nothing happened between that look and the reads of the
reply queue.

Taking the reply is a short line with a test in the middle of it, so it ends in
one of five ways. They are told apart by what the adapter answered, and each of
them is one case of `Taken`.

## Main definitions

* `Register.ShowsReply`: A word of the interrupt status with the reply bit.
* `Event.reply?`, `replies`: What the reply queue was read as.
* `Queue.IsLook`: An access that waiting makes.
* `Queue.Taken`, `Queue.Awaited`: The ways of taking a reply, and of waiting
  for one and taking it.

## Theorems

* `Register.contains_reply_iff`: The engine tests bit 3.
* `Queue.uses_poll`, `Queue.uses_awaitReply`: Waiting only looks, and taking a
  reply only reads and acknowledges.
* `Queue.path_poll_value`, `Queue.exists_look_of_poll`: Waiting ends with a look
  that sees the reply bit.
* `Queue.path_take`: Taking a reply ends in one of its ways.
* `Queue.path_awaitReply`: So does waiting for one and taking it.
* `Queue.replies_of_awaitReply`: What was read when that ended well.
-/

namespace FusionMpt

namespace Register

/-- The word of the interrupt status has the bit of the reply queue set. -/
def ShowsReply (word : UInt32) : Prop :=
  word.toBitVec.getLsbD 3 = true

theorem contains_reply_iff (word : UInt32) :
    (FlagSet.truncate word.toBitVec : InterruptStatus).contains InterruptStatus.reply = true ↔
      ShowsReply word := by
  have hmask : interruptStatusTable.mask &&& InterruptStatus.reply.bits = BitVec.twoPow 32 3 := by
    decide
  have hreply : InterruptStatus.reply.bits = BitVec.twoPow 32 3 := by
    decide
  -- Known bits are kept by the mask and bit 3 is one of them, so the test of a flag
  -- comes down to the test of that bit.
  unfold FlagSet.contains ShowsReply
  rw [decide_eq_true_iff, FlagSet.truncate_bits, BitVec.and_assoc, hmask, hreply,
    BitVec.and_twoPow]
  by_cases hbit : word.toBitVec.getLsbD 3 = true
  · rw [if_pos hbit]
    exact ⟨fun _ => hbit, fun _ => rfl⟩
  · rw [if_neg hbit]
    exact ⟨fun h => absurd h (by decide), fun h => absurd h hbit⟩

end Register

/-- The value of a read of the reply queue that was answered. -/
def Event.reply? : Event → Option UInt32
  | ⟨.readRegister offset, .ok value⟩ => if offset = Register.replyQueue then some value else none
  | _ => none

/-- What the reply queue was read as, in order. -/
def replies (events : List Event) : List UInt32 :=
  events.filterMap Event.reply?

theorem replies_eq_valuesRead (events : List Event) :
    replies events = valuesRead Register.replyQueue events := by
  have hread : Event.reply? = Event.read? Register.replyQueue := by
    funext event
    rcases event with ⟨access, answer⟩
    cases access with
    | readRegister offset => cases answer <;> rfl
    | _ => rfl
  unfold replies valuesRead
  rw [hread]

theorem replies_eq_nil {events : List Event}
    (h : ∀ event ∈ events, event.access ≠ .readRegister Register.replyQueue) :
    replies events = [] := by
  rw [replies_eq_valuesRead, valuesRead_eq_nil h]

theorem replies_append (front rest : List Event) :
    replies (front ++ rest) = replies front ++ replies rest :=
  List.filterMap_append

namespace Queue

variable {policy : PollPolicy} {polls : Nat} {waited : Duration} {events : List Event}

/-- The access is one that waiting makes. -/
def IsLook : Access → Prop
  | .readRegister offset => offset = Register.interruptStatus
  | .stall _ => True
  | _ => False

/-- The event of a look that was answered. -/
def look (word : UInt32) : Event :=
  ⟨.readRegister Register.interruptStatus, .ok word⟩

/-- The event of a read of the reply queue that was answered. -/
def reply (token : UInt32) : Event :=
  ⟨.readRegister Register.replyQueue, .ok token⟩

theorem uses_poll (allowed : Access → Prop) (policy : PollPolicy)
    (hread : allowed (.readRegister Register.interruptStatus))
    (hstall : allowed (.stall policy.stall)) (polls : Nat) (waited : Duration) :
    (poll policy polls waited).run.Uses allowed := by
  -- the wait grows from round to round, and the statement is about any wait
  induction polls generalizing waited with
  | zero => exact trivial
  | succ n ih =>
      unfold poll
      refine Program.uses_run_bind (Program.uses_run_adapt ?_) (fun reasons => ?_)
      · exact Program.uses_run_bind (Program.uses_perform hread) fun _ => trivial
      · by_cases hreply : reasons.contains InterruptStatus.reply = true
        · rw [if_pos hreply]
          exact trivial
        · rw [if_neg hreply]
          by_cases hdue : policy.overdue waited = true
          · rw [if_pos hdue]
            exact trivial
          · rw [if_neg hdue]
            refine Program.uses_run_bind ⟨hstall, fun _ => trivial⟩ (fun _ => ?_)
            cases waited.add? policy.stall with
            | none => exact trivial
            | some waited => exact ih waited

theorem path_interruptReasons_value {reasons : InterruptStatus}
    (h : Register.interruptReasons.attempt.run.Path events (.ok (.ok reasons))) :
    ∃ word, events = [look word] ∧ reasons = .truncate word.toBitVec := by
  unfold Bus.attempt at h
  rw [Program.path_adapt_value] at h
  unfold Register.interruptReasons at h
  rw [Program.path_bind_value] at h
  rcases h with ⟨word, front, rest, rfl, hread, hpure⟩
  rcases hread with ⟨answer, tail, rfl, rfl, hanswer⟩
  rw [Program.path_pure_value] at hpure
  rcases hpure with ⟨rfl, rfl⟩
  simp only [Except.ok.injEq] at hanswer
  rw [← hanswer]
  exact ⟨word, rfl, rfl⟩

/-- Waiting that ends well has seen the reply bit in its last look, and none of
    the looks before failed. -/
theorem path_poll_value (h : (poll policy polls waited).run.Path events (.ok (.ok ()))) :
    ∃ front word, events = front ++ [look word] ∧ Register.ShowsReply word ∧
      ∀ event ∈ front, event.failure? = none := by
  -- The induction is on the looks that are left. A look that sees the bit is the
  -- last; any other is followed by a stall and by the same loop with a longer wait.
  induction polls generalizing waited events with
  | zero => exact absurd h.2 (by simp only [reduceCtorEq, not_false_eq_true])
  | succ n ih =>
      unfold poll at h
      rw [Program.path_bind_value] at h
      rcases h with ⟨reasons, front, rest, rfl, hlook, hrest⟩
      rcases path_interruptReasons_value hlook with ⟨word, rfl, rfl⟩
      by_cases hreply : Register.ShowsReply word
      · rw [if_pos ((Register.contains_reply_iff word).mpr hreply),
          Program.path_pure_value] at hrest
        rcases hrest with ⟨rfl, -⟩
        refine ⟨[], word, rfl, hreply, ?_⟩
        simp only [List.not_mem_nil, false_implies, implies_true]
      · rw [if_neg (mt (Register.contains_reply_iff word).mp hreply)] at hrest
        by_cases hdue : policy.overdue waited = true
        · rw [if_pos hdue] at hrest
          exact absurd hrest.2 (by simp only [Except.ok.injEq, reduceCtorEq, not_false_eq_true])
        · -- the stall cannot fail, so the loop goes on with the longer wait
          rw [if_neg hdue, Program.path_bind_value] at hrest
          rcases hrest with ⟨_, stalled, again, rfl, hstall, hagain⟩
          rcases hstall with ⟨answer, tail, rfl, rfl, -⟩
          cases hsum : waited.add? policy.stall with
          | none =>
              rw [hsum] at hagain
              exact absurd hagain.2 (by simp only [reduceCtorEq, not_false_eq_true])
          | some longer =>
              rw [hsum] at hagain
              rcases ih hagain with ⟨front, last, rfl, hlast, hfront⟩
              refine ⟨look word :: ⟨.stall policy.stall, answer⟩ :: front, last, rfl, hlast, ?_⟩
              intro event hmem
              rcases List.mem_cons.mp hmem with rfl | hmem
              · rfl
              · rcases List.mem_cons.mp hmem with rfl | hmem
                · rfl
                · exact hfront event hmem

theorem uses_awaitReply (allowed : Access → Prop) (policy : PollPolicy)
    (hread : ∀ offset, allowed (.readRegister offset)) (hstall : allowed (.stall policy.stall))
    (hacknowledge : allowed (.writeRegister Register.interruptStatus 0)) :
    (awaitReply policy polls).run.Uses allowed := by
  have hreply : (Bus.readRegister Register.replyQueue).attempt.run.Uses allowed :=
    Program.uses_run_adapt (Program.uses_perform (hread _))
  have hwithdraw : Register.acknowledge.attempt.run.Uses allowed :=
    Program.uses_run_adapt (Program.uses_perform hacknowledge)
  refine Program.uses_run_bind (uses_poll allowed policy (hread _) hstall polls .zero) (fun _ => ?_)
  refine Program.uses_run_bind hreply (fun token => Program.uses_run_bind hreply (fun next => ?_))
  by_cases hnext : next ≠ Register.noReply
  · rw [if_pos hnext]
    exact trivial
  · rw [if_neg hnext]
    exact Program.uses_run_bind hwithdraw fun _ => trivial

/-- The ways in which taking a reply ends, by what the adapter answered. -/
inductive Taken : List Event → Except Error UInt32 → Prop where
  /-- The token could not be read. -/
  | unread {cause : BusError} :
      Taken [⟨.readRegister Register.replyQueue, .error cause⟩] (.error (.bus cause))
  /-- The queue could not be read again. -/
  | unchecked {token : UInt32} {cause : BusError} :
      Taken [reply token, ⟨.readRegister Register.replyQueue, .error cause⟩]
        (.error (.bus cause))
  /-- There was a second reply. -/
  | desync {token next : UInt32} (hnext : next ≠ Register.noReply) :
      Taken [reply token, reply next] (.error (.device (.desync token next)))
  /-- The reply could not be acknowledged. -/
  | unacknowledged {token : UInt32} {cause : BusError} :
      Taken [reply token, reply Register.noReply,
        ⟨.writeRegister Register.interruptStatus 0, .error cause⟩] (.error (.bus cause))
  | taken {token : UInt32} :
      Taken [reply token, reply Register.noReply,
        ⟨.writeRegister Register.interruptStatus 0, .ok ()⟩] (.ok token)

theorem path_take {outcome : Except Halt (Except Error UInt32)}
    (h : take.run.Path events outcome) : ∃ result, outcome = .ok result ∧ Taken events result := by
  rcases h with ⟨first, tail, rfl, h⟩
  cases first with
  | error cause =>
      rcases h with ⟨rfl, rfl⟩
      exact ⟨_, rfl, .unread⟩
  | ok token =>
      rcases h with ⟨second, tail, rfl, h⟩
      cases second with
      | error cause =>
          rcases h with ⟨rfl, rfl⟩
          exact ⟨_, rfl, .unchecked⟩
      | ok next =>
          by_cases hnext : next = Register.noReply
          · rw [hnext] at h ⊢
            rcases h with ⟨acknowledged, tail, rfl, h⟩
            cases acknowledged with
            | error cause =>
                rcases h with ⟨rfl, rfl⟩
                exact ⟨_, rfl, .unacknowledged⟩
            | ok _ =>
                rcases h with ⟨rfl, rfl⟩
                exact ⟨_, rfl, .taken⟩
          · -- the test in the middle of the line throws
            change Program.Path (ite (next ≠ Register.noReply) _ _) tail outcome at h
            rw [if_pos hnext] at h
            rcases h with ⟨rfl, rfl⟩
            exact ⟨_, rfl, .desync hnext⟩

/-- The ways in which waiting for a reply and taking it ends. -/
inductive Awaited (policy : PollPolicy) (polls : Nat) :
    List Event → Except Halt (Except Error UInt32) → Prop where
  | halted {events : List Event} {why : Halt}
      (hpoll : (poll policy polls .zero).run.Path events (.error why)) :
      Awaited policy polls events (.error why)
  | unanswered {events : List Event} {failure : Error}
      (hpoll : (poll policy polls .zero).run.Path events (.ok (.error failure))) :
      Awaited policy polls events (.ok (.error failure))
  | answered {waiting taking : List Event} {result : Except Error UInt32}
      (hpoll : (poll policy polls .zero).run.Path waiting (.ok (.ok ())))
      (htake : Taken taking result) :
      Awaited policy polls (waiting ++ taking) (.ok result)

theorem path_awaitReply {outcome : Except Halt (Except Error UInt32)}
    (h : (awaitReply policy polls).run.Path events outcome) :
    Awaited policy polls events outcome := by
  unfold awaitReply at h
  rw [ExceptT.run_bind, Program.path_bind] at h
  rcases h with ⟨why, hpoll, rfl⟩ | ⟨polled, waiting, taking, rfl, hpoll, hrest⟩
  · exact .halted hpoll
  · cases polled with
    | error failure =>
        rcases hrest with ⟨rfl, rfl⟩
        rw [List.append_nil]
        exact .unanswered hpoll
    | ok _ =>
        rcases path_take hrest with ⟨result, rfl, htake⟩
        exact .answered hpoll htake

-- The events of waiting are looks, however it ends.
theorem isLook_of_poll {outcome : Except Halt (Except Error Unit)}
    (h : (poll policy polls waited).run.Path events outcome) :
    ∀ event ∈ events, IsLook event.access :=
  (uses_poll IsLook policy rfl trivial polls waited).mem h

/-- Waiting that ends well has looked until a look saw the reply. -/
theorem exists_look_of_poll (h : (poll policy polls waited).run.Path events (.ok (.ok ()))) :
    ∃ looking word, events = looking ++ [look word] ∧ Register.ShowsReply word ∧
      ∀ event ∈ looking, IsLook event.access := by
  have hlooks := isLook_of_poll h
  rcases path_poll_value h with ⟨looking, word, rfl, hword, -⟩
  refine ⟨looking, word, rfl, hword, fun event hmem => ?_⟩
  exact hlooks event (List.mem_append_left _ hmem)

-- Waiting looks at the interrupt status and not at the reply queue.
theorem replies_poll {outcome : Except Halt (Except Error Unit)}
    (h : (poll policy polls waited).run.Path events outcome) : replies events = [] := by
  refine replies_eq_nil (fun event hmem heq => ?_)
  have hlook := isLook_of_poll h event hmem
  rw [heq] at hlook
  have hother : Register.replyQueue ≠ Register.interruptStatus := by
    decide
  exact hother hlook

theorem failure?_poll (h : (poll policy polls waited).run.Path events (.ok (.ok ()))) :
    ∀ event ∈ events, event.failure? = none := by
  rcases path_poll_value h with ⟨front, word, rfl, -, hfront⟩
  intro event hmem
  rcases List.mem_append.mp hmem with hmem | hmem
  · exact hfront event hmem
  · rw [List.mem_singleton.mp hmem]
    rfl

/-- Waiting that ends well has read a token, and then the word of ones. -/
theorem replies_of_awaitReply {token : UInt32}
    (h : (awaitReply policy polls).run.Path events (.ok (.ok token))) :
    replies events = [token, Register.noReply] ∧ ∀ event ∈ events, event.failure? = none := by
  cases path_awaitReply h with
  | @answered waiting taking _ hpoll htake =>
      cases htake
      constructor
      · rw [replies_append, replies_poll hpoll]
        rfl
      · intro event hmem
        rcases List.mem_append.mp hmem with hmem | hmem
        · exact failure?_poll hpoll event hmem
        · rcases List.mem_cons.mp hmem with rfl | hmem
          · rfl
          · rcases List.mem_cons.mp hmem with rfl | hmem
            · rfl
            · rw [List.mem_singleton.mp hmem]
              rfl

end Queue

end FusionMpt
