import FusionMpt.Proofs.Controller.BringUp
import FusionMpt.Proofs.Controller.Course
import FusionMpt.Proofs.Device.Desk

/-!
# The Stages of a Request on the Desk

While the engine is sound the desk is always at one of four stages, and each
stage is one desk, given the number of requests so far and the log of the
replies read. It is idle, with one frame and nothing else. A request that comes
in makes it pending. At some moment, which the engine cannot see, the adapter
posts the reply, and the desk is answered. Reading the reply leaves it taken:
idle again if the reply told of success, and one frame short of that if it
pointed at an error frame. Handing the frame back makes up for it.

Only the step from pending to answered is the adapter's own. In every other
stage nothing is outstanding, so nothing can be posted, and the desk moves by
the engine's accesses alone.

## Main definitions

* `Desk.Quiet`: No request, no reply and one frame.
* `Desk.idle`, `Desk.pending`, `Desk.answered`, `Desk.taken`: The stages.

## Theorems

* `Desk.quiet_of_ended`: Bringing the adapter up quiets the desk.
* `Desk.through_pending`: A pending desk stays pending or is answered.
* `Desk.through_awaitReply`: Waiting for the reply takes the one there is.
* `Desk.through_complete`: Finishing the packet makes the desk idle.
-/

namespace FusionMpt

namespace Desk

open Relation (ReflTransGen)

variable {d e : Desk} {n : Nat} {log : List (Nat × UInt32)} {token : UInt32} {events : List Event}

/-- No request is without an answer, no reply can be read, and there is one
    frame. -/
structure Quiet (d : Desk) : Prop where
  outstanding_eq : d.outstanding = []
  fifo_eq : d.fifo = []
  frames_eq : d.frames = 1

def idle (n : Nat) (log : List (Nat × UInt32)) : Desk :=
  ⟨[], [], 1, n, log⟩

def pending (n : Nat) (log : List (Nat × UInt32)) : Desk :=
  ⟨[n], [], 1, n + 1, log⟩

/-- The frames left by a reply. -/
def framesAfter (token : UInt32) : Nat :=
  if token = IoRequest.context then 1 else 0

def answered (n : Nat) (log : List (Nat × UInt32)) (token : UInt32) : Desk :=
  ⟨[], [(n, token)], framesAfter token, n + 1, log⟩

def taken (n : Nat) (log : List (Nat × UInt32)) (token : UInt32) : Desk :=
  ⟨[], [], framesAfter token, n + 1, log ++ [(n, token)]⟩

/-- The token is one that the adapter posts. -/
def IsToken (token : UInt32) : Prop :=
  token = IoRequest.context ∨ IsFrameToken token

theorem quiet_idle (n : Nat) (log : List (Nat × UInt32)) : (idle n log).Quiet :=
  ⟨rfl, rfl, rfl⟩

theorem Quiet.eq_idle (h : d.Quiet) : d = idle d.posted d.popped := by
  rcases d with ⟨outstanding, fifo, frames, posted, popped⟩
  rcases h with ⟨hout, hfifo, hframes⟩
  simp only at hout hfifo hframes
  rw [hout, hfifo, hframes]
  rfl

theorem ne_context_of_isFrameToken (h : IsFrameToken token) : token ≠ IoRequest.context := by
  intro heq
  rw [heq] at h
  exact h.1 rfl

/-! ## Bringing up -/

-- A word of the handshake may look like a reset. On an empty desk it has nothing
-- to drop, so it is an access like the others.
theorem after_of_isSetup {event : Event} (h : BringUp.IsSetup event.access)
    (hout : d.outstanding = []) (hfifo : d.fifo = []) (hframes : d.frames = 0) :
    d.after event = d := by
  rcases event with ⟨access, answer⟩
  cases access with
  | readRegister offset =>
      have hother : Register.doorbell ≠ Register.replyQueue := by
        decide
      refine after_of_isAside ?_ d
      change offset ≠ Register.replyQueue
      rw [show offset = Register.doorbell from h]
      exact hother
  | writeRegister offset value =>
      cases answer with
      | error cause => rfl
      | ok _ =>
          have hqueues : offset ≠ Register.requestQueue ∧ offset ≠ Register.replyQueue := by
            rcases h with rfl | rfl | rfl <;> decide
          change d.write offset value = d
          unfold write
          rw [if_neg hqueues.1, if_neg hqueues.2]
          by_cases hreset : offset = Register.doorbell ∧
              value = Doorbell.word Doorbell.resetFunction 0
          · rw [if_pos hreset, ← hout, ← hfifo, ← hframes]
          · rw [if_neg hreset]
  | _ => exact absurd h not_false

-- A reset empties the desk and keeps what has happened.
theorem after_reset (d : Desk) :
    d.after ⟨.writeRegister Register.doorbell (Doorbell.word Doorbell.resetFunction 0), .ok ()⟩ =
      { d with outstanding := [], fifo := [], frames := 0 } :=
  rfl

theorem after_arm (d : Desk) (value : UInt32) :
    d.after ⟨.writeRegister Register.replyQueue value, .ok ()⟩ =
      { d with frames := d.frames + 1 } :=
  rfl

/-- Bringing the adapter up quiets the desk, whatever was on it. -/
theorem quiet_of_ended {region : Region} (h : BringUp.Ended region events)
    (hthrough : Through d events e) : e.Quiet := by
  rcases h with ⟨middle, rfl, hmiddle⟩
  cases hthrough with
  | @step _ before _ _ _ _ _ htail =>
      rw [after_reset] at htail
      rcases through_append htail with ⟨cleared, hsetup, harm⟩
      have hcleared := through_eq_of_after_eq rfl
        (fun event hmem => after_of_isSetup (hmiddle event hmem) rfl rfl rfl) hsetup
      rw [hcleared] at harm
      -- nothing is outstanding, so handing the frame over is all that happens
      rcases through_cons rfl harm with ⟨-, hlast⟩
      rw [after_arm] at hlast
      rw [through_nil rfl hlast]
      exact ⟨rfl, rfl, rfl⟩

/-! ## Waiting -/

-- Accesses aside, with nothing outstanding: neither side does anything.
theorem through_aside (hout : d.outstanding = []) (haside : ∀ event ∈ events, IsAside event.access)
    (h : Through d events e) : e = d :=
  through_eq_of_after_eq hout (fun event hmem => after_of_isAside (haside event hmem) d) h

theorem split_singleton {front back : List Nat} {m : Nat} (h : [n] = front ++ m :: back) :
    front = [] ∧ m = n ∧ back = [] := by
  cases front with
  | nil =>
      rw [List.nil_append, List.cons.injEq] at h
      exact ⟨rfl, h.1.symm, h.2.symm⟩
  | cons first front =>
      rw [List.cons_append, List.cons.injEq] at h
      exact absurd h.2.symm (List.append_ne_nil_of_right_ne_nil _ (List.cons_ne_nil _ _))

-- What may be posted on a pending desk is the reply to the one request.
theorem posts_pending (h : ReflTransGen Posts (pending n log) d) :
    d = pending n log ∨ ∃ token, IsToken token ∧ d = answered n log token := by
  rcases h.cases_head with heq | ⟨posted, hpost, hrest⟩
  · exact Or.inl heq.symm
  · -- after the one reply nothing is outstanding any more
    refine Or.inr ?_
    cases hpost with
    | success hout =>
        rcases split_singleton hout with ⟨rfl, rfl, rfl⟩
        exact ⟨IoRequest.context, Or.inl rfl, posts_eq_of_outstanding_eq_nil rfl hrest⟩
    | @failure _ _ _ frames token hout hframes htoken =>
        rcases split_singleton hout with ⟨rfl, rfl, rfl⟩
        refine ⟨token, Or.inr htoken, ?_⟩
        rw [posts_eq_of_outstanding_eq_nil rfl hrest]
        have hnone : frames = 0 := (Nat.succ.inj hframes).symm
        unfold answered framesAfter
        rw [if_neg (ne_context_of_isFrameToken htoken), hnone]
        rfl

/-- A pending desk stays pending or is answered. -/
theorem through_pending (haside : ∀ event ∈ events, IsAside event.access)
    (h : Through (pending n log) events e) :
    e = pending n log ∨ ∃ token, IsToken token ∧ e = answered n log token := by
  -- The moment of the reply is before one of the events or after all of them. Up to
  -- it the desk is pending, and from it on nothing is outstanding.
  induction events with
  | nil =>
      cases h with
      | rest hposts => exact posts_pending hposts
  | cons event events ih =>
      have hfirst := haside event List.mem_cons_self
      have hrest := fun event hmem => haside event (List.mem_cons_of_mem _ hmem)
      cases h with
      | step hposts _ htail =>
          rw [after_of_isAside hfirst] at htail
          rcases posts_pending hposts with rfl | ⟨token, htoken, rfl⟩
          · exact ih hrest htail
          · exact Or.inr ⟨token, htoken, through_aside rfl hrest htail⟩

-- A look that sees the reply bit finds a pending desk answered: the bit is set
-- only when there is a reply to read.
theorem through_look {word : UInt32} (hword : Register.ShowsReply word)
    (h : Through (pending n log) (Queue.look word :: events) e) :
    ∃ token, IsToken token ∧ Through (answered n log token) events e := by
  cases h with
  | step hposts hallows htail =>
      have haside : IsAside (Queue.look word).access := by
        change Register.interruptStatus ≠ Register.replyQueue
        decide
      rw [after_of_isAside haside] at htail
      rcases posts_pending hposts with rfl | ⟨token, htoken, rfl⟩
      · exact absurd rfl ((hallows.2 rfl).mp hword)
      · exact ⟨token, htoken, htail⟩

-- The first read takes the reply of an answered desk, the second finds the queue
-- empty, and acknowledging is an access aside.
theorem through_take (h : Through (answered n log token) events e) {given : UInt32}
    (htaken : Queue.Taken events (.ok given)) : given = token ∧ e = taken n log token := by
  cases htaken
  rcases through_cons rfl h with ⟨hread, h⟩
  have hpop : (answered n log token).after (Queue.reply given) = taken n log token := rfl
  rw [hpop] at h
  rcases through_cons rfl h with ⟨-, h⟩
  have hempty : (taken n log token).after (Queue.reply Register.noReply) = taken n log token := rfl
  rw [hempty] at h
  refine ⟨hread.1 rfl, through_aside rfl (fun event hmem => ?_) h⟩
  rw [List.mem_singleton.mp hmem]
  refine ⟨?_, ?_, ?_⟩ <;> decide

/-- Waiting for the reply to the one request takes it. -/
theorem through_awaitReply {policy : PollPolicy} {polls : Nat} {given : UInt32}
    (hpath : (Queue.awaitReply policy polls).run.Path events (.ok (.ok given)))
    (h : Through (pending n log) events e) : IsToken given ∧ e = taken n log given := by
  cases Queue.path_awaitReply hpath with
  | @answered waiting taking _ hpoll htake =>
      rcases through_append h with ⟨seen, hwaiting, htaking⟩
      rcases Queue.exists_look_of_poll hpoll with ⟨front, word, rfl, hword, hlooking⟩
      rcases through_append hwaiting with ⟨before, hfront, hlook⟩
      have haside : ∀ event ∈ front, IsAside event.access := by
        intro event hmem
        have hlook := hlooking event hmem
        rcases event with ⟨access, answer⟩
        cases access with
        | readRegister offset =>
            have hother : Register.interruptStatus ≠ Register.replyQueue := by
              decide
            change offset ≠ Register.replyQueue
            rw [show offset = Register.interruptStatus from hlook]
            exact hother
        | stall time => exact trivial
        | _ => exact absurd hlook not_false
      -- the reply was posted before the last look, or between it and the look before
      have hanswered : ∃ token, IsToken token ∧ seen = answered n log token := by
        rcases through_pending haside hfront with rfl | ⟨token, htoken, rfl⟩
        · rcases through_look hword hlook with ⟨token, htoken, hseen⟩
          exact ⟨token, htoken, through_nil rfl hseen⟩
        · refine ⟨token, htoken, through_aside rfl (fun event hmem => ?_) hlook⟩
          rw [List.mem_singleton.mp hmem]
          change Register.interruptStatus ≠ Register.replyQueue
          decide
      rcases hanswered with ⟨token, htoken, rfl⟩
      rcases through_take htaking htake with ⟨rfl, rfl⟩
      exact ⟨htoken, rfl⟩

/-! ## Finishing -/

-- Reads of memory are accesses aside.
theorem isAside_of_reads {accesses : List Access} {result : Except BusError Unit}
    (hreads : ∀ access ∈ accesses, ∃ offset len, access = .readMemory offset len)
    (h : Performed accesses events result) : ∀ event ∈ events, IsAside event.access := by
  intro event hmem
  rcases hreads event.access (h.mem event hmem) with ⟨_, _, hread⟩
  rw [hread]
  exact trivial

/-- Finishing the packet makes up for the frame that the reply used up. -/
theorem through_complete {region : Region} {p : Packet}
    (hperformed : Performed (p.completeAccesses region token) events (.ok ()))
    (h : Through (taken n log token) events e) : e = idle (n + 1) (log ++ [(n, token)]) := by
  by_cases hcontext : token = IoRequest.context
  · -- the reply told of success, and the frame has stayed with the adapter
    unfold Packet.completeAccesses at hperformed
    rw [if_pos hcontext, List.append_nil] at hperformed
    rw [through_aside rfl (isAside_of_reads p.isRead_resultAccesses hperformed) h]
    unfold taken idle framesAfter
    rw [if_pos hcontext]
  · -- the last access gives the frame back
    rw [Packet.completeAccesses_of_ne hcontext] at hperformed
    rcases hperformed.snoc with ⟨front, answer, rfl, hfront, harmed⟩
    rcases through_append h with ⟨before, hreads, harm⟩
    rw [through_aside rfl (isAside_of_reads p.isRead_failureReads hfront) hreads] at harm
    cases answer with
    | error cause => exact absurd harmed (Option.some_ne_none cause)
    | ok _ =>
        rcases through_cons rfl harm with ⟨-, hlast⟩
        rw [after_arm] at hlast
        rw [through_nil rfl hlast]
        unfold taken idle framesAfter
        rw [if_neg hcontext]

end Desk

end FusionMpt
