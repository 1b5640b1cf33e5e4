import FusionMpt.Proofs.Device.Stage

/-!
# Requests and Replies Match

Every request has the same context, so the engine cannot tell from a reply
which request it answers. What makes up for it is that between two calls a
sound engine has left the adapter nothing to answer: no request is
outstanding, no reply is waiting to be read, and the one frame for an error
reply is the adapter's. A request then meets a quiet desk, and the one reply it
waits for can only be its own.

The invariant survives everything that may happen to a controller. A failure
before the request was posted has not touched the desk. A failure after it
leaves the desk in an unknown state, but it also faults the controller, and
bringing the adapter up again empties the desk before the controller is sound
again.

## Main definitions

* `History`: The states that a controller and its adapter get into.

## Theorems

* `Controller.desk_of_course`: What one packet does to the desk.
* `Controller.quiet_of_history`: Between calls, the desk of a sound controller
  is quiet.
* `Controller.reply_matches_request`: A packet that is finished has consumed the
  reply to the request it posted.
-/

namespace FusionMpt

open Desk

/-- The states that a controller and its adapter get into: the adapter was
    started, and since then packets have been passed through, with whatever
    outcome, and the adapter has been brought up again, with success. In
    between the adapter may post replies of its own accord. -/
inductive History {σ : Type} (adapter : Adapter σ) (view : σ → Desk) : Controller → σ → Prop where
  | started {buffer : Buffer} {policy : PollPolicy} {s : σ} {c : Controller}
      (hstart : ((Controller.start buffer policy).run.run adapter s).outcome = .ok (.ok c)) :
      History adapter view c ((Controller.start buffer policy).run.run adapter s).state
  | served {c : Controller} {s : σ} {polls : Nat} {target : Target} {lun : UInt64} {p : Packet}
      {served : Served} (hbefore : History adapter view c s)
      (hserved : ((c.passThrough polls target lun p).run adapter s).outcome = .ok served) :
      History adapter view served.controller ((c.passThrough polls target lun p).run adapter s).state
  | restarted {c c' : Controller} {s : σ} (hbefore : History adapter view c s)
      (hrestart : (c.restart.run adapter s).outcome = .ok (.ok (), c')) :
      History adapter view c' (c.restart.run adapter s).state
  | rested {c : Controller} {s s' : σ} (hbefore : History adapter view c s)
      (hposts : Relation.ReflTransGen Desk.Posts (view s) (view s')) : History adapter view c s'

namespace Controller

variable {σ : Type} {c : Controller} {polls : Nat} {target : Target} {lun : UInt64} {p : Packet}
  {request : IoRequest} {events rest : List Event} {n : Nat} {log : List (Nat × UInt32)}
  {d e : Desk} {served : Served}

theorem not_sound_of_faulted (c : Controller) :
    { c with health := .faulted }.isFaulted ≠ false := by
  change decide (Health.faulted = Health.faulted) ≠ false
  decide

-- Placing a packet does not touch the conversation.
theorem isAside_of_placed {result : Except BusError Unit}
    (h : Performed (p.placeAccesses request) events result) :
    ∀ event ∈ events, IsAside event.access := by
  intro event hmem
  have hwrite := Packet.isMemoryWrite_of_placed h event hmem
  rcases event with ⟨access, answer⟩
  cases access with
  | readRegister offset => exact absurd hwrite not_false
  | writeRegister offset value => exact absurd hwrite not_false
  | _ => exact trivial

-- The wait takes the one reply there is. Finishing the packet reads nothing from the
-- queue, and makes up for the frame that the reply used up.
theorem desk_of_receive (hadmitted : p.Admitted) {q : Packet}
    (hreceive : ((c.receive polls).run p).Path events (.ok (.ok (), q)))
    (h : Through (pending n log) events e) :
    ∃ token, e = idle (n + 1) (log ++ [(n, token)]) ∧
      replies events = [token, Register.noReply] := by
  cases path_receive hadmitted hreceive with
  | @answered waiting rest token _ hawait hcomplete =>
      rcases through_append h with ⟨between, hwaiting, hfinishing⟩
      rcases through_awaitReply hawait hwaiting with ⟨htoken, rfl⟩
      have hflagged : token = IoRequest.context ∨ token &&& replyAddressFlag ≠ 0 := by
        rcases htoken with htoken | htoken
        · exact Or.inl htoken
        · exact Or.inr htoken.1
      rcases Packet.performs_complete hadmitted c.region hflagged _ _ hcomplete with
        ⟨result, r, hresult, hperformed⟩
      rw [Except.ok.injEq, Prod.mk.injEq] at hresult
      cases result with
      | error cause =>
          cases hresult.1
      | ok value =>
          refine ⟨token, through_complete hperformed hfinishing, ?_⟩
          have hquiet : replies rest = [] :=
            replies_eq_nil ((Packet.uses_complete
              (fun access => access ≠ .readRegister Register.replyQueue)
              (fun _ _ => Access.noConfusion) Access.noConfusion token p).mem hcomplete)
          rw [replies_append, (Queue.replies_of_awaitReply hawait).1, hquiet, List.append_nil]

/-- What one packet does to the desk of a sound controller. If the controller
    stays sound the desk is quiet again; if the packet was finished, the reply
    that was read is the one to the request that was posted. -/
theorem desk_of_course (hadmitted : p.Admitted)
    (hcourse : Course c polls p request events (.ok served)) (h : Through (idle n log) events e) :
    (served.controller.isFaulted = false → e.Quiet) ∧
    (served.outcome = .ok () → ∃ token, e = idle (n + 1) (log ++ [(n, token)]) ∧
      replies events = [token, Register.noReply]) := by
  cases hcourse with
  | unplaced hplace =>
      rw [through_aside rfl (isAside_of_placed hplace) h]
      exact ⟨fun _ => quiet_idle n log, fun hok => absurd hok (error_ne_ok _)⟩
  | unposted hplace =>
      rcases through_append h with ⟨placed, hplacing, hposting⟩
      rw [through_aside rfl (isAside_of_placed hplace) hplacing] at hposting
      -- the adapter has not taken the write
      rcases through_cons rfl hposting with ⟨-, hlast⟩
      have hfailed : ∀ cause, (c.post (.error cause)).failure? ≠ none :=
        fun cause => Option.some_ne_none cause
      rw [after_of_failure (hfailed _)] at hlast
      rw [through_nil rfl hlast]
      exact ⟨fun _ => quiet_idle n log, fun hok => absurd hok (error_ne_ok _)⟩
  | failed hplace hreceive =>
      exact ⟨fun hsound => absurd hsound (not_sound_of_faulted c), fun hok => absurd hok (error_ne_ok _)⟩
  | @finished placing rest q hplace hreceive =>
      rcases through_append h with ⟨placed, hplacing, hposting⟩
      rw [through_aside rfl (isAside_of_placed hplace) hplacing] at hposting
      rcases through_cons rfl hposting with ⟨-, hreceiving⟩
      have hposted : (idle n log).after (c.post (.ok ())) = pending n log := rfl
      rw [hposted] at hreceiving
      rcases desk_of_receive hadmitted hreceive hreceiving with ⟨token, rfl, hreplies⟩
      refine ⟨fun _ => quiet_idle _ _, fun _ => ⟨token, rfl, ?_⟩⟩
      rw [replies_append, replies_of_placed hplace]
      exact hreplies

-- The same for any packet: one that is refused leaves the desk alone.
theorem desk_of_passThrough (hquiet : d.Quiet)
    (hpath : (c.passThrough polls target lun p).Path events (.ok served))
    (h : Through d events e) :
    (served.controller.isFaulted = false → e.Quiet) ∧
    (served.outcome = .ok () → ∃ token,
      e = idle (d.posted + 1) (d.popped ++ [(d.posted, token)]) ∧
      replies events = [token, Register.noReply]) := by
  rw [hquiet.eq_idle] at h
  cases hcheck : p.check target lun with
  | error refusal =>
      rw [passThrough_refused hcheck] at hpath
      rcases hpath with ⟨rfl, hserved⟩
      rw [Except.ok.injEq] at hserved
      rw [through_nil rfl h, hserved]
      exact ⟨fun _ => quiet_idle _ _, fun hok => absurd hok (error_ne_ok _)⟩
  | ok _ =>
      have hadmitted := ((p.check_eq_ok_iff target lun).mp hcheck).1
      exact desk_of_course hadmitted (path_passThrough hcheck hpath) h

-- Passing a packet through does not make a faulted controller sound. The invariant
-- needs it: of a controller that was faulted it says nothing.
theorem isFaulted_of_passThrough
    (hpath : (c.passThrough polls target lun p).Path events (.ok served))
    (hsound : served.controller.isFaulted = false) : c.isFaulted = false := by
  cases hcheck : p.check target lun with
  | error refusal =>
      rw [passThrough_refused hcheck] at hpath
      rw [Except.ok.inj hpath.2] at hsound
      exact hsound
  | ok _ =>
      cases path_passThrough hcheck hpath with
      | unplaced _ => exact hsound
      | unposted _ => exact hsound
      | failed _ _ => exact absurd hsound (not_sound_of_faulted c)
      | finished _ _ => exact hsound

variable {adapter : Adapter σ} {view : σ → Desk} {s : σ}

/-- Between calls, the desk of a sound controller is quiet. -/
theorem quiet_of_history (hconforms : Conforms adapter view) (h : History adapter view c s)
    (hsound : c.isFaulted = false) : (view s).Quiet := by
  -- The invariant is carried from call to call: starting establishes it, a packet
  -- keeps it unless it faults the controller, and bringing up again restores it.
  induction h with
  | @started buffer policy s c hstart =>
      have hpath := Program.path_run adapter (start buffer policy).run s
      rw [hstart] at hpath
      exact quiet_of_ended (path_start_value hpath) (through_run hconforms _ s)
  | @served c s polls target lun p served _ hserved ih =>
      have hpath := Program.path_run adapter (c.passThrough polls target lun p) s
      rw [hserved] at hpath
      have hquiet := ih (isFaulted_of_passThrough hpath hsound)
      exact (desk_of_passThrough hquiet hpath (through_run hconforms _ s)).1 hsound
  | @restarted c c' s _ hrestart _ =>
      -- whatever was on the desk, the reset has dropped it
      have hpath := Program.path_run adapter c.restart s
      rw [hrestart] at hpath
      exact quiet_of_ended (path_restart_value hpath) (through_run hconforms _ s)
  | rested _ hposts ih =>
      have hquiet := ih hsound
      rw [posts_eq_of_outstanding_eq_nil hquiet.outstanding_eq hposts]
      exact hquiet

/-- Whatever has happened to a controller, as long as it is sound the adapter
    has no request without an answer, no reply that could be read, and one frame
    for an error reply. So the request of the next packet is the only one to be
    answered, and a packet that is finished has read the reply to it: the log of
    replies has grown by that one, under the number of the request. -/
theorem reply_matches_request (hconforms : Conforms adapter view)
    (hhistory : History adapter view c s) (hsound : c.isFaulted = false) :
    (view s).outstanding = [] ∧ (view s).fifo = [] ∧ (view s).frames = 1 ∧
    ∀ (polls : Nat) (target : Target) (lun : UInt64) (p : Packet) (served : Served),
      ((c.passThrough polls target lun p).run adapter s).outcome = .ok served →
      served.outcome = .ok () →
      ∃ token,
        replies ((c.passThrough polls target lun p).run adapter s).trace =
          [token, Register.noReply] ∧
        (view ((c.passThrough polls target lun p).run adapter s).state).posted =
          (view s).posted + 1 ∧
        (view ((c.passThrough polls target lun p).run adapter s).state).popped =
          (view s).popped ++ [((view s).posted, token)] := by
  have hquiet := quiet_of_history hconforms hhistory hsound
  refine ⟨hquiet.outstanding_eq, hquiet.fifo_eq, hquiet.frames_eq, ?_⟩
  intro polls target lun p served hserved hok
  have hpath := Program.path_run adapter (c.passThrough polls target lun p) s
  rw [hserved] at hpath
  rcases (desk_of_passThrough hquiet hpath (through_run hconforms _ s)).2 hok with
    ⟨token, hdesk, hreplies⟩
  refine ⟨token, hreplies, ?_, ?_⟩
  · rw [hdesk]
    rfl
  · rw [hdesk]
    rfl

/-- The interrupt status of an adapter with these replies. -/
def statusWord : List (Nat × UInt32) → UInt32
  | [] => 0
  | _ :: _ => 8

theorem showsReply_statusWord (fifo : List (Nat × UInt32)) :
    Register.ShowsReply (statusWord fifo) ↔ fifo ≠ [] := by
  have hempty : ¬ Register.ShowsReply 0 := by
    unfold Register.ShowsReply
    decide
  have hfull : Register.ShowsReply 8 := by
    unfold Register.ShowsReply
    decide
  cases fifo with
  | nil => exact ⟨fun h => absurd h hempty, fun h => absurd rfl h⟩
  | cons first rest => exact ⟨fun _ => List.cons_ne_nil _ _, fun _ => hfull⟩

/-- An adapter that is its desk and answers every request at once. -/
def prompt : Adapter Desk where
  answer
    | .readRegister offset, d =>
      if offset = Register.replyQueue then (.ok d.head, d.pop)
      else if offset = Register.interruptStatus then (.ok (statusWord d.fifo), d)
      else (.ok 0, d)
    | .writeRegister offset value, d =>
      if offset = Register.requestQueue then
        (.ok (), { d with
          fifo := d.fifo ++ [(d.posted, IoRequest.context)]
          posted := d.posted + 1 })
      else (.ok (), d.write offset value)
    | .readMemory _ len, d => (.ok (Vector.replicate len 0), d)
    | .writeMemory _ _, d => (.ok (), d)
    | .stall _, d => ((), d)
    | .identity, d => (.ok ⟨PciIdentity.lsiLogic, PciIdentity.lsi53c1030⟩, d)
    | .attributes, d => (.ok ⟨0⟩, d)
    | .enable _, d => (.ok (), d)
    | .assign _, d => (.ok (), d)
    | .mapRegisters, d => (.ok (), d)
    | .allocate len, d => (.ok ⟨0x10000000, len⟩, d)

theorem conforms_prompt : Conforms prompt id := by
  intro access d
  refine ⟨d, .refl, ?_⟩
  cases access with
  | readRegister offset =>
      by_cases hreply : offset = Register.replyQueue
      · have hanswer : prompt.answer (.readRegister offset) d = (.ok d.head, d.pop) := if_pos hreply
        have hother : Register.replyQueue ≠ Register.interruptStatus := by
          decide
        rw [hanswer]
        refine ⟨⟨fun _ => rfl, fun hstatus => absurd (hreply.symm.trans hstatus) hother⟩, ?_⟩
        rw [show d.after ⟨.readRegister offset, .ok d.head⟩ = d.pop from if_pos hreply]
        exact .refl
      · have hafter : ∀ value, d.after ⟨.readRegister offset, .ok value⟩ = d :=
          fun _ => if_neg hreply
        by_cases hstatus : offset = Register.interruptStatus
        · have hanswer : prompt.answer (.readRegister offset) d = (.ok (statusWord d.fifo), d) :=
            (if_neg hreply).trans (if_pos hstatus)
          rw [hanswer, hafter]
          exact ⟨⟨fun heq => absurd heq hreply, fun _ => showsReply_statusWord d.fifo⟩, .refl⟩
        · have hanswer : prompt.answer (.readRegister offset) d = (.ok 0, d) :=
            (if_neg hreply).trans (if_neg hstatus)
          rw [hanswer, hafter]
          exact ⟨⟨fun heq => absurd heq hreply, fun heq => absurd heq hstatus⟩, .refl⟩
  | writeRegister offset value =>
      by_cases hrequest : offset = Register.requestQueue
      · have hanswer : prompt.answer (.writeRegister offset value) d = (.ok (), { d with
            fifo := d.fifo ++ [(d.posted, IoRequest.context)]
            posted := d.posted + 1 }) := if_pos hrequest
        rw [hanswer]
        refine ⟨trivial, ?_⟩
        have hafter : d.after ⟨.writeRegister offset value, .ok ()⟩ =
            { d with outstanding := d.outstanding ++ [d.posted], posted := d.posted + 1 } :=
          if_pos hrequest
        rw [hafter]
        -- the reply to the request just taken is posted in the same step
        have hposts := Posts.success (d := { d with
          outstanding := d.outstanding ++ [d.posted]
          posted := d.posted + 1 }) rfl
        rw [List.append_nil] at hposts
        exact .single hposts
      · have hanswer : prompt.answer (.writeRegister offset value) d =
            (.ok (), d.write offset value) := if_neg hrequest
        rw [hanswer]
        exact ⟨trivial, .refl⟩
  | _ => exact ⟨trivial, .refl⟩

/-- A controller of that adapter, just started on an empty desk, and the first
    packet it passes through. -/
theorem reply_matches_request_of_prompt :
    ∃ c s, History prompt id c s ∧ c.isFaulted = false ∧
    ∃ served,
      ((c.passThrough 1 .zero 0 (.noData [0, 0, 0, 0, 0, 0])).run prompt s).outcome = .ok served ∧
      served.outcome = .ok () ∧
      ∃ token, ((c.passThrough 1 .zero 0 (.noData [0, 0, 0, 0, 0, 0])).run prompt s).state.popped =
        [(0, token)] := by
  have hstart : ((start ⟨0x10000000, Slot.total⟩ {}).run.run prompt ⟨[], [], 0, 0, []⟩).outcome =
    .ok (.ok _) := rfl
  have hhistory : History prompt id _ _ := .started hstart
  refine ⟨_, _, hhistory, rfl, _, rfl, rfl, ?_⟩
  rcases (reply_matches_request conforms_prompt hhistory rfl).2.2.2 1 .zero 0
    (.noData [0, 0, 0, 0, 0, 0]) _ rfl rfl with ⟨token, -, -, hpopped⟩
  exact ⟨token, hpopped⟩

end Controller

end FusionMpt
