import FusionMpt.Proofs.Controller.Sequence

/-!
# What Bringing an Adapter Up Does

The sequence begins with a reset and ends with handing the adapter the frame
for an error reply. In between it talks to the doorbell and to the interrupt
registers, and to nothing else; so whatever the adapter was busy with is gone
when the frame is handed over, and nothing new has been asked of it.

Starting an adapter and bringing it up again differ in what they check before
and in what they make of the answer. Their events are those of the sequence.

## Main definitions

* `BringUp.IsSetup`: An access between the reset and the frame.
* `BringUp.IsRegister`: An access to a register.
* `BringUp.setupAccesses`: Those of the plan.
* `BringUp.Ended`: The events of a sequence that ended well.

## Theorems

* `BringUp.map_snd_plan`: The plan is the reset, the setup and the frame.
* `BringUp.isRegister_plan`, `BringUp.isRegister_quietPlan`: Nothing but registers
  is accessed.
* `BringUp.path_sequence_value`: A sequence that ends well resets first and
  hands the frame over last.
* `Controller.path_start_sequence`, `Controller.path_restart_sequence`: The
  paths of starting an adapter and of bringing it up again, by those of the
  sequence.
* `Controller.path_start_value`, `Controller.path_restart_value`: They too reset
  first and hand the frame over last.
-/

namespace FusionMpt

namespace BringUp

variable {region : Region} {events : List Event}

/-- The access is one of those between the reset and the frame. -/
def IsSetup : Access → Prop
  | .readRegister offset => offset = Register.doorbell
  | .writeRegister offset _ =>
    offset = Register.doorbell ∨ offset = Register.interruptMask ∨
      offset = Register.interruptStatus
  | _ => False

/-- The events of a sequence that ended well. -/
def Ended (region : Region) (events : List Event) : Prop :=
  ∃ middle, events =
      ⟨.writeRegister Register.doorbell (Doorbell.word Doorbell.resetFunction 0), .ok ()⟩ ::
        (middle ++ [⟨.writeRegister Register.replyQueue (region.lowAddress .errorReply), .ok ()⟩]) ∧
    ∀ event ∈ middle, IsSetup event.access

/-- The accesses of the plan between the reset and the frame. -/
def setupAccesses (region : Region) : List Access :=
  [.writeRegister Register.interruptMask (.ofBitVec everyReason.bits),
    .writeRegister Register.interruptStatus 0] ++
    handshakeAccesses (request region).words.toList ++
    List.replicate 10 (.readRegister Register.doorbell) ++
    [.writeRegister Register.interruptStatus 0]

theorem map_snd_plan (region : Region) : (plan region).map Prod.snd =
    .writeRegister Register.doorbell (Doorbell.word Doorbell.resetFunction 0) ::
      (setupAccesses region ++
        [.writeRegister Register.replyQueue (region.lowAddress .errorReply)]) :=
  rfl

theorem isSetup_setupAccesses (region : Region) : ∀ access ∈ setupAccesses region, IsSetup access := by
  intro access hmem
  unfold setupAccesses handshakeAccesses at hmem
  simp only [List.mem_append, List.mem_cons, List.not_mem_nil, or_false] at hmem
  rcases hmem with (((rfl | rfl) | rfl | hmem) | hmem) | rfl
  · exact Or.inr (Or.inl rfl)
  · exact Or.inr (Or.inr rfl)
  · exact Or.inl rfl
  · rcases List.mem_map.mp hmem with ⟨value, -, rfl⟩
    exact Or.inl rfl
  · rw [List.eq_of_mem_replicate hmem]
    exact rfl
  · exact Or.inr (Or.inr rfl)

/-- The access is to a register. -/
def IsRegister : Access → Prop
  | .readRegister _ => True
  | .writeRegister .. => True
  | _ => False

/-- Nothing but registers is accessed. -/
theorem isRegister_plan (region : Region) :
    ∀ access ∈ (plan region).map Prod.snd, IsRegister access := by
  intro access hmem
  rw [map_snd_plan] at hmem
  rcases List.mem_cons.mp hmem with rfl | hmem
  · exact trivial
  · rcases List.mem_append.mp hmem with hmem | hmem
    · have hsetup := isSetup_setupAccesses region access hmem
      cases access with
      | readRegister offset => exact trivial
      | writeRegister offset value => exact trivial
      | _ => exact hsetup
    · rw [List.mem_singleton.mp hmem]
      exact trivial

theorem isRegister_quietPlan : ∀ access ∈ quietPlan.map Prod.snd, IsRegister access := by
  intro access hmem
  simp only [quietPlan, List.map_cons, List.map_nil, List.mem_cons, List.not_mem_nil,
    or_false] at hmem
  rcases hmem with rfl | rfl | rfl <;> exact trivial

-- A write that did not fail was answered in the one way there is.
theorem answer_of_write {offset value : UInt32} {answer : Except BusError Unit}
    (h : (Access.writeRegister offset value).failure? answer = none) : answer = .ok () := by
  cases answer with
  | ok _ => rfl
  | error cause => exact absurd h (Option.some_ne_none cause)

/-- A plan that was walked to its end begins with a reset that was taken. -/
theorem exists_tail_of_performed (h : Performed ((plan region).map Prod.snd) events (.ok ())) :
    ∃ tail, events = resetEvent :: tail ∧
      Performed (setupAccesses region ++
        [.writeRegister Register.replyQueue (region.lowAddress .errorReply)]) tail (.ok ()) := by
  rw [map_snd_plan] at h
  cases h with
  | cons hok htail =>
      rw [answer_of_write hok]
      exact ⟨_, rfl, htail⟩

theorem performed_of_sequence {reply : InitReply}
    (h : (sequence region).run.Path events (.ok (.ok reply))) :
    Performed ((plan region).map Prod.snd) events (.ok ()) := by
  rcases follows_sequence region events _ h with ⟨result, hresult, hstepped⟩
  rw [← Except.ok.inj hresult] at hstepped
  exact hstepped.performed

theorem path_sequence_value {reply : InitReply}
    (h : (sequence region).run.Path events (.ok (.ok reply))) : Ended region events := by
  rcases exists_tail_of_performed (performed_of_sequence h) with ⟨tail, rfl, htail⟩
  rcases htail.snoc with ⟨middle, answer, rfl, hmiddle, hlast⟩
  rw [answer_of_write hlast]
  exact ⟨middle, rfl, fun event hmem => isSetup_setupAccesses region _ (hmiddle.mem event hmem)⟩

end BringUp

namespace Controller

variable {c : Controller} {events : List Event}

/-- A controller that has been started is one whose adapter was brought up. -/
theorem path_start_sequence {buffer : Buffer} {policy : PollPolicy}
    (h : (start buffer policy).run.Path events (.ok (.ok c))) :
    (BringUp.sequence c.region).run.Path events (.ok (.ok c.initReply)) ∧ c.health = .ready := by
  unfold start at h
  rw [Program.path_bind_value] at h
  rcases h with ⟨_, checking, tail, rfl, hcheck, h⟩
  rw [Program.path_bind_value] at h
  rcases h with ⟨region, mapping, tail, rfl, hregion, h⟩
  rw [Program.path_bind_value] at h
  rcases h with ⟨reply, sequencing, tail, rfl, hsequence, hpure⟩
  rw [Program.path_pure_value] at hpure
  rcases hpure with ⟨rfl, rfl⟩
  -- checking the policy and the buffer makes no access
  rw [hcheck.1, hregion.1, List.nil_append, List.nil_append, List.append_nil]
  exact ⟨hsequence, rfl⟩

/-- Bringing an adapter up again leaves the controller as it was if it fails,
    and gives it a new answer and its health back if it does not. -/
theorem path_restart_sequence {result : Except Error Unit} {c' : Controller}
    (h : c.restart.Path events (.ok (result, c'))) :
    (∃ failure, (BringUp.sequence c.region).run.Path events (.ok (.error failure)) ∧
        result = .error failure ∧ c' = c) ∨
      ∃ reply, (BringUp.sequence c.region).run.Path events (.ok (.ok reply)) ∧ result = .ok () ∧
        c' = { c with initReply := reply, health := .ready } := by
  unfold restart at h
  rw [Program.path_bind_ok] at h
  rcases h with ⟨sequenced, sequencing, tail, rfl, hsequence, hrest⟩
  cases sequenced with
  | error failure =>
      rcases hrest with ⟨rfl, hresult⟩
      rw [Except.ok.injEq, Prod.mk.injEq] at hresult
      rw [List.append_nil]
      exact Or.inl ⟨failure, hsequence, hresult.1, hresult.2⟩
  | ok reply =>
      rcases hrest with ⟨rfl, hresult⟩
      rw [Except.ok.injEq, Prod.mk.injEq] at hresult
      rw [List.append_nil]
      exact Or.inr ⟨reply, hsequence, hresult.1, hresult.2⟩

theorem path_start_value {buffer : Buffer} {policy : PollPolicy}
    (h : (start buffer policy).run.Path events (.ok (.ok c))) : BringUp.Ended c.region events :=
  BringUp.path_sequence_value (path_start_sequence h).1

theorem path_restart_value {c' : Controller}
    (h : c.restart.Path events (.ok (.ok (), c'))) : BringUp.Ended c.region events := by
  rcases path_restart_sequence h with ⟨_, -, hresult, -⟩ | ⟨reply, hsequence, -, -⟩
  · exact absurd hresult (by simp only [reduceCtorEq, not_false_eq_true])
  · exact BringUp.path_sequence_value hsequence

end Controller

end FusionMpt
