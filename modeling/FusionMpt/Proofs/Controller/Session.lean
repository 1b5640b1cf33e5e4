import FusionMpt.Proofs.Controller.BringUp
import FusionMpt.Proofs.Controller.Course
import FusionMpt.Topology.Enumeration

/-!
# Sessions

What happens to a controller from its start on, call by call, for as long as
there is a controller. Its owner passes packets through, brings the adapter up
again, tries to shut it down, and asks for addresses; each call ends with a
result, and what was asked of the adapter in it is kept with the result in a
log. The log says nothing of the controller, so what a controller claims about
its past can be held against it.

One lemma says what a call can do (`Call.effect_of_path`). A packet leaves the
controller as it is, or faults it; then its frame had been posted and it failed.
Bringing the adapter up again changes the controller only if it goes well. A
shutdown that fails changes nothing, and nor does a question. Facts about
sessions are proved from these cases and from nothing else of the engine.

Much of what a controller remembers is about the last call of one kind, or about
what has happened since. `Standing` says it of a log: there was such a call, and
none of the other kind after it.

## Main definitions

* `Inquiry`, `Call`: What a controller may be asked.
* `Call.perform`: The call, and what is left of the controller.
* `Entry`: A call with what was asked of the adapter and how it ended.
* `Session`: The controllers and logs there are.
* `Call.Ending`: How a call ends.
* `Call.Effect`: What a call can do.
* `Standing`: There was a call of one kind, and none of another since.

## Theorems

* `Call.effect_of_path`: A call does one of these things.
* `standing_snoc`: What a call makes stand.
-/

namespace FusionMpt

/-- What a controller answers without its adapter. -/
inductive Inquiry where
  | nextAddress (target : Target) (lun : UInt64)
  | nextTarget (target : Target)
  | devicePath (target : Target) (lun : UInt64)
  | resolvePath (bytes : List UInt8)
  | resetChannel
  | resetTarget

/-- How an inquiry ends. -/
def Inquiry.result (c : Controller) : Inquiry → Except Error Unit
  | .nextAddress target lun => (FusionMpt.nextAddress target lun).map fun _ => ()
  | .nextTarget target => (FusionMpt.nextTarget target).map fun _ => ()
  | .devicePath target lun => (DevicePath.ofAddress target lun).map fun _ => ()
  | .resolvePath bytes => (FusionMpt.resolvePath bytes).map fun _ => ()
  | .resetChannel => c.resetChannel
  | .resetTarget => c.resetTarget

/-- What may be asked of a controller. -/
inductive Call where
  | passThrough (polls : Nat) (target : Target) (lun : UInt64) (p : Packet)
  | restart
  | shutdown
  | inquire (inquiry : Inquiry)

/-- The call, and what is left of the controller. Once the buffer has been given
    back there is none. -/
def Call.perform (c : Controller) : Call → Program (Except Error Unit × Option Controller)
  | .passThrough polls target lun p => do
    let served ← c.passThrough polls target lun p
    return (served.outcome, some served.controller)
  | .restart => do
    let restarted ← c.restart
    return (restarted.1, some restarted.2)
  | .shutdown => do
    match ← c.shutdown.run with
    | .ok _ => return (.ok (), none)
    | .error failure => return (.error failure, some c)
  | .inquire inquiry => return (inquiry.result c, some c)

/-- A call with what was asked of the adapter and how it ended. -/
inductive Entry where
  /-- The controller was started. -/
  | started (trace : List Event)
  | called (call : Call) (trace : List Event) (result : Except Error Unit)

namespace Entry

/-- What was asked of the adapter. -/
def trace : Entry → List Event
  | .started trace => trace
  | .called _ trace _ => trace

/-- The adapter was brought up. -/
def BringsUp : Entry → Prop
  | .started _ => True
  | .called .restart _ (.ok ()) => True
  | .called .. => False

/-- The call failed. -/
def Fails : Entry → Prop
  | .called _ _ (.error _) => True
  | .started _ | .called _ _ (.ok ()) => False

end Entry

/-- A controller since its start: the log of its calls, what it is now, and the
    state in which the adapter is. -/
inductive Session {σ : Type} (adapter : Adapter σ) : List Entry → Controller → σ → Prop where
  | started {buffer : Buffer} {policy : PollPolicy} {s : σ} {c : Controller}
      (hstart : ((Controller.start buffer policy).run.run adapter s).outcome = .ok (.ok c)) :
      Session adapter [.started ((Controller.start buffer policy).run.run adapter s).trace] c
        ((Controller.start buffer policy).run.run adapter s).state
  | called {log : List Entry} {c c' : Controller} {s : σ} {call : Call} {result : Except Error Unit}
      (hbefore : Session adapter log c s)
      (hcall : ((call.perform c).run adapter s).outcome = .ok (result, some c')) :
      Session adapter (log ++ [.called call ((call.perform c).run adapter s).trace result]) c'
        ((call.perform c).run adapter s).state

/-! ## What a call can do -/

namespace Call

variable {c c' : Controller} {call : Call} {trace : List Event} {result : Except Error Unit}
  {polls : Nat} {target : Target} {lun : UInt64} {p : Packet}

/-- A request was posted. -/
def Posted (trace : List Event) : Prop :=
  ∃ event ∈ trace, event.access.IsPost ∧ event.failure? = none

/-- What a call can do, and the controller after it. -/
inductive Effect (c : Controller) : Call → List Event → Except Error Unit → Controller → Prop where
  /-- A packet was finished, or failed before it was posted. -/
  | passed {polls : Nat} {target : Target} {lun : UInt64} {p : Packet} {trace : List Event}
      {result : Except Error Unit}
      (hreset : ∀ event ∈ trace, event.access ≠ BringUp.resetEvent.access)
      (hpost : result = .ok () ∨ ¬ Posted trace) :
      Effect c (.passThrough polls target lun p) trace result c
  /-- A packet failed after it was posted. -/
  | broken {polls : Nat} {target : Target} {lun : UInt64} {p : Packet} {trace : List Event}
      {failure : Error} (hreset : ∀ event ∈ trace, event.access ≠ BringUp.resetEvent.access)
      (hpost : Posted trace) :
      Effect c (.passThrough polls target lun p) trace (.error failure)
        { c with health := .faulted }
  | restarted {trace : List Event} {words : Vector UInt16 10}
      (hdone : Performed ((BringUp.plan c.region).map Prod.snd) trace (.ok ()))
      (hwords : words.toList = BringUp.drained trace) :
      Effect c .restart trace (.ok ())
        { c with initReply := InitReply.decode (LittleEndian.spread words), health := .ready }
  | unrestarted {trace : List Event} {failure : Error}
      (hstepped : Stepped (BringUp.plan c.region) trace (.error failure)) :
      Effect c .restart trace (.error failure) c
  | unquieted {trace : List Event} {failure : Error}
      (hstepped : Stepped BringUp.quietPlan trace (.error failure)) :
      Effect c .shutdown trace (.error failure) c
  | inquired {inquiry : Inquiry} {result : Except Error Unit} :
      Effect c (.inquire inquiry) [] result c

theorem posted_of_mem {front rest : List Event} :
    Posted (front ++ c.post (.ok ()) :: rest) :=
  ⟨c.post (.ok ()), List.mem_append_cons_self, rfl, rfl⟩

theorem not_posted_of_placed {request : IoRequest} {placed : Except BusError Unit}
    (h : Performed (p.placeAccesses request) trace placed) : ¬ Posted trace := by
  intro hposted
  rcases hposted with ⟨event, hmem, hpost, -⟩
  exact Controller.not_isPost_of_placed h event hmem hpost

theorem not_posted_of_unposted {request : IoRequest} {placed : Except BusError Unit}
    {cause : BusError} (h : Performed (p.placeAccesses request) trace placed) :
    ¬ Posted (trace ++ [c.post (.error cause)]) := by
  intro hposted
  rcases hposted with ⟨event, hmem, hpost, hok⟩
  rcases List.mem_append.mp hmem with hmem | hmem
  · exact Controller.not_isPost_of_placed h event hmem hpost
  · rw [List.mem_singleton.mp hmem] at hok
    exact absurd hok (Option.some_ne_none cause)

-- Passing a packet through writes to memory, to the queues and to the interrupt
-- status, but never to the doorbell.
theorem not_reset_of_course {request : IoRequest} {outcome : Except Halt Served}
    (h : Controller.Course c polls p request trace outcome) :
    ∀ event ∈ trace, event.access ≠ BringUp.resetEvent.access := by
  have hother : ∀ offset value, offset ≠ Register.doorbell →
      Access.writeRegister offset value ≠ BringUp.resetEvent.access := by
    intro offset value hne heq
    exact hne (Access.writeRegister.inj heq).1
  have hreceive : ((c.receive polls).run p).Uses fun access => access ≠ BringUp.resetEvent.access :=
    Controller.uses_receive _ (fun _ => Access.noConfusion) (fun _ _ => Access.noConfusion)
      Access.noConfusion (hother _ _ (by decide)) (hother _ _ (by decide)) p
  refine h.forall_access (fun access hwrite heq => ?_) (hother _ _ (by decide)) hreceive
  rw [heq] at hwrite
  exact hwrite

theorem effect_of_passThrough {served : Served}
    (h : (c.passThrough polls target lun p).Path trace (.ok served)) :
    Effect c (.passThrough polls target lun p) trace served.outcome served.controller := by
  cases hcheck : p.check target lun with
  | error refusal =>
      rw [Controller.passThrough_refused hcheck] at h
      rcases h with ⟨rfl, hserved⟩
      rw [Except.ok.inj hserved]
      refine .passed (fun event hmem => absurd hmem List.not_mem_nil) (Or.inr ?_)
      rintro ⟨event, hmem, -⟩
      exact List.not_mem_nil hmem
  | ok _ =>
      have hcourse := Controller.path_passThrough hcheck h
      have hreset := not_reset_of_course hcourse
      cases hcourse with
      | unplaced hplace => exact .passed hreset (Or.inr (not_posted_of_placed hplace))
      | unposted hplace => exact .passed hreset (Or.inr (not_posted_of_unposted hplace))
      | failed _ _ => exact .broken hreset posted_of_mem
      | finished _ _ => exact .passed hreset (Or.inl rfl)

theorem effect_of_restart (h : c.restart.Path trace (.ok (result, c'))) :
    Effect c .restart trace result c' := by
  rcases Controller.path_restart_sequence h with
    ⟨failure, hsequence, rfl, rfl⟩ | ⟨reply, hsequence, rfl, rfl⟩
  · rcases BringUp.follows_sequence _ _ _ hsequence with ⟨stepped, hstepped, hplan⟩
    rw [← Except.ok.inj hstepped] at hplan
    exact .unrestarted hplan
  · rcases BringUp.path_sequence_reply hsequence with ⟨words, hwords, rfl⟩
    exact .restarted (BringUp.performed_of_sequence hsequence) hwords

theorem effect_of_shutdown {failure : Error}
    (h : c.shutdown.run.Path trace (.ok (.error failure))) :
    Effect c .shutdown trace (.error failure) c := by
  unfold Controller.shutdown at h
  rw [Program.path_bind_failure] at h
  rcases h with hquiesce | ⟨_, front, rest, -, -, hpure⟩
  · rcases BringUp.follows_quiesce _ _ hquiesce with ⟨stepped, hstepped, hplan⟩
    rw [← Except.ok.inj hstepped] at hplan
    exact .unquieted hplan
  · exact absurd hpure.2 (by simp only [Except.ok.injEq, reduceCtorEq, not_false_eq_true])

/-- The ways in which a call ends. -/
inductive Ending (c : Controller) :
    Call → List Event → Except Error Unit → Option Controller → Prop where
  | passed {polls : Nat} {target : Target} {lun : UInt64} {p : Packet} {trace : List Event}
      {result : Except Error Unit} {served : Served}
      (hpath : (c.passThrough polls target lun p).Path trace (.ok served))
      (hresult : result = served.outcome) :
      Ending c (.passThrough polls target lun p) trace result (some served.controller)
  | restarted {trace : List Event} {result : Except Error Unit} {c' : Controller}
      (hpath : c.restart.Path trace (.ok (result, c'))) :
      Ending c .restart trace result (some c')
  /-- The buffer was given back, and no controller is left. -/
  | quieted {trace : List Event} {buffer : Buffer}
      (hpath : c.shutdown.run.Path trace (.ok (.ok buffer))) :
      Ending c .shutdown trace (.ok ()) none
  | unquieted {trace : List Event} {failure : Error}
      (hpath : c.shutdown.run.Path trace (.ok (.error failure))) :
      Ending c .shutdown trace (.error failure) (some c)
  | inquired {inquiry : Inquiry} {result : Except Error Unit} :
      Ending c (.inquire inquiry) [] result (some c)

theorem ending_of_path {kept : Option Controller}
    (h : (call.perform c).Path trace (.ok (result, kept))) : Ending c call trace result kept := by
  cases call with
  | passThrough polls target lun p =>
      unfold perform at h
      rw [Program.path_bind_ok] at h
      rcases h with ⟨served, front, rest, rfl, hpath, rfl, hresult⟩
      rw [Except.ok.injEq, Prod.mk.injEq] at hresult
      rw [List.append_nil, hresult.2]
      exact .passed hpath hresult.1
  | restart =>
      unfold perform at h
      rw [Program.path_bind_ok] at h
      rcases h with ⟨restarted, front, rest, rfl, hpath, rfl, hresult⟩
      rw [Except.ok.injEq, Prod.mk.injEq] at hresult
      rw [List.append_nil, hresult.1, hresult.2]
      exact .restarted hpath
  | shutdown =>
      unfold perform at h
      rw [Program.path_bind_ok] at h
      rcases h with ⟨quieted | quieted, front, rest, rfl, hpath, rfl, hresult⟩
      · rw [Except.ok.injEq, Prod.mk.injEq] at hresult
        rw [List.append_nil, hresult.1, hresult.2]
        exact .unquieted hpath
      · rw [Except.ok.injEq, Prod.mk.injEq] at hresult
        rw [List.append_nil, hresult.1, hresult.2]
        exact .quieted hpath
  | inquire inquiry =>
      rcases h with ⟨rfl, hresult⟩
      rw [Except.ok.injEq, Prod.mk.injEq] at hresult
      rw [hresult.2]
      exact .inquired

/-- A call that leaves a controller does one of these things. -/
theorem effect_of_path (h : (call.perform c).Path trace (.ok (result, some c'))) :
    Effect c call trace result c' := by
  cases ending_of_path h with
  | passed hpath hresult =>
      rw [hresult]
      exact effect_of_passThrough hpath
  | restarted hpath => exact effect_of_restart hpath
  | unquieted hpath => exact effect_of_shutdown hpath
  | inquired => exact .inquired

/-- What happened in a call is told by its run. -/
theorem effect_of_run {σ : Type} {adapter : Adapter σ} {s : σ}
    (h : ((call.perform c).run adapter s).outcome = .ok (result, some c')) :
    Effect c call ((call.perform c).run adapter s).trace result c' := by
  have hpath := Program.path_run adapter (call.perform c) s
  rw [h] at hpath
  exact effect_of_path hpath

end Call

/-! ## What stands -/

/-- There was an entry of one kind, and none of the other kind after it. -/
def Standing (kind other : Entry → Prop) (log : List Entry) : Prop :=
  ∃ before entry after, log = before ++ entry :: after ∧ kind entry ∧
    ∀ later ∈ after, ¬ other later

/-- A new entry stands if it is of the kind; if not, what stood goes on to stand
    unless the entry is of the other kind. -/
theorem standing_snoc {kind other : Entry → Prop} {log : List Entry} {entry : Entry} :
    Standing kind other (log ++ [entry]) ↔
      kind entry ∨ Standing kind other log ∧ ¬ other entry := by
  constructor
  · intro h
    rcases h with ⟨before, standing, after, hsplit, hkind, hafter⟩
    rcases List.eq_nil_or_concat after with rfl | ⟨between, last, hconcat⟩
    · rcases List.append_inj' hsplit rfl with ⟨-, hlast⟩
      rw [List.singleton_inj.mp hlast]
      exact Or.inl hkind
    · rw [List.concat_eq_append] at hconcat
      rw [hconcat, ← List.cons_append, ← List.append_assoc] at hsplit
      rw [hconcat] at hafter
      rcases List.append_inj' hsplit rfl with ⟨rfl, hlast⟩
      rw [List.singleton_inj.mp hlast]
      refine Or.inr ⟨⟨before, standing, between, rfl, hkind, fun later hmem => ?_⟩, ?_⟩
      · exact hafter later (List.mem_append_left _ hmem)
      · exact hafter last List.mem_append_cons_self
  · intro h
    rcases h with hkind | ⟨⟨before, standing, after, rfl, hkind, hafter⟩, hother⟩
    · exact ⟨log, entry, [], rfl, hkind, fun later hmem => absurd hmem List.not_mem_nil⟩
    · refine ⟨before, standing, after ++ [entry], ?_, hkind, fun later hmem => ?_⟩
      · rw [List.append_assoc, List.cons_append]
      · rcases List.mem_append.mp hmem with hmem | hmem
        · exact hafter later hmem
        · rw [List.mem_singleton.mp hmem]
          exact hother

theorem not_standing_nil {kind other : Entry → Prop} : ¬ Standing kind other [] := by
  intro h
  rcases h with ⟨before, standing, after, hsplit, -⟩
  exact absurd hsplit.symm (List.append_ne_nil_of_right_ne_nil _ (List.cons_ne_nil _ _))

theorem standing_singleton {kind other : Entry → Prop} {entry : Entry} :
    Standing kind other [entry] ↔ kind entry := by
  rw [← List.nil_append [entry], standing_snoc]
  constructor
  · intro h
    rcases h with hkind | ⟨hnil, -⟩
    · exact hkind
    · exact absurd hnil not_standing_nil
  · exact Or.inl

end FusionMpt
