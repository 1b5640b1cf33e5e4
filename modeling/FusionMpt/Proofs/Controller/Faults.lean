import FusionMpt.Platform.HostMemory
import FusionMpt.Proofs.Controller.Session
import FusionMpt.Proofs.Platform.Playing

/-!
# What a Fault Says

A controller knows of one kind of trouble: a request that was posted and then
failed. It is faulted exactly when that has happened since the adapter was last
brought up. A packet that was refused, or could not be placed or posted, does
not count, nor does a shutdown that fails; and no success makes up for it but
that of a whole bring-up.

The answer that a controller remembers goes with the same calls. It is what the
adapter said through the doorbell when it was last brought up.

A fault is for the owner to know and for nobody else. Packets are passed through
as if there were none, access by access.

## Main definitions

* `Entry.FailsUnderWay`: A packet failed after it was posted.
* `Entry.Answers`: The adapter was brought up, and this is its answer.

## Theorems

* `Session.isFaulted_iff`: When a controller is faulted.
* `Session.initReply_standing`: Which answer it remembers.
* `Call.kept_of_failed`: What is left when a bring-up or a shutdown fails.
* `Controller.passThrough_withHealth`: A fault makes no difference to a packet.
* `Session.fault_history`: All of these together.
-/

namespace FusionMpt

/-- A packet failed after it was posted. -/
def Entry.FailsUnderWay : Entry → Prop
  | .called (.passThrough ..) trace (.error _) => Call.Posted trace
  | .called .. | .started _ => False

/-- The adapter was brought up, and its answer is this one. -/
def Entry.Answers (reply : InitReply) (entry : Entry) : Prop :=
  entry.BringsUp ∧ ∃ words : Vector UInt16 10, words.toList = BringUp.drained entry.trace ∧
    reply = InitReply.decode (LittleEndian.spread words)

theorem Controller.not_isFaulted_of_ready {c : Controller} (h : c.health = .ready) :
    ¬ c.isFaulted = true := by
  unfold isFaulted
  rw [h]
  decide

namespace Call

variable {c c' : Controller} {call : Call} {trace : List Event} {result : Except Error Unit}

/-- What one call does to the fault. -/
theorem Effect.isFaulted_iff (h : Effect c call trace result c') :
    c'.isFaulted = true ↔ (Entry.called call trace result).FailsUnderWay ∨
      c.isFaulted = true ∧ ¬ (Entry.called call trace result).BringsUp := by
  -- Three of the cases have to do with faults: a packet that broke, one that did not,
  -- and a bring-up that went well. The others keep what there was.
  cases h with
  | passed _ hpost =>
      cases result with
      | ok _ => exact ⟨fun h => Or.inr ⟨h, not_false⟩, fun h => (h.resolve_left not_false).1⟩
      | error failure =>
          have hquiet : ¬ Posted trace :=
            hpost.resolve_left (by simp only [reduceCtorEq, not_false_eq_true])
          exact ⟨fun h => Or.inr ⟨h, not_false⟩, fun h => (h.resolve_left hquiet).1⟩
  | broken _ hpost =>
      exact ⟨fun _ => Or.inl hpost, fun _ => rfl⟩
  | restarted _ _ =>
      refine ⟨fun h => absurd h (Controller.not_isFaulted_of_ready rfl), fun h => ?_⟩
      exact absurd trivial (h.resolve_left not_false).2
  | unrestarted _ | unquieted _ =>
      exact ⟨fun h => Or.inr ⟨h, not_false⟩, fun h => (h.resolve_left not_false).1⟩
  | inquired =>
      exact ⟨fun h => Or.inr ⟨h, not_false⟩, fun h => (h.resolve_left not_false).1⟩

/-- What one call does to the answer. -/
theorem Effect.answers (h : Effect c call trace result c') :
    (Entry.called call trace result).Answers c'.initReply ∨
      c'.initReply = c.initReply ∧ ¬ (Entry.called call trace result).BringsUp := by
  cases h with
  | restarted _ hwords => exact Or.inl ⟨trivial, _, hwords, rfl⟩
  | passed _ _ | broken _ _ | unrestarted _ | unquieted _ | inquired =>
      exact Or.inr ⟨rfl, not_false⟩

end Call

namespace Session

variable {σ : Type} {adapter : Adapter σ} {log : List Entry} {c : Controller} {s : σ}

/-- A controller is faulted exactly when a packet has failed under way since the
    adapter was last brought up. -/
theorem isFaulted_iff (h : Session adapter log c s) :
    c.isFaulted = true ↔ Standing Entry.FailsUnderWay Entry.BringsUp log := by
  induction h with
  | @started buffer policy s c hstart =>
      have hpath := Program.path_run adapter (Controller.start buffer policy).run s
      rw [hstart] at hpath
      have hready := Controller.not_isFaulted_of_ready (Controller.path_start_sequence hpath).2
      rw [standing_singleton]
      exact ⟨fun hfaulted => absurd hfaulted hready, fun hfails => absurd hfails not_false⟩
  | called _ hcall ih => rw [standing_snoc, (Call.effect_of_run hcall).isFaulted_iff, ih]

/-- What a controller remembers as the answer is what the adapter said when it
    was last brought up. -/
theorem initReply_standing (h : Session adapter log c s) :
    Standing (Entry.Answers c.initReply) Entry.BringsUp log := by
  induction h with
  | @started buffer policy s c hstart =>
      have hpath := Program.path_run adapter (Controller.start buffer policy).run s
      rw [hstart] at hpath
      rw [standing_singleton]
      exact ⟨trivial, BringUp.path_sequence_reply (Controller.path_start_sequence hpath).1⟩
  | called _ hcall ih =>
      rw [standing_snoc]
      rcases (Call.effect_of_run hcall).answers with hanswers | ⟨hsame, hother⟩
      · exact Or.inl hanswers
      · rw [hsame]
        exact Or.inr ⟨ih, hother⟩

end Session

/-! ## Failures that change nothing -/

namespace BringUp

theorem IsRegister.not_isMemoryWrite {access : Access} (h : IsRegister access) :
    ¬ access.IsMemoryWrite := by
  cases access with
  | writeMemory offset bytes => exact absurd h not_false
  | _ => exact not_false

end BringUp

namespace Call

variable {c : Controller} {call : Call} {trace : List Event} {failure : Error}
  {kept : Option Controller}

/-- A call that fails leaves a controller. -/
theorem exists_kept_of_failed (h : (call.perform c).Path trace (.ok (.error failure, kept))) :
    ∃ c', kept = some c' := by
  cases ending_of_path h with
  | passed hpath hresult => exact ⟨_, rfl⟩
  | restarted hpath => exact ⟨_, rfl⟩
  | unquieted hpath => exact ⟨_, rfl⟩
  | inquired => exact ⟨_, rfl⟩

/-- A bring-up or a shutdown that fails leaves the controller as it was, and has
    not written to memory. -/
theorem kept_of_failed (hcall : call = .restart ∨ call = .shutdown)
    (h : (call.perform c).Path trace (.ok (.error failure, kept))) :
    kept = some c ∧ ∀ event ∈ trace, ¬ event.access.IsMemoryWrite := by
  rcases exists_kept_of_failed h with ⟨c', rfl⟩
  rcases hcall with rfl | rfl
  · cases effect_of_path h with
    | unrestarted hstepped =>
        refine ⟨rfl, fun event hmem => ?_⟩
        exact (BringUp.isRegister_plan _ _ (hstepped.mem event hmem)).not_isMemoryWrite
  · cases effect_of_path h with
    | unquieted hstepped =>
        refine ⟨rfl, fun event hmem => ?_⟩
        exact (BringUp.isRegister_quietPlan _ (hstepped.mem event hmem)).not_isMemoryWrite

end Call

/-! ## Faults and packets -/

/-- What becomes of a packet, apart from the controller. -/
def Served.result (served : Served) : Except Error Unit × Packet :=
  (served.outcome, served.packet)

namespace Controller

/-- Passing a packet through is the same with and without a fault, but for the
    controller afterwards. -/
theorem passThrough_withHealth (c : Controller) (health : Health) (polls : Nat) (target : Target)
    (lun : UInt64) (p : Packet) :
    Served.result <$> ({ c with health := health }).passThrough polls target lun p =
      Served.result <$> c.passThrough polls target lun p := by
  unfold passThrough
  rw [map_bind, map_bind]
  refine bind_congr (fun staged => ?_)
  rcases staged with ⟨failure | request, p⟩
  · rfl
  · change Served.result <$> (_ >>= _) = Served.result <$> (_ >>= _)
    rw [map_bind, map_bind]
    refine bind_congr (fun posted => ?_)
    cases posted with
    | error cause => rfl
    | ok _ =>
        change Served.result <$> (_ >>= _) = Served.result <$> (_ >>= _)
        rw [map_bind, map_bind]
        refine bind_congr (fun received => ?_)
        rcases received with ⟨failure | _, p⟩ <;> rfl

end Controller

namespace Session

variable {σ : Type} {adapter : Adapter σ} {log : List Entry} {c : Controller} {s : σ}

/-- A controller is faulted exactly when a packet has failed under way since the
    adapter was last brought up, and what it remembers as the adapter's answer is
    what was drained then. A bring-up or a shutdown that fails leaves the
    controller as it was, and of the adapter what only writes to memory change.
    Whatever is said about its health, a packet takes the same course. -/
theorem fault_history (h : Session adapter log c s) :
    (c.isFaulted = true ↔ Standing Entry.FailsUnderWay Entry.BringsUp log) ∧
    Standing (Entry.Answers c.initReply) Entry.BringsUp log ∧
    (∀ (call : Call) (failure : Error) (kept : Option Controller),
      call = .restart ∨ call = .shutdown →
      ((call.perform c).run adapter s).outcome = .ok (.error failure, kept) →
      kept = some c ∧
        (∀ event ∈ ((call.perform c).run adapter s).trace, ¬ event.access.IsMemoryWrite) ∧
        ∀ memory : σ → HostMemory,
          (∀ access s, ¬ access.IsMemoryWrite → memory (adapter.answer access s).2 = memory s) →
          memory ((call.perform c).run adapter s).state = memory s) ∧
    (∀ (health : Health) (polls : Nat) (target : Target) (lun : UInt64) (p : Packet),
      let faulty := (({ c with health := health }).passThrough polls target lun p).run adapter s
      let run := (c.passThrough polls target lun p).run adapter s
      faulty.trace = run.trace ∧ faulty.state = run.state ∧
        faulty.outcome.map Served.result = run.outcome.map Served.result) := by
  refine ⟨h.isFaulted_iff, h.initReply_standing, ?_, ?_⟩
  · intro call failure kept hcall hfailed
    have hpath := Program.path_run adapter (call.perform c) s
    rw [hfailed] at hpath
    rcases Call.kept_of_failed hcall hpath with ⟨hkept, hwrites⟩
    refine ⟨hkept, hwrites, fun memory hmemory => ?_⟩
    rw [← adapter.after_run]
    exact Adapter.view_after hmemory hwrites s
  · intro health polls target lun p
    have hsame := congrArg (fun program => program.run adapter s)
      (c.passThrough_withHealth health polls target lun p)
    simp only [Program.run_map, Run.mk.injEq] at hsame
    exact ⟨hsame.1, hsame.2.2, hsame.2.1⟩

/-- A policy that gives up after one look. -/
def hasty : PollPolicy where
  limit? := some .zero

/-- An adapter that takes everything and says nothing. -/
def silent : Adapter Unit :=
  Controller.steady (fun _ => 0) true

/-- The controller that starting it leaves. -/
def impatient : Controller :=
  { Controller.sample with policy := hasty }

/-- That controller, and a packet that it has waited for once. -/
theorem fault_history_of_silent :
    ∃ log c, Session silent log c () ∧ c.isFaulted = true ∧
      Standing Entry.FailsUnderWay Entry.BringsUp log := by
  have hstart : ((Controller.start ⟨0x10000000, Slot.total⟩ hasty).run.run silent ()).outcome =
    .ok (.ok impatient) := rfl
  have hcall : ((Call.perform impatient (.passThrough 1 .zero 0 (.noData [0, 0, 0, 0, 0, 0]))).run
    silent ()).outcome = .ok (.error (.timeout 0), some { impatient with health := .faulted }) := rfl
  have hsession := Session.called (.started hstart) hcall
  exact ⟨_, _, hsession, rfl, (fault_history hsession).1.mp rfl⟩

end Session

end FusionMpt
