import FusionMpt.Proofs.Controller.Session

/-!
# Adapters Left Half Done

A reset makes the adapter forget everything that it was told when it was brought
up. It serves requests again only when the whole sequence has been gone through
after the reset, so of an adapter in use the last reset should be the first of
22 accesses that all went well.

A controller does not keep track of this. It is faulted when a request has
failed, and when a bring-up or a shutdown fails after its reset it stays what it
was. A controller that was sound before is sound still, with an adapter behind
it that has been reset and no more.

Whether that has happened can be told from the calls. A call whose reset went
through and that failed leaves the adapter half done, and only a whole bring-up
completes it. The adapter is as it should be exactly as long as there is no such
call.

## Main definitions

* `Entry.Resets`, `Entry.Completes`: The adapter has taken a reset in the call,
  or has been brought up in it.
* `BroughtUp`: The last reset was the beginning of a whole bring-up.
* `HalfDone`: A call failed after its reset, and nothing has mended it.

## Theorems

* `Call.Effect.completes_or_not`: What a call does to an adapter.
* `Session.broughtUp_iff_not_halfDone`: When the adapter is as it should be.
* `Session.broughtUp_of_sound_iff`: When a sound controller has such an adapter.
* `Session.sound_and_halfDone`: A sound controller that has not.
-/

namespace FusionMpt

namespace Entry

/-- The call began with a reset, and the adapter has taken it. -/
def Resets (entry : Entry) : Prop :=
  entry.trace.head? = some BringUp.resetEvent

/-- The call was a whole bring-up: every access of the plan, without failure. -/
def Completes (region : Region) (entry : Entry) : Prop :=
  Performed ((BringUp.plan region).map Prod.snd) entry.trace (.ok ())

theorem Completes.resets {region : Region} {entry : Entry} (h : entry.Completes region) :
    entry.Resets := by
  unfold Resets
  rcases BringUp.exists_tail_of_performed h with ⟨tail, htrace, -⟩
  rw [htrace]
  rfl

theorem not_resets_of_forall {entry : Entry}
    (h : ∀ event ∈ entry.trace, event.access ≠ BringUp.resetEvent.access) : ¬ entry.Resets := by
  intro hresets
  exact h _ (List.mem_of_mem_head? hresets) rfl

theorem BringsUp.not_fails {entry : Entry} (h : entry.BringsUp) : ¬ entry.Fails := by
  cases entry with
  | started trace => exact not_false
  | called call trace result =>
      cases result with
      | ok _ => exact not_false
      | error failure => cases call <;> exact absurd h not_false

end Entry

/-- The last reset that the adapter has taken was the beginning of a whole
    bring-up. -/
def BroughtUp (region : Region) (log : List Entry) : Prop :=
  Standing (Entry.Completes region) Entry.Resets log

/-- A call failed after its reset, and the adapter has not been brought up
    since. -/
def HalfDone (log : List Entry) : Prop :=
  Standing (fun entry => entry.Resets ∧ entry.Fails) Entry.BringsUp log

namespace Call

variable {c c' : Controller} {call : Call} {trace : List Event} {result : Except Error Unit}

-- A call in which something failed was no whole bring-up.
theorem not_completes_of_stepped {region : Region} {plan : List (BringUpStep × Access)}
    {failure : Error} (h : Stepped plan trace (.error failure)) :
    ¬ (Entry.called call trace result).Completes region := by
  intro hcompletes
  rcases h.exists_failed with ⟨event, hmem, hfailed⟩
  exact hfailed (hcompletes.failure?_eq_none event hmem)

/-- A call brings the adapter up, or does not; then it has reset the adapter only
    if it failed. -/
theorem Effect.completes_or_not (h : Effect c call trace result c') :
    (Entry.called call trace result).Completes c.region ∧
        (Entry.called call trace result).BringsUp ∨
      ¬ (Entry.called call trace result).Completes c.region ∧
        ¬ (Entry.called call trace result).BringsUp ∧
        ((Entry.called call trace result).Resets → (Entry.called call trace result).Fails) := by
  -- A call without a reset is neither.
  have hother : ∀ entry : Entry,
      (∀ event ∈ entry.trace, event.access ≠ BringUp.resetEvent.access) →
      ¬ entry.Completes c.region ∧ (entry.Resets → entry.Fails) := by
    intro entry htrace
    have hresets := Entry.not_resets_of_forall htrace
    exact ⟨fun hcompletes => hresets hcompletes.resets, fun h => absurd h hresets⟩
  cases h with
  | passed hreset _ | broken hreset _ =>
      rcases hother (.called _ _ _) hreset with ⟨hcompletes, hfails⟩
      exact Or.inr ⟨hcompletes, not_false, hfails⟩
  | restarted hdone _ => exact Or.inl ⟨hdone, trivial⟩
  | unrestarted hstepped | unquieted hstepped =>
      exact Or.inr ⟨not_completes_of_stepped hstepped, not_false, fun _ => trivial⟩
  | inquired =>
      rcases hother (.called _ [] _) (fun event hmem => absurd hmem List.not_mem_nil) with
        ⟨hcompletes, hfails⟩
      exact Or.inr ⟨hcompletes, not_false, hfails⟩

theorem Effect.region_eq (h : Effect c call trace result c') : c'.region = c.region := by
  cases h <;> rfl

end Call

namespace Session

variable {σ : Type} {adapter : Adapter σ} {log : List Entry} {c : Controller} {s : σ}

/-- The last reset was the beginning of a whole bring-up exactly when no call has
    failed after its reset since the adapter was last brought up. -/
theorem broughtUp_iff_not_halfDone (h : Session adapter log c s) :
    BroughtUp c.region log ↔ ¬ HalfDone log := by
  unfold BroughtUp HalfDone
  induction h with
  | @started buffer policy s c hstart =>
      have hpath := Program.path_run adapter (Controller.start buffer policy).run s
      rw [hstart] at hpath
      rw [standing_singleton, standing_singleton]
      refine ⟨fun _ hfails => hfails.2, fun _ => ?_⟩
      exact BringUp.performed_of_sequence (Controller.path_start_sequence hpath).1
  | called _ hcall ih =>
      have heffect := Call.effect_of_run hcall
      rw [standing_snoc, standing_snoc, heffect.region_eq]
      -- The new call decides the matter if it has reset the adapter, one way or the other,
      -- and leaves it as it was if it has not.
      rcases heffect.completes_or_not with ⟨hcompletes, hbrings⟩ | ⟨hcompletes, hbrings, hfails⟩
      · refine ⟨fun _ hhalf => ?_, fun _ => Or.inl hcompletes⟩
        rcases hhalf with hhalf | hhalf
        · exact hbrings.not_fails hhalf.2
        · exact hhalf.2 hbrings
      · constructor
        · intro hup hhalf
          have hbefore := hup.resolve_left hcompletes
          rcases hhalf with hhalf | hhalf
          · exact hbefore.2 hhalf.1
          · exact ih.mp hbefore.1 hhalf.1
        · intro hnot
          refine Or.inr ⟨ih.mpr fun hhalf => hnot (Or.inr ⟨hhalf, hbrings⟩), fun hresets => ?_⟩
          exact hnot (Or.inl ⟨hresets, hfails hresets⟩)

/-- A controller that is sound has an adapter that is as it should be exactly
    when no bring-up and no shutdown has left it half done. -/
theorem broughtUp_of_sound_iff (h : Session adapter log c s) :
    (c.isFaulted = false → BroughtUp c.region log) ↔ c.isFaulted = true ∨ ¬ HalfDone log := by
  rw [broughtUp_iff_not_halfDone h]
  cases c.isFaulted with
  | true => exact ⟨fun _ => Or.inl rfl, fun _ hsound => absurd hsound Bool.noConfusion⟩
  | false =>
      refine ⟨fun hsound => Or.inr (hsound rfl), fun hor _ => ?_⟩
      exact hor.resolve_left Bool.noConfusion

/-- An adapter that takes its first mask and no other. -/
def balky : Adapter Nat where
  answer
    | .writeRegister offset value, masks =>
      if offset = Register.interruptMask then
        (if masks = 0 then .ok () else .error (.registerWrite offset value), masks + 1)
      else (.ok (), masks)
    | access, masks => (((Controller.steady (fun _ => 0) true).answer access ()).1, masks)

theorem started_balky :
    ((Controller.start ⟨0x10000000, Slot.total⟩ {}).run.run balky 0).outcome =
      .ok (.ok Controller.sample) :=
  rfl

theorem broughtUp_of_sound_iff_of_balky :
    ∃ log c s, Session balky log c s ∧ c.isFaulted = false ∧ BroughtUp c.region log := by
  have hsession := Session.started started_balky
  refine ⟨_, _, _, hsession, rfl, (broughtUp_of_sound_iff hsession).mpr (Or.inr ?_) rfl⟩
  intro hhalf
  exact (standing_singleton.mp hhalf).2

/-- Bringing the adapter up again stops behind the reset, and the controller is
    as sound as before. -/
theorem sound_and_halfDone :
    ∃ log c s, Session balky log c s ∧ c.isFaulted = false ∧ ¬ BroughtUp c.region log := by
  have hcall : ((Call.perform Controller.sample .restart).run balky 1).outcome =
    .ok (.error (.bringUp .maskInterrupts (.registerWrite 0x34 9)), some Controller.sample) := rfl
  have hsession := Session.called (.started started_balky) hcall
  refine ⟨_, _, _, hsession, rfl, ?_⟩
  rw [broughtUp_iff_not_halfDone hsession]
  exact not_not_intro (standing_snoc.mpr (Or.inl ⟨rfl, trivial⟩))

end Session

end FusionMpt
