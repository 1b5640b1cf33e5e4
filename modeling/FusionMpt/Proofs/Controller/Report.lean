import FusionMpt.Proofs.Controller.Course

/-!
# What a Failed Packet Reports

A packet that failed on its way should not look as if it had succeeded. Its
lengths are zero, so nothing of its buffers means anything, and its host status
says that something went wrong. `Packet.Blank` is that state.

Three of the four courses of a packet leave it: posting that fails, waiting
that fails, and finishing that fails all end in a step that blanks the packet.
The remaining one does not. When a write to shared memory fails, the error is
passed on and the packet stays as the caller gave it, and a packet that the
caller had never used says then that a command succeeded which no adapter has
seen.

So a failure is reported in the packet exactly when the packet was placed, and
whether it was placed can be told from the events.

## Main definitions

* `Packet.Blank`: A packet that claims no results and no success.
* `Event.IsFailedMemoryWrite`: A write to shared memory that failed.

## Theorems

* `Packet.blank_undelivered`, `Packet.blank_aborted`: The steps that blank a
  packet.
* `Controller.blank_iff_placed`: When a failure is reported in the packet.
-/

namespace FusionMpt

/-- A packet that claims no results and no success. -/
structure Packet.Blank (p : Packet) : Prop where
  inLength_eq : p.inLength = 0
  outLength_eq : p.outLength = 0
  senseLength_eq : p.senseLength = 0
  hostStatus_ne : p.hostStatus ≠ .ok
  dataIn_eq : p.dataIn = []
  sense_eq : p.sense = []

theorem Packet.blank_undelivered (p : Packet) : p.undelivered.Blank where
  inLength_eq := rfl
  outLength_eq := rfl
  senseLength_eq := rfl
  hostStatus_ne := by
    change HostStatus.other ≠ HostStatus.ok
    decide
  dataIn_eq := rfl
  sense_eq := rfl

theorem Packet.blank_aborted (p : Packet) : p.aborted.Blank where
  inLength_eq := rfl
  outLength_eq := rfl
  senseLength_eq := rfl
  hostStatus_ne := by
    change (if p.hostStatus = .ok then HostStatus.other else p.hostStatus) ≠ HostStatus.ok
    by_cases hok : p.hostStatus = .ok
    · rw [if_pos hok]
      decide
    · rw [if_neg hok]
      exact hok
  dataIn_eq := rfl
  sense_eq := rfl

/-- A write to shared memory that failed. -/
def Event.IsFailedMemoryWrite (event : Event) : Prop :=
  event.access.IsMemoryWrite ∧ event.failure? ≠ none

namespace Controller

variable {σ : Type} {c : Controller} {polls : Nat} {target : Target} {lun : UInt64} {p : Packet}
  {events : List Event} {request : IoRequest} {served : Served}

-- Placing that failed has an event that says so.
theorem exists_failedMemoryWrite {cause : BusError}
    (h : Performed (p.placeAccesses request) events (.error cause)) :
    ∃ event ∈ events, event.IsFailedMemoryWrite := by
  rcases h.exists_failed with ⟨front, last, rfl, -, hlast⟩
  have hmem : last ∈ front ++ [last] := List.mem_append_right _ List.mem_cons_self
  refine ⟨last, hmem, Packet.isMemoryWrite_of_placed h last hmem, ?_⟩
  rw [hlast]
  exact Option.some_ne_none cause

-- Once a packet is placed, no write to shared memory fails any more: those of
-- placing have succeeded, and there are no others.
theorem not_failedMemoryWrite {rest : List Event} (answer : Except BusError Unit)
    (h : Performed (p.placeAccesses request) events (.ok ()))
    (hrest : ∀ event ∈ rest, ¬ event.access.IsMemoryWrite) :
    ∀ event ∈ events ++ c.post answer :: rest, ¬ event.IsFailedMemoryWrite := by
  intro event hmem hfailed
  rcases List.mem_append.mp hmem with hmem | hmem
  · exact hfailed.2 (h.failure?_eq_none event hmem)
  · rcases List.mem_cons.mp hmem with rfl | hmem
    · exact hfailed.1
    · exact hrest event hmem hfailed.1

theorem not_isMemoryWrite_of_receive {outcome : Except Halt (Except Error Unit × Packet)}
    (h : ((c.receive polls).run p).Path events outcome) :
    ∀ event ∈ events, ¬ event.access.IsMemoryWrite :=
  (uses_receive (fun access => ¬ access.IsMemoryWrite) (fun _ => not_false)
    (fun _ _ => not_false) not_false not_false not_false p).mem h

/-- A failure is reported in the packet exactly when no write to shared memory
    failed, or when the packet had been blank before; a packet whose failure is
    not reported is left as it was. -/
theorem blank_iff_placed (adapter : Adapter σ) (s : σ) (hcheck : p.check target lun = .ok ())
    (hserved : ((c.passThrough polls target lun p).run adapter s).outcome = .ok served)
    {failure : Error} (hfailure : served.outcome = .error failure) :
    (served.packet.Blank ↔
      (∀ event ∈ ((c.passThrough polls target lun p).run adapter s).trace,
        ¬ event.IsFailedMemoryWrite) ∨ p.Blank) ∧
    ((∃ event ∈ ((c.passThrough polls target lun p).run adapter s).trace,
      event.IsFailedMemoryWrite) → served.packet = p) := by
  have hpath := Program.path_run adapter (c.passThrough polls target lun p) s
  rw [hserved] at hpath
  -- from here on only the path matters, and no longer the adapter
  generalize ((c.passThrough polls target lun p).run adapter s).trace = events at hpath ⊢
  have hcourse := path_passThrough hcheck hpath
  clear hserved hpath
  cases hcourse with
  | unplaced hplace =>
      -- the one course on which nothing touches the packet
      rcases exists_failedMemoryWrite hplace with ⟨event, hmem, hfailed⟩
      refine ⟨⟨Or.inr, fun h => ?_⟩, fun _ => rfl⟩
      rcases h with h | h
      · exact absurd hfailed (h event hmem)
      · exact h
  | @unposted _ cause hplace =>
      have hnothing : ∀ event ∈ ([] : List Event), ¬ event.access.IsMemoryWrite :=
        fun event hmem => absurd hmem List.not_mem_nil
      have hnone := not_failedMemoryWrite (c := c) (.error cause) hplace hnothing
      refine ⟨⟨fun _ => Or.inl hnone, fun _ => p.blank_undelivered⟩, fun h => ?_⟩
      rcases h with ⟨event, hmem, hfailed⟩
      exact absurd hfailed (hnone event hmem)
  | failed hplace hreceive =>
      have hnone := not_failedMemoryWrite (c := c) (.ok ()) hplace
        (not_isMemoryWrite_of_receive hreceive)
      refine ⟨⟨fun _ => Or.inl hnone, fun _ => Packet.blank_aborted _⟩, fun h => ?_⟩
      rcases h with ⟨event, hmem, hfailed⟩
      exact absurd hfailed (hnone event hmem)
  | finished hplace hreceive =>
      exact absurd hfailure (by simp only [reduceCtorEq, not_false_eq_true])

/-- A packet that reads sixteen bytes of the first block. -/
def sampleRead : Packet :=
  .read [0x28, 0, 0, 0, 0, 0, 0, 0, 1, 0] 16

/-- An adapter whose memory cannot be written. -/
def unwritable : Adapter Unit :=
  steady (fun _ => 0) false

-- The way of the packet to that adapter ends at the first write.
theorem passThrough_unwritable :
    ((sample.passThrough 1 .zero 0 sampleRead).run unwritable ()).outcome =
      .ok ⟨.error (.bus (.outOfBounds Slot.request.offset Slot.request.size 0)), sampleRead,
        sample⟩ :=
  rfl

theorem blank_iff_placed_of_unwritable :
    sampleRead.check .zero 0 = .ok () ∧
    ∃ served failure,
      ((sample.passThrough 1 .zero 0 sampleRead).run unwritable ()).outcome = .ok served ∧
      served.outcome = .error failure ∧ served.packet = sampleRead := by
  have hcheck : sampleRead.check .zero 0 = .ok () := rfl
  refine ⟨hcheck, _, _, passThrough_unwritable, rfl, ?_⟩
  refine (blank_iff_placed unwritable () hcheck passThrough_unwritable rfl).2 ?_
  exact ⟨_, List.mem_cons_self, trivial, Option.some_ne_none _⟩

/-- A read that no adapter has seen fails, and its packet says that it returned
    sixteen bytes and that all went well. -/
theorem read_unplaced_reports_success :
    sampleRead.check .zero 0 = .ok () ∧
    ∃ served cause,
      ((sample.passThrough 1 .zero 0 sampleRead).run unwritable ()).outcome = .ok served ∧
      served.outcome = .error (.bus cause) ∧ served.packet.hostStatus = .ok ∧
      served.packet.dataIn.length = 16 ∧ ¬ served.packet.Blank := by
  refine ⟨rfl, _, _, passThrough_unwritable, rfl, rfl, rfl, fun hblank => ?_⟩
  exact absurd rfl hblank.hostStatus_ne

end Controller

end FusionMpt
