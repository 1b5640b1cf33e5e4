import FusionMpt.Proofs.Controller.Classification
import FusionMpt.Proofs.Device.Tacit

/-!
# What Earlier Requests Leave Behind

The memory of a controller is not new for each request. What earlier ones have
put into the slots lies there, and so does what the device has returned to them.
Staging a packet zeroes the slot of the frame and writes over the data slot only
as far as the packet has data for the device. The slots that results are taken
from are left as they are, and results are taken in the full length that was
asked for.

So two runs are compared here that differ in nothing but what lay in memory
before. Up to the reply they are the same run, since nothing is read. What
finishes the packet reads the same slots in both, fails in both or in neither,
and stores what it has read in the packet. Nothing that was read is ever
overwritten, by an abort neither, so the two packets are equal exactly if what
was read counts as the same. Of an error frame only the host status counts that
its status comes down to; of the sense bytes and the data every byte does.

Then what was read is traced back. A byte is fresh if the engine or the adapter
has stored it in the course of the call. The packets are equal exactly if all
bytes read are fresh or were equal before, and an adapter that transfers nothing
shows that they need not be.

## Main definitions

* `Presents`: What counts of bytes that were read.
* `Packet.Beside`, `Served.Beside`: How two runs compare.
* `Conduct.Fresh`: An event takes up nothing from before.

## Theorems

* `Packet.parallel_complete`: Finishing a packet, beside itself.
* `Packet.aborted_eq_iff`: An abort does not hide what was read.
* `Controller.parallel_passThrough`: Passing a packet through.
* `Conduct.same_packet_iff_fresh`: When a packet comes back the same.
* `Conduct.read_gives_earlier_write`: A packet that does not.
-/

namespace FusionMpt

/-- What counts of bytes that were read: of the error frame its status, and of
    anything else every byte. -/
def Presents (offset : Nat) (first second : List UInt8) : Prop :=
  if offset = Slot.errorReply.offset then frameStatus first = frameStatus second
  else first = second

theorem presents_iff_eq {offset : Nat} (h : offset ≠ Slot.errorReply.offset)
    (first second : List UInt8) : Presents offset first second ↔ first = second :=
  Iff.of_eq (if_neg h)

theorem presents_errorReply (bytes bytes' : Vector UInt8 32) :
    Presents Slot.errorReply.offset bytes.toList bytes'.toList ↔
      HostStatus.ofReplyStatus (ErrorReply.decode bytes).status =
        .ofReplyStatus (ErrorReply.decode bytes').status := by
  rw [ofReplyStatus_decode, ofReplyStatus_decode]
  exact Iff.of_eq (if_pos rfl)

namespace Packet

variable {p q : Packet} {same : Prop}

/-- What finishing a packet comes to in two runs that go side by side: the same
    result, and packets that are equal if all that was read is the same, and
    else apart in this way. -/
structure Beside (Apart : Packet → Packet → Prop) (same : Prop)
    (first second : Except Error Unit × Packet) : Prop where
  result_eq : first.1 = second.1
  packet_eq_iff : first.2 = second.2 ↔ same
  apart : Apart first.2 second.2

/-- Admitted packets that differ at most in their sense bytes. -/
def ApartInSense (p q : Packet) : Prop :=
  p.Admitted ∧ q.Admitted ∧ ∃ sense, q = { p with senseData := sense }

/-- Packets that differ at most in the results in their buffers. -/
def ApartInBuffers (p q : Packet) : Prop :=
  ∃ sense data, q = { p with senseData := sense, inData := data }

/-- Packets that differ at most in their results, neither of which reports a
    success that the other does not. -/
def ApartInResults (p q : Packet) : Prop :=
  ∃ sense data host, q = { p with senseData := sense, inData := data, hostStatus := host } ∧
    (host = p.hostStatus ∨ host ≠ .ok ∧ p.hostStatus ≠ .ok)

theorem eq_of_results {sense data : List UInt8} {host : HostStatus} (hsense : p.senseData = sense)
    (hdata : p.inData = data) (hhost : p.hostStatus = host) :
    p = { p with senseData := sense, inData := data, hostStatus := host } := by
  rw [← hsense, ← hdata, ← hhost]

theorem parallel_copySense (hadmitted : p.Admitted) :
    Program.Parallel Presents (Beside ApartInSense) True (copySense.run p) (copySense.run p) := by
  rw [copySense_run hadmitted.sense_fits]
  refine .read (fun cause => .done ?_) (fun bytes bytes' => .done ?_)
  · exact ⟨rfl, iff_of_true rfl trivial, hadmitted, hadmitted, p.senseData, rfl⟩
  · refine ⟨rfl, ?_, hadmitted.storeSense bytes.length_toList,
      hadmitted.storeSense bytes'.length_toList, _, rfl⟩
    rw [true_and, presents_iff_eq (by decide)]
    constructor
    · intro h
      exact List.append_cancel_right (congrArg Packet.senseData h)
    · intro h
      change p.storeSense bytes.toList = p.storeSense bytes'.toList
      rw [h]

theorem parallel_copyData (h : p = q ↔ same) (hapart : ApartInSense p q) :
    Program.Parallel Presents (Beside ApartInBuffers) same (copyData.run p) (copyData.run q) := by
  rcases hapart with ⟨hp, hq, sense, rfl⟩
  cases hphase : p.dataPhase with
  | none | toDevice _ =>
      have hnone : ∀ length, p.dataPhase ≠ .toHost length := by
        rw [hphase]
        exact fun _ => DataPhase.noConfusion
      -- the data phase does not depend on the sense bytes
      have hnone' : ∀ length, ({ p with senseData := sense }).dataPhase ≠ .toHost length := hnone
      rw [copyData_run_of_not_toHost hnone, copyData_run_of_not_toHost hnone']
      exact .done ⟨rfl, h, sense, p.inData, rfl⟩
  | toHost length =>
      rw [copyData_run hp.resultsFit hphase, copyData_run hq.resultsFit hphase]
      refine .read (fun cause => .done ?_) (fun bytes bytes' => .done ?_)
      · exact ⟨rfl, h, sense, p.inData, rfl⟩
      · refine ⟨rfl, ?_, sense, _, rfl⟩
        rw [← h, presents_iff_eq (by decide)]
        constructor
        · intro hstored
          exact ⟨eq_of_results (congrArg Packet.senseData hstored) rfl rfl,
            List.append_cancel_right (congrArg Packet.inData hstored)⟩
        · rintro ⟨hpacket, hbytes⟩
          have hsense : p.senseData = sense := congrArg Packet.senseData hpacket
          rw [← hsense, hbytes]

/-- Exchanges side by side, one after the other. -/
theorem parallel_exchange_bind {Apart Apart' : Packet → Packet → Prop} {exchange : Exchange Unit}
    {next : Exchange Unit}
    (h : Program.Parallel Presents (Beside Apart) same (exchange.run p) (exchange.run q))
    (hweak : ∀ p q, Apart p q → Apart' p q)
    (hnext : ∀ same p q, (p = q ↔ same) → Apart p q →
      Program.Parallel Presents (Beside Apart') same (next.run p) (next.run q)) :
    Program.Parallel Presents (Beside Apart') same ((exchange >>= fun _ => next).run p)
      ((exchange >>= fun _ => next).run q) := by
  rw [Exchange.run_bind_apply, Exchange.run_bind_apply]
  refine Program.parallel_bind h fun same value value' hbeside => ?_
  rcases value with ⟨result, p⟩
  rcases value' with ⟨result', q⟩
  rcases hbeside with ⟨rfl, hiff, hapart⟩
  cases result with
  | error failure => exact .done ⟨rfl, hiff, hweak p q hapart⟩
  | ok _ => exact hnext same p q hiff hapart

theorem ApartInBuffers.inResults (h : ApartInBuffers p q) : ApartInResults p q := by
  rcases h with ⟨sense, data, rfl⟩
  exact ⟨sense, data, p.hostStatus, rfl, Or.inl rfl⟩

theorem parallel_completeFailed (h : p = q ↔ same) (hapart : ApartInBuffers p q) (region : Region) :
    Program.Parallel Presents (Beside ApartInResults) same ((completeFailed region).run p)
      ((completeFailed region).run q) := by
  have hframe : 32 ≤ Slot.errorReply.size := by decide
  unfold completeFailed
  rw [Slot.read_start .errorReply hframe]
  refine .read (fun cause => .done ⟨rfl, h, hapart.inResults⟩) (fun bytes bytes' => ?_)
  -- of the frame only the host status is kept, whether it can be handed back or not
  have hbeside : ∀ result, Beside ApartInResults
      (same ∧ Presents Slot.errorReply.offset bytes.toList bytes'.toList)
      (result, { p with hostStatus := .ofReplyStatus (ErrorReply.decode bytes).status })
      (result, { q with hostStatus := .ofReplyStatus (ErrorReply.decode bytes').status }) := by
    rcases hapart with ⟨sense, data, rfl⟩
    refine fun result => ⟨rfl, ?_, sense, data, _, rfl, Or.inr ⟨ofReplyStatus_ne_ok _,
      ofReplyStatus_ne_ok _⟩⟩
    rw [presents_errorReply, ← h]
    constructor
    · intro hequal
      exact ⟨eq_of_results (congrArg Packet.senseData hequal) (congrArg Packet.inData hequal) rfl,
        congrArg Packet.hostStatus hequal⟩
    · rintro ⟨hequal, hstatus⟩
      rw [← hequal, hstatus]
  refine .ask not_false fun answer => ?_
  cases answer with
  | error cause => exact .done (hbeside _)
  | ok _ => exact .done (hbeside _)

theorem parallel_complete (hadmitted : p.Admitted) (region : Region) (token : UInt32) :
    Program.Parallel Presents (Beside ApartInResults) True ((complete region token).run p)
      ((complete region token).run p) := by
  have hcopy : Program.Parallel Presents (Beside ApartInBuffers) True (copyBack.run p)
      (copyBack.run p) :=
    parallel_exchange_bind (parallel_copySense hadmitted)
      (fun p q h => ⟨h.2.2.choose, p.inData, h.2.2.choose_spec⟩)
      fun _ _ _ h hapart => parallel_copyData h hapart
  refine parallel_exchange_bind hcopy (fun _ _ => ApartInBuffers.inResults) ?_
  intro same p q h hapart
  by_cases hcontext : token = IoRequest.context
  · rw [if_pos hcontext]
    rcases hapart with ⟨sense, data, rfl⟩
    refine .done ⟨rfl, ?_, sense, data, .ok, rfl, Or.inl rfl⟩
    -- both packets get the same statuses
    rw [← h]
    constructor
    · intro hequal
      exact eq_of_results (congrArg Packet.senseData hequal) (congrArg Packet.inData hequal) rfl
    · intro hequal
      exact congrArg (fun p : Packet => { p with hostStatus := .ok, targetStatus := .good }) hequal
  · rw [if_neg hcontext]
    by_cases hstray : token &&& replyAddressFlag = 0
    · rw [if_pos hstray]
      exact .done ⟨rfl, h, hapart.inResults⟩
    · rw [if_neg hstray]
      exact parallel_completeFailed h hapart region

/-- Packets that are apart in their results still are when they are aborted. -/
theorem aborted_eq_iff (hapart : ApartInResults p q) : p.aborted = q.aborted ↔ p = q := by
  refine ⟨fun h => ?_, congrArg Packet.aborted⟩
  rcases hapart with ⟨sense, data, host, rfl, hhost⟩
  have hstatus : (if p.hostStatus = .ok then HostStatus.other else p.hostStatus) =
      if host = .ok then .other else host := congrArg Packet.hostStatus h
  have hsame : p.hostStatus = host := by
    rcases hhost with hhost | ⟨hfailed, hfailed'⟩
    · exact hhost.symm
    · rw [if_neg hfailed, if_neg hfailed'] at hstatus
      exact hstatus
  exact eq_of_results (congrArg Packet.senseData h) (congrArg Packet.inData h) hsame

end Packet

/-! ## Passing packets through -/

/-- How packets have fared that were passed through side by side. -/
structure Served.Beside (same : Prop) (first second : Served) : Prop where
  outcome_eq : first.outcome = second.outcome
  packet_eq_iff : first.packet = second.packet ↔ same

namespace Controller

variable {p : Packet} {c₁ c₂ : Controller} {polls : Nat} {target : Target} {lun : UInt64}

theorem parallel_receive (hadmitted : p.Admitted) (hregion : c₁.region = c₂.region)
    (hpolicy : c₁.policy = c₂.policy) (polls : Nat) :
    Program.Parallel Presents (Packet.Beside Packet.ApartInResults) True
      ((c₁.receive polls).run p) ((c₂.receive polls).run p) := by
  have hawait : (Queue.awaitReply c₁.policy polls).run.Uses fun access => ¬ access.IsMemoryRead :=
    Queue.uses_awaitReply _ _ (fun _ => not_false) not_false not_false
  unfold receive
  rw [← hregion, ← hpolicy, Exchange.run_bind_apply]
  change Program.Parallel _ _ _
    (((Queue.awaitReply c₁.policy polls).run >>= fun awaited => Program.done (awaited, p)) >>= _)
    (((Queue.awaitReply c₁.policy polls).run >>= fun awaited => Program.done (awaited, p)) >>= _)
  rw [Program.bind_assoc]
  refine Program.parallel_bind (Program.parallel_of_uses hawait trivial) ?_
  rintro same awaited _ ⟨hsame, rfl⟩
  have hsame : same = True := eq_true hsame
  rw [hsame]
  cases awaited with
  | error failure =>
      refine .done ⟨rfl, iff_of_true rfl trivial, p.senseData, p.inData, p.hostStatus, rfl, ?_⟩
      exact Or.inl rfl
  | ok token => exact Packet.parallel_complete hadmitted c₁.region token

theorem parallel_passThrough (hregion : c₁.region = c₂.region) (hpolicy : c₁.policy = c₂.policy)
    (polls : Nat) (target : Target) (lun : UInt64) (p : Packet) :
    Program.Parallel Presents Served.Beside True (c₁.passThrough polls target lun p)
      (c₂.passThrough polls target lun p) := by
  cases hcheck : p.check target lun with
  | error refusal =>
      rw [passThrough_refused hcheck, passThrough_refused hcheck]
      exact .done ⟨rfl, iff_of_true rfl trivial⟩
  | ok _ =>
      have hadmitted := ((p.check_eq_ok_iff target lun).mp hcheck).1
      have hplace : (p.place (IoRequest.ofPacket c₁.region target lun p)).attempt.run.Uses
          fun access => ¬ access.IsMemoryRead :=
        Program.uses_run_adapt (Packet.uses_place (fun _ _ => not_false) _ _)
      have hpost : (Queue.submit (c₁.region.lowAddress .request)).run.Uses
          fun access => ¬ access.IsMemoryRead := Program.uses_perform not_false
      unfold passThrough Packet.stage
      rw [hcheck, ← hregion]
      change Program.Parallel _ _ _
        (((p.place (IoRequest.ofPacket c₁.region target lun p)).attempt.run >>= _) >>= _)
        (((p.place (IoRequest.ofPacket c₁.region target lun p)).attempt.run >>= _) >>= _)
      rw [Program.bind_assoc, Program.bind_assoc]
      -- nothing is read before the wait, so the runs are equal up to there
      refine Program.parallel_bind (Program.parallel_of_uses hplace trivial) ?_
      rintro same placed _ ⟨hsame, rfl⟩
      cases placed with
      | error cause => exact .done ⟨rfl, iff_of_true rfl hsame⟩
      | ok _ =>
          change Program.Parallel _ _ _ ((Queue.submit (c₁.region.lowAddress .request)).run >>= _)
            ((Queue.submit (c₁.region.lowAddress .request)).run >>= _)
          refine Program.parallel_bind (Program.parallel_of_uses hpost hsame) ?_
          rintro same posted _ ⟨hsame, rfl⟩
          cases posted with
          | error cause => exact .done ⟨rfl, iff_of_true rfl hsame⟩
          | ok _ =>
              have hsame : same = True := eq_true hsame
              rw [hsame]
              refine Program.parallel_bind (parallel_receive hadmitted hregion hpolicy polls) ?_
              rintro same ⟨result, p⟩ ⟨_, q⟩ ⟨rfl, hiff, hapart⟩
              cases result with
              | error failure => exact .done ⟨rfl, (Packet.aborted_eq_iff hapart).trans hiff⟩
              | ok _ => exact .done ⟨rfl, hiff⟩

end Controller

/-! ## What is fresh -/

namespace Conduct

variable {τ : Type} {conduct : Conduct τ} {t : τ} {m₁ m₂ : HostMemory} {c₁ c₂ : Controller}

/-- The event takes up nothing in which the two memories differed before the
    stores. Every byte that it reads was put there by one of the stores, or was
    the same in both; of an error frame only the host status has to be. -/
def Fresh (m₁ m₂ : HostMemory) (stores : List (Nat × List UInt8)) : Event → Prop
  | ⟨.readMemory offset len, .ok _⟩ =>
    if offset = Slot.errorReply.offset then
      frameStatus ((m₁.putAll stores).segment offset len) =
        frameStatus ((m₂.putAll stores).segment offset len)
    else
      ∀ k, offset ≤ k → k < offset + len →
        (∃ store ∈ stores, HostMemory.Reaches m₁.size store k) ∨ m₁.bytes[k]? = m₂.bytes[k]?
  | _ => True

theorem sameRead_iff_fresh (hsize : m₁.size = m₂.size) (stores : List (Nat × List UInt8))
    (event : Event) :
    SameRead Presents (m₁.putAll stores) (m₂.putAll stores) event ↔ Fresh m₁ m₂ stores event := by
  rcases event with ⟨access, answer⟩
  cases access with
  | readMemory offset len =>
      cases answer with
      | error cause => exact Iff.rfl
      | ok bytes =>
          change Presents offset _ _ ↔ ite _ _ _
          unfold Presents
          by_cases hframe : offset = Slot.errorReply.offset
          · rw [if_pos hframe, if_pos hframe]
          · rw [if_neg hframe, if_neg hframe, HostMemory.segment_eq_iff]
            simp only [HostMemory.getElem?_putAll_eq_iff hsize]
  | _ => exact Iff.rfl

/-- A packet is passed through twice, against the same conduct and from different
    memories. Both times the same accesses are made, with the same result. The
    packet comes back the same exactly if all that was read is fresh. -/
theorem same_packet_iff_fresh (conduct : Conduct τ) (t : τ) (hregion : c₁.region = c₂.region)
    (hpolicy : c₁.policy = c₂.policy) (hbuffer : m₁.buffer = m₂.buffer) (polls : Nat)
    (target : Target) (lun : UInt64) (p : Packet) :
    let first := (c₁.passThrough polls target lun p).run conduct.adapter (m₁, t)
    let second := (c₂.passThrough polls target lun p).run conduct.adapter (m₂, t)
    first.trace.map Event.access = second.trace.map Event.access ∧
    first.outcome.map Served.outcome = second.outcome.map Served.outcome ∧
    (first.outcome.map Served.packet = second.outcome.map Served.packet ↔
      ∀ front event rest, first.trace = front ++ event :: rest →
        Fresh m₁ m₂ (conduct.putsOf front t) event) := by
  intro first second
  have hsize : m₁.size = m₂.size := congrArg Buffer.size hbuffer
  rcases outcomes_of_parallel
    (Controller.parallel_passThrough hregion hpolicy polls target lun p) hsize t with
    ⟨haccesses, hend⟩
  have hfresh : conduct.SameReads Presents m₁ m₂ t first.trace ↔
      ∀ front event rest, first.trace = front ++ event :: rest →
        Fresh m₁ m₂ (conduct.putsOf front t) event := by
    simp only [sameReads_iff, sameRead_iff_fresh hsize]
  rw [true_and] at hend
  change Outcomes Served.Beside (conduct.SameReads Presents m₁ m₂ t first.trace) first.outcome
    second.outcome at hend
  refine ⟨haccesses, ?_⟩
  rw [← hfresh]
  generalize first.outcome = end₁, second.outcome = end₂ at hend ⊢
  cases end₁ with
  | error why =>
      cases end₂ with
      | error why' =>
          rcases hend with ⟨rfl, hsame⟩
          exact ⟨rfl, iff_of_true rfl hsame⟩
      | ok _ => exact absurd hend not_false
  | ok served =>
      cases end₂ with
      | error _ => exact absurd hend not_false
      | ok served' =>
          refine ⟨congrArg Except.ok hend.outcome_eq, ?_⟩
          rw [← hend.packet_eq_iff]
          exact ⟨Except.ok.inj, congrArg Except.ok⟩

/-- Memory at 256 MiB with nothing in it. -/
def unused : HostMemory :=
  .zeroed 0x10000000 Slot.total

/-- A packet that writes four bytes. -/
def written : Packet :=
  .write [0x2a, 0, 0, 0, 0, 0, 0, 0, 1, 0] [1, 2, 3, 4]

/-- The same memory after that packet. -/
def used : HostMemory :=
  leftBehind .sample 1 .zero 0 written unused

/-- A packet that reads four bytes. -/
def fourBytes : Packet :=
  .read [0x28, 0, 0, 0, 0, 0, 0, 0, 1, 0] 4

theorem buffer_unused : unused.buffer = Controller.sample.region.buffer :=
  Controller.buffer_idle

theorem buffer_used : used.buffer = unused.buffer :=
  buffer_leftBehind _ _ _ _ _ _

-- Nothing is transferred, so what comes back is what lay there.
theorem dataIn_fourBytes {m : HostMemory} (hbuffer : m.buffer = unused.buffer) (health : Health) :
    ∃ q, (({ Controller.sample with health := health }.passThrough 1 .zero 0 fourBytes).run
        tacit.adapter (m, true)).outcome =
          .ok ⟨.ok (), q, { Controller.sample with health := health }⟩ ∧
      q.dataIn = m.segment Slot.data.offset 4 := by
  have hcheck : fourBytes.check .zero 0 = .ok () := rfl
  have hlength : fourBytes.dataPhase.length.toNat = 4 := rfl
  have hbuffer' : m.buffer = ({ Controller.sample with health := health }).region.buffer :=
    hbuffer.trans buffer_unused
  rw [← hlength]
  exact dataIn_of_tacit hbuffer' hcheck rfl rfl Nat.zero_lt_one

theorem segment_used : used.segment Slot.data.offset 4 = [1, 2, 3, 4] := by
  have hcheck : written.check .zero 0 = .ok () := rfl
  have hphase : written.dataPhase = .toDevice 4 := rfl
  exact segment_leftBehind buffer_unused hcheck hphase 1

theorem segment_unused : unused.segment Slot.data.offset 4 = [0, 0, 0, 0] := by
  unfold unused HostMemory.zeroed HostMemory.segment
  rw [List.drop_replicate, List.take_replicate]
  rfl

/-- Passed through from these two memories, the packet does not come back the
    same: not all that is read is fresh. -/
theorem same_packet_iff_fresh_of_tacit :
    used.buffer = unused.buffer ∧
    ¬ ∀ front event rest,
      ((Controller.sample.passThrough 1 .zero 0 fourBytes).run tacit.adapter (used, true)).trace =
        front ++ event :: rest → Fresh used unused (tacit.putsOf front true) event := by
  refine ⟨buffer_used, fun hfresh => ?_⟩
  have hregion : Controller.sample.region =
      ({ Controller.sample with health := .faulted }).region := rfl
  have hsame := (same_packet_iff_fresh tacit true hregion rfl buffer_used 1 .zero 0
    fourBytes).2.2.mpr hfresh
  rcases dataIn_fourBytes buffer_used .ready with ⟨q, houtcome, hdata⟩
  rcases dataIn_fourBytes rfl .faulted with ⟨q', houtcome', hdata'⟩
  have hpackets : Except.ok q = Except.ok q' :=
    (congrArg (Except.map Served.packet) houtcome).symm.trans
      (hsame.trans (congrArg (Except.map Served.packet) houtcome'))
  rw [Except.ok.inj hpackets, hdata', segment_unused, segment_used] at hdata
  exact absurd hdata (by decide)

/-- A read that transfers nothing reports a success and gives its caller what an
    earlier packet has written, where without that packet it gives zeros. -/
theorem read_gives_earlier_write :
    ∃ q q', ((Controller.sample.passThrough 1 .zero 0 fourBytes).run tacit.adapter
          (used, true)).outcome = .ok ⟨.ok (), q, Controller.sample⟩ ∧
      ((Controller.sample.passThrough 1 .zero 0 fourBytes).run tacit.adapter
          (unused, true)).outcome = .ok ⟨.ok (), q', Controller.sample⟩ ∧
      q.dataIn = [1, 2, 3, 4] ∧ q'.dataIn = [0, 0, 0, 0] := by
  rcases dataIn_fourBytes buffer_used .ready with ⟨q, houtcome, hdata⟩
  rcases dataIn_fourBytes rfl .ready with ⟨q', houtcome', hdata'⟩
  exact ⟨q, q', houtcome, houtcome', hdata.trans segment_used, hdata'.trans segment_unused⟩

end Conduct

end FusionMpt
