import FusionMpt.Proofs.Controller.Staging
import FusionMpt.Proofs.Platform.Parallel

/-!
# Nothing but the Transfer Shows

A packet holds more than is to be transferred: room for results with whatever
was in it before, data beyond the length that is sent, and the statuses of the
last time. None of that is the adapter's business, and none of it decides how
the packet fares.

So two packets are passed through that ask for the same transfer. At no step
does the engine look at anything in which they differ. That there is enough
room is known from admission, and what is stored there comes from the adapter.
An error frame and an abort do overwrite the host status, and an abort looks at
the one that was there; but what they make of it stays in the packet.

`Exchange.Blind` says this of a part of the engine that fills in a packet, and
is kept by sequences. Whoever changes such a part shows again that it is blind.

## Main definitions

* `Packet.SameTransfer`: The packets ask for the same transfer.
* `Packet.Paired`: They do, and both have room for the results.
* `Exchange.Blind`: The exchange does the same for such packets.
* `Served.verdict`: What is told of a packet that was passed through.

## Theorems

* `Exchange.blind_bind`: A sequence is blind if its parts are.
* `Packet.blind_complete`, `Controller.blind_receive`: Finishing a packet is
  blind, and so is waiting for the reply before.
* `Packet.inStep_stage`: Packets of the same transfer are staged the same.
* `Controller.passThrough_same_transfer`: They are passed through the same.
-/

namespace FusionMpt

namespace Packet

/-- The packets ask for the same: one direction, one command, the same lengths,
    and if data is sent the same data up to its length. -/
structure SameTransfer (p q : Packet) : Prop where
  direction_eq : p.direction = q.direction
  cdb_eq : p.cdb = q.cdb
  inLength_eq : p.inLength = q.inLength
  outLength_eq : p.outLength = q.outLength
  senseLength_eq : p.senseLength = q.senseLength
  sent_eq : p.direction = .write →
    p.outData.take p.outLength.toNat = q.outData.take q.outLength.toNat

/-- The packets ask for the same transfer, and both have room for its results. -/
structure Paired (p q : Packet) : Prop extends SameTransfer p q where
  fits_first : p.ResultsFit
  fits_second : q.ResultsFit

variable {p q : Packet}

namespace SameTransfer

theorem dataPhase_eq (h : p.SameTransfer q) : p.dataPhase = q.dataPhase := by
  unfold dataPhase
  rw [h.direction_eq, h.inLength_eq, h.outLength_eq]

theorem ofPacket_eq (h : p.SameTransfer q) (region : Region) (target : Target) (lun : UInt64) :
    IoRequest.ofPacket region target lun p = IoRequest.ofPacket region target lun q := by
  unfold IoRequest.ofPacket
  rw [h.cdb_eq, h.senseLength_eq, h.dataPhase_eq]

theorem place_eq (h : p.SameTransfer q) (request : IoRequest) :
    p.place request = q.place request := by
  have hdata : p.placeData = q.placeData := by
    unfold placeData
    rw [← h.dataPhase_eq]
    cases hphase : p.dataPhase with
    | none | toHost _ => rfl
    | toDevice length =>
        rcases eq_outLength_of_toDevice hphase with ⟨hwrite, rfl⟩
        have hsent := h.sent_eq hwrite
        rw [← h.outLength_eq] at hsent
        simp only [hsent]
  unfold place
  rw [hdata]

end SameTransfer

namespace Paired

/-- Packets stay paired when sense bytes are stored in both. -/
theorem storeSense (h : p.Paired q) {bytes : List UInt8}
    (hlength : bytes.length = p.senseLength.toNat) :
    (p.storeSense bytes).Paired (q.storeSense bytes) where
  toSameTransfer := { h.toSameTransfer with }
  fits_first := h.fits_first.storeSense hlength
  fits_second := h.fits_second.storeSense (by rw [hlength, h.senseLength_eq])

/-- They stay paired when data is, too. -/
theorem storeData (h : p.Paired q) {bytes : List UInt8}
    (hlength : bytes.length = p.inLength.toNat) :
    (p.storeData bytes).Paired (q.storeData bytes) where
  toSameTransfer := { h.toSameTransfer with }
  fits_first := h.fits_first.storeData hlength
  fits_second := h.fits_second.storeData (by rw [hlength, h.inLength_eq])

/-- No status is part of what a packet asks for. -/
theorem withStatus (h : p.Paired q) (host host' : HostStatus) (status status' : TargetStatus) :
    Paired { p with hostStatus := host, targetStatus := status }
      { q with hostStatus := host', targetStatus := status' } where
  toSameTransfer := { h.toSameTransfer with }
  fits_first := { h.fits_first with }
  fits_second := { h.fits_second with }

end Paired

end Packet

/-! ## Blind exchanges -/

namespace Exchange

variable {α β : Type}

/-- Packets that have fared the same, and still ask for the same. -/
structure Alongside (first second : Except Error α × Packet) : Prop where
  result_eq : first.1 = second.1
  paired : first.2.Paired second.2

/-- The exchange does the same for packets that ask for the same transfer. -/
def Blind (exchange : Exchange α) : Prop :=
  ∀ p q : Packet, p.Paired q → Program.InStep Alongside (exchange.run p) (exchange.run q)

theorem blind_bind {exchange : Exchange α} {next : α → Exchange β} (hfirst : exchange.Blind)
    (hnext : ∀ value, (next value).Blind) : (exchange >>= next).Blind := by
  intro p q hpaired
  rw [run_bind_apply, run_bind_apply]
  refine Program.inStep_bind (hfirst p q hpaired) ?_
  rintro ⟨result, p⟩ ⟨_, q⟩ ⟨rfl, hpaired⟩
  cases result with
  | error failure => exact .done ⟨rfl, hpaired⟩
  | ok value => exact hnext value p q hpaired

-- An attempt does not have the packet.
theorem blind_attempt (attempt : Attempt α) : attempt.exchange.Blind := by
  intro p q hpaired
  refine Program.inStep_bind (Program.inStep_refl attempt.run) ?_
  rintro result _ rfl
  exact .done ⟨rfl, hpaired⟩

theorem blind_throw (failure : Error) : (throw failure : Exchange α).Blind :=
  fun _ _ hpaired => .done ⟨rfl, hpaired⟩

theorem blind_modify {f : Packet → Packet} (h : ∀ p q : Packet, p.Paired q → (f p).Paired (f q)) :
    (modify f : Exchange Unit).Blind :=
  fun p q hpaired => .done ⟨rfl, h p q hpaired⟩

end Exchange

namespace Packet

theorem blind_copySense : copySense.Blind := by
  intro p q hpaired
  rw [copySense_run hpaired.fits_first.sense_fits, copySense_run hpaired.fits_second.sense_fits,
    ← hpaired.senseLength_eq]
  refine .call fun answer => ?_
  cases answer with
  | error cause => exact .done ⟨rfl, hpaired⟩
  | ok bytes => exact .done ⟨rfl, hpaired.storeSense bytes.length_toList⟩

theorem blind_copyData : copyData.Blind := by
  intro p q hpaired
  have hsame := hpaired.dataPhase_eq
  cases hphase : p.dataPhase with
  | none | toDevice _ =>
      have hnone : ∀ length, p.dataPhase ≠ .toHost length := by
        rw [hphase]
        exact fun _ => DataPhase.noConfusion
      rw [copyData_run_of_not_toHost hnone, copyData_run_of_not_toHost (hsame ▸ hnone)]
      exact .done ⟨rfl, hpaired⟩
  | toHost length =>
      have hphase' : q.dataPhase = .toHost length := hsame.symm.trans hphase
      have hlength := (eq_inLength_of_toHost hphase).2
      rw [copyData_run hpaired.fits_first hphase, copyData_run hpaired.fits_second hphase']
      refine .call fun answer => ?_
      cases answer with
      | error cause => exact .done ⟨rfl, hpaired⟩
      | ok bytes =>
          exact .done ⟨rfl, hpaired.storeData (by rw [bytes.length_toList, hlength])⟩

theorem blind_completeFailed (region : Region) : (completeFailed region).Blind :=
  Exchange.blind_bind (Exchange.blind_attempt _) fun _ =>
    Exchange.blind_bind
      (Exchange.blind_modify fun p q hpaired =>
        hpaired.withStatus _ _ p.targetStatus q.targetStatus)
      fun _ => Exchange.blind_attempt _

/-- Finishing a packet is blind, by whichever token. -/
theorem blind_complete (region : Region) (token : UInt32) : (complete region token).Blind := by
  have hcopy : copyBack.Blind := Exchange.blind_bind blind_copySense fun _ => blind_copyData
  refine Exchange.blind_bind hcopy fun _ => ?_
  by_cases hcontext : token = IoRequest.context
  · rw [if_pos hcontext]
    exact Exchange.blind_modify fun _ _ hpaired => hpaired.withStatus _ _ _ _
  · rw [if_neg hcontext]
    by_cases hstray : token &&& replyAddressFlag = 0
    · rw [if_pos hstray]
      exact Exchange.blind_throw _
    · rw [if_neg hstray]
      exact blind_completeFailed region

/-! ## Passing packets through -/

variable {p q : Packet} {target : Target} {lun : UInt64}

/-- Packets that ask for the same transfer are staged the same. -/
theorem inStep_stage (hp : p.check target lun = .ok ()) (hq : q.check target lun = .ok ())
    (hsame : p.SameTransfer q) (region : Region) :
    Program.InStep Exchange.Alongside (p.stage region target lun) (q.stage region target lun) := by
  have hpaired : p.Paired q :=
    { hsame with
      fits_first := ((p.check_eq_ok_iff target lun).mp hp).1.resultsFit
      fits_second := ((q.check_eq_ok_iff target lun).mp hq).1.resultsFit }
  unfold stage
  rw [hp, hq]
  change Program.InStep _ ((p.place (IoRequest.ofPacket region target lun p)).attempt.run >>= _)
    ((q.place (IoRequest.ofPacket region target lun q)).attempt.run >>= _)
  rw [hsame.ofPacket_eq, hsame.place_eq]
  refine Program.inStep_bind (Program.inStep_refl _) ?_
  rintro placed _ rfl
  exact .done ⟨rfl, hpaired⟩

end Packet

/-- The result of passing a packet through and what has become of the controller,
    without the packet. -/
def Served.verdict (served : Served) : Except Error Unit × Controller :=
  (served.outcome, served.controller)

namespace Controller

variable {p q : Packet} {target : Target} {lun : UInt64}

theorem blind_receive (c : Controller) (polls : Nat) : (c.receive polls).Blind :=
  Exchange.blind_bind (Exchange.blind_attempt _) fun token => Packet.blind_complete c.region token

theorem inStep_passThrough (hp : p.check target lun = .ok ()) (hq : q.check target lun = .ok ())
    (hsame : p.SameTransfer q) (c : Controller) (polls : Nat) :
    Program.InStep (fun first second => first.verdict = second.verdict)
      (c.passThrough polls target lun p) (c.passThrough polls target lun q) := by
  unfold passThrough
  refine Program.inStep_bind (Packet.inStep_stage hp hq hsame c.region) ?_
  rintro ⟨staged, p⟩ ⟨_, q⟩ ⟨rfl, hpaired⟩
  cases staged with
  | error failure => exact .done rfl
  | ok request =>
      refine Program.inStep_bind (Program.inStep_refl _) ?_
      rintro posted _ rfl
      cases posted with
      | error cause => exact .done rfl
      | ok _ =>
          refine Program.inStep_bind (c.blind_receive polls p q hpaired) ?_
          rintro ⟨result, p⟩ ⟨_, q⟩ ⟨rfl, -⟩
          cases result with
          | error failure => exact .done rfl
          | ok _ => exact .done rfl

/-- Packets that ask for the same transfer are passed through the same. The
    adapter is asked the same and answers the same, and the result and the
    controller are the same in the end. -/
theorem passThrough_same_transfer {σ : Type} (adapter : Adapter σ) (s : σ) (c : Controller)
    (polls : Nat) (hp : ∀ r : Requirement, r.Met p target lun)
    (hq : ∀ r : Requirement, r.Met q target lun) (hsame : p.SameTransfer q) :
    let first := (c.passThrough polls target lun p).run adapter s
    let second := (c.passThrough polls target lun q).run adapter s
    first.trace = second.trace ∧ first.state = second.state ∧
      first.outcome.map Served.verdict = second.outcome.map Served.verdict :=
  Program.run_of_inStep
    (inStep_passThrough (Packet.check_eq_ok_iff_met.mpr hp) (Packet.check_eq_ok_iff_met.mpr hq) hsame
      c polls)
    (fun _ _ h => h) adapter s

/-- A packet that writes the same four bytes, with other bytes behind them, with
    other buffers and with statuses. -/
def remarked : Packet :=
  { Packet.sampleWrite with
    inData := [9, 9]
    outData := [1, 2, 3, 4, 5, 6]
    senseData := List.replicate 20 0xff
    hostStatus := .other
    targetStatus := .taskAborted }

theorem met_remarked : ∀ r : Requirement, r.Met remarked .zero 0 :=
  Packet.check_eq_ok_iff_met.mp rfl

/-- A faulted controller passes both through the same, up to the reply queue that
    is out of step. -/
theorem passThrough_same_transfer_remarked :
    (({ sample with health := .faulted }.passThrough 1 .zero 0 Packet.sampleWrite).run
        (steady (fun _ => 8) true) ()).trace =
      (({ sample with health := .faulted }.passThrough 1 .zero 0 remarked).run
        (steady (fun _ => 8) true) ()).trace ∧
    (({ sample with health := .faulted }.passThrough 1 .zero 0 Packet.sampleWrite).run
        (steady (fun _ => 8) true) ()).outcome.map Served.verdict =
      (({ sample with health := .faulted }.passThrough 1 .zero 0 remarked).run
        (steady (fun _ => 8) true) ()).outcome.map Served.verdict := by
  have hsame := passThrough_same_transfer (steady (fun _ => 8) true) ()
    { sample with health := .faulted } 1 Packet.met_sampleWrite met_remarked
    ⟨rfl, rfl, rfl, rfl, rfl, fun _ => rfl⟩
  exact ⟨hsame.1, hsame.2.2⟩

end Controller

end FusionMpt
