import FusionMpt.Proofs.Transfer.Completion

/-!
# What Is Left of the Request

A packet is the request and its results in one. Whatever comes of it, the part
that is the request stays: its direction, its command and the data that it
sends. Of the buffers for the results the bytes may change, but not how many
there are, so the caller can issue the packet again.

Copying back cuts the front off a buffer and puts as many bytes in its place.
That there are as many was tested just before, so this holds of any packet and
not of admitted ones alone.

## Main definitions

* `Packet.SameRequest`: The packet is the same request, with buffers of the
  same lengths.
* `Exchange.Leaves`: What is true of the packet however an exchange ends.

## Theorems

* `Exchange.leaves_bind`: What a sequence leaves.
* `Packet.leaves_copyBack`: What copying back leaves.
* `Packet.leaves_complete`: Finishing a packet leaves the request.
-/

namespace FusionMpt

/-- The packet `q` is the request that `p` is, and has buffers as long as
    those of `p`. -/
structure Packet.SameRequest (p q : Packet) : Prop where
  direction_eq : q.direction = p.direction
  cdb_eq : q.cdb = p.cdb
  outData_eq : q.outData = p.outData
  length_inData : q.inData.length = p.inData.length
  length_senseData : q.senseData.length = p.senseData.length

namespace Exchange

variable {α β : Type} {p : Packet} {P : Packet → Prop}

/-- However the exchange ends from packet `p`, the packet that it leaves has the
    property. -/
def Leaves (exchange : Exchange α) (p : Packet) (P : Packet → Prop) : Prop :=
  ∀ events result q, (exchange.run p).Path events (.ok (result, q)) → P q

theorem leaves_bind {exchange : Exchange α} {next : α → Exchange β} (hfirst : exchange.Leaves p P)
    (hnext : ∀ value q, P q → (next value).Leaves q P) : (exchange >>= next).Leaves p P := by
  intro events result q h
  rw [run_bind_apply, Program.path_bind_ok] at h
  rcases h with ⟨⟨first | first, r⟩, front, rest, rfl, hfront, hrest⟩
  · -- the second part is not begun
    rcases hrest with ⟨-, hr⟩
    rw [(Prod.mk.inj (Except.ok.inj hr)).2]
    exact hfirst front _ r hfront
  · exact hnext first r (hfirst front _ r hfront) rest result q hrest

theorem leaves_pure {value : α} (h : P p) : (pure value : Exchange α).Leaves p P := by
  rintro events result q ⟨-, hq⟩
  rw [(Prod.mk.inj (Except.ok.inj hq)).2]
  exact h

theorem leaves_throw {failure : Error} (h : P p) : (throw failure : Exchange α).Leaves p P := by
  rintro events result q ⟨-, hq⟩
  rw [(Prod.mk.inj (Except.ok.inj hq)).2]
  exact h

theorem leaves_set {q : Packet} (h : P q) : (set q : Exchange Unit).Leaves p P := by
  rintro events result r ⟨-, hr⟩
  rw [(Prod.mk.inj (Except.ok.inj hr)).2]
  exact h

-- An attempt does not touch the packet.
theorem leaves_attempt {attempt : Attempt α} (h : P p) : attempt.exchange.Leaves p P := by
  intro events result q hpath
  change (attempt.run >>= fun outcome => Program.done (outcome, p)).Path _ _ at hpath
  rw [Program.path_bind_ok] at hpath
  rcases hpath with ⟨first, front, rest, rfl, -, -, hq⟩
  rw [(Prod.mk.inj (Except.ok.inj hq)).2]
  exact h

end Exchange

namespace Packet

variable {p q r : Packet}

namespace SameRequest

theorem refl (p : Packet) : p.SameRequest p :=
  ⟨rfl, rfl, rfl, rfl, rfl⟩

theorem trans (hfirst : p.SameRequest q) (hsecond : q.SameRequest r) : p.SameRequest r where
  direction_eq := hsecond.direction_eq.trans hfirst.direction_eq
  cdb_eq := hsecond.cdb_eq.trans hfirst.cdb_eq
  outData_eq := hsecond.outData_eq.trans hfirst.outData_eq
  length_inData := hsecond.length_inData.trans hfirst.length_inData
  length_senseData := hsecond.length_senseData.trans hfirst.length_senseData

-- As many bytes as are cut off are put in their place.
theorem length_overwritten {n : Nat} {buffer : List UInt8} (bytes : Vector UInt8 n)
    (h : n ≤ buffer.length) : (bytes.toList ++ buffer.drop n).length = buffer.length := by
  rw [List.length_append, List.length_drop, Vector.length_toList]
  omega

/-- The steps that blank a packet leave the request. -/
theorem undelivered (p : Packet) : p.SameRequest p.undelivered :=
  ⟨rfl, rfl, rfl, rfl, rfl⟩

theorem aborted (p : Packet) : p.SameRequest p.aborted :=
  ⟨rfl, rfl, rfl, rfl, rfl⟩

end SameRequest

/-! ## Copying back -/

theorem leaves_copySense {P : Packet → Prop} (h : P q)
    (hstore : q.senseLength.toNat ≤ q.senseData.length →
      ∀ bytes : Vector UInt8 q.senseLength.toNat, P (q.storeSense bytes.toList)) :
    copySense.Leaves q P := by
  change (ite (q.senseData.length < q.senseLength.toNat) _ _ : Exchange Unit).Leaves q _
  by_cases hshort : q.senseData.length < q.senseLength.toNat
  · rw [if_pos hshort]
    exact Exchange.leaves_throw h
  · rw [if_neg hshort]
    exact Exchange.leaves_bind (Exchange.leaves_attempt h)
      fun bytes _ _ => Exchange.leaves_set (hstore (Nat.le_of_not_lt hshort) bytes)

theorem leaves_copyData {P : Packet → Prop} (h : P q)
    (hstore : q.inLength.toNat ≤ q.inData.length →
      ∀ bytes : Vector UInt8 q.inLength.toNat, P (q.storeData bytes.toList)) :
    copyData.Leaves q P := by
  unfold copyData
  intro events result r hpath
  rw [Exchange.run_get_bind] at hpath
  cases hphase : q.dataPhase with
  | none | toDevice _ =>
      rw [hphase] at hpath
      exact Exchange.leaves_pure h events result r hpath
  | toHost length =>
      rcases eq_inLength_of_toHost hphase with ⟨-, rfl⟩
      rw [hphase] at hpath
      change ((ite (q.inData.length < q.inLength.toNat) _ _ : Exchange Unit).run q).Path _ _ at hpath
      by_cases hshort : q.inData.length < q.inLength.toNat
      · rw [if_pos hshort] at hpath
        exact Exchange.leaves_throw h events result r hpath
      · rw [if_neg hshort] at hpath
        exact Exchange.leaves_bind (Exchange.leaves_attempt h)
          (fun bytes _ _ => Exchange.leaves_set (hstore (Nat.le_of_not_lt hshort) bytes))
          events result r hpath

/-- Copying back leaves what is true of the packet and stays true when results are
    put into its buffers. -/
theorem leaves_copyBack {P : Packet → Prop} (h : P p)
    (hsense : ∀ q, P q → q.senseLength.toNat ≤ q.senseData.length →
      ∀ bytes : Vector UInt8 q.senseLength.toNat, P (q.storeSense bytes.toList))
    (hdata : ∀ q, P q → q.inLength.toNat ≤ q.inData.length →
      ∀ bytes : Vector UInt8 q.inLength.toNat, P (q.storeData bytes.toList)) :
    copyBack.Leaves p P :=
  Exchange.leaves_bind (leaves_copySense h (hsense p h)) fun _ q h =>
    leaves_copyData h (hdata q h)

/-! ## Finishing -/

-- A status is no part of the request.
theorem leaves_modify_status {host : HostStatus} {target : Packet → TargetStatus}
    (h : p.SameRequest q) :
    (modify fun q => { q with hostStatus := host, targetStatus := target q } : Exchange Unit).Leaves
      q p.SameRequest := by
  rintro events result r ⟨-, hr⟩
  rw [(Prod.mk.inj (Except.ok.inj hr)).2]
  exact h.trans ⟨rfl, rfl, rfl, rfl, rfl⟩

theorem leaves_completeFailed (h : p.SameRequest q) (region : Region) :
    (completeFailed region).Leaves q p.SameRequest := by
  unfold completeFailed
  refine Exchange.leaves_bind (Exchange.leaves_attempt h) (fun bytes q h => ?_)
  exact Exchange.leaves_bind (leaves_modify_status h) fun _ _ h => Exchange.leaves_attempt h

/-- However finishing a packet ends, the packet is the request that it was. -/
theorem leaves_complete (h : p.SameRequest q) (region : Region) (token : UInt32) :
    (complete region token).Leaves q p.SameRequest := by
  have hcopy : copyBack.Leaves q p.SameRequest :=
    leaves_copyBack h
      (fun _ h hfits bytes => h.trans ⟨rfl, rfl, rfl, rfl, SameRequest.length_overwritten bytes hfits⟩)
      (fun _ h hfits bytes => h.trans ⟨rfl, rfl, rfl, SameRequest.length_overwritten bytes hfits, rfl⟩)
  refine Exchange.leaves_bind hcopy (fun _ q h => ?_)
  by_cases hcontext : token = IoRequest.context
  · rw [if_pos hcontext]
    exact leaves_modify_status h
  · rw [if_neg hcontext]
    by_cases hstray : token &&& replyAddressFlag = 0
    · rw [if_pos hstray]
      exact Exchange.leaves_throw h
    · rw [if_neg hstray]
      exact leaves_completeFailed h region

end Packet

end FusionMpt
