import FusionMpt.Proofs.Controller.Delivery
import FusionMpt.Proofs.Device.Conduct

/-!
# An Adapter That Transfers Nothing

An adapter may say that a request succeeded and have stored nothing. Perhaps the
device returned fewer bytes than it was asked for, or no sense bytes. The reply
does not tell.

The conduct here goes to the end of that: every request succeeds, and memory is
what the engine has made it. So a packet that reads comes back with what lay in
the data slot before, and a packet that writes leaves its data in that slot. The
frame's slot is the only other that staging touches, and it lies in front of the
data.

## Main definitions

* `Conduct.tacit`: The conduct.
* `Conduct.leftBehind`: The memory after a packet.

## Theorems

* `Conduct.sharesMemory_tacit`, `Conduct.answers_tacit`: It does what is expected
  of an adapter.
* `Conduct.run_stage_tacit`: A staged packet is laid out in its memory.
* `Conduct.dataIn_of_tacit`: A packet that reads gets what lay there.
* `Conduct.segment_leftBehind`: A packet that writes leaves its data.
-/

namespace FusionMpt

namespace Conduct

variable {c : Controller} {m : HostMemory} {p : Packet} {target : Target} {lun : UInt64}

/-- Every request succeeds at once, and nothing is transferred. The reply queue
    gives the reply and then says that there is no other, by turns. -/
def tacit : Conduct Bool where
  mind :=
    { answer := fun access queued =>
        match access with
        | .readRegister offset =>
          if offset = Register.interruptStatus then (.ok 8, queued)
          else if offset = Register.replyQueue then
            (.ok (if queued then IoRequest.context else Register.noReply), !queued)
          else (.ok 0, queued)
        | access => (((Controller.steady (fun _ => 0) true).answer access ()).1, queued) }
  stores _ _ := []

theorem sharesMemory_tacit : SharesMemory tacit.adapter Prod.fst where
  buffer_eq access s := HostMemory.buffer_putAll _ _
  write s offset bytes m hwrite := by
    refine ⟨rfl, ?_⟩
    change s.1.put offset bytes = m
    unfold HostMemory.put
    rw [hwrite]
  read s offset len bytes hread := ⟨hread, rfl⟩

theorem answers_tacit (stall : Duration) (m : HostMemory) :
    Queue.Answers tacit.adapter stall 0 (m, true) (m, true) := by
  have hword : Register.ShowsReply 8 := by
    unfold Register.ShowsReply
    decide
  exact ⟨(m, true), (m, false), (m, true), .now rfl hword, rfl, rfl, rfl⟩

-- Placing a packet does not touch the queue.
theorem queued_after {request : IoRequest} {events : List Event} {result : Except BusError Unit}
    (hplace : Performed (p.placeAccesses request) events result) (s : HostMemory × Bool) :
    (tacit.adapter.after events s).2 = s.2 := by
  have hqueued : ∀ (access : Access) (s : HostMemory × Bool), access.IsMemoryWrite →
      (tacit.adapter.answer access s).2.2 = s.2 := by
    intro access s hwrite
    cases access with
    | writeMemory offset bytes => rfl
    | _ => exact absurd hwrite not_false
  exact Adapter.view_after hqueued (Packet.isMemoryWrite_of_placed hplace) s

/-- A staged packet is laid out in memory, and nothing else has changed. -/
theorem run_stage_tacit (hbuffer : m.buffer = c.region.buffer)
    (hcheck : p.check target lun = .ok ()) (queued : Bool) :
    ∃ events, (p.stage c.region target lun).run tacit.adapter (m, queued) =
      ⟨events, .ok (.ok (IoRequest.ofPacket c.region target lun p), p),
        (p.laidOut (IoRequest.ofPacket c.region target lun p) m, queued)⟩ := by
  have hroom := Region.total_le_of_buffer hbuffer
  rcases Packet.run_stage_laidOut (s := (m, queued)) c.region sharesMemory_tacit hroom hcheck with
    ⟨events, ⟨staged, queued'⟩, hstage, hmemory⟩
  have hafter := tacit.adapter.after_run (p.stage c.region target lun) (m, queued)
  have hpath := Program.path_run tacit.adapter (p.stage c.region target lun) (m, queued)
  rw [hstage] at hafter hpath
  rcases Controller.path_stage hcheck hpath with ⟨placed, hplace, -⟩
  have hsame : queued' = queued := by
    have hqueued := queued_after hplace (m, queued)
    rw [hafter] at hqueued
    exact hqueued
  have hstaged : staged = p.laidOut (IoRequest.ofPacket c.region target lun p) m := hmemory
  rw [hsame, hstaged] at hstage
  exact ⟨events, hstage⟩

/-- A packet that reads comes back with what lay in the data slot before. -/
theorem dataIn_of_tacit (hbuffer : m.buffer = c.region.buffer)
    (hcheck : p.check target lun = .ok ()) (hread : p.direction = .read)
    (hlimit : c.policy.limit? = none) {polls : Nat} (hpolls : 0 < polls) :
    ∃ q, ((c.passThrough polls target lun p).run tacit.adapter (m, true)).outcome =
        .ok ⟨.ok (), q, c⟩ ∧
      q.dataIn = m.segment Slot.data.offset p.dataPhase.length.toNat := by
  have hadmitted := ((p.check_eq_ok_iff target lun).mp hcheck).1
  have hroom := Region.total_le_of_buffer hbuffer
  have hbuffer' := (Packet.buffer_laidOut hroom (Packet.length_payload_le hadmitted)
    (IoRequest.ofPacket c.region target lun p)).trans hbuffer
  have hunsent : p.direction ≠ .write := by
    rw [hread]
    decide
  have hsame := Packet.segment_laidOut_unsent hroom (Or.inl hunsent)
    (IoRequest.ofPacket c.region target lun p) p.dataPhase.length.toNat
  rcases run_stage_tacit hbuffer hcheck true with ⟨events, hstage⟩
  generalize p.laidOut (IoRequest.ofPacket c.region target lun p) m = staged at hbuffer' hsame hstage
  have hsum : 0 * c.policy.stall.nanos < Duration.bound := by
    rw [Nat.zero_mul]
    decide
  rcases Controller.outcome_of_answers sharesMemory_tacit hbuffer' hadmitted
    (answers_tacit c.policy.stall staged) hpolls (Queue.inTime_of_no_limit hlimit) hsum with
    ⟨q, houtcome, -, -, -, hdata⟩
  refine ⟨q, ?_, (hdata hread).trans hsame⟩
  have hpost : tacit.adapter.answer (.writeRegister Register.requestQueue
      (c.region.lowAddress .request)) (staged, true) = (.ok (), (staged, true)) := rfl
  rw [Controller.run_passThrough hstage hpost]
  exact houtcome

/-- The memory after a packet was passed through. -/
def leftBehind (c : Controller) (polls : Nat) (target : Target) (lun : UInt64) (p : Packet)
    (m : HostMemory) : HostMemory :=
  ((c.passThrough polls target lun p).run tacit.adapter (m, true)).state.1

theorem buffer_leftBehind (c : Controller) (polls : Nat) (target : Target) (lun : UInt64)
    (p : Packet) (m : HostMemory) : (leftBehind c polls target lun p m).buffer = m.buffer := by
  unfold leftBehind
  rw [← Adapter.after_run]
  exact sharesMemory_tacit.buffer_after _ _

/-- A packet that writes leaves its data in the data slot. -/
theorem segment_leftBehind (hbuffer : m.buffer = c.region.buffer)
    (hcheck : p.check target lun = .ok ()) {length : UInt32}
    (hphase : p.dataPhase = .toDevice length) (polls : Nat) :
    (leftBehind c polls target lun p m).segment Slot.data.offset length.toNat =
      p.outData.take length.toNat := by
  unfold leftBehind
  have hroom := Region.total_le_of_buffer hbuffer
  have hadmitted := ((p.check_eq_ok_iff target lun).mp hcheck).1
  rcases Packet.eq_outLength_of_toDevice hphase with ⟨hwrite, rfl⟩
  have hsent := Packet.segment_laidOut_sent hroom hadmitted hwrite
    (IoRequest.ofPacket c.region target lun p)
  rcases run_stage_tacit hbuffer hcheck true with ⟨events, hstage⟩
  generalize p.laidOut (IoRequest.ofPacket c.region target lun p) m = staged at hsent hstage
  have hpost : tacit.adapter.answer (.writeRegister Register.requestQueue
      (c.region.lowAddress .request)) (staged, true) = (.ok (), (staged, true)) := rfl
  rw [Controller.run_passThrough hstage hpost]
  change ((((c.receive polls).run p >>= fun result => Program.done (c.settle result)).run
    tacit.adapter (staged, true)).state).1.segment _ _ = _
  -- nothing is written to memory after the post
  have huses : ((c.receive polls).run p >>= fun result => Program.done (c.settle result)).Uses
      fun access => ¬ access.IsMemoryWrite :=
    Program.uses_bind (Controller.uses_receive _ (fun _ => not_false) (fun _ _ => not_false)
      not_false not_false not_false p) fun _ => trivial
  have hkept : ∀ (access : Access) (s : HostMemory × Bool), ¬ access.IsMemoryWrite →
      (tacit.adapter.answer access s).2.1 = s.1 := by
    intro access s hwrite
    cases access with
    | writeMemory offset bytes => exact absurd trivial hwrite
    | _ => rfl
  have hmemory := Adapter.view_after hkept
    (huses.mem (Program.path_run tacit.adapter _ (staged, true))) (staged, true)
  rw [Adapter.after_run] at hmemory
  rw [hmemory]
  exact hsent

end Conduct

end FusionMpt
