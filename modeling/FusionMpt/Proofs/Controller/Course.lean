import FusionMpt.Controller.PassThrough
import FusionMpt.Proofs.Channel.Queue
import FusionMpt.Proofs.Transfer.Completion

/-!
# The Courses of a Packet

An admitted packet takes one of five courses, and its events tell which. It is
not placed; it is placed and not posted; it is posted and never comes back; it
is posted and the wait for its reply, or what follows, fails; or it is
finished. What becomes of the packet and of the controller depends on the
course alone, so this one case distinction is behind every fact about passing
packets through.

A packet that is refused takes no course. The adapter does not hear of it.

## Main definitions

* `Access.IsPost`: The access posts a request.
* `Controller.post`: The event of posting the frame.
* `Controller.Course`: The courses of an admitted packet.
* `Controller.Received`: The ways in which the wait and what follows it end.
* `Controller.sample`, `Controller.steady`: A controller and an adapter for
  statements about single runs.

## Theorems

* `Controller.path_passThrough`: An admitted packet takes one of the courses.
* `Controller.path_receive`: Its wait ends in one of the ways.
* `Controller.uses_receive`: The accesses made while the adapter has the
  request.
* `Controller.Course.forall_access`: The accesses of a course.
* `Controller.passThrough_refused`: A refused packet causes no event.
-/

namespace FusionMpt

/-- The access posts a request. -/
def Access.IsPost : Access → Prop
  | .writeRegister offset _ => offset = Register.requestQueue
  | _ => False

namespace Controller

variable {c : Controller} {polls : Nat} {target : Target} {lun : UInt64} {p : Packet}
  {events : List Event}

/-- The event of posting the frame of the one request. -/
def post (c : Controller) (answer : Except BusError Unit) : Event :=
  ⟨.writeRegister Register.requestQueue (c.region.lowAddress .request), answer⟩

/-- The courses of an admitted packet whose frame is `request`, and what it and
    the controller are after each. -/
inductive Course (c : Controller) (polls : Nat) (p : Packet) (request : IoRequest) :
    List Event → Except Halt Served → Prop where
  /-- A write to shared memory failed. -/
  | unplaced {events : List Event} {cause : BusError}
      (hplace : Performed (p.placeAccesses request) events (.error cause)) :
      Course c polls p request events (.ok ⟨.error (.bus cause), p, c⟩)
  /-- The address of the frame did not reach the adapter. -/
  | unposted {events : List Event} {cause : BusError}
      (hplace : Performed (p.placeAccesses request) events (.ok ())) :
      Course c polls p request (events ++ [c.post (.error cause)])
        (.ok ⟨.error (.device (.submission cause)), p.undelivered, c⟩)
  /-- Nothing came back from waiting. -/
  | halted {events rest : List Event} {why : Halt}
      (hplace : Performed (p.placeAccesses request) events (.ok ()))
      (hreceive : ((c.receive polls).run p).Path rest (.error why)) :
      Course c polls p request (events ++ c.post (.ok ()) :: rest) (.error why)
  /-- The adapter had the request when something failed. -/
  | failed {events rest : List Event} {failure : Error} {q : Packet}
      (hplace : Performed (p.placeAccesses request) events (.ok ()))
      (hreceive : ((c.receive polls).run p).Path rest (.ok (.error failure, q))) :
      Course c polls p request (events ++ c.post (.ok ()) :: rest)
        (.ok ⟨.error failure, q.aborted, { c with health := .faulted }⟩)
  | finished {events rest : List Event} {q : Packet}
      (hplace : Performed (p.placeAccesses request) events (.ok ()))
      (hreceive : ((c.receive polls).run p).Path rest (.ok (.ok (), q))) :
      Course c polls p request (events ++ c.post (.ok ()) :: rest) (.ok ⟨.ok (), q, c⟩)

-- Placing writes to memory, and the reply queue is read nowhere else than in
-- taking a reply.
theorem replies_of_placed {request : IoRequest} {result : Except BusError Unit}
    (h : Performed (p.placeAccesses request) events result) : replies events = [] := by
  refine replies_eq_nil (fun event hmem heq => ?_)
  have hwrite := Packet.isMemoryWrite_of_placed h event hmem
  rw [heq] at hwrite
  exact hwrite

-- Placing posts nothing.
theorem not_isPost_of_placed {request : IoRequest} {result : Except BusError Unit}
    (h : Performed (p.placeAccesses request) events result) :
    ∀ event ∈ events, ¬ event.access.IsPost := by
  intro event hmem hpost
  have hwrite := Packet.isMemoryWrite_of_placed h event hmem
  rcases event with ⟨access, answer⟩
  cases access with
  | writeRegister offset value => exact hwrite
  | _ => exact hpost

-- Once admission has let the packet through, staging it is placing it.
theorem path_stage (hcheck : p.check target lun = .ok ()) {region : Region}
    {outcome : Except Halt (Except Error IoRequest × Packet)}
    (h : (p.stage region target lun).Path events outcome) :
    ∃ placed : Except BusError Unit,
      Performed (p.placeAccesses (IoRequest.ofPacket region target lun p)) events placed ∧
      outcome = .ok ((placed.mapError Error.bus).map fun _ =>
        IoRequest.ofPacket region target lun p, p) := by
  have hadmitted := ((p.check_eq_ok_iff target lun).mp hcheck).1
  unfold Packet.stage at h
  rw [hcheck] at h
  change ((Except.mapError Error.bus <$> (p.place _).run) >>= fun placed =>
    Program.done (placed.map fun _ => IoRequest.ofPacket region target lun p, p)).Path _ _ at h
  rw [map_eq_pure_bind, Program.bind_assoc, Program.path_bind] at h
  rcases h with ⟨why, hplace, rfl⟩ | ⟨placed, front, rest, rfl, hplace, rfl, rfl⟩
  · -- placing always comes to an end
    rcases Packet.performs_place hadmitted _ events _ hplace with ⟨_, hhalt, -⟩
    exact absurd hhalt (by simp only [reduceCtorEq, not_false_eq_true])
  · rcases Packet.performs_place hadmitted _ front _ hplace with ⟨_, hok, hperformed⟩
    rw [Except.ok.injEq] at hok
    rw [← hok] at hperformed
    rw [List.append_nil]
    exact ⟨placed, by cases placed <;> exact hperformed, rfl⟩

theorem path_passThrough (hcheck : p.check target lun = .ok ()) {outcome : Except Halt Served}
    (h : (c.passThrough polls target lun p).Path events outcome) :
    Course c polls p (IoRequest.ofPacket c.region target lun p) events outcome := by
  unfold passThrough at h
  rw [Program.path_bind] at h
  rcases h with ⟨why, hstage, rfl⟩ | ⟨staged, placing, rest, rfl, hstage, hrest⟩
  · rcases path_stage hcheck hstage with ⟨_, -, hhalt⟩
    exact absurd hhalt (by simp only [reduceCtorEq, not_false_eq_true])
  -- The packet is placed or not, the write of its address is taken or not, and the
  -- wait comes to nothing, to a failure or to a reply.
  rcases path_stage hcheck hstage with ⟨placed, hplace, hstaged⟩
  rw [Except.ok.injEq] at hstaged
  rw [hstaged] at hrest
  cases placed with
  | error cause =>
      rcases hrest with ⟨rfl, rfl⟩
      rw [List.append_nil]
      exact .unplaced hplace
  | ok _ =>
      rcases hrest with ⟨posted, tail, rfl, hrest⟩
      cases posted with
      | error cause =>
          rcases hrest with ⟨rfl, rfl⟩
          exact .unposted hplace
      | ok _ =>
          -- from here on the adapter has the request
          change ((c.receive polls).run p >>= _).Path tail outcome at hrest
          rw [Program.path_bind] at hrest
          rcases hrest with ⟨why, hreceive, rfl⟩ |
            ⟨⟨result, q⟩, receiving, rest, rfl, hreceive, hrest⟩
          · exact .halted hplace hreceive
          · cases result with
            | error failure =>
                rcases hrest with ⟨rfl, rfl⟩
                rw [List.append_nil]
                exact .failed hplace hreceive
            | ok _ =>
                rcases hrest with ⟨rfl, rfl⟩
                rw [List.append_nil]
                exact .finished hplace hreceive

/-- The ways in which the wait for the reply and what follows it end. -/
inductive Received (c : Controller) (polls : Nat) (p : Packet) :
    List Event → Except Halt (Except Error Unit × Packet) → Prop where
  | halted {events : List Event} {why : Halt}
      (hawait : (Queue.awaitReply c.policy polls).run.Path events (.error why)) :
      Received c polls p events (.error why)
  | unanswered {events : List Event} {failure : Error}
      (hawait : (Queue.awaitReply c.policy polls).run.Path events (.ok (.error failure))) :
      Received c polls p events (.ok (.error failure, p))
  | answered {waiting rest : List Event} {token : UInt32} {result : Except Error Unit × Packet}
      (hawait : (Queue.awaitReply c.policy polls).run.Path waiting (.ok (.ok token)))
      (hcomplete : ((Packet.complete c.region token).run p).Path rest (.ok result)) :
      Received c polls p (waiting ++ rest) (.ok result)

theorem path_receive (hadmitted : p.Admitted)
    {outcome : Except Halt (Except Error Unit × Packet)}
    (h : ((c.receive polls).run p).Path events outcome) : Received c polls p events outcome := by
  unfold receive at h
  rw [Exchange.run_bind_apply] at h
  change (((Queue.awaitReply c.policy polls).run >>= fun awaited => Program.done (awaited, p)) >>=
    _).Path events outcome at h
  rw [Program.bind_assoc, Program.path_bind] at h
  rcases h with ⟨why, hawait, rfl⟩ | ⟨awaited, waiting, rest, rfl, hawait, hrest⟩
  · exact .halted hawait
  · cases awaited with
    | error failure =>
        rcases hrest with ⟨rfl, rfl⟩
        rw [List.append_nil]
        exact .unanswered hawait
    | ok token =>
        rcases Packet.path_complete hadmitted hrest with ⟨result, rfl⟩
        exact .answered hawait hrest

/-- While the adapter has the request, no frame is written and none is
    posted. -/
theorem uses_receive (allowed : Access → Prop) (hread : ∀ offset, allowed (.readRegister offset))
    (hmemory : ∀ offset len, allowed (.readMemory offset len)) (hstall : allowed (.stall c.policy.stall))
    (hacknowledge : allowed (.writeRegister Register.interruptStatus 0))
    (harm : allowed (.writeRegister Register.replyQueue (c.region.lowAddress .errorReply)))
    (p : Packet) : ((c.receive polls).run p).Uses allowed :=
  Exchange.uses_bind
    (Exchange.uses_attempt (Queue.uses_awaitReply allowed c.policy hread hstall hacknowledge))
    fun token q => Packet.uses_complete allowed hmemory harm token q

/-- The accesses of a course are those of placing, the post, and those made while
    the adapter has the request. -/
theorem Course.forall_access {request : IoRequest} {outcome : Except Halt Served}
    {allowed : Access → Prop} (h : Course c polls p request events outcome)
    (hwrite : ∀ access, access.IsMemoryWrite → allowed access)
    (hpost : allowed (.writeRegister Register.requestQueue (c.region.lowAddress .request)))
    (hreceive : ((c.receive polls).run p).Uses allowed) : ∀ event ∈ events, allowed event.access := by
  intro event hmem
  cases h with
  | unplaced hplace => exact hwrite _ (Packet.isMemoryWrite_of_placed hplace event hmem)
  | unposted hplace =>
      rcases List.mem_append.mp hmem with hmem | hmem
      · exact hwrite _ (Packet.isMemoryWrite_of_placed hplace event hmem)
      · rw [List.mem_singleton.mp hmem]
        exact hpost
  | halted hplace hpath | failed hplace hpath | finished hplace hpath =>
      rcases List.mem_append.mp hmem with hmem | hmem
      · exact hwrite _ (Packet.isMemoryWrite_of_placed hplace event hmem)
      · rcases List.mem_cons.mp hmem with rfl | hmem
        · exact hpost
        · exact hreceive.mem hpath event hmem

theorem passThrough_refused {refusal : Error} (hcheck : p.check target lun = .error refusal) :
    c.passThrough polls target lun p = .done ⟨.error refusal, p.refused refusal, c⟩ := by
  unfold passThrough Packet.stage
  rw [hcheck]
  rfl

/-- A controller as starting leaves it, with the memory at 256 MiB, to put into
    statements about single runs. -/
def sample : Controller where
  region :=
    { buffer := ⟨0x10000000, Slot.total⟩
      total_le := Nat.le_refl _
      last_lt := by decide
      high_eq := by decide }
  policy := {}
  health := .ready
  initReply := InitReply.decode (Vector.replicate 20 0)

/-- An adapter that never changes: every register reads as its value, memory
    reads as zeros, and writes to memory are lost or fail. -/
def steady (value : UInt32 → UInt32) (writable : Bool) : Adapter Unit where
  answer access s :=
    (match access with
      | .readRegister offset => .ok (value offset)
      | .writeRegister .. => .ok ()
      | .readMemory _ len => .ok (Vector.replicate len 0)
      | .writeMemory offset bytes =>
        if writable then .ok () else .error (.outOfBounds offset bytes.length 0)
      | .stall _ => ()
      | .identity => .ok ⟨PciIdentity.lsiLogic, PciIdentity.lsi53c1030⟩
      | .attributes => .ok ⟨0⟩
      | .enable _ => .ok ()
      | .assign _ => .ok ()
      | .mapRegisters => .ok ()
      | .allocate len => .ok ⟨0x10000000, len⟩, s)

end Controller

end FusionMpt
