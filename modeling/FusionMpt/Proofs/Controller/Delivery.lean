import FusionMpt.Proofs.Channel.Deadline
import FusionMpt.Proofs.Controller.Course
import FusionMpt.Proofs.Device.Patient
import FusionMpt.Proofs.Transfer.Sharing

/-!
# A Packet Delivered

What the caller wants of passing a packet through is a call of the device: the
device gets the command and the data as the packet has them, and the packet
comes back with what the device returned. Between the two lie the frame, the
slots, the halves of addresses that go to the adapter by different ways, and
the wait. Here they are put together, for an adapter that shares memory with
the engine, takes what is written, and answers that the request succeeded.

The adapter is told the upper half of all addresses when it is brought up, and
the lower half of the frame's address when the frame is posted. At the address
that the halves make it finds the frame, and the frame names the data and,
again by its lower half, the sense buffer. What the adapter has stored there by
the time it answers is what the packet holds afterwards.

There is one adapter of this kind whose answer does not arrive. The stalls
between looks are added up, and a sum that is no duration ends the wait, even
if there is no limit that it would be compared with.

## Main definitions

* `joinHalves`: The address that two halves make.
* `Packet.transferLength`: The number of bytes that the packet moves.
* `Controller.settle`: What a packet comes to once it has been posted.

## Theorems

* `joinHalves_slot`: The halves of a slot's address make it.
* `Controller.run_passThrough`: A packet passed through, by its parts.
* `Controller.run_receive_of_answers`: The wait for an adapter that answers.
* `Controller.delivers`: The packet is delivered, and its results come back.
-/

namespace FusionMpt

/-- The address that two halves make. -/
def joinHalves (high low : UInt32) : UInt64 :=
  (high.toUInt64 <<< 32) ||| low.toUInt64

theorem toNat_joinHalves (high low : UInt32) :
    (joinHalves high low).toNat = high.toNat * UInt32.size + low.toNat := by
  have hhigh := high.toNat_lt
  have hlow := low.toNat_lt
  have hshift : (high.toUInt64 <<< 32).toNat = high.toNat <<< 32 := by
    rw [UInt64.toNat_shiftLeft, UInt32.toNat_toUInt64]
    change high.toNat <<< 32 % 18446744073709551616 = high.toNat <<< 32
    rw [Nat.shiftLeft_eq]
    omega
  unfold joinHalves
  rw [UInt64.toNat_or, hshift, UInt32.toNat_toUInt64, ← Nat.shiftLeft_add_eq_or_of_lt hlow,
    Nat.shiftLeft_eq]

theorem joinHalves_slot (region : Region) (slot : Slot) :
    joinHalves region.highAddress (region.lowAddress slot) = region.address slot := by
  apply UInt64.toNat_inj.1
  rw [toNat_joinHalves, region.join_address]

/-- The number of bytes that the packet says it moves. -/
def Packet.transferLength (p : Packet) : UInt32 :=
  match p.direction with
  | .read => p.inLength
  | .write => p.outLength
  | .none | .bidirectional => 0

theorem Packet.length_dataPhase (p : Packet) : p.dataPhase.length = p.transferLength := by
  unfold dataPhase transferLength
  cases p.direction with
  | none => rfl
  | bidirectional => rfl
  | read =>
      by_cases hzero : p.inLength = 0
      · simp only [hzero, ite_true]
        rfl
      · simp only [hzero, ite_false]
        rfl
  | write =>
      by_cases hzero : p.outLength = 0
      · simp only [hzero, ite_true]
        rfl
      · simp only [hzero, ite_false]
        rfl

-- What a writing packet has placed is what the device is to get. A packet without
-- data has no phase to the device, and nothing to be found.
theorem Packet.at?_of_placed {m : HostMemory} {region : Region} {p : Packet}
    (hbuffer : m.buffer = region.buffer) (hadmitted : p.Admitted) (hwrite : p.direction = .write)
    (hdata : ∀ length, p.dataPhase = .toDevice length →
      m.segment Slot.data.offset length.toNat = p.outData.take length.toNat) :
    m.at? (region.address .data) p.dataPhase.length.toNat =
      some (p.outData.take p.outLength.toNat) := by
  have hend := Slot.end_le_size hbuffer .data
  have hcapacity : p.outLength.toNat ≤ Slot.data.size := hadmitted.outLength_le
  have hlength : p.dataPhase.length = p.outLength := by
    rw [p.length_dataPhase]
    unfold transferLength
    rw [hwrite]
  rw [HostMemory.at?_slot hbuffer, hlength]
  refine ⟨by omega, ?_⟩
  by_cases hzero : p.outLength = 0
  · rw [hzero]
    exact List.take_zero
  · refine (hdata p.outLength ?_).symm
    unfold dataPhase
    rw [hwrite]
    exact if_neg hzero

namespace Controller

variable {σ : Type} {adapter : Adapter σ} {memory : σ → HostMemory} {s s' : σ} {c : Controller}
  {polls k : Nat} {target : Target} {lun : UInt64} {p : Packet} {events : List Event}

/-- What a packet comes to once it has been posted. -/
def settle (c : Controller) : Except Error Unit × Packet → Served
  | (.error failure, q) => ⟨.error failure, q.aborted, { c with health := .faulted }⟩
  | (.ok (), q) => ⟨.ok (), q, c⟩

/-- A packet passed through: staged, posted, and settled by what is received. -/
theorem run_passThrough {request : IoRequest} {staged posted : σ}
    (hstage : (p.stage c.region target lun).run adapter s = ⟨events, .ok (.ok request, p), staged⟩)
    (hpost : adapter.answer (.writeRegister Register.requestQueue (c.region.lowAddress .request))
      staged = (.ok (), posted)) :
    (c.passThrough polls target lun p).run adapter s =
      ((((c.receive polls).run p >>= fun result => Program.done (c.settle result)).run adapter
        posted).behind [c.post (.ok ())]).behind events := by
  have hsubmit : (Queue.submit (c.region.lowAddress .request)).run.run adapter staged =
      ⟨[c.post (.ok ())], .ok (.ok ()), posted⟩ := Bus.run_writeRegister hpost
  unfold passThrough
  rw [Program.run_bind_ok hstage]
  change Run.behind events (((Queue.submit (c.region.lowAddress .request)).run >>= _).run adapter
    staged) = _
  rw [Program.run_bind_ok hsubmit]
  have hsettle : (fun result : Except Error Unit × Packet => Program.done (c.settle result)) =
      fun result => match result with
        | (.error failure, q) => .done ⟨.error failure, q.aborted, { c with health := .faulted }⟩
        | (.ok (), q) => .done ⟨.ok (), q, c⟩ := by
    funext result
    rcases result with ⟨_ | _, q⟩ <;> rfl
  -- both sides post and then receive, in this order
  rw [hsettle]
  rfl

theorem buffer_of_shows (hshared : SharesMemory adapter memory) {stall : Duration}
    (h : Queue.Shows adapter stall k s s') : (memory s').buffer = (memory s).buffer := by
  induction h with
  | @now s s' word hlook _ =>
      have hbuffer := hshared.buffer_eq (.readRegister Register.interruptStatus) s
      rw [hlook] at hbuffer
      exact hbuffer
  | @later k s seen s' word hlook _ _ ih =>
      have hbuffer := hshared.buffer_eq (.readRegister Register.interruptStatus) s
      rw [hlook] at hbuffer
      exact ih.trans ((hshared.buffer_eq (.stall stall) seen).trans hbuffer)

-- The memory stays where it is while the adapter answers.
theorem buffer_of_answers (hshared : SharesMemory adapter memory) {stall : Duration}
    (h : Queue.Answers adapter stall k s s') : (memory s').buffer = (memory s).buffer := by
  rcases h with ⟨shown, first, second, hshows, htoken, hempty, hacknowledge⟩
  have hfirst := hshared.buffer_eq (.readRegister Register.replyQueue) shown
  have hsecond := hshared.buffer_eq (.readRegister Register.replyQueue) first
  have hlast := hshared.buffer_eq (.writeRegister Register.interruptStatus 0) second
  rw [htoken] at hfirst
  rw [hempty] at hsecond
  rw [hacknowledge] at hlast
  exact hlast.trans (hsecond.trans (hfirst.trans (buffer_of_shows hshared hshows)))

/-- The wait for an adapter that answers, and the results it has left in
    memory. -/
theorem run_receive_of_answers (hshared : SharesMemory adapter memory)
    (hbuffer : (memory s).buffer = c.region.buffer) (hadmitted : p.Admitted)
    (hanswers : Queue.Answers adapter c.policy.stall k s s') (hpolls : k < polls)
    (htime : Queue.InTime c.policy 0 k)
    (hsum : k * c.policy.stall.nanos < Duration.bound) :
    ∃ events q last, ((c.receive polls).run p).run adapter s = ⟨events, .ok (.ok (), q), last⟩ ∧
      q.hostStatus = .ok ∧ q.targetStatus = .good ∧
      q.sense = (memory s').segment Slot.sense.offset p.senseLength.toNat ∧
      (p.direction = .read →
        q.dataIn = (memory s').segment Slot.data.offset p.dataPhase.length.toNat) := by
  rcases Queue.run_awaitReply_of_answers hanswers hpolls htime hsum with ⟨waiting, hawait⟩
  have hbuffer' := (buffer_of_answers hshared hanswers).trans hbuffer
  rcases Packet.run_complete_context hshared hbuffer' hadmitted.resultsFit with
    ⟨finishing, last, hcomplete, -⟩
  refine ⟨waiting ++ finishing,
    { p.collected (memory s') with hostStatus := .ok, targetStatus := .good }, last, ?_, rfl, rfl,
    Packet.sense_collected p hbuffer', Packet.dataIn_collected hbuffer' hadmitted.resultsFit⟩
  unfold receive
  rw [Exchange.run_bind_value (Exchange.run_attempt hawait), hcomplete]
  rfl

theorem run_receive_of_overflow (hanswers : Queue.Answers adapter c.policy.stall k s s')
    (hpolls : k < polls) (htime : Queue.InTime c.policy 0 k)
    (hsum : Duration.bound ≤ k * c.policy.stall.nanos) :
    ∃ events last, ((c.receive polls).run p).run adapter s = ⟨events, .error .overflow, last⟩ := by
  rcases Queue.run_awaitReply_of_overflow hanswers hpolls htime hsum with ⟨events, last, hawait⟩
  refine ⟨events, last, ?_⟩
  unfold receive
  rw [Exchange.run_bind_apply]
  change (((Queue.awaitReply c.policy polls).run >>= fun awaited => Program.done (awaited, p)) >>=
    _).run adapter s = _
  rw [Program.bind_assoc, Program.run_bind_halt hawait]

-- Nothing that is done while the adapter has the request posts another.
theorem not_isPost_of_settled {outcome : Except Halt Served}
    (h : ((c.receive polls).run p >>= fun result => Program.done (c.settle result)).Path events
      outcome) : ∀ event ∈ events, ¬ event.access.IsPost := by
  have hacknowledge : Register.interruptStatus ≠ Register.requestQueue := by
    decide
  have harm : Register.replyQueue ≠ Register.requestQueue := by
    decide
  have hreceive : ((c.receive polls).run p).Uses fun access => ¬ access.IsPost :=
    uses_receive _ (fun _ => not_false) (fun _ _ => not_false) not_false hacknowledge harm p
  have hsettled : ∀ result, (Program.done (c.settle result)).Uses fun access => ¬ access.IsPost :=
    fun _ => trivial
  exact (Program.uses_bind hreceive hsettled).mem h

theorem not_isPost_of_stage (hcheck : p.check target lun = .ok ()) {region : Region}
    {outcome : Except Halt (Except Error IoRequest × Packet)}
    (h : (p.stage region target lun).Path events outcome) :
    ∀ event ∈ events, ¬ event.access.IsPost := by
  rcases path_stage hcheck h with ⟨placed, hplace, -⟩
  exact not_isPost_of_placed hplace

-- An admitted packet is posted, and the moment is named by the events before it:
-- the frame and the data are in memory then, and what comes after is the wait.
theorem exists_posted (hshared : SharesMemory adapter memory)
    (hbuffer : (memory s).buffer = c.region.buffer)
    (hposts : ∀ s value, (adapter.answer (.writeRegister Register.requestQueue value) s).1 = .ok ())
    (hcheck : p.check target lun = .ok ()) (polls : Nat) :
    ∃ before rest,
      ((c.passThrough polls target lun p).run adapter s).trace =
        before ++ c.post (.ok ()) :: rest ∧
      (∀ event ∈ before ++ rest, ¬ event.access.IsPost) ∧
      (memory (adapter.after before s)).buffer = c.region.buffer ∧
      (memory (adapter.after before s)).segment Slot.request.offset 60 =
        (IoRequest.ofPacket c.region target lun p).encode.toList ∧
      (∀ length, p.dataPhase = .toDevice length →
        (memory (adapter.after before s)).segment Slot.data.offset length.toNat =
          p.outData.take length.toNat) ∧
      ((c.passThrough polls target lun p).run adapter s).outcome =
        (((c.receive polls).run p >>= fun result => Program.done (c.settle result)).run adapter
          (adapter.after (before ++ [c.post (.ok ())]) s)).outcome := by
  rcases Packet.run_stage hshared hbuffer hcheck with
    ⟨before, staged, hstage, hbuffer', hframe, hdata⟩
  have hpost : adapter.answer (.writeRegister Register.requestQueue
      (c.region.lowAddress .request)) staged = (.ok (), _) := Prod.ext (hposts _ _) rfl
  have hrun : (c.passThrough polls target lun p).run adapter s = _ := run_passThrough hstage hpost
  have hstaged : adapter.after before s = staged := by
    have hafter := adapter.after_run (p.stage c.region target lun) s
    rw [hstage] at hafter
    exact hafter
  have hposted : adapter.after (before ++ [c.post (.ok ())]) s =
      (adapter.answer (.writeRegister Register.requestQueue (c.region.lowAddress .request))
        staged).2 := by
    rw [adapter.after_append, hstaged]
    rfl
  have hstagePath := Program.path_run adapter (p.stage c.region target lun) s
  rw [hstage] at hstagePath
  have hrestPath := Program.path_run adapter
    ((c.receive polls).run p >>= fun result => Program.done (c.settle result))
    (adapter.answer (.writeRegister Register.requestQueue (c.region.lowAddress .request)) staged).2
  rw [hrun]
  refine ⟨before, _, rfl, fun event hmem => ?_, ?_⟩
  · rcases List.mem_append.mp hmem with hmem | hmem
    · exact not_isPost_of_stage hcheck hstagePath event hmem
    · exact not_isPost_of_settled hrestPath event hmem
  · rw [hposted, hstaged]
    exact ⟨hbuffer', hframe, hdata, rfl⟩

-- What a posted packet comes to when the adapter answers.
theorem outcome_of_answers (hshared : SharesMemory adapter memory)
    (hbuffer : (memory s).buffer = c.region.buffer) (hadmitted : p.Admitted)
    (hanswers : Queue.Answers adapter c.policy.stall k s s') (hpolls : k < polls)
    (htime : Queue.InTime c.policy 0 k) (hsum : k * c.policy.stall.nanos < Duration.bound) :
    ∃ q, (((c.receive polls).run p >>= fun result => Program.done (c.settle result)).run adapter
        s).outcome = .ok ⟨.ok (), q, c⟩ ∧
      q.hostStatus = .ok ∧ q.targetStatus = .good ∧
      q.sense = (memory s').segment Slot.sense.offset p.senseLength.toNat ∧
      (p.direction = .read →
        q.dataIn = (memory s').segment Slot.data.offset p.dataPhase.length.toNat) := by
  rcases run_receive_of_answers hshared hbuffer hadmitted hanswers hpolls htime hsum with
    ⟨events, q, last, hreceive, hresults⟩
  refine ⟨q, ?_, hresults⟩
  rw [Program.run_bind_ok hreceive]
  rfl

-- What it comes to when the stalls before the answer are no duration.
theorem outcome_of_overflow (hanswers : Queue.Answers adapter c.policy.stall k s s')
    (hpolls : k < polls) (htime : Queue.InTime c.policy 0 k)
    (hsum : Duration.bound ≤ k * c.policy.stall.nanos) :
    (((c.receive polls).run p >>= fun result => Program.done (c.settle result)).run adapter
      s).outcome = .error .overflow := by
  rcases run_receive_of_overflow (p := p) hanswers hpolls htime hsum with ⟨events, last, hreceive⟩
  rw [Program.run_bind_halt hreceive]

/-- The packet is delivered. When the one request is posted, the halves of the
    frame's address lead the adapter to a frame with the packet's command and
    lengths and, if the packet writes, to its data. When the adapter answers in
    time, what it has stored at the addresses in the frame is what the packet
    holds, unless the stalls up to then add up to no duration. -/
theorem delivers (hshared : SharesMemory adapter memory)
    (hbuffer : (memory s).buffer = c.region.buffer)
    (hposts : ∀ s value, (adapter.answer (.writeRegister Register.requestQueue value) s).1 = .ok ())
    (hcheck : p.check target lun = .ok ()) (polls : Nat) :
    ∃ before rest value frame, ∃ bytes : Vector UInt8 60,
      ((c.passThrough polls target lun p).run adapter s).trace =
        before ++ ⟨.writeRegister Register.requestQueue value, .ok ()⟩ :: rest ∧
      (∀ event ∈ before ++ rest, ¬ event.access.IsPost) ∧
      (memory (adapter.after before s)).at?
        (joinHalves (BringUp.request c.region).frameHighAddress value) 60 = some bytes.toList ∧
      IoRequest.decode bytes = frame ∧
      frame.command = p.cdb ∧
      frame.senseLength = p.senseLength ∧
      frame.dataLength = p.transferLength ∧
      frame.sg.address = c.region.address .data ∧
      joinHalves (BringUp.request c.region).senseHighAddress frame.senseLowAddress =
        c.region.address .sense ∧
      (p.direction = .write →
        (memory (adapter.after before s)).at? frame.sg.address frame.dataLength.toNat =
          some (p.outData.take p.outLength.toNat)) ∧
      ∀ k s' data sense, k < polls → Queue.InTime c.policy 0 k →
        Queue.Answers adapter c.policy.stall k (adapter.after
          (before ++ [⟨.writeRegister Register.requestQueue value, .ok ()⟩]) s) s' →
        (p.direction = .read →
          (memory s').at? frame.sg.address frame.dataLength.toNat = some data) →
        (memory s').at? (joinHalves (BringUp.request c.region).senseHighAddress
          frame.senseLowAddress) frame.senseLength.toNat = some sense →
        (k * c.policy.stall.nanos < Duration.bound →
          ∃ q, ((c.passThrough polls target lun p).run adapter s).outcome = .ok ⟨.ok (), q, c⟩ ∧
            (p.direction = .read → q.dataIn = data) ∧ q.sense = sense ∧
            q.hostStatus = .ok ∧ q.targetStatus = .good) ∧
        (Duration.bound ≤ k * c.policy.stall.nanos →
          ((c.passThrough polls target lun p).run adapter s).outcome = .error .overflow) := by
  have hadmitted := ((p.check_eq_ok_iff target lun).mp hcheck).1
  rcases exists_posted hshared hbuffer hposts hcheck polls with
    ⟨before, rest, htrace, honly, hbuffer', hframe, hdata, houtcome⟩
  -- the frame as the adapter reads it
  have hdecode := (IoRequest.ofPacket c.region target lun p).decode_encode
  have haddress : joinHalves (BringUp.request c.region).frameHighAddress
      (c.region.lowAddress .request) = c.region.address .request := joinHalves_slot _ _
  have hsense : joinHalves (BringUp.request c.region).senseHighAddress
      (c.region.lowAddress .sense) = c.region.address .sense := joinHalves_slot _ _
  have hcommand : (IoRequest.ofPacket c.region target lun p).command = p.cdb :=
    IoRequest.command_ofPacket hadmitted.cdb_le
  have hend := Slot.end_le_size hbuffer' .request
  have hsize : 60 ≤ Slot.request.size := by
    decide
  refine ⟨before, rest, c.region.lowAddress .request, _,
    (IoRequest.ofPacket c.region target lun p).encode, htrace, honly, ?_, hdecode, ?_, rfl, ?_, rfl,
    hsense, ?_, ?_⟩
  · -- the frame lies at the address that the halves make
    rw [haddress, HostMemory.at?_slot hbuffer']
    exact ⟨by omega, hframe.symm⟩
  · exact hcommand
  · exact p.length_dataPhase
  · -- the data lies at the address in the frame
    exact fun hwrite => Packet.at?_of_placed hbuffer' hadmitted hwrite hdata
  · -- and the results are taken from where the adapter has put them
    intro k s' data sense hpolls htime hanswers hread hsensed
    have hposted : (memory (adapter.after (before ++ [c.post (.ok ())]) s)).buffer =
        c.region.buffer := (hshared.buffer_after _ s).trans hbuffer
    have hbuffer'' := (buffer_of_answers hshared hanswers).trans hposted
    rw [houtcome]
    refine ⟨fun hsum => ?_, fun hsum => outcome_of_overflow hanswers hpolls htime hsum⟩
    rcases outcome_of_answers hshared hposted hadmitted hanswers hpolls htime hsum with
      ⟨q, hq, hhost, htarget, hqsense, hqdata⟩
    refine ⟨q, hq, fun hdirection => ?_, ?_, hhost, htarget⟩
    · have hfound := ((HostMemory.at?_slot hbuffer'' .data).mp (hread hdirection)).2
      rw [hfound]
      exact hqdata hdirection
    · change (memory s').at? (joinHalves (BringUp.request c.region).senseHighAddress
        (c.region.lowAddress .sense)) p.senseLength.toNat = some sense at hsensed
      rw [hsense] at hsensed
      rw [((HostMemory.at?_slot hbuffer'' .sense).mp hsensed).2]
      exact hqsense

theorem buffer_idle : PatientDevice.idle.memory.buffer = sample.region.buffer := by
  have hsize : PatientDevice.idle.memory.size = Slot.total := List.length_replicate
  unfold HostMemory.buffer
  rw [hsize]
  rfl

theorem delivers_of_patientDevice :
    (((Packet.read [0x28, 0, 0, 0, 0, 0, 0, 0, 1, 0] 4).withSense 2).check .zero 0 = .ok ()) ∧
    ∃ q, ((sample.passThrough 3 .zero 0
        ((Packet.read [0x28, 0, 0, 0, 0, 0, 0, 0, 1, 0] 4).withSense 2)).run
          (PatientDevice.adapter 2 [1, 2, 3, 4] [0x70, 0]) .idle).outcome =
            .ok ⟨.ok (), q, sample⟩ ∧
      q.dataIn = [1, 2, 3, 4] ∧ q.sense = [0x70, 0] := by
  have hcheck : ((Packet.read [0x28, 0, 0, 0, 0, 0, 0, 0, 1, 0] 4).withSense 2).check .zero 0 =
      .ok () := rfl
  have hshared := PatientDevice.sharesMemory 2 [1, 2, 3, 4] [0x70, 0]
  rcases delivers hshared buffer_idle (fun _ _ => rfl) hcheck 3 with
    ⟨before, rest, value, frame, bytes, -, -, -, -, -, hsenseLength, hdataLength, hdataAddress,
      hsenseAddress, -, hdelivered⟩
  rcases PatientDevice.answers_after_post 2 [1, 2, 3, 4] [0x70, 0] sample.policy.stall before value
    .idle with ⟨m, hbuffer, hanswers⟩
  have hdataFits : ([1, 2, 3, 4] : List UInt8).length ≤ Slot.data.size := by
    decide
  have hsenseFits : ([0x70, 0] : List UInt8).length ≤ Slot.sense.size := by
    decide
  rcases PatientDevice.at?_results (hbuffer.trans buffer_idle) hdataFits hsenseFits with
    ⟨hdata, hsense⟩
  have htime : Queue.InTime sample.policy 0 2 := Queue.inTime_of_no_limit rfl
  refine ⟨hcheck, ?_⟩
  rcases (hdelivered 2 _ [1, 2, 3, 4] [0x70, 0] (by decide) htime hanswers
    (fun _ => by rw [hdataAddress, hdataLength]; exact hdata)
    (by rw [hsenseAddress, hsenseLength]; exact hsense)).1 (by decide) with
    ⟨q, houtcome, hread, hsensed, -⟩
  exact ⟨q, houtcome, hread rfl, hsensed⟩

/-- The sample with half the longest duration between two looks. -/
def sluggish : Controller :=
  { sample with policy := { stall := ⟨Duration.bound / 2, by decide⟩ } }

/-- An answer that comes before any limit, and does not arrive. -/
theorem answer_lost_to_overflow :
    SharesMemory (PatientDevice.adapter 2 [] []) PatientDevice.memory ∧
    PatientDevice.idle.memory.buffer = sluggish.region.buffer ∧
    (Packet.noData [0, 0, 0, 0, 0, 0]).check .zero 0 = .ok () ∧
    Queue.InTime sluggish.policy 0 2 ∧
    (∃ before rest last,
      ((sluggish.passThrough 3 .zero 0 (.noData [0, 0, 0, 0, 0, 0])).run
        (PatientDevice.adapter 2 [] []) .idle).trace =
          before ++ sluggish.post (.ok ()) :: rest ∧
      Queue.Answers (PatientDevice.adapter 2 [] []) sluggish.policy.stall 2
        ((PatientDevice.adapter 2 [] []).after (before ++ [sluggish.post (.ok ())]) .idle) last) ∧
    ((sluggish.passThrough 3 .zero 0 (.noData [0, 0, 0, 0, 0, 0])).run
      (PatientDevice.adapter 2 [] []) .idle).outcome = .error .overflow := by
  have hshared := PatientDevice.sharesMemory 2 [] []
  have hbuffer : PatientDevice.idle.memory.buffer = sluggish.region.buffer := buffer_idle
  have hcheck : (Packet.noData [0, 0, 0, 0, 0, 0]).check .zero 0 = .ok () := rfl
  have htime : Queue.InTime sluggish.policy 0 2 := Queue.inTime_of_no_limit rfl
  rcases exists_posted hshared hbuffer (fun _ _ => rfl) hcheck 3 with
    ⟨before, rest, htrace, -, -, -, -, houtcome⟩
  rcases PatientDevice.answers_after_post 2 [] [] sluggish.policy.stall before
    (sluggish.region.lowAddress .request) .idle with ⟨m, -, hanswers⟩
  refine ⟨hshared, hbuffer, hcheck, htime, ⟨before, rest, _, htrace, hanswers⟩, ?_⟩
  rw [houtcome]
  exact outcome_of_overflow hanswers (by decide) htime (by decide)

end Controller

end FusionMpt
