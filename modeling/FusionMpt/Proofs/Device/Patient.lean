import FusionMpt.Proofs.Channel.Waiting
import FusionMpt.Proofs.Transfer.Sharing

/-!
# A Device That Takes Its Time

An adapter small enough to be looked through. It shares memory with the engine.
When a request is posted it stores what the device returns, data and sense
bytes, and then lets itself be looked at in vain a number of times before it
shows the reply of a success. One request at a time is all it knows.

It does what is expected of an adapter: its memory is shared memory, and after
as many looks as it was told to wait for, it answers.

## Main definitions

* `HostMemory.put`: Store bytes if they fit.
* `PatientDevice`: The memory, and the looks still to come.
* `PatientDevice.adapter`: The adapter.

## Theorems

* `PatientDevice.sharesMemory`: Its memory is shared memory.
* `PatientDevice.answers_after_post`: It answers after the looks it was told to
  wait for.
* `PatientDevice.at?_results`: Its results lie where the slots are.
-/

namespace FusionMpt

/-- Store bytes if they fit. -/
def HostMemory.put (m : HostMemory) (offset : Nat) (data : List UInt8) : HostMemory :=
  match m.write offset data with
  | .ok m' => m'
  | .error _ => m

theorem HostMemory.put_eq_stored {m : HostMemory} {offset : Nat} {data : List UInt8}
    (h : offset + data.length ≤ m.size) : m.put offset data = m.stored offset data := by
  unfold put
  rw [write_eq_ok h]

theorem HostMemory.buffer_put (m : HostMemory) (offset : Nat) (data : List UInt8) :
    (m.put offset data).buffer = m.buffer := by
  by_cases h : offset + data.length ≤ m.size
  · rw [put_eq_stored h, buffer_stored h]
  · have hwrite : m.write offset data = .error (.outOfBounds offset data.length m.size) := if_neg h
    unfold put
    rw [hwrite]

/-- An adapter that keeps its caller waiting. -/
structure PatientDevice where
  memory : HostMemory
  /-- The looks still to come before the reply shows, if a request is under
      way. -/
  looks? : Option Nat

namespace PatientDevice

/-- The device with nothing to do, and its memory at 256 MiB. -/
def idle : PatientDevice :=
  ⟨.zeroed 0x10000000 Slot.total, none⟩

variable {patience k : Nat} {data sense : List UInt8} {d : PatientDevice}

/-- The adapter answers a request after `patience` looks, and returns these data
    and sense bytes. -/
def adapter (patience : Nat) (data sense : List UInt8) : Adapter PatientDevice where
  answer
    | .readRegister offset, d =>
      if offset = Register.interruptStatus then
        match d.looks? with
        | some 0 => (.ok 8, d)
        | some (n + 1) => (.ok 0, { d with looks? := some n })
        | none => (.ok 0, d)
      else if offset = Register.replyQueue then
        match d.looks? with
        | some _ => (.ok IoRequest.context, { d with looks? := none })
        | none => (.ok Register.noReply, d)
      else (.ok 0, d)
    | .writeRegister offset _, d =>
      if offset = Register.requestQueue then
        (.ok (), {
          memory := (d.memory.put Slot.data.offset data).put Slot.sense.offset sense
          looks? := some patience })
      else (.ok (), d)
    | .readMemory offset len, d => (d.memory.read offset len, d)
    | .writeMemory offset bytes, d =>
      match d.memory.write offset bytes with
      | .ok memory => (.ok (), { d with memory })
      | .error refusal => (.error refusal, d)
    | .stall _, d => ((), d)
    | .identity, d => (.ok ⟨PciIdentity.lsiLogic, PciIdentity.lsi53c1030⟩, d)
    | .attributes, d => (.ok ⟨0⟩, d)
    | .enable _, d => (.ok (), d)
    | .assign _, d => (.ok (), d)
    | .mapRegisters, d => (.ok (), d)
    | .allocate _, d => (.ok d.memory.buffer, d)

-- Looking does not change the memory.
theorem memory_readRegister (offset : UInt32) (d : PatientDevice) :
    ((adapter patience data sense).answer (.readRegister offset) d).2.memory = d.memory := by
  unfold adapter
  by_cases hstatus : offset = Register.interruptStatus
  · simp only [hstatus, ite_true]
    rcases d with ⟨memory, _ | _ | n⟩ <;> rfl
  · simp only [hstatus, ite_false]
    by_cases hreply : offset = Register.replyQueue
    · simp only [hreply, ite_true]
      rcases d with ⟨memory, _ | n⟩ <;> rfl
    · simp only [hreply, ite_false]

-- Posting a request brings the results into memory and starts the wait.
theorem answer_post (value : UInt32) (d : PatientDevice) :
    (adapter patience data sense).answer (.writeRegister Register.requestQueue value) d =
      (.ok (), ⟨(d.memory.put Slot.data.offset data).put Slot.sense.offset sense,
        some patience⟩) :=
  rfl

theorem buffer_eq (access : Access) (d : PatientDevice) :
    ((adapter patience data sense).answer access d).2.memory.buffer = d.memory.buffer := by
  cases access with
  | readRegister offset => rw [memory_readRegister]
  | writeRegister offset value =>
      by_cases hpost : offset = Register.requestQueue
      · rw [hpost, answer_post]
        change ((d.memory.put _ _).put _ _).buffer = d.memory.buffer
        rw [HostMemory.buffer_put, HostMemory.buffer_put]
      · have hanswer : (adapter patience data sense).answer (.writeRegister offset value) d =
            (.ok (), d) := if_neg hpost
        rw [hanswer]
  | writeMemory offset bytes =>
      by_cases hfits : offset + bytes.length ≤ d.memory.size
      · have hanswer : (adapter patience data sense).answer (.writeMemory offset bytes) d =
            (.ok (), { d with memory := d.memory.stored offset bytes }) := by
          unfold adapter
          simp only [HostMemory.write_eq_ok hfits]
        rw [hanswer]
        exact HostMemory.buffer_stored hfits
      · have hwrite : d.memory.write offset bytes =
            .error (.outOfBounds offset bytes.length d.memory.size) := if_neg hfits
        have hanswer : (adapter patience data sense).answer (.writeMemory offset bytes) d =
            (.error (.outOfBounds offset bytes.length d.memory.size), d) := by
          unfold adapter
          simp only [hwrite]
        rw [hanswer]
  | _ => rfl

theorem sharesMemory (patience : Nat) (data sense : List UInt8) :
    SharesMemory (adapter patience data sense) PatientDevice.memory where
  buffer_eq := buffer_eq
  write d offset bytes m hwrite := by
    have hanswer : (adapter patience data sense).answer (.writeMemory offset bytes) d =
        (.ok (), { d with memory := m }) := by
      unfold adapter
      simp only [hwrite]
    rw [hanswer]
    exact ⟨rfl, rfl⟩
  read d offset len bytes hread := ⟨hread, rfl⟩

/-- The results lie where the slots are. -/
theorem at?_results {region : Region} {m : HostMemory} (hbuffer : m.buffer = region.buffer)
    (hdata : data.length ≤ Slot.data.size) (hsense : sense.length ≤ Slot.sense.size) :
    ((m.put Slot.data.offset data).put Slot.sense.offset sense).at? (region.address .data)
        data.length = some data ∧
      ((m.put Slot.data.offset data).put Slot.sense.offset sense).at? (region.address .sense)
        sense.length = some sense := by
  have hfirst : (m.put Slot.data.offset data).buffer = region.buffer :=
    (m.buffer_put _ _).trans hbuffer
  have hsecond : ((m.put Slot.data.offset data).put Slot.sense.offset sense).buffer =
      region.buffer := (HostMemory.buffer_put _ _ _).trans hfirst
  have hdataEnd := Slot.end_le_size hbuffer .data
  have hsenseEnd := Slot.end_le_size hfirst .sense
  have hends := Slot.end_le_size hsecond .data
  have hends' := Slot.end_le_size hsecond .sense
  have hapart : Slot.sense.offset + Slot.sense.size ≤ Slot.data.offset := by
    decide
  have hstored : (m.put Slot.data.offset data).put Slot.sense.offset sense =
      (m.put Slot.data.offset data).stored Slot.sense.offset sense :=
    HostMemory.put_eq_stored (by omega)
  rw [HostMemory.at?_slot hsecond, HostMemory.at?_slot hsecond, hstored]
  rw [hstored] at hends hends'
  refine ⟨⟨by omega, ?_⟩, by omega, (HostMemory.segment_stored (by omega)).symm⟩
  -- the sense bytes lie in front of the data
  rw [HostMemory.segment_stored_of_disjoint (by omega) (by omega),
    HostMemory.put_eq_stored (by omega), HostMemory.segment_stored (by omega)]

theorem shows (stall : Duration) (memory : HostMemory) (k : Nat) :
    Queue.Shows (adapter patience data sense) stall k ⟨memory, some k⟩ ⟨memory, some 0⟩ := by
  induction k with
  | zero =>
      have hword : Register.ShowsReply 8 := by
        unfold Register.ShowsReply
        decide
      exact .now rfl hword
  | succ n ih =>
      have hword : ¬ Register.ShowsReply 0 := by
        unfold Register.ShowsReply
        decide
      exact .later rfl hword ih

/-- Whatever has happened before, a request that is posted is answered after the
    looks that the device was told to wait for. -/
theorem answers_after_post (patience : Nat) (data sense : List UInt8) (stall : Duration)
    (before : List Event) (value : UInt32) (d : PatientDevice) :
    ∃ m : HostMemory, m.buffer = d.memory.buffer ∧
      Queue.Answers (adapter patience data sense) stall patience
        ((adapter patience data sense).after
          (before ++ [⟨.writeRegister Register.requestQueue value, .ok ()⟩]) d)
        ⟨(m.put Slot.data.offset data).put Slot.sense.offset sense, none⟩ := by
  refine ⟨_, (sharesMemory patience data sense).buffer_after before d, ?_⟩
  rw [Adapter.after_append]
  exact ⟨_, _, _, shows stall _ patience, rfl, rfl, rfl⟩

end PatientDevice

end FusionMpt
