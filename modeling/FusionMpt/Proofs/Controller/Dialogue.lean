import FusionMpt.Proofs.Controller.BringUp
import FusionMpt.Proofs.Controller.Course
import FusionMpt.Proofs.Frame.Reserved
import FusionMpt.Proofs.Platform.Playing
import FusionMpt.Proofs.Region.Extent
import Mathlib.Data.List.OfFn

/-!
# What the Two Sides Hear

The doorbell is one register, and all there is to a conversation through it is
the order of the writes and of the reads. The other side has to know how many
words are coming: it takes the number from the command that announces them, and
counts. `Doorbell.Receiver` is such a listener, which hears a word for every
write that was taken.

What it has collected is always a front part of the payload. If nothing fails it
is the payload and the listener waits for no more; if a write fails it is the
words before that one, the listener still waits for the others, and none of them
is sent any more. The proof is about lists. A line of writes that was performed
up to its `i`th has delivered `i` words (`Performed.delivered_eq`), and a listener
that waits for no fewer words than it hears puts them together
(`Doorbell.Receiver.hearAll_of_le`).

In the other direction two octets come with each read. A frame is cut into words
of 16 bits in one place and put together in another, and each word has something
else in front of it on the way. Bringing an adapter up is one exchange of both
kinds, and the frames that were meant are the frames that arrive.

## Main definitions

* `Doorbell.Receiver`: A listener at the other end of the doorbell.
* `Doorbell.carrier`: A read of the doorbell with a word in its lower half.
* `LittleEndian.gather`, `InitReply.words`: The words of some bytes, and those
  that bring the answer.
* `Doorbell.Told`, `Doorbell.Asked`, `BringUp.Conversed`: What the parts of a
  conversation come to.

## Theorems

* `Doorbell.announced_word`: The listener's number is the engine's.
* `LittleEndian.toList_spread`, `LittleEndian.spread_gather`: The bytes of a run
  of words, and of the words of some bytes.
* `Doorbell.told_handshake`, `Doorbell.asked_drain`, `BringUp.conversed_sequence`:
  The two directions, and bringing up.
* `BringUp.outcome_of_speaker`: Whatever is in front of the words, they are
  understood.
* `Doorbell.lossless`: All of it.
-/

namespace FusionMpt

open LittleEndian

variable {σ : Type}

/-! ## The listener -/

namespace Doorbell

/-- The number in the bits 16 to 23 of a word. -/
def announced (word : UInt32) : Nat :=
  (word.toBitVec.extractLsb' 16 8).toNat

theorem announced_word (function argument : UInt8) :
    announced (word function argument) = argument.toNat := by
  have hbits : (word function argument).toBitVec.extractLsb' 16 8 = argument.toBitVec := by
    refine BitVec.eq_of_getLsbD_eq fun i hi => ?_
    have hbelow : 16 + i < 24 := by
      omega
    have hwithin : i < 32 ∧ 16 + i < 32 := by
      omega
    unfold word
    simp [hi, hbelow, hwithin]
  unfold announced
  rw [hbits]
  rfl

/-- A listener: how many words it waits for, and those it has collected. -/
structure Receiver where
  awaited : Nat
  collected : List UInt32

namespace Receiver

/-- The listener hears a word. If it waits for none, the word is a command and
    says how many there will be. -/
def hear (r : Receiver) (word : UInt32) : Receiver :=
  match r.awaited with
  | 0 => ⟨announced word, []⟩
  | n + 1 => ⟨n, r.collected ++ [word]⟩

def hearAll (r : Receiver) (words : List UInt32) : Receiver :=
  words.foldl hear r

/-- A listener that waits for no fewer words than it hears collects them. -/
theorem hearAll_of_le {words : List UInt32} {awaited : Nat} (collected : List UInt32)
    (h : words.length ≤ awaited) :
    (⟨awaited, collected⟩ : Receiver).hearAll words =
      ⟨awaited - words.length, collected ++ words⟩ := by
  induction words generalizing awaited collected with
  | nil => rw [List.append_nil]; rfl
  | cons word words ih =>
      cases awaited with
      | zero => exact absurd h (Nat.not_succ_le_zero _)
      | succ n =>
          have hlater := ih (collected ++ [word]) (Nat.le_of_succ_le_succ h)
          rw [List.append_assoc] at hlater
          rw [List.length_cons, Nat.succ_sub_succ]
          exact hlater

/-- Of a payload that was announced and sent as far as its `j`th word, the listener
    has the words before that one. -/
theorem hearAll_announced {payload : List UInt32} (hlength : payload.length ≤ 255)
    (leftover : List UInt32) (j : Nat) :
    (⟨0, leftover⟩ : Receiver).hearAll
        (word handshakeFunction (UInt8.ofNat payload.length) :: payload.take j) =
      ⟨payload.length - j, payload.take j⟩ := by
  have hnumber : (UInt8.ofNat payload.length).toNat = payload.length :=
    UInt8.toNat_ofNat_of_lt' (Nat.lt_succ_of_le hlength)
  have hfits : (payload.take j).length ≤ payload.length := List.length_take_le' j payload
  change (⟨announced _, []⟩ : Receiver).hearAll (payload.take j) = _
  rw [announced_word, hnumber, hearAll_of_le [] hfits, List.nil_append, List.length_take]
  congr 1
  omega

end Receiver

/-! ## A payload -/

/-- What handing a payload over comes to, for a listener that was idle and may have
    something left over from before. Event `j + 1` is the write of word `j`. -/
structure Told (payload leftover : List UInt32) (run : Run σ (Except BusError Unit)) : Prop where
  made_in_order : run.trace.map Event.access <+: BringUp.handshakeAccesses payload
  whole : (∀ event ∈ run.trace, event.failure? = none) → run.outcome = .ok (.ok ()) ∧
    (⟨0, leftover⟩ : Receiver).hearAll (delivered Register.doorbell run.trace) = ⟨0, payload⟩
  unannounced : ∀ cause, run.trace[0]?.bind Event.failure? = some cause →
    run.outcome = .ok (.error cause) ∧ run.trace.length = 1 ∧
    (⟨0, leftover⟩ : Receiver).hearAll (delivered Register.doorbell run.trace) = ⟨0, leftover⟩
  cut_off : ∀ j cause, run.trace[j + 1]?.bind Event.failure? = some cause →
    run.outcome = .ok (.error cause) ∧ run.trace.length = j + 2 ∧
    (⟨0, leftover⟩ : Receiver).hearAll (delivered Register.doorbell run.trace) =
      ⟨payload.length - j, payload.take j⟩

-- The writes of a payload, by what the doorbell is given.
theorem filterMap_writes (values : List UInt32) :
    (values.map (Access.writeRegister Register.doorbell)).filterMap
      (Access.written? Register.doorbell) = values := by
  have hwritten : Access.written? Register.doorbell ∘ Access.writeRegister Register.doorbell = some :=
    rfl
  rw [List.filterMap_map, hwritten, List.filterMap_some]

theorem told_handshake (adapter : Adapter σ) (s : σ) {payload : List UInt32}
    (hlength : payload.length ≤ 255) (leftover : List UInt32) :
    Told payload leftover ((handshake payload hlength).run.run adapter s) := by
  have hpath := Program.path_run adapter (handshake payload hlength).run s
  generalize (handshake payload hlength).run.run adapter s = run at hpath ⊢
  have hperforms := BringUp.performs_handshake payload hlength
  -- the announcement and the payload are one list of words
  have hwords : BringUp.handshakeAccesses payload =
      (word handshakeFunction (UInt8.ofNat payload.length) :: payload).map
        (Access.writeRegister Register.doorbell) := rfl
  have hfailed : ∀ i cause, run.trace[i]?.bind Event.failure? = some cause →
      run.outcome = .ok (.error cause) ∧ run.trace.length = i + 1 ∧
      delivered Register.doorbell run.trace =
        (word handshakeFunction (UInt8.ofNat payload.length) :: payload).take i := by
    intro i cause hi
    rcases hperforms.of_failure hpath hi with
      ⟨houtcome, hlast, front, last, htrace, hfailure, hbefore⟩
    refine ⟨houtcome, hlast, ?_⟩
    rw [htrace, delivered_append_failed front hfailure, hbefore.delivered_eq, hwords,
      ← List.map_take, filterMap_writes]
  refine ⟨?_, fun hfine => ?_, fun cause hi => ?_, fun j cause hi => ?_⟩
  · rcases hperforms _ _ hpath with ⟨_, -, hperformed⟩
    exact hperformed.map_access_prefix
  · rcases hperforms.of_fine hpath hfine with ⟨_, houtcome, hperformed⟩
    have hheard := Receiver.hearAll_announced hlength leftover payload.length
    rw [List.take_length, Nat.sub_self] at hheard
    rw [hperformed.delivered_eq, hwords, filterMap_writes]
    exact ⟨houtcome, hheard⟩
  · rcases hfailed 0 cause hi with ⟨houtcome, htrace, hdelivered⟩
    rw [hdelivered]
    exact ⟨houtcome, htrace, rfl⟩
  · rcases hfailed (j + 1) cause hi with ⟨houtcome, htrace, hdelivered⟩
    rw [hdelivered, List.take_succ_cons]
    exact ⟨houtcome, htrace, Receiver.hearAll_announced hlength leftover j⟩

end Doorbell

/-! ## An answer -/

/-- The two bytes of a word, the lower first. -/
def LittleEndian.octets16 (word : UInt16) : List UInt8 :=
  [octet word.toNat 0, octet word.toNat 1]

/-- The bytes of a run of words are those of the words, one after the other. -/
theorem LittleEndian.toList_spread {n : Nat} (words : Vector UInt16 n) :
    (spread words).toList = words.toList.flatMap octets16 := by
  have hwords : words.toList = List.ofFn words.get := by
    rw [← Vector.toList_ofFn]
    congr 1
    apply Vector.ext
    intro i hi
    rw [Vector.getElem_ofFn]
    rfl
  have hword : ∀ (i : Fin n) (j : Nat) (hj : j < 2) (h : (2 * i.val + j) / 2 < n),
      words.get ⟨(2 * i.val + j) / 2, h⟩ = words.get i :=
    fun i j hj h => congrArg words.get (Fin.ext (by change (2 * i.val + j) / 2 = i.val; omega))
  have hpair : ∀ i : Fin n, (List.ofFn fun j : Fin 2 =>
      octet (words.get ⟨(2 * i.val + j.val) / 2, by omega⟩).toNat ((2 * i.val + j.val) % 2)) =
        octets16 (words.get i) := by
    intro i
    change [octet (words.get ⟨(2 * i.val + 0) / 2, _⟩).toNat ((2 * i.val + 0) % 2),
      octet (words.get ⟨(2 * i.val + 1) / 2, _⟩).toNat ((2 * i.val + 1) % 2)] = _
    rw [hword i 0 (by decide), hword i 1 (by decide), Nat.mul_add_mod, Nat.mul_add_mod]
    rfl
  unfold spread
  rw [Vector.toList_ofFn, List.ofFn_mul', hwords, List.flatMap_def, List.map_ofFn]
  exact congrArg (fun pairs => (List.ofFn pairs).flatten) (funext hpair)

/-- The words that a run of bytes spells. -/
def LittleEndian.gather {n : Nat} (bytes : Vector UInt8 (2 * n)) : Vector UInt16 n :=
  Vector.ofFn fun i => word16 bytes[2 * i.val] bytes[2 * i.val + 1]

/-- Cut into words and put together again, the bytes are the same. -/
theorem LittleEndian.spread_gather {n : Nat} (bytes : Vector UInt8 (2 * n)) :
    spread (gather bytes) = bytes := by
  apply Vector.ext
  intro i hi
  have hhalf : i / 2 < n := by
    omega
  have hlow : 2 * (i / 2) < 2 * n := by
    omega
  have hhigh : 2 * (i / 2) + 1 < 2 * n := by
    omega
  rcases octet_word16 bytes[2 * (i / 2)] bytes[2 * (i / 2) + 1] with ⟨hfirst, hsecond⟩
  unfold spread gather
  rw [Vector.getElem_ofFn]
  change octet (Vector.ofFn fun i : Fin n => word16 bytes[2 * i.val] bytes[2 * i.val + 1])[i / 2].toNat
    (i % 2) = bytes[i]
  rw [Vector.getElem_ofFn]
  rcases Nat.mod_two_eq_zero_or_one i with heven | hodd
  · rw [heven]
    exact hfirst.trans (getElem_congr_idx (by omega))
  · rw [hodd]
    exact hsecond.trans (getElem_congr_idx (by omega))

namespace Doorbell

/-- What reading an answer comes to: two bytes of the lower half of each read. -/
structure Asked {count : Nat} (run : Run σ (Except BusError (Vector UInt16 count))) : Prop where
  made_in_order : run.trace.map Event.access <+:
    List.replicate count (.readRegister Register.doorbell)
  whole : (∀ event ∈ run.trace, event.failure? = none) → ∃ words, run.outcome = .ok (.ok words) ∧
    (valuesRead Register.doorbell run.trace).length = count ∧
    (spread words).toList =
      (valuesRead Register.doorbell run.trace).flatMap fun value => octets16 value.toUInt16
  cut_off : ∀ i cause, run.trace[i]?.bind Event.failure? = some cause →
    run.outcome = .ok (.error cause) ∧ run.trace.length = i + 1

theorem asked_drain (adapter : Adapter σ) (s : σ) (count : Nat) :
    Asked ((drain count).run.run adapter s) := by
  have hpath := Program.path_run adapter (drain count).run s
  generalize (drain count).run.run adapter s = run at hpath ⊢
  have hperforms := BringUp.performs_drain count
  refine ⟨?_, fun hfine => ?_, fun i cause hi => ?_⟩
  · rcases hperforms _ _ hpath with ⟨_, -, hperformed⟩
    exact hperformed.map_access_prefix
  · rcases hperforms.of_fine hpath hfine with ⟨words, houtcome, -⟩
    rw [houtcome] at hpath
    have hdrained := BringUp.path_drain_value hpath
    refine ⟨words, houtcome, ?_, ?_⟩
    · have hlength := congrArg List.length hdrained
      unfold BringUp.drained at hlength
      rw [List.length_map, Vector.length_toList] at hlength
      exact hlength.symm
    · rw [toList_spread, hdrained]
      exact List.flatMap_map ..
  · rcases hperforms.of_failure hpath hi with ⟨houtcome, hlast, -⟩
    exact ⟨houtcome, hlast⟩

/-- A read of the doorbell that carries the word `lower`. -/
def carrier (upper lower : UInt16) : UInt32 :=
  (upper.toUInt32 <<< 16) ||| lower.toUInt32

theorem toUInt16_carrier (upper lower : UInt16) : (carrier upper lower).toUInt16 = lower := by
  apply UInt16.toBitVec_inj.mp
  refine BitVec.eq_of_getLsbD_eq fun i hi => ?_
  unfold carrier
  simp [hi]

end Doorbell

/-! ## Bringing an adapter up -/

/-- The words that bring the answer, in order. -/
def InitReply.words (r : InitReply) : Vector UInt16 10 :=
  gather r.encode

namespace BringUp

open Doorbell

/-- What brings an answer: its words, with something in front of each. -/
def carriers (uppers : Vector UInt16 10) (reply : InitReply) : List UInt32 :=
  List.zipWith carrier uppers.toList reply.words.toList

/-- What bringing an adapter up comes to, if no access fails: an answer that was
    carried by the reads is returned, and a listener that was idle has the frame
    that starts it, with the upper half of the region's addresses. -/
structure Conversed (region : Region) (run : Run σ (Except Error InitReply)) : Prop where
  length_read : (valuesRead Register.doorbell run.trace).length = 10
  answered : ∀ (uppers : Vector UInt16 10) (reply : InitReply),
    valuesRead Register.doorbell run.trace = carriers uppers reply → run.outcome = .ok (.ok reply)
  heard : ∀ leftover, ∃ received, ∃ bytes : Vector UInt8 24,
    (⟨0, leftover⟩ : Receiver).hearAll (delivered Register.doorbell run.trace) = ⟨0, received⟩ ∧
    received.length = 6 ∧ received.flatMap octets = bytes.toList ∧
    (InitRequest.decode bytes).frameHighAddress.toNat = region.base.toNat / UInt32.size ∧
    (InitRequest.decode bytes).senseHighAddress.toNat = region.base.toNat / UInt32.size

-- The doorbell is given the reset, which announces nothing, and the frame.
theorem filterMap_plan (region : Region) :
    ((plan region).map Prod.snd).filterMap (Access.written? Register.doorbell) =
      word resetFunction 0 :: word handshakeFunction 6 :: (request region).words.toList :=
  rfl

-- What is in front of a word does not count.
theorem map_toUInt16_zipWith {uppers lowers : List UInt16} (h : uppers.length = lowers.length) :
    (List.zipWith carrier uppers lowers).map UInt32.toUInt16 = lowers := by
  induction lowers generalizing uppers with
  | nil =>
      rw [List.zipWith_nil_right]
      rfl
  | cons lower lowers ih =>
      cases uppers with
      | nil => exact nomatch h
      | cons upper uppers =>
          rw [List.zipWith_cons_cons, List.map_cons, toUInt16_carrier, ih (Nat.succ.inj h)]

theorem map_toUInt16_carriers (uppers : Vector UInt16 10) (reply : InitReply) :
    (carriers uppers reply).map UInt32.toUInt16 = reply.words.toList :=
  map_toUInt16_zipWith (by rw [Vector.length_toList, Vector.length_toList])

theorem conversed_sequence (adapter : Adapter σ) (s : σ) (region : Region)
    (hfine : ∀ event ∈ ((sequence region).run.run adapter s).trace, event.failure? = none) :
    Conversed region ((sequence region).run.run adapter s) := by
  have hpath := Program.path_run adapter (sequence region).run s
  generalize (sequence region).run.run adapter s = run at hpath hfine ⊢
  rcases follows_sequence region _ _ hpath with ⟨result, houtcome, hstepped⟩
  cases result with
  | error failure =>
      rcases hstepped.exists_failed with ⟨event, hmem, hfailed⟩
      exact absurd (hfine event hmem) hfailed
  | ok reply =>
      rw [houtcome] at hpath
      rcases path_sequence_reply hpath with ⟨words, hwords, hreply⟩
      unfold drained at hwords
      refine ⟨?_, fun uppers reply' hread => ?_, fun leftover => ?_⟩
      · have hlength := congrArg List.length hwords
        rw [List.length_map, Vector.length_toList] at hlength
        exact hlength.symm
      · rw [hread, map_toUInt16_carriers] at hwords
        rw [houtcome, hreply, Vector.toList_inj.mp hwords, InitReply.words, spread_gather,
          InitReply.decode_encode]
      · have hlength : (request region).words.toList.length ≤ 255 := by
          rw [Vector.length_toList]
          decide
        have hheard := Receiver.hearAll_announced hlength [] 6
        refine ⟨(request region).words.toList, (request region).encode, ?_, rfl,
          (request region).octets_words, ?_, ?_⟩
        · rw [(performed_of_sequence hpath).delivered_eq, filterMap_plan]
          change (⟨announced (word resetFunction 0), []⟩ : Receiver).hearAll _ = _
          rw [announced_word]
          exact hheard
        · rw [InitRequest.decode_encode]
          exact region.toNat_highAddress
        · rw [InitRequest.decode_encode]
          exact region.toNat_highAddress

/-! ## An adapter that speaks -/

/-- An adapter whose doorbell reads as one value after the other, and that takes
    every write. -/
def speaker : Adapter (Nat → UInt32) where
  answer
    | .readRegister offset, values =>
      if offset = Register.doorbell then (.ok (values 0), fun i => values (i + 1))
      else (.ok 0, values)
    | access, values => (((Controller.steady (fun _ => 0) true).answer access ()).1, values)

theorem failure?_speaker (access : Access) (values : Nat → UInt32) :
    access.failure? (speaker.answer access values).1 = none := by
  cases access with
  | readRegister offset =>
      by_cases hoffset : offset = Register.doorbell
      · have hanswer : speaker.answer (.readRegister offset) values =
            (.ok (values 0), fun i => values (i + 1)) := if_pos hoffset
        rw [hanswer]
        rfl
      · have hanswer : speaker.answer (.readRegister offset) values = (.ok 0, values) :=
          if_neg hoffset
        rw [hanswer]
        rfl
  | _ => rfl

-- Only a read of the doorbell uses a value up.
theorem state_speaker {access : Access} (h : access ≠ .readRegister Register.doorbell)
    (values : Nat → UInt32) : (speaker.answer access values).2 = values := by
  cases access with
  | readRegister offset =>
      have hanswer : speaker.answer (.readRegister offset) values = (.ok 0, values) :=
        if_neg fun hoffset => h (congrArg Access.readRegister hoffset)
      rw [hanswer]
  | _ => rfl

/-- The doorbell was read as the values in order, as often as it was read. -/
theorem valuesRead_speaker {α : Type} (program : Program α) (values : Nat → UInt32) :
    ∃ count, valuesRead Register.doorbell (program.run speaker values).trace =
      (List.range count).map values := by
  induction program generalizing values with
  | done value => exact ⟨0, rfl⟩
  | halt why => exact ⟨0, rfl⟩
  | call access next ih =>
      by_cases hread : access = .readRegister Register.doorbell
      · subst hread
        rcases ih (.ok (values 0)) fun i => values (i + 1) with ⟨count, hrest⟩
        refine ⟨count + 1, ?_⟩
        rw [List.range_succ_eq_map, List.map_cons, List.map_map]
        exact congrArg (values 0 :: ·) hrest
      · rcases ih (speaker.answer access values).1 values with ⟨count, hrest⟩
        have hnothing : valuesRead Register.doorbell [⟨access, (speaker.answer access values).1⟩] =
            [] := valuesRead_eq_nil fun event hmem => by rw [List.mem_singleton.mp hmem]; exact hread
        refine ⟨count, ?_⟩
        change valuesRead Register.doorbell ([⟨access, (speaker.answer access values).1⟩] ++
          ((next (speaker.answer access values).1).run speaker
            (speaker.answer access values).2).trace) = _
        rw [valuesRead_append, hnothing, state_speaker hread]
        exact hrest

theorem map_range_getD (values : List UInt32) :
    (List.range values.length).map (fun i => values.getD i 0) = values := by
  refine List.ext_getElem (by rw [List.length_map, List.length_range]) fun i hi hi' => ?_
  rw [List.getElem_map, List.getElem_range, List.getD_eq_getElem?_getD,
    List.getElem?_eq_getElem hi']
  rfl

-- The speaker says these words, and zeros after them.
theorem valuesRead_sequence_speaker (region : Region) (uppers : Vector UInt16 10)
    (reply : InitReply) :
    valuesRead Register.doorbell ((sequence region).run.run speaker
      fun i => (carriers uppers reply).getD i 0).trace = carriers uppers reply := by
  have hten : (carriers uppers reply).length = 10 := by
    unfold carriers
    rw [List.length_zipWith, Vector.length_toList, Vector.length_toList]
    rfl
  have hread := (conversed_sequence speaker (fun i => (carriers uppers reply).getD i 0) region
    (speaker.failure?_run failure?_speaker _ _)).length_read
  rcases valuesRead_speaker (sequence region).run fun i => (carriers uppers reply).getD i 0 with
    ⟨count, hcount⟩
  rw [hcount, List.length_map, List.length_range, ← hten] at hread
  rw [hcount, hread, map_range_getD]

/-- An adapter that says the words of an answer is understood, whatever it puts in
    front of them. -/
theorem outcome_of_speaker (region : Region) (uppers : Vector UInt16 10) (reply : InitReply) :
    ((sequence region).run.run speaker fun i => (carriers uppers reply).getD i 0).outcome =
      .ok (.ok reply) :=
  (conversed_sequence speaker _ region (speaker.failure?_run failure?_speaker _ _)).answered
    uppers reply (valuesRead_sequence_speaker region uppers reply)

end BringUp

/-! ## Both directions -/

namespace Doorbell

/-- The doorbell loses nothing. For every adapter: of a payload of up to 255 words
    a listener has all, or, if the write of a word failed, those before it, and
    that write was the last; reading an answer gives the two bytes of the lower
    half of each read, or ends with the read that failed; and if bringing up ends
    well, each side has the frame that the other meant. -/
theorem lossless (adapter : Adapter σ) (s : σ) :
    (∀ (payload : List UInt32) (hlength : payload.length ≤ 255) (leftover : List UInt32),
      Told payload leftover ((handshake payload hlength).run.run adapter s)) ∧
    (∀ count, Asked ((drain count).run.run adapter s)) ∧
    ∀ region : Region,
      (∀ event ∈ ((BringUp.sequence region).run.run adapter s).trace, event.failure? = none) →
      BringUp.Conversed region ((BringUp.sequence region).run.run adapter s) :=
  ⟨fun _ hlength leftover => told_handshake adapter s hlength leftover, asked_drain adapter s,
    BringUp.conversed_sequence adapter s⟩

/-- An answer with a status other than success. -/
def reluctant : InitReply where
  whoInit := InitRequest.bootFirmware
  messageLength := 5
  function := InitRequest.functionCode
  maxDevices := 1
  maxBuses := 1
  status := 0x8043
  logInfo := 0x31120000

-- Ones in front of every word do not hide what the adapter answers. It has heard the
-- frame with the upper half of the region's addresses, which is zero here.
theorem lossless_of_speaker :
    let run := (BringUp.sequence Controller.sample.region).run.run BringUp.speaker
      fun i => (BringUp.carriers (Vector.replicate 10 0xffff) reluctant).getD i 0
    [0xaaaa0001, 0xbbbb0002].length ≤ 255 ∧
    Told [0xaaaa0001, 0xbbbb0002] [] ((handshake [0xaaaa0001, 0xbbbb0002] (by decide)).run.run
      BringUp.speaker fun _ => 0) ∧
    (∀ event ∈ run.trace, event.failure? = none) ∧
    valuesRead Register.doorbell run.trace =
      BringUp.carriers (Vector.replicate 10 0xffff) reluctant ∧
    run.outcome = .ok (.ok reluctant) := by
  intro run
  have hfine := BringUp.speaker.failure?_run BringUp.failure?_speaker
    (BringUp.sequence Controller.sample.region).run
    fun i => (BringUp.carriers (Vector.replicate 10 0xffff) reluctant).getD i 0
  have hread := BringUp.valuesRead_sequence_speaker Controller.sample.region
    (Vector.replicate 10 0xffff) reluctant
  exact ⟨by decide, (lossless BringUp.speaker _).1 _ _ _, hfine, hread,
    ((lossless BringUp.speaker _).2.2 _ hfine).answered _ _ hread⟩

end Doorbell

end FusionMpt
