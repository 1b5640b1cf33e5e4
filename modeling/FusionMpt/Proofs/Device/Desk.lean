import FusionMpt.Proofs.Channel.Queue
import FusionMpt.Transfer.Completion
import FusionMpt.Channel.Doorbell
import Mathlib.Logic.Relation

/-!
# The Adapter's Side of the Conversation

What an adapter has on its desk: requests it has taken and not answered, the
replies that can be read, and the frames it may fill in when a request fails.
The engine sees none of this. It sees the reply bit, and what the reply queue
reads as.

An adapter may be anything that has a state. It `Conforms` when a desk can be
read off its state such that every access is answered as the desk has it and
changes the desk as it should, and such that nothing else happens on the desk
but that replies are posted: at any time, to any outstanding request, and any
number of them between two accesses.

All requests have the same context, so a reply does not say what it is the
reply to. The desk numbers requests as they come in and keeps the number with
the reply; the numbers and the log of what was read are there to be talked
about, and nothing that the adapter does depends on them.

## Main definitions

* `Desk`: What the adapter has on its desk.
* `Desk.Posts`: A reply is posted.
* `Desk.Allows`, `Desk.after`: The answers to an access, and what it changes.
* `Desk.Through`: From one desk to another through some events.
* `Conforms`: The adapter behaves as its desk says.

## Theorems

* `Desk.through_run`: A run takes the desk through its events.
* `Desk.through_append`: Events one after the other.
* `Desk.posts_eq_of_outstanding_eq_nil`: With nothing outstanding nothing is
  posted.
-/

namespace FusionMpt

/-- What an adapter has on its desk. -/
structure Desk where
  /-- The requests without an answer, by their numbers. -/
  outstanding : List Nat
  /-- The replies that can be read, each with the number of its request. -/
  fifo : List (Nat × UInt32)
  /-- How many frames for error replies the adapter owns. -/
  frames : Nat
  /-- How many requests have come in; the next gets this number. -/
  posted : Nat
  /-- The replies that have been read. -/
  popped : List (Nat × UInt32)

/-- A token that points at an error frame, and is not what the empty queue
    reads as. -/
def IsFrameToken (token : UInt32) : Prop :=
  token &&& replyAddressFlag ≠ 0 ∧ token ≠ Register.noReply

namespace Desk

open Relation (ReflTransGen)

/-- A reply to some outstanding request is posted. One that tells of a failure
    uses up a frame. -/
inductive Posts : Desk → Desk → Prop where
  | success {d : Desk} {front back : List Nat} {n : Nat}
      (hout : d.outstanding = front ++ n :: back) :
      Posts d { d with
        outstanding := front ++ back
        fifo := d.fifo ++ [(n, IoRequest.context)] }
  | failure {d : Desk} {front back : List Nat} {n frames : Nat} {token : UInt32}
      (hout : d.outstanding = front ++ n :: back) (hframes : d.frames = frames + 1)
      (htoken : IsFrameToken token) :
      Posts d { d with
        outstanding := front ++ back
        fifo := d.fifo ++ [(n, token)]
        frames := frames }

/-- What the reply queue reads as. -/
def head (d : Desk) : UInt32 :=
  match d.fifo with
  | [] => Register.noReply
  | (_, token) :: _ => token

/-- The desk after a read of the reply queue. -/
def pop (d : Desk) : Desk :=
  match d.fifo with
  | [] => d
  | first :: rest => { d with fifo := rest, popped := d.popped ++ [first] }

/-- The desk after a write that was taken. A reset drops what the adapter has,
    but not what has happened. -/
def write (d : Desk) (offset value : UInt32) : Desk :=
  if offset = Register.requestQueue then
    { d with outstanding := d.outstanding ++ [d.posted], posted := d.posted + 1 }
  else if offset = Register.replyQueue then
    { d with frames := d.frames + 1 }
  else if offset = Register.doorbell ∧ value = Doorbell.word Doorbell.resetFunction 0 then
    { d with outstanding := [], fifo := [], frames := 0 }
  else d

/-- The event is one that the adapter may answer so. Only two registers are
    spoken of, and an access may always fail. -/
def Allows (d : Desk) : Event → Prop
  | ⟨.readRegister offset, .ok value⟩ =>
    (offset = Register.replyQueue → value = d.head) ∧
      (offset = Register.interruptStatus → (Register.ShowsReply value ↔ d.fifo ≠ []))
  | _ => True

/-- The desk after an event. An access that failed changes nothing. -/
def after (d : Desk) : Event → Desk
  | ⟨.readRegister offset, .ok _⟩ => if offset = Register.replyQueue then d.pop else d
  | ⟨.writeRegister offset value, .ok _⟩ => d.write offset value
  | _ => d

/-- From one desk to another through some events, with replies posted at any
    time. -/
inductive Through : Desk → List Event → Desk → Prop where
  | rest {d d' : Desk} (hposts : ReflTransGen Posts d d') : Through d [] d'
  | step {d before d' : Desk} {event : Event} {events : List Event}
      (hposts : ReflTransGen Posts d before) (hallows : before.Allows event)
      (htail : Through (before.after event) events d') : Through d (event :: events) d'

end Desk

/-- The adapter behaves as the desk that `view` reads off its state. -/
def Conforms {σ : Type} (adapter : Adapter σ) (view : σ → Desk) : Prop :=
  ∀ access s, ∃ before : Desk, Relation.ReflTransGen Desk.Posts (view s) before ∧
    before.Allows ⟨access, (adapter.answer access s).1⟩ ∧
    Relation.ReflTransGen Desk.Posts (before.after ⟨access, (adapter.answer access s).1⟩)
      (view (adapter.answer access s).2)

namespace Desk

open Relation (ReflTransGen)

variable {σ α : Type} {d d' e : Desk} {event : Event} {events front rest : List Event}

theorem Through.posts (hposts : ReflTransGen Posts d d') (h : Through d' events e) :
    Through d events e := by
  cases h with
  | rest hrest => exact .rest (hposts.trans hrest)
  | step hmore hallows htail => exact .step (hposts.trans hmore) hallows htail

/-- Playing a program against an adapter that conforms takes its desk through
    the events. -/
theorem through_run {adapter : Adapter σ} {view : σ → Desk} (hconforms : Conforms adapter view)
    (program : Program α) (s : σ) :
    Through (view s) (program.run adapter s).trace (view (program.run adapter s).state) := by
  induction program generalizing s with
  | done value => exact .rest .refl
  | halt why => exact .rest .refl
  | call access next ih =>
      -- what is posted before an access and after it lies on both sides of the event
      rcases hconforms access s with ⟨before, hposts, hallows, hafter⟩
      exact .step hposts hallows ((ih _ _).posts hafter)

theorem through_append (h : Through d (front ++ rest) e) :
    ∃ d', Through d front d' ∧ Through d' rest e := by
  induction front generalizing d with
  | nil => exact ⟨d, .rest .refl, h⟩
  | cons event front ih =>
      rw [List.cons_append] at h
      cases h with
      | step hposts hallows htail =>
          rcases ih htail with ⟨d', hfront, hrest⟩
          exact ⟨d', .step hposts hallows hfront, hrest⟩

/-- With nothing outstanding there is nothing to post. -/
theorem posts_eq_of_outstanding_eq_nil (hout : d.outstanding = [])
    (h : ReflTransGen Posts d d') : d' = d := by
  induction h with
  | refl => rfl
  | tail _ hpost ih =>
      rw [ih] at hpost
      cases hpost with
      | success hsplit =>
          rw [hout] at hsplit
          exact absurd hsplit.symm (List.append_ne_nil_of_right_ne_nil _ (List.cons_ne_nil _ _))
      | failure hsplit _ _ =>
          rw [hout] at hsplit
          exact absurd hsplit.symm (List.append_ne_nil_of_right_ne_nil _ (List.cons_ne_nil _ _))

-- With nothing outstanding before an event, nothing can have been posted, so the
-- event finds the desk as it was.
theorem through_cons (hout : d.outstanding = []) (h : Through d (event :: events) e) :
    d.Allows event ∧ Through (d.after event) events e := by
  cases h with
  | step hposts hallows htail =>
      rw [posts_eq_of_outstanding_eq_nil hout hposts] at hallows htail
      exact ⟨hallows, htail⟩

theorem through_nil (hout : d.outstanding = []) (h : Through d [] e) : e = d := by
  cases h with
  | rest hposts => exact posts_eq_of_outstanding_eq_nil hout hposts

-- The desk moves by posting or by an event; with neither it stays.
theorem through_eq_of_after_eq (hout : d.outstanding = [])
    (hafter : ∀ event ∈ events, d.after event = d) (h : Through d events e) : e = d := by
  induction events with
  | nil => exact through_nil hout h
  | cons event events ih =>
      rcases through_cons hout h with ⟨-, htail⟩
      rw [hafter event List.mem_cons_self] at htail
      exact ih (fun event hmem => hafter event (List.mem_cons_of_mem _ hmem)) htail

/-- The access does not touch the conversation. -/
def IsAside : Access → Prop
  | .readRegister offset => offset ≠ Register.replyQueue
  | .writeRegister offset _ =>
    offset ≠ Register.requestQueue ∧ offset ≠ Register.replyQueue ∧ offset ≠ Register.doorbell
  | _ => True

theorem after_of_isAside (h : IsAside event.access) (d : Desk) : d.after event = d := by
  rcases event with ⟨access, answer⟩
  cases access with
  | readRegister offset =>
      cases answer with
      | error cause => rfl
      | ok value => exact if_neg h
  | writeRegister offset value =>
      cases answer with
      | error cause => rfl
      | ok _ =>
          change d.write offset value = d
          unfold write
          rw [if_neg h.1, if_neg h.2.1, if_neg fun hreset => h.2.2 hreset.1]
  | _ => rfl

-- An access that failed changes nothing.
theorem after_of_failure (h : event.failure? ≠ none) (d : Desk) : d.after event = d := by
  rcases event with ⟨access, answer⟩
  cases access with
  | readRegister offset =>
      cases answer with
      | error cause => rfl
      | ok value => exact absurd rfl h
  | writeRegister offset value =>
      cases answer with
      | error cause => rfl
      | ok _ => exact absurd rfl h
  | _ => rfl

end Desk

end FusionMpt
