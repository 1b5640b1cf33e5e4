import FusionMpt.Platform.Adapter
import FusionMpt.Platform.HostMemory

/-!
# Scripted Adapters

An adapter that plays a prepared part: it says what it was told to say, fails
where it was told to fail, and has no mind of its own. It is what the engine
is tried out against when there is no hardware.

Every register has a queue of values to be read one after the other, and a
value for when the queue is empty. Writing a register has no effect. Shared
memory is host memory, which may be reported with another size than it has.

A `FaultRule` makes accesses of one kind fail: at one place or anywhere, after
letting some pass, and for so many times or for good. Rules are asked in
order. One that lets an access pass counts it and hands it on to the next; one
that fails it is the last to be asked.

The script counts the accesses it takes note of, which are all of them unless
letting time pass is to go unnoticed. So that no program is kept waiting for
ever, register reads fail once the count has reached a limit.

## Main definitions

* `AccessKind`, `Access.kind?`, `Access.place`: What a rule looks at.
* `FaultRule`: Which accesses fail.
* `FaultRule.strike`: Ask the rules about an access.
* `Script`: The part to be played.
* `Script.notes`: Whether an access counts.
* `Script.adapter`: The adapter that plays it.
-/

namespace FusionMpt

/-- The kinds of access that can be told to fail. -/
inductive AccessKind where
  | registerRead
  | registerWrite
  | memoryRead
  | memoryWrite
  | identity
  | attributes
  | enable
  | assign
  | mapRegisters
  | allocate
deriving DecidableEq, Repr

namespace Access

/-- The kind of an access. Time cannot be told to stand still. -/
def kind? : Access → Option AccessKind
  | .readRegister _ => some .registerRead
  | .writeRegister .. => some .registerWrite
  | .readMemory .. => some .memoryRead
  | .writeMemory .. => some .memoryWrite
  | .stall _ => none
  | .identity => some .identity
  | .attributes => some .attributes
  | .enable _ => some .enable
  | .assign _ => some .assign
  | .mapRegisters => some .mapRegisters
  | .allocate _ => some .allocate

/-- Where an access goes: an offset, or the attributes it is about. -/
def place : Access → Nat
  | .readRegister offset => offset.toNat
  | .writeRegister offset _ => offset.toNat
  | .readMemory offset _ => offset
  | .writeMemory offset _ => offset
  | .enable switched => switched.bits.toNat
  | .assign switched => switched.bits.toNat
  | .stall _ | .identity | .attributes | .mapRegisters | .allocate _ => 0

end Access

/-- Which accesses fail. -/
structure FaultRule where
  kind : AccessKind
  /-- Only accesses that go there. -/
  place? : Option Nat := none
  /-- How many to let pass before. -/
  skip : Nat := 0
  /-- How many to fail; without it, all of them. -/
  times? : Option Nat := none
deriving DecidableEq, Repr

namespace FaultRule

/-- The rule is about this access. -/
def concerns (rule : FaultRule) (access : Access) : Bool :=
  access.kind? = some rule.kind ∧ rule.place?.all (· = access.place)

/-- Ask the rules whether an access fails; with the answer come the rules for
    the next access. -/
def strike (access : Access) : List FaultRule → Bool × List FaultRule
  | [] => (false, [])
  | rule :: rest =>
    if rule.concerns access then
      match rule.skip, rule.times? with
      | 0, none => (true, rule :: rest)
      | 0, some (times + 1) => (true, { rule with times? := some times } :: rest)
      | 0, some 0 => onward rule rest
      | skip + 1, _ => onward { rule with skip } rest
    else onward rule rest
where
  /-- Leave the access to the rules that follow. -/
  onward (rule : FaultRule) (rest : List FaultRule) : Bool × List FaultRule :=
    let asked := strike access rest
    (asked.1, rule :: asked.2)

end FaultRule

/-- The part that a scripted adapter plays. -/
structure Script where
  memory : HostMemory
  /-- The memory as it is reported. -/
  buffer : Buffer := memory.buffer
  identity : PciIdentity := ⟨PciIdentity.lsiLogic, PciIdentity.lsi53c1030⟩
  attributes : PciAttributes := ⟨0⟩
  /-- The values that a register reads as next. -/
  queue : UInt32 → List UInt32 := fun _ => []
  /-- The value that a register reads as when there is nothing in its queue. -/
  idle : UInt32 → UInt32 := fun _ => 0
  rules : List FaultRule := []
  /-- Letting time pass goes unnoticed. -/
  quietStalls : Bool := false
  /-- The accesses noted so far. -/
  noted : Nat := 0
  /-- The number of noted accesses after which registers are read no more. -/
  limit : Nat := 4000

namespace Script

/-- A function with one of its values replaced. -/
def replace {α : Type} (f : UInt32 → α) (offset : UInt32) (value : α) : UInt32 → α :=
  fun other => if other = offset then value else f other

/-- Have a register read as the given values before it is idle again. -/
def enqueue (s : Script) (offset : UInt32) (values : List UInt32) : Script :=
  { s with queue := replace s.queue offset (s.queue offset ++ values) }

/-- Have a register read as a value when its queue is empty. -/
def idleAt (s : Script) (offset value : UInt32) : Script :=
  { s with idle := replace s.idle offset value }

/-- The script takes note of an access. -/
def notes (s : Script) : Access → Bool
  | .stall _ => !s.quietStalls
  | _ => true

/-- What an access is answered that fails. -/
def failure (s : Script) : (access : Access) → access.Answer
  | .readRegister offset => .error (.registerRead offset)
  | .writeRegister offset value => .error (.registerWrite offset value)
  | .readMemory offset len => .error (.outOfBounds offset len s.memory.size)
  | .writeMemory offset bytes => .error (.outOfBounds offset bytes.length s.memory.size)
  | .stall _ => ()
  | .identity => .error (.configuration "identity read")
  | .attributes => .error (.configuration "attributes read")
  | .enable _ => .error (.configuration "enable attributes")
  | .assign _ => .error (.configuration "set attributes")
  | .mapRegisters => .error (.configuration "map bar0")
  | .allocate len => .error (.allocation len)

/-- What an access is answered that no rule fails. -/
def serve (s : Script) : (access : Access) → access.Answer × Script
  | .readRegister offset =>
    if s.limit < s.noted then (.error (.registerRead offset), s)
    else
      match s.queue offset with
      | value :: rest => (.ok value, { s with queue := replace s.queue offset rest })
      | [] => (.ok (s.idle offset), s)
  | .writeRegister .. => (.ok (), s)
  | .readMemory offset len => (s.memory.read offset len, s)
  | .writeMemory offset bytes =>
    match s.memory.write offset bytes with
    | .ok memory => (.ok (), { s with memory })
    | .error refusal => (.error refusal, s)
  | .stall _ => ((), s)
  | .identity => (.ok s.identity, s)
  | .attributes => (.ok s.attributes, s)
  | .enable attributes => (.ok (), { s with attributes := s.attributes ||| attributes })
  | .assign attributes => (.ok (), { s with attributes })
  | .mapRegisters => (.ok (), s)
  | .allocate _ => (.ok s.buffer, s)

/-- What an access is answered. -/
def answer (access : Access) (s : Script) : access.Answer × Script :=
  let asked := FaultRule.strike access s.rules
  let noted := if s.notes access then s.noted + 1 else s.noted
  let s := { s with rules := asked.2, noted }
  if asked.1 then (s.failure access, s) else s.serve access

/-- The adapter that plays a script. -/
def adapter : Adapter Script :=
  ⟨answer⟩

end Script

end FusionMpt
