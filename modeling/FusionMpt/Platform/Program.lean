import FusionMpt.Platform.Access

/-!
# Programs

What the engine does, apart from any machine to do it on. A `Program` is a
tree: it ends with a value, or makes one access and goes on in the way the
answer selects. The adapter is not in it, so a fact about a program holds
whatever the adapter answers, and two programs that are equal behave alike on
every adapter.

Two things besides a value can end a program. A sum may come to more than its
type can hold: the time that was waited, or the place at which an access aimed.
And its patience may run out: polling takes a bound on the number of polls, so
that every program ends.

Most of the engine stops at the first access that fails. `Bus` is a program
that does so.

## Main definitions

* `Halt`: Why a program ends without a value.
* `Program`: A tree of accesses.
* `Program.perform`: One access.
* `Bus`: A program cut short by the first failing access.

## Theorems

* `Program.bind_assoc`, `Program.bind_done`: The laws of sequencing.
-/

namespace FusionMpt

/-- Why a program ends without a value. -/
inductive Halt where
  /-- A sum is more than its type can hold. -/
  | overflow
  /-- The adapter was polled as often as the caller allows. -/
  | unanswered
deriving DecidableEq, Repr

/-- Accesses to a machine, each chosen in view of the answers to those
    before it. -/
inductive Program (α : Type) where
  | done (value : α)
  | halt (why : Halt)
  | call (access : Access) (next : access.Answer → Program α)

namespace Program

variable {α β γ : Type}

/-- One program and then another, chosen by the value of the first. -/
def bind : Program α → (α → Program β) → Program β
  | .done value, next => next value
  | .halt why, _ => .halt why
  | .call access rest, next => .call access fun answer => (rest answer).bind next

instance : Monad Program where
  pure := .done
  bind := bind

@[simp]
theorem pure_eq_done (value : α) : (pure value : Program α) = .done value :=
  rfl

@[simp]
theorem done_bind (value : α) (next : α → Program β) :
    (Program.done value >>= next) = next value :=
  rfl

@[simp]
theorem halt_bind (why : Halt) (next : α → Program β) :
    (Program.halt why >>= next) = .halt why :=
  rfl

@[simp]
theorem call_bind (access : Access) (rest : access.Answer → Program α)
    (next : α → Program β) :
    (Program.call access rest >>= next) = .call access fun answer => rest answer >>= next :=
  rfl

theorem bind_done (program : Program α) : (program >>= Program.done) = program := by
  induction program with
  | done value => rfl
  | halt why => rfl
  | call access rest ih => simp only [call_bind, ih]

theorem bind_assoc (program : Program α) (first : α → Program β) (second : β → Program γ) :
    (program >>= first >>= second) = program >>= fun value => first value >>= second := by
  induction program with
  | done value => rfl
  | halt why => rfl
  | call access rest ih => simp only [call_bind, ih]

instance : LawfulMonad Program :=
  LawfulMonad.mk' Program bind_done done_bind bind_assoc

/-- One access, for its answer. -/
def perform (access : Access) : Program access.Answer :=
  .call access .done

end Program

/-- A program that the first failing access cuts short. -/
abbrev Bus := ExceptT BusError Program

namespace Bus

/-- The value of a register. -/
def readRegister (offset : UInt32) : Bus UInt32 :=
  Program.perform (.readRegister offset)

/-- Write a register. -/
def writeRegister (offset value : UInt32) : Bus Unit :=
  Program.perform (.writeRegister offset value)

/-- Write several values to one register, which takes them one by one. -/
def writeRegisterEach (offset : UInt32) (values : List UInt32) : Bus Unit :=
  values.forM (writeRegister offset)

/-- Bytes of shared memory. -/
def readMemory (offset len : Nat) : Bus (Vector UInt8 len) :=
  Program.perform (.readMemory offset len)

/-- Write bytes to shared memory. -/
def writeMemory (offset : Nat) (bytes : List UInt8) : Bus Unit :=
  Program.perform (.writeMemory offset bytes)

/-- What the PCI function says it is. -/
def identity : Bus PciIdentity :=
  Program.perform .identity

/-- The attributes of the PCI function. -/
def attributes : Bus PciAttributes :=
  Program.perform .attributes

/-- Switch attributes of the PCI function on. -/
def enable (attributes : PciAttributes) : Bus Unit :=
  Program.perform (.enable attributes)

/-- Set every attribute of the PCI function. -/
def assign (attributes : PciAttributes) : Bus Unit :=
  Program.perform (.assign attributes)

/-- Make the adapter's registers accessible. -/
def mapRegisters : Bus Unit :=
  Program.perform .mapRegisters

/-- Get shared memory of at least `len` bytes. -/
def allocate (len : Nat) : Bus Buffer :=
  Program.perform (.allocate len)

end Bus

end FusionMpt
