import FusionMpt.Channel.Register
import FusionMpt.Wire.LittleEndian

/-!
# The Doorbell

A register that carries commands from outside the queues. One of them resets
the adapter; another announces a payload of up to 255 words, which follows
word by word through the same register.

The answer to a payload comes back through the doorbell too. Each read of it
carries 16 bits of the answer in its lower half, whatever stands in the upper
half.

## Main definitions

* `Doorbell.word`: A command with its argument.
* `Doorbell.reset`: Reset the adapter.
* `Doorbell.handshake`: Send a payload.
* `Doorbell.drain`: Read an answer of a known number of words.
* `LittleEndian.spread`: The bytes of a run of 16-bit words.
-/

namespace FusionMpt

/-- The bytes of 16-bit words, each word's lower octet first. -/
def LittleEndian.spread {n : Nat} (words : Vector UInt16 n) : Vector UInt8 (2 * n) :=
  Vector.ofFn fun i =>
    LittleEndian.octet (words.get ⟨i.val / 2, by omega⟩).toNat (i.val % 2)

namespace Doorbell

/-- The command that resets the adapter. -/
def resetFunction : UInt8 := 0x40

/-- The command that announces a payload. -/
def handshakeFunction : UInt8 := 0x42

/-- The word of a command: the function in the top octet, its argument in the
    one below. -/
def word (function argument : UInt8) : UInt32 :=
  (function.toUInt32 <<< 24) ||| (argument.toUInt32 <<< 16)

/-- Give a command. -/
def ring (function argument : UInt8) : Bus Unit :=
  Bus.writeRegister Register.doorbell (word function argument)

/-- Reset the adapter. -/
def reset : Bus Unit :=
  ring resetFunction 0

/-- Announce a payload and send it. The number of words is the argument of the
    command, so there can be at most 255. -/
def handshake (payload : List UInt32) (_ : payload.length ≤ 255) : Bus Unit := do
  ring handshakeFunction (UInt8.ofNat payload.length)
  Bus.writeRegisterEach Register.doorbell payload

/-- Read the words of an answer, each from the lower half of a read. -/
def drain : (count : Nat) → Bus (Vector UInt16 count)
  | 0 => pure #v[]
  | count + 1 => do
    let front ← drain count
    let value ← Bus.readRegister Register.doorbell
    return front.push value.toUInt16

end Doorbell

end FusionMpt
