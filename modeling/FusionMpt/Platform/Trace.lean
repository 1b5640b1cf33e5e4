import FusionMpt.Platform.Access

/-!
# The Notation of Traces

An event in a few characters, so that a trace can be read at a glance: what
kind of access, where, and with which value. `r44=ffffffff` is a read of
register 44 that gave `ffffffff`, `dw32+60` a write of 60 bytes to shared
memory from byte 32 on, `s5000` a stall of 5000 nanoseconds. An access that
failed ends in an exclamation mark.

Offsets and values of registers are hexadecimal, everything else is decimal
but for the attributes of the PCI function. The bytes that an access to shared
memory moves are not shown.

## Main definitions

* `Event.text`: The event in the notation of traces.
-/

namespace FusionMpt

namespace Event

/-- The mark behind an access that failed. -/
def mark {α : Type} : Except BusError α → String
  | .ok _ => ""
  | .error _ => "!"

/-- A register and its value. -/
def registerText (offset value : UInt32) : String :=
  hexDigits 2 offset.toNat ++ "=" ++ hexDigits 8 value.toNat

/-- The event in the notation of traces. -/
def text : Event → String
  | ⟨.readRegister offset, .ok value⟩ => "r" ++ registerText offset value
  | ⟨.readRegister offset, .error _⟩ => "r" ++ hexDigits 2 offset.toNat ++ "!"
  | ⟨.writeRegister offset value, answer⟩ => "w" ++ registerText offset value ++ mark answer
  | ⟨.readMemory offset len, answer⟩ => s!"dr{offset}+{len}" ++ mark answer
  | ⟨.writeMemory offset bytes, answer⟩ => s!"dw{offset}+{bytes.length}" ++ mark answer
  | ⟨.stall time, _⟩ => s!"s{time.nanos}"
  | ⟨.identity, answer⟩ => "identity" ++ mark answer
  | ⟨.attributes, answer⟩ => "attributes" ++ mark answer
  | ⟨.enable switched, answer⟩ => "enable=" ++ hexDigits 1 switched.bits.toNat ++ mark answer
  | ⟨.assign switched, answer⟩ => "set=" ++ hexDigits 1 switched.bits.toNat ++ mark answer
  | ⟨.mapRegisters, answer⟩ => "map" ++ mark answer
  | ⟨.allocate len, answer⟩ => s!"alloc={len}" ++ mark answer

end Event

end FusionMpt
