/-!
# Durations

Spans of time in whole nanoseconds. A duration holds a 64-bit count of seconds
and the nanoseconds of a further second, so there is a largest one, and adding
two may go past it: `Duration.add?` says so instead of wrapping.

A span is held as its number of nanoseconds alone. Seconds and the remainder
are read off by division, comparison is comparison of numbers, and the bound
is the type's only invariant.

## Main definitions

* `Duration`: A span of at most 64-bit seconds.
* `Duration.bound`: The nanoseconds that no span has.
* `Duration.ofNanos`, `Duration.ofMicros`: Spans given as a number of units.
* `Duration.ofParts?`: A span given as seconds and nanoseconds.
* `Duration.add?`: The sum, if a duration can hold it.
* `Duration.micros`: The whole microseconds, as a 64-bit count.
* `Duration.text`: The span in the largest unit that it fills.

## Theorems

* `Duration.add?_eq_some_iff`: When a sum exists, and what it is.
* `Duration.add?_eq_none_iff`: When it does not.
-/

namespace FusionMpt

/-- The nanoseconds of 2^64 seconds, which no span has. -/
def Duration.bound : Nat :=
  UInt64.size * 1000000000

/-- A span of time: fewer than 2^64 seconds, to the nanosecond. -/
@[ext]
structure Duration where
  nanos : Nat
  nanos_lt : nanos < Duration.bound
deriving DecidableEq

namespace Duration

/-- No time at all. -/
def zero : Duration :=
  ⟨0, by decide⟩

/-- A number of nanoseconds below 2^64. -/
def ofNanos (n : UInt64) : Duration :=
  ⟨n.toNat, Nat.lt_of_lt_of_le n.toNat_lt_size (by decide)⟩

/-- A number of microseconds below 2^64. -/
def ofMicros (n : UInt64) : Duration :=
  ⟨n.toNat * 1000, Nat.lt_of_lt_of_le (Nat.mul_lt_mul_of_pos_right n.toNat_lt_size (by decide))
    (by decide)⟩

/-- Seconds and nanoseconds, the latter less than a second. -/
def ofParts? (seconds : UInt64) (nanos : Nat) : Option Duration :=
  if h : nanos < 1000000000 then
    some ⟨seconds.toNat * 1000000000 + nanos, by
      have hseconds := seconds.toNat_lt_size
      unfold bound
      omega⟩
  else none

instance : LE Duration := ⟨fun a b => a.nanos ≤ b.nanos⟩

instance (a b : Duration) : Decidable (a ≤ b) :=
  inferInstanceAs (Decidable (a.nanos ≤ b.nanos))

/-- The sum of two spans, unless it is too long to be held. -/
def add? (a b : Duration) : Option Duration :=
  if h : a.nanos + b.nanos < bound then some ⟨a.nanos + b.nanos, h⟩ else none

/-- The whole microseconds of the span. The count is 64 bits wide, and a span
    of more than that wraps. -/
def micros (d : Duration) : UInt64 :=
  UInt64.ofNat (d.nanos / 1000)

/-- A decimal fraction of `width` digits with its trailing zeros dropped, and
    the point too when nothing is left. -/
def fraction (width n : Nat) : String :=
  let digits := Nat.toDigits 10 n
  let padded := List.replicate (width - digits.length) '0' ++ digits
  match (padded.reverse.dropWhile (· = '0')).reverse with
  | [] => ""
  | kept => "." ++ String.ofList kept

/-- The span in the largest of `s`, `ms`, `µs` and `ns` of which it has at
    least one, with as many decimals as it needs. -/
def text (d : Duration) : String :=
  if 1000000000 ≤ d.nanos then
    toString (d.nanos / 1000000000) ++ fraction 9 (d.nanos % 1000000000) ++ "s"
  else if 1000000 ≤ d.nanos then
    toString (d.nanos / 1000000) ++ fraction 6 (d.nanos % 1000000) ++ "ms"
  else if 1000 ≤ d.nanos then
    toString (d.nanos / 1000) ++ fraction 3 (d.nanos % 1000) ++ "µs"
  else
    toString d.nanos ++ "ns"

theorem add?_eq_some_iff {a b c : Duration} :
    a.add? b = some c ↔ c.nanos = a.nanos + b.nanos := by
  unfold add?
  split
  · rw [Option.some_inj, Duration.ext_iff]
    exact eq_comm
  · rename_i h
    constructor
    · intro hc
      exact absurd hc (by simp)
    · intro hc
      exact absurd (hc ▸ c.nanos_lt) h

theorem add?_eq_none_iff {a b : Duration} :
    a.add? b = none ↔ bound ≤ a.nanos + b.nanos := by
  unfold add?
  split <;> simp <;> omega

end Duration

end FusionMpt
