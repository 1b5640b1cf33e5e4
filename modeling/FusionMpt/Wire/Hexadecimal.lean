/-!
# Hexadecimal Numerals

The one spelling of register offsets, register values and reply tokens:
lower-case digits, padded with zeros to a least number of digits. An offset is
padded to two digits and a 32-bit value to eight; a number that needs more
digits than the padding asks for keeps them all. Messages put `0x` in front,
traces do not.

## Main definitions

* `hexDigits`: The digits of a number, padded to a least width.
* `hexadecimal`: The numeral, with `0x` in front.
-/

namespace FusionMpt

/-- The lower-case hexadecimal digits of `n`, at least `width` of them. -/
def hexDigits (width n : Nat) : String :=
  let digits := Nat.toDigits 16 n
  String.ofList (List.replicate (width - digits.length) '0' ++ digits)

/-- The numeral of `n` in hexadecimal, after `0x`, with at least `width`
    digits. -/
def hexadecimal (width n : Nat) : String :=
  "0x" ++ hexDigits width n

end FusionMpt
