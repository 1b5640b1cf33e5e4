/-!
# The Driver's Name

The name under which the binding is offered to users. There is one, in
English, and it is asked for by a language code: a two-letter code with or
without a region behind it (`en`, `en-US`), or a three-letter one (`eng`).
Only the part before the first hyphen counts, and the case of its ASCII
letters does not.

## Main definitions

* `driverName`: The name.
* `driverName?`: The name in a language, if there is one.
-/

namespace FusionMpt

/-- The driver's name. -/
def driverName : String :=
  "LSI Fusion MPT SCSI Driver"

/-- The driver's name in the language of a code. -/
def driverName? (language : String) : Option String :=
  let code := (language.toList.takeWhile (· ≠ '-')).map Char.toLower
  if code = ['e', 'n'] ∨ code = ['e', 'n', 'g'] then some driverName else none

end FusionMpt
