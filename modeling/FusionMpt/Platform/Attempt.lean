import FusionMpt.Error.Basic
import FusionMpt.Platform.Program

/-!
# Attempts

Programs that may fail with any error of the library, not with a bus error
alone. A failing access becomes one of two errors, as the caller decides: the
bus error itself, or the failure of a bring-up step that the bus error is the
cause of.

## Main definitions

* `Attempt`: A program that may fail.
* `Bus.attempt`: A failing access fails the attempt with its bus error.
* `Bus.during`: A failing access fails the given step of a bring-up.
-/

namespace FusionMpt

/-- A program that may fail with any error. -/
abbrev Attempt := ExceptT Error Program

/-- An access that fails is reported as it is. -/
def Bus.attempt {α : Type} (accesses : Bus α) : Attempt α :=
  accesses.adapt Error.bus

/-- An access that fails is reported as the failure of a bring-up step. -/
def Bus.during {α : Type} (accesses : Bus α) (step : BringUpStep) : Attempt α :=
  accesses.adapt (Error.bringUp step)

end FusionMpt
