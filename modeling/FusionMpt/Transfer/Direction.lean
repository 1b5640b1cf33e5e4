/-!
# Data Directions

Which way the data phase of a SCSI command moves bytes.

## Main definitions

* `Direction`: No data, to the host, to the device, or both ways.
* `Direction.name`: The direction's name in messages.
-/

namespace FusionMpt

/-- The way a command moves data. -/
inductive Direction where
  /-- The command has no data phase. -/
  | none
  /-- From the device to the host. -/
  | read
  /-- From the host to the device. -/
  | write
  /-- Both ways in one command, which no adapter of this family is asked for. -/
  | bidirectional
deriving DecidableEq, Repr

/-- The name a message calls the direction by. -/
def Direction.name : Direction → String
  | .none => "None"
  | .read => "Read"
  | .write => "Write"
  | .bidirectional => "Bidirectional"

end FusionMpt
