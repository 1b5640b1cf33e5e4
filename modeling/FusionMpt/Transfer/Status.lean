import FusionMpt.Frame.ErrorReply

/-!
# Completion Statuses

How a command ended, in two bytes: what became of it on the way (`HostStatus`),
and what the device itself said (`TargetStatus`). Both are open: a byte without
a name here may come from a caller and is kept.

An error reply says little about the way. That no device answers is told
apart; any other status, success included, comes down to `HostStatus.other`,
since a reply that came in an error frame was no success.

## Main definitions

* `HostStatus`, `TargetStatus`: The two bytes.
* `HostStatus.ofReplyStatus`: What the status word of an error reply comes down
  to.
-/

namespace FusionMpt

/-- What became of a command on its way. -/
structure HostStatus where
  code : UInt8
deriving DecidableEq, Repr

namespace HostStatus

def ok : HostStatus := ⟨0x00⟩
def timeoutCommand : HostStatus := ⟨0x09⟩
def timeout : HostStatus := ⟨0x0b⟩
def messageReject : HostStatus := ⟨0x0d⟩
def busReset : HostStatus := ⟨0x0e⟩
def parityError : HostStatus := ⟨0x0f⟩
def requestSenseFailed : HostStatus := ⟨0x10⟩
def selectionTimeout : HostStatus := ⟨0x11⟩
def dataOverrunUnderrun : HostStatus := ⟨0x12⟩
def busFree : HostStatus := ⟨0x13⟩
def phaseError : HostStatus := ⟨0x14⟩
def other : HostStatus := ⟨0x7f⟩

/-- The named statuses, by ascending code. -/
def all : List HostStatus :=
  [ok, timeoutCommand, timeout, messageReject, busReset, parityError, requestSenseFailed,
    selectionTimeout, dataOverrunUnderrun, busFree, phaseError, other]

/-- What the status word of an error reply comes down to. -/
def ofReplyStatus (word : UInt16) : HostStatus :=
  if ReplyStatus.masked word = .deviceNotThere then selectionTimeout else other

end HostStatus

/-- What the device said of a command. -/
structure TargetStatus where
  code : UInt8
deriving DecidableEq, Repr

namespace TargetStatus

def good : TargetStatus := ⟨0x00⟩
def checkCondition : TargetStatus := ⟨0x02⟩
def conditionMet : TargetStatus := ⟨0x04⟩
def busy : TargetStatus := ⟨0x08⟩
def intermediate : TargetStatus := ⟨0x10⟩
def intermediateConditionMet : TargetStatus := ⟨0x14⟩
def reservationConflict : TargetStatus := ⟨0x18⟩
def commandTerminated : TargetStatus := ⟨0x22⟩
def queueFull : TargetStatus := ⟨0x28⟩
def taskAborted : TargetStatus := ⟨0x40⟩

/-- The named statuses, by ascending code. -/
def all : List TargetStatus :=
  [good, checkCondition, conditionMet, busy, intermediate, intermediateConditionMet,
    reservationConflict, commandTerminated, queueFull, taskAborted]

end TargetStatus

end FusionMpt
