import FusionMpt.Duration
import FusionMpt.Error.Basic

/-!
# Polling Policies

How an adapter is waited for: how long to stall between two looks at it, and
after how much stalling to give up. The engine has no clock. The only time it
knows of is the time it has asked to pass, so a time limit is measured in
stalls, and a limit without a stall would never be reached.

## Main definitions

* `PollPolicy`: The stall, and the limit if there is one.
* `PollPolicy.check`: Refuse a limit that stalls of no length cannot reach.
* `PollPolicy.overdue`: The limit has been reached.
-/

namespace FusionMpt

/-- How to wait for an adapter. -/
structure PollPolicy where
  /-- How long to stall between two looks. -/
  stall : Duration := .ofMicros 5
  /-- The stalling after which to give up; without it, wait until an answer
      comes. -/
  limit? : Option Duration := none
deriving DecidableEq

namespace PollPolicy

/-- Refuse a limit that no number of stalls reaches. -/
def check (policy : PollPolicy) : Except Error Unit :=
  if policy.limit?.isSome ∧ policy.stall = .zero then
    .error (.invalidParameter .timeoutWithoutStall)
  else .ok ()

/-- The stalling so far has reached the limit. -/
def overdue (policy : PollPolicy) (waited : Duration) : Bool :=
  match policy.limit? with
  | none => false
  | some limit => limit ≤ waited

/-- The policy as diagnostics show it. -/
def text (policy : PollPolicy) : String :=
  let limit :=
    match policy.limit? with
    | none => "None"
    | some limit => "Some(" ++ limit.text ++ ")"
  "MptScsiConfig \x7b stall_per_poll: " ++ policy.stall.text ++ ", poll_timeout: " ++ limit
    ++ " \x7d"

end PollPolicy

end FusionMpt
