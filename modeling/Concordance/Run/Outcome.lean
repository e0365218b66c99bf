import Concordance.Data.Source

/-!
# Outcomes of Calls

How one call of an implementation ended, and what it put out.

## Main definitions

* `Status`: How a call ended.
* `Outcome`: The result of a call.
-/

namespace Concordance

/-- How a call ended. -/
inductive Status where
  /-- It ended by itself and reported success. -/
  | ok
  /-- It was stopped because it took too long. -/
  | timeout
  /-- It did not start, or did not end by itself. -/
  | crashed
  /-- It ended by itself and reported a failure. -/
  | exited (code : Int32)
  /-- It was stopped because the run was. -/
  | cancelled
deriving DecidableEq

namespace Status

/-- A status in words. -/
def text : Status → String
  | .ok => "ok"
  | .timeout => "timeout"
  | .crashed => "crashed"
  | .exited code => s!"non-zero-exit({code.toInt})"
  | .cancelled => "cancelled"

/-- A status as data. -/
def toDatum : Status → Datum
  | .ok => .text "ok"
  | .timeout => .text "timeout"
  | .crashed => .text "crashed"
  | .exited code => .variant "non-zero-exit" (.int code.toInt)
  | .cancelled => .text "cancelled"

/-- The names of the statuses, in the order of the constructors. -/
def names : List String :=
  ["ok", "timeout", "crashed", "non-zero-exit", "cancelled"]

/-- The status without a code at a position among the names. -/
def plain? : Nat → Option Status
  | 0 => some .ok
  | 1 => some .timeout
  | 2 => some .crashed
  | 4 => some .cancelled
  | _ => none

/-- Read a status. -/
def ofSource? (s : Source) : Option Status := do
  let (label, payload?) ← s.variant?
  match ← label.index? names, payload? with
  | 3, some payload => return .exited (← payload.int32?)
  | 3, none => none
  | n, some payload => if payload.isUnit then plain? n else none
  | n, none => plain? n

end Status

/-- The result of a call. -/
structure Outcome where
  index : Nat
  status : Status
  stdout : String
  stderr : String
  /-- How long the call took, in milliseconds. -/
  duration : UInt64 := 0

namespace Outcome

/-- A call that succeeded. -/
def succeeded (index : Nat) (stdout : String) : Outcome :=
  { index, status := .ok, stdout, stderr := "" }

/-- A call that failed. -/
def failed (index : Nat) (status : Status) (stderr : String) : Outcome :=
  { index, status, stdout := "", stderr }

/-- An outcome as data. -/
def toDatum (o : Outcome) : Datum :=
  .object [("index", .nat o.index), ("status", o.status.toDatum), ("stdout", .text o.stdout),
    ("stderr", .text o.stderr), ("duration_ms", .nat o.duration.toNat)]

/-- Read an outcome. -/
def ofSource? (s : Source) : Option Outcome := do
  let f ← s.record? ["index", "status", "stdout", "stderr", "duration_ms"]
  return {
    index := ← f.required? 0 Source.nat?
    status := ← f.required? 1 Status.ofSource?
    stdout := ← f.required? 2 Source.text?
    stderr := ← f.required? 3 Source.text?
    duration := ← f.required? 4 Source.word? }

end Outcome

end Concordance
