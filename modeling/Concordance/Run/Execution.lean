import Concordance.Run.Supervision

/-!
# Executions

What a program does on a clock of its own, and what a supervisor sees of it.

## Main definitions

* `Execution`: When a program ends, and what it writes.
* `Execution.supervised`: The outcome of a call that starts the program.
-/

namespace Concordance

/-- What came out of a pipe, and when it ended: `none` if it never does. -/
structure PipeHistory where
  bytes : List UInt8
  endsAt : Option Nat

/-- What a program does. -/
structure Execution where
  ending : Ending
  /-- When the program ends, since its start: `none` if it never does. -/
  endsAt : Option Nat
  stdout : PipeHistory
  stderr : PipeHistory

/-- Whether something has happened by some time. -/
def hasHappened (event : Option Nat) (time : Nat) : Bool :=
  event.any fun t => decide (t ≤ time)

/-- What asking a pipe gives at some time. -/
def PipeHistory.answer (p : PipeHistory) (time : Nat) : PipeAnswer :=
  if hasHappened p.endsAt time then .ended (Text.decodeUtf8 p.bytes) else .pending

namespace Execution

/-- The time between two questions. -/
def pollInterval : Nat := 2000

/-- What asking the system gives at some time. -/
def answer (e : Execution) (time : Nat) : Answer :=
  if hasHappened e.endsAt time then .ended e.ending else .running

/-- The time that killing takes. -/
def killDuration : Nat := 2000

/-- The check at some time. -/
def check (l : Limits) (m : Moment) (time : Nat) : StopCheck :=
  ⟨time, (m.advance time).isInterrupted l, time + killDuration⟩

/-- The first question at or after some time. -/
def nextRound (time : Nat) : Nat :=
  (time + pollInterval - 1) / pollInterval * pollInterval

/-- When a call is stopped unless something else ends it. -/
def stopsAt (l : Limits) (m : Moment) : Nat :=
  let bound (instant : Option Nat) : Nat :=
    instant.elim l.allowance fun t => min (t - m.time) l.allowance
  min (bound m.cancelAt) (bound l.deadline.instant?)

/-- The times of the questions up to one at which an event has happened or the
    call is stopped. -/
def roundTimes (l : Limits) (m : Moment) (event : Option Nat) : List Nat :=
  let last := min (event.getD (stopsAt l m)) (stopsAt l m)
  (List.range (last / pollInterval + 2)).map (· * pollInterval)

/-- When everything that is waited for has happened: `none` if never. -/
def last? (e : Execution) : Option Nat := do
  return max (← e.endsAt) (max (← e.stdout.endsAt) (← e.stderr.endsAt))

/-- The rounds of waiting for the program. -/
def endingRounds (e : Execution) (l : Limits) (m : Moment) : List EndingRound :=
  (roundTimes l m e.endsAt).map fun t => ⟨e.answer t, check l m t⟩

/-- The rounds of waiting for its pipes. -/
def drainRounds (e : Execution) (l : Limits) (m : Moment) : List DrainRound :=
  let first := nextRound (e.endsAt.getD 0)
  (roundTimes l m e.last?).map fun t =>
    ⟨e.stdout.answer (first + t), e.stderr.answer (first + t), check l m (first + t)⟩

/-- The outcome of a call that starts the program, and the moment at which it
    is known. -/
def supervised (e : Execution) (index : Nat) (l : Limits) (m : Moment) : Outcome × Moment :=
  match supervise index l (e.endingRounds l m) (e.drainRounds l m) with
  | some s =>
    let duration := match s.outcome.status with
      | .timeout | .cancelled => nextRound (stopsAt l m) + killDuration
      | _ => nextRound (e.last?.getD 0)
    (s.outcome.lasting duration, m.advance duration)
  | none => (interrupted index, m)

end Execution

end Concordance
