import Concordance.Run.Call
import Concordance.Run.Child
import Concordance.Text.Utf8

/-!
# Supervision

How a call that starts a process ends.

First the child is asked again and again whether it has ended. Then its pipes
are asked whether they have, since processes that it left in the background may
keep them open. Between the questions the call is stopped if it has taken too
long or if the run is to be stopped: the child is killed with its whole group,
and only then is it decided which of the two it was, by looking at the clock
once more.

## Main definitions

* `StopCheck`: What is read when a call may be stopped.
* `awaitEnding`: The wait for the child.
* `Drain`, `drainPipes`: The wait for the pipes.
* `supervise`: Both waits, and what comes of them.
-/

namespace Concordance

/-- What is read when a call may be stopped. -/
structure StopCheck where
  /-- The time since the start. -/
  clock : Nat
  /-- Whether the run is to be stopped. -/
  isInterrupted : Bool
  /-- The time since the start, read after the processes were killed, if they
      are. -/
  clockAfterKill : Nat

/-- Whether a call is stopped. -/
def StopCheck.stops (c : StopCheck) (l : Limits) : Bool :=
  decide (l.allowance ≤ c.clock) || c.isInterrupted

/-- One round of waiting for the child. -/
structure EndingRound where
  answer : Answer
  check : StopCheck

/-- How the wait for the child ended. -/
inductive Awaited where
  /-- The child ended, or `none` could be found out about it. -/
  | ended (ending? : Option Ending)
  | stopped (check : StopCheck)
  /-- The wait still goes on after the given rounds. -/
  | pending

/-- Wait for the child. -/
def awaitEnding (l : Limits) (g : Guard) : List EndingRound → Guard × Awaited
  | [] => (g, .pending)
  | round :: rounds =>
    match g.ask round.answer with
    | (g, .ok (some ending)) => (g.release, .ended (some ending))
    | (g, .error _) => (g.kill, .ended none)
    | (g, .ok none) =>
      if round.check.stops l then (g, .stopped round.check) else awaitEnding l g rounds

/-- What asking a pipe gives. -/
inductive PipeAnswer where
  | pending
  /-- The pipe has ended, and this is all that came out of it. -/
  | ended (text : String)
  /-- The reader of the pipe is gone. -/
  | lost

/-- The reading end of a pipe. -/
structure Drain where
  hasEnded : Bool
  text : String
deriving DecidableEq

namespace Drain

/-- The reading end of a pipe that was just opened. -/
def start : Drain :=
  ⟨false, ""⟩

/-- Ask a pipe. Once it has ended, it is not asked again. -/
def poll (d : Drain) (answer : PipeAnswer) : Drain :=
  if d.hasEnded then d
  else match answer with
    | .pending => d
    | .ended text => ⟨true, text⟩
    | .lost => { d with hasEnded := true }

end Drain

/-- One round of waiting for both pipes. -/
structure DrainRound where
  stdout : PipeAnswer
  stderr : PipeAnswer
  check : StopCheck

/-- The output and the error output of a child. -/
structure Drains where
  stdout : Drain
  stderr : Drain

/-- Ask both pipes. -/
def Drains.poll (d : Drains) (round : DrainRound) : Drains :=
  ⟨d.stdout.poll round.stdout, d.stderr.poll round.stderr⟩

/-- How the wait for the pipes ended. -/
inductive Drained where
  /-- Both pipes ended. -/
  | ended
  | stopped (check : StopCheck)
  /-- The wait still goes on after the given rounds. -/
  | pending

/-- Wait for both pipes. -/
def drainPipes (l : Limits) (d : Drains) : List DrainRound → Drains × Drained
  | [] => (d, .pending)
  | round :: rounds =>
    let d := d.poll round
    if d.stdout.hasEnded && d.stderr.hasEnded then (d, .ended)
    else if round.check.stops l then (d, .stopped round.check)
    else drainPipes l d rounds

/-- The number of bytes of the error output that are kept. -/
def stderrLimit : Nat := 4096

/-- The status that an ending stands for. -/
def Status.ofEnding? : Option Ending → Status
  | some (.exited 0) => .ok
  | some (.exited code) => .exited code
  | some .killed | none => .crashed

/-- The outcome of a call that was stopped. -/
def stoppedOutcome (index : Nat) (l : Limits) (c : StopCheck) : Outcome :=
  if c.clockAfterKill < l.allowance then interrupted index else timedOut index l

/-- The outcome of a call that ran to its end. -/
def endedOutcome (index : Nat) (ending? : Option Ending) (d : Drains) : Outcome :=
  { index
    status := .ofEnding? ending?
    stdout := d.stdout.text
    stderr := String.ofList (Text.truncate stderrLimit d.stderr.text.toList) }

/-- What has become of a call and of all that it used, when it returns. -/
structure Supervised where
  outcome : Outcome
  guard : Guard
  drains : Drains

/-- The guard after the call, which is the end of its use. -/
def Supervised.guardAfter (s : Supervised) : Guard :=
  s.guard.drop

/-- How a call ends, from the rounds of both waits: `none` if it still goes on
    after them. -/
def supervise (index : Nat) (l : Limits) (endings : List EndingRound)
    (drainings : List DrainRound) : Option Supervised :=
  let start : Drains := ⟨.start, .start⟩
  match awaitEnding l .start endings with
  | (_, .pending) => none
  | (g, .stopped check) => some ⟨stoppedOutcome index l check, g.kill, start⟩
  | (g, .ended ending?) =>
    match drainPipes l start drainings with
    | (_, .pending) => none
    | (d, .stopped check) => some ⟨stoppedOutcome index l check, g.kill, d⟩
    | (d, .ended) => some ⟨endedOutcome index ending? d, g, d⟩

end Concordance
