import Concordance.Domain.Value
import Concordance.Run.Limits
import Concordance.Run.Outcome

/-!
# Calls of Functions

How a call of a function within this program ends.

The function runs beside the one who waits for it, and may never come back. The
wait goes in rounds: each ends as soon as there is a reply, and otherwise after
a short while, upon which the clock and then the token and the deadline of the
run are looked at. A reply counts only if the clock shows that it came in time.

## Main definitions

* `Reply`: What a function gives back.
* `ReplyRound`: What is seen in one round of waiting.
* `awaitReply`: How a call ends, from the rounds.
* `callFunction`: A call on a clock of its own.
-/

namespace Concordance

/-- What a function that breaks off leaves behind. -/
inductive Payload where
  /-- A text that stands in the program. -/
  | literal (text : String)
  /-- A text that was put together. -/
  | composed (text : String)
  | other

/-- The text that a function that breaks off leaves behind, if it is one. -/
def Payload.text? : Payload → Option String
  | .literal text | .composed text => some text
  | .other => none

/-- What a function gives back. -/
inductive Reply where
  | returned (output : String)
  /-- The function reports a failure. -/
  | refused (message : String)
  /-- The function breaks off. -/
  | aborted (payload : Payload)

namespace Reply

/-- The outcome of a call with a reply in time. -/
def outcome (index : Nat) : Reply → Outcome
  | .returned output => .succeeded index output
  | .refused message => .failed index (.exited 1) message
  | .aborted payload => .failed index .crashed (payload.text?.getD "panic")

end Reply

/-- What waiting for a reply gives. -/
inductive Receipt where
  | reply (r : Reply)
  /-- There is no reply yet. -/
  | nothing
  /-- There is never going to be a reply. -/
  | disconnected

/-- What is seen in one round of waiting. -/
structure ReplyRound where
  receipt : Receipt
  /-- The time since the call, read after the wait. -/
  clock : Nat
  /-- Whether the run is to be stopped, read after the clock. -/
  isInterrupted : Bool

/-- A call that took too long. -/
def timedOut (index : Nat) (l : Limits) : Outcome :=
  .failed index .timeout l.excess

/-- A call that was stopped because the run was. -/
def interrupted (index : Nat) : Outcome :=
  .failed index .cancelled ""

/-- How a call ends, and the time that it took: `none` if it still goes on after
    the given rounds. -/
def awaitReply (index : Nat) (l : Limits) : List ReplyRound → Option (Outcome × Nat)
  | [] => none
  | round :: rounds =>
    match round.receipt with
    | .disconnected => some (.failed index .crashed "no result", round.clock)
    | .reply r =>
      if l.allowance ≤ round.clock then some (timedOut index l, round.clock)
      else some (r.outcome index, round.clock)
    | .nothing =>
      if l.allowance ≤ round.clock then some (timedOut index l, round.clock)
      else if round.isInterrupted then some (interrupted index, round.clock)
      else awaitReply index l rounds

/-- The longest wait of one round. -/
def replyInterval : Nat := 5000

/-- A function with the time that it takes. -/
abbrev TimedFunction := Inputs → Reply × Nat

/-- The rounds of waiting for a reply that comes after some time. -/
def replyRounds (l : Limits) (m : Moment) (r : Reply) (delay : Nat) : List ReplyRound :=
  (List.range (min delay l.allowance / replyInterval + 2)).map fun k =>
    let clock := min ((k + 1) * replyInterval) l.allowance
    if delay ≤ clock then ⟨.reply r, delay, (m.advance delay).isInterrupted l⟩
    else ⟨.nothing, clock, (m.advance clock).isInterrupted l⟩

/-- An outcome with the time that the call took. -/
def Outcome.lasting (o : Outcome) (duration : Nat) : Outcome :=
  { o with duration := milliseconds duration }

/-- A call of a function. If the run is to be stopped already, the function is
    not called. -/
def callFunction (f : TimedFunction) (index : Nat) (inputs : Inputs) (l : Limits) (m : Moment) :
    Outcome × Moment :=
  if m.isInterrupted l then (interrupted index, m)
  else
    let (reply, delay) := f inputs
    match awaitReply index l (replyRounds l m reply delay) with
    | some (o, clock) => (o.lasting clock, m.advance clock)
    | none => (interrupted index, m)

end Concordance
