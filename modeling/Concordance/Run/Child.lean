/-!
# Child Processes

The process behind a call, and the one who has to see to its end.

A child that has ended stays behind until someone asks how, which reaps it. It
must be reaped once: not at all leaves a remnant, and a second time may hit a
stranger that was given the same number. A guard owns the child from its start
until it is reaped, and keeps account of that.

A child leads a group of the processes that it started. Those outlive it unless
the group is killed.

## Main definitions

* `Ending`: How a process ended.
* `Guard`: The owner of a child.
* `Guard.ask`: Asks whether the child has ended.
* `Guard.kill`, `Guard.release`, `Guard.drop`: The ways to give up the child.
-/

namespace Concordance

/-- How a process ended. -/
inductive Ending where
  | exited (code : Int32)
  /-- A signal ended it. -/
  | killed
deriving DecidableEq

/-- What the system says about a child. -/
inductive Answer where
  | running
  | ended (e : Ending)
  /-- The system could not tell. -/
  | failed
deriving DecidableEq

/-- A child, with its ending if it was reaped. -/
structure Child where
  ending? : Option Ending
deriving DecidableEq

/-- The owner of a child. -/
structure Guard where
  /-- The child, as long as it is owned. -/
  child? : Option Child
  /-- How often the child was reaped. -/
  reaps : Nat
  /-- How often the group of the child was killed. -/
  groupKills : Nat
deriving DecidableEq

/-- Why there is no answer about a child. -/
inductive GuardFault where
  /-- The child is not owned any more. -/
  | consumed
  /-- The system could not tell. -/
  | unknown
deriving DecidableEq

/-- The fault in words. -/
def GuardFault.message : GuardFault → String
  | .consumed => "Process already consumed"
  | .unknown => "No child processes (os error 10)"

namespace Guard

/-- The owner of a child that has just been started. -/
def start : Guard :=
  { child? := some ⟨none⟩, reaps := 0, groupKills := 0 }

/-- Ask whether the child has ended. The first answer that it has reaps it and
    is remembered. -/
def ask (g : Guard) (answer : Answer) : Guard × Except GuardFault (Option Ending) :=
  match g.child? with
  | none => (g, .error .consumed)
  | some child =>
    match child.ending?, answer with
    | some e, _ => (g, .ok (some e))
    | none, .running => (g, .ok none)
    | none, .ended e => ({ g with child? := some ⟨some e⟩, reaps := g.reaps + 1 }, .ok (some e))
    | none, .failed => (g, .error .unknown)

/-- Give up the child by killing and reaping it, and kill its group. -/
def kill (g : Guard) : Guard :=
  let g := { g with groupKills := g.groupKills + 1 }
  match g.child? with
  | none => g
  | some ⟨none⟩ => { g with child? := none, reaps := g.reaps + 1 }
  | some ⟨some _⟩ => { g with child? := none }

/-- Give up a child that has been reaped. -/
def release (g : Guard) : Guard :=
  { g with child? := none }

/-- What becomes of a guard that goes out of use: a child that it still owns is
    killed. -/
def drop (g : Guard) : Guard :=
  if g.child?.isSome then g.kill else g

/-- Whether the child is owned. -/
def ownsChild (g : Guard) : Bool :=
  g.child?.isSome

end Guard

end Concordance
