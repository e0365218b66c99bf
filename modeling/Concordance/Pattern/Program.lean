import Concordance.Pattern.Basic

/-!
# Pattern Programs

A pattern as a list of numbered steps.

Each step names the steps that may follow it, the preferred one first. The
steps of a pattern are laid out from its end: compiling takes the step that
comes after and returns the first step. Only a loop needs a number before its
step is known; its place is reserved and filled in later.

## Main definitions

* `Step`: One step.
* `Program`: Numbered steps with a first one.
* `Program.ofPattern`: The program of a pattern.
-/

namespace Concordance

namespace Pattern

/-- One step of a program. -/
inductive Step where
  | accept
  | take (c : Class) (next : Nat)
  | check (a : Anchor) (next : Nat)
  | mark (slot next : Nat)
  | fork (preferred other : Nat)

/-- Steps under construction. -/
abbrev Builder := StateM (Array Step)

/-- Add a step and return its number. -/
def emit (s : Step) : Builder Nat :=
  fun steps => (steps.size, steps.push s)

/-- Put a step into a reserved place. -/
def fill (n : Nat) (s : Step) : Builder Unit :=
  modify fun steps => steps.setIfInBounds n s

/-- A choice between going on with a repetition and leaving it. -/
def choice (greedy : Bool) (inside outside : Nat) : Step :=
  if greedy then .fork inside outside else .fork outside inside

/-- So many copies, one after another. -/
def copies (body : Nat → Builder Nat) : Nat → Nat → Builder Nat
  | 0, next => return next
  | n + 1, next => do body (← copies body n next)

/-- Up to so many copies, any of which may be the last. -/
def optionalCopies (body : Nat → Builder Nat) (greedy : Bool) : Nat → Nat → Builder Nat
  | 0, next => return next
  | n + 1, next => do
    let first ← body (← optionalCopies body greedy n next)
    emit (choice greedy first next)

/-- At least one copy: the first step of the copy, and that of the choice
    behind it. -/
def someCopies (body : Nat → Builder Nat) (greedy : Bool) (next : Nat) : Builder Nat := do
  let again ← emit .accept
  let first ← body again
  fill again (choice greedy first next)
  return first

/-- Any number of copies. A copy that may be empty must not be entered from
    the choice that follows it without leaving the loop, so such a loop has a
    choice of its own in front. -/
def anyCopies (body : Nat → Builder Nat) (nullable greedy : Bool) (next : Nat) :
    Builder Nat := do
  if nullable then
    let first ← someCopies body greedy next
    emit (choice greedy first next)
  else
    let again ← emit .accept
    let first ← body again
    fill again (choice greedy first next)
    return again

/-- Lay out the steps of a pattern in front of the step `next`. -/
def compile : Pattern → Nat → Builder Nat
  | .empty, next => return next
  | .char c, next => emit (.take c next)
  | .anchor a, next => emit (.check a next)
  | .group n p, next => do
    let stop ← emit (.mark (2 * n + 1) next)
    emit (.mark (2 * n) (← compile p stop))
  | .seq p q, next => do compile p (← compile q next)
  | .alt p q, next => do
    let first ← compile p next
    let second ← compile q next
    emit (.fork first second)
  | .rounds p min max? greedy, next => do
    match max?, min with
    | some max, _ =>
      copies (compile p) min (← optionalCopies (compile p) greedy (max - min) next)
    | none, 0 => anyCopies (compile p) p.isNullable greedy next
    | none, n + 1 => copies (compile p) n (← someCopies (compile p) greedy next)

/-- Numbered steps with a first one. -/
structure Program where
  steps : Array Step
  first : Nat

/-- The program of a pattern. -/
def Program.ofPattern (p : Pattern) : Program :=
  let (first, steps) := (do compile p (← emit .accept) : Builder Nat) #[]
  { steps, first }

end Pattern

end Concordance
