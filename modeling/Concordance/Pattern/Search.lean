import Std.Data.HashSet
import Concordance.Pattern.Program

/-!
# Searching

Where a pattern matches in a text.

A match is the leftmost one, and of all that start there the one whose choices
were preferred. The search follows the preferred choice first and comes back
to the other when it fails. A step that failed at a place fails there again,
whatever led to it, so no step is tried twice at one place, and the search
ends after at most as many tries as there are steps and places.

Matches do not overlap. After a match the search goes on where it ended; an
empty match right there is passed over for the next place.

## Main definitions

* `Match`: A match with the places of its groups.
* `Program.find?`: The first match from a place on.
* `Program.findAll`: All matches.
-/

namespace Concordance

namespace Pattern

/-- A match: where it starts and stops, and the marks left by its groups, the
    latest first. -/
structure Match where
  start : Nat
  stop : Nat
  marks : List (Nat × Nat)

/-- The place of a group that took part in a match. -/
def Match.group? (m : Match) (n : Nat) : Option (Nat × Nat) := do
  return (← m.marks.lookup (2 * n), ← m.marks.lookup (2 * n + 1))

/-- A step to be tried at a place. -/
structure Attempt where
  step : Nat
  place : Nat
  marks : List (Nat × Nat)

/-- The steps tried so far, with their places. -/
abbrev Tried := Std.HashSet (Nat × Nat)

/-- The attempts that follow one, or the place where it succeeds. -/
def Attempt.follow (program : Program) (text : Array Char) (a : Attempt) : List Attempt ⊕ Nat :=
  match program.steps[a.step]? with
  | none => .inl []
  | some .accept => .inr a.place
  | some (.take c next) =>
    if text[a.place]?.any c.contains then .inl [⟨next, a.place + 1, a.marks⟩] else .inl []
  | some (.check condition next) =>
    let before := if a.place = 0 then none else text[a.place - 1]?
    if condition.holds before text[a.place]? then .inl [{ a with step := next }] else .inl []
  | some (.mark slot next) => .inl [⟨next, a.place, (slot, a.place) :: a.marks⟩]
  | some (.fork preferred other) =>
    .inl [{ a with step := preferred }, { a with step := other }]

/-- Try attempts in order until one succeeds. The first number bounds the
    tries. -/
def tryAll (program : Program) (text : Array Char) (start : Nat) :
    Nat → Tried → List Attempt → Option Match × Tried
  | 0, tried, _ => (none, tried)
  | _ + 1, tried, [] => (none, tried)
  | tries + 1, tried, a :: rest =>
    if tried.contains (a.step, a.place) then tryAll program text start tries tried rest
    else
      match a.follow program text with
      | .inr stop => (some ⟨start, stop, a.marks⟩, tried)
      | .inl next =>
        tryAll program text start tries (tried.insert (a.step, a.place)) (next ++ rest)

/-- Enough tries for every step at every place: each leads to at most two
    more. -/
def enoughTries (program : Program) (text : Array Char) : Nat :=
  2 * (program.steps.size + 1) * (text.size + 2)

/-- The first match that starts at one of `places` places from `start` on. -/
def Program.findFrom (program : Program) (text : Array Char) :
    Nat → Nat → Tried → Option Match
  | 0, _, _ => none
  | places + 1, start, tried =>
    let tries := enoughTries program text
    match tryAll program text start tries tried [⟨program.first, start, []⟩] with
    | (some m, _) => some m
    | (none, tried) => findFrom program text places (start + 1) tried

/-- The first match from a place on. -/
def Program.find? (program : Program) (text : Array Char) (start : Nat) : Option Match :=
  program.findFrom text (text.size + 1 - start) start {}

/-- The first match from a place on that is not empty at the end of the last
    one. -/
def Program.findNext? (program : Program) (text : Array Char) (start : Nat)
    (lastStop : Option Nat) : Option Match :=
  match program.find? text start with
  | none => none
  | some m =>
    if m.start = m.stop ∧ lastStop = some m.stop then program.find? text (start + 1) else some m

/-- At most so many matches from a place on. -/
def Program.findMany (program : Program) (text : Array Char) :
    Nat → Nat → Option Nat → List Match
  | 0, _, _ => []
  | count + 1, start, lastStop =>
    match program.findNext? text start lastStop with
    | none => []
    | some m => m :: findMany program text count m.stop (some m.stop)

/-- All matches, from left to right. -/
def Program.findAll (program : Program) (text : Array Char) : List Match :=
  program.findMany text (text.size + 2) 0 none

end Pattern

end Concordance
