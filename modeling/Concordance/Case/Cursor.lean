import Concordance.Case.Generator

/-!
# Walking Through Cases

A cursor over the cases of a generator.

The cursor is a plain value: keeping a copy saves a place, and going back to
the copy restores it. At the end it stays where it is.

## Main definitions

* `Cursor`: A place among the cases.
* `Cursor.next`: The case at the cursor, which moves on.
* `Cursor.nth`: The case so many places ahead.
* `Cursor.remaining`: How many cases are left.
* `Cursor.sizeHint`: Bounds for this number.
* `Cursor.length?`: The number that the bounds agree on.
-/

namespace Concordance

/-- A place among the cases of a generator. -/
structure Cursor where
  generator : Generator
  position : Nat

namespace Cursor

/-- The place before the first case. -/
def ofGenerator (g : Generator) : Cursor :=
  ⟨g, 0⟩

/-- The case at the cursor, which moves behind it. -/
def next (c : Cursor) : Option Case × Cursor :=
  match c.generator.case? c.position with
  | none => (none, c)
  | some case => (some case, { c with position := c.position + 1 })

/-- The case `k` places ahead, with the cursor behind it. The cases between
    are passed over. -/
def nth (c : Cursor) : Nat → Option Case × Cursor
  | 0 => c.next
  | k + 1 =>
    match c.next with
    | (none, c') => (none, c')
    | (some _, c') => c'.nth k

/-- How many cases are left. -/
def remaining (c : Cursor) : Nat :=
  c.generator.size - c.position

/-- Bounds for the number of cases left, the upper one where it is known. -/
def sizeHint (c : Cursor) : Nat × Option Nat :=
  (c.remaining, some c.remaining)

/-- The number of cases left, if the bounds agree on it. -/
def length? (c : Cursor) : Option Nat :=
  let (lower, upper) := c.sizeHint
  if upper = some lower then some lower else none

end Cursor

end Concordance
