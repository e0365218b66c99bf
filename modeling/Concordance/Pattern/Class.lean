import Concordance.Text.CaseFold
import Concordance.Text.Digit
import Concordance.Text.Word

/-!
# Character Classes

Sets of characters as they are written in patterns.

A class is built from ranges by the operations of sets. Folding closes a class
under a change of case: it contains a character as soon as it contained one
that differs from it only in case. Folding comes before the complement, so
that a negated class excludes both cases.

## Main definitions

* `Class`: A set of characters.
* `Class.contains`: Membership.
* `Class.named?`: The classes that have names.
-/

namespace Concordance

namespace Pattern

/-- A set of characters. -/
inductive Class where
  | ranges (rs : List (Nat × Nat))
  | complement (c : Class)
  | union (c d : Class)
  | intersection (c d : Class)
  | folded (c : Class)

namespace Class

/-- Whether a class contains a code point. -/
def containsPoint : Class → Nat → Bool
  | .ranges rs, n => Text.inRanges rs n
  | .complement c, n => !c.containsPoint n
  | .union c d, n => c.containsPoint n || d.containsPoint n
  | .intersection c d, n => c.containsPoint n && d.containsPoint n
  | .folded c, n => (Text.sameCaseClass n).any c.containsPoint

/-- Whether a class contains a character. -/
def contains (c : Class) (x : Char) : Bool :=
  c.containsPoint x.toNat

/-- No character. -/
def none : Class :=
  .ranges []

/-- The characters between two, which are included. -/
def between (first last : Char) : Class :=
  .ranges [(first.toNat, last.toNat)]

/-- A single character. -/
def single (x : Char) : Class :=
  between x x

/-- The characters of one class that are not in another. -/
def difference (c d : Class) : Class :=
  .intersection c (.complement d)

/-- The characters that are in one of two classes but not in both. -/
def symmetricDifference (c d : Class) : Class :=
  .union (c.difference d) (d.difference c)

/-- The class itself, or its complement. -/
def negateIf (negated : Bool) (c : Class) : Class :=
  if negated then .complement c else c

/-- The class itself, or its closure under a change of case. -/
def foldIf (folding : Bool) (c : Class) : Class :=
  if folding then .folded c else c

/-- Every character, or every one that ends no line, where carriage returns
    may end lines too. -/
def dot (newlines returns : Bool) : Class :=
  if newlines then .complement none
  else if returns then .complement (.union (single '\n') (single '\r'))
  else .complement (single '\n')

/-- The decimal digits. -/
def digits : Class :=
  .ranges Text.digitRanges

/-- The word characters. -/
def words : Class :=
  .ranges Text.wordRanges

/-- The white space. -/
def blanks : Class :=
  .ranges [(0x9, 0xD), (0x20, 0x20), (0x85, 0x85), (0xA0, 0xA0), (0x1680, 0x1680),
    (0x2000, 0x200A), (0x2028, 0x2029), (0x202F, 0x202F), (0x205F, 0x205F), (0x3000, 0x3000)]

/-- The class of a letter behind a backslash. -/
def lettered? : Char → Option Class
  | 'd' => some digits
  | 'D' => some (.complement digits)
  | 's' => some blanks
  | 'S' => some (.complement blanks)
  | 'w' => some words
  | 'W' => some (.complement words)
  | _ => Option.none

/-- The classes with names, all within ASCII. -/
def named? : String → Option Class
  | "alnum" => some (.ranges [(0x30, 0x39), (0x41, 0x5A), (0x61, 0x7A)])
  | "alpha" => some (.ranges [(0x41, 0x5A), (0x61, 0x7A)])
  | "ascii" => some (.ranges [(0x00, 0x7F)])
  | "blank" => some (.ranges [(0x09, 0x09), (0x20, 0x20)])
  | "cntrl" => some (.ranges [(0x00, 0x1F), (0x7F, 0x7F)])
  | "digit" => some (.ranges [(0x30, 0x39)])
  | "graph" => some (.ranges [(0x21, 0x7E)])
  | "lower" => some (.ranges [(0x61, 0x7A)])
  | "print" => some (.ranges [(0x20, 0x7E)])
  | "punct" => some (.ranges [(0x21, 0x2F), (0x3A, 0x40), (0x5B, 0x60), (0x7B, 0x7E)])
  | "space" => some (.ranges [(0x09, 0x0D), (0x20, 0x20)])
  | "upper" => some (.ranges [(0x41, 0x5A)])
  | "word" => some (.ranges [(0x30, 0x39), (0x41, 0x5A), (0x5F, 0x5F), (0x61, 0x7A)])
  | "xdigit" => some (.ranges [(0x30, 0x39), (0x41, 0x46), (0x61, 0x66)])
  | _ => Option.none

end Class

end Pattern

end Concordance
