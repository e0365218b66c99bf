/-!
# Places in a YAML Text

Where reading stands in a text: the characters still to come, and the line and
column reached.

YAML gives columns a meaning, so every step has to keep count. A line ends at
a carriage return and line feed together, at either of them, or at one of
three Unicode line ends. The first four of these count as a line feed in the
text of a scalar, the last two stand for themselves.

## Main definitions

* `Cursor`: The characters to come and the place they start at.
* `Cursor.advance`: One step within a line.
* `Cursor.lineBreak`: One step over the end of a line.
* `Cursor.atMark`: Whether a document mark starts here.
-/

namespace Concordance

namespace Yaml

/-- Whether a character ends a line. -/
def isBreak (c : Char) : Bool :=
  c = '\n' || c = '\r' || c = '\u0085' || c = '\u2028' || c = '\u2029'

/-- Whether a character is a blank within a line. -/
def isInlineBlank (c : Char) : Bool :=
  c = ' ' || c = '\t'

/-- Whether a text begins with a blank or a line end, or is empty. -/
def endsWord : List Char → Bool
  | [] => true
  | c :: _ => isInlineBlank c || isBreak c

/-- The characters to come and the place they start at. -/
structure Cursor where
  rest : List Char
  index : Nat
  line : Nat
  column : Nat

namespace Cursor

/-- The start of a text. -/
def ofList (cs : List Char) : Cursor :=
  ⟨cs, 0, 0, 0⟩

/-- One step within a line. -/
def advance (c : Cursor) : Cursor :=
  { c with rest := c.rest.tail, index := c.index + 1, column := c.column + 1 }

/-- So many steps within a line. -/
def advanceBy (c : Cursor) (n : Nat) : Cursor :=
  { c with rest := c.rest.drop n, index := c.index + n, column := c.column + n }

/-- One step over the end of a line, and what the end counts as. There is
    none at the end of the text. -/
def lineBreak (c : Cursor) : List Char × Cursor :=
  match c.rest with
  | '\r' :: '\n' :: rest => (['\n'], ⟨rest, c.index + 2, c.line + 1, 0⟩)
  | b :: rest =>
    if !isBreak b then ([], c)
    else
      let counted := if b = '\u2028' || b = '\u2029' then b else '\n'
      ([counted], ⟨rest, c.index + 1, c.line + 1, 0⟩)
  | [] => ([], c)

/-- The longest run of characters of a kind, and the place behind it. -/
def run (c : Cursor) (p : Char → Bool) : List Char × Cursor :=
  let taken := c.rest.takeWhile p
  (taken, c.advanceBy taken.length)

/-- The place behind the blanks within a line. -/
def skipBlanks (c : Cursor) : Cursor :=
  (c.run isInlineBlank).2

/-- The place at the end of the line. -/
def skipToBreak (c : Cursor) : Cursor :=
  (c.run fun x => !isBreak x).2

/-- Whether nothing but blanks and a comment is left on the line, and the
    place behind them. -/
def restOfLine? (c : Cursor) : Option Cursor :=
  let c := c.skipBlanks
  match c.rest with
  | '#' :: _ => some c.skipToBreak
  | [] => some c
  | x :: _ => if isBreak x then some c else none

/-- Whether a document mark starts here. -/
def atMark (c : Cursor) : Bool :=
  c.column = 0 && match c.rest with
    | '-' :: '-' :: '-' :: rest => endsWord rest
    | '.' :: '.' :: '.' :: rest => endsWord rest
    | _ => false

end Cursor

end Yaml

end Concordance
