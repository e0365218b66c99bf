import Concordance.Data.Datum
import Concordance.Decimal.Layout

/-!
# Writing JSON

The two ways a tree is written as JSON: on one line without any blank, and
spread over lines with two blanks for each level.

Inside a string only what JSON demands is escaped. The controls with a letter
of their own use it, the others are written as four hexadecimal digits, and
every other character stands for itself.

A number that is not finite has no JSON text and becomes `null`, and a tagged
value becomes a map of one entry.

## Main definitions

* `escape`: How one character is written inside a string.
* `compact`: A tree on one line.
* `pretty`: A tree spread over lines.
-/

namespace Concordance

namespace Json

/-- How one character is written inside a string. -/
def escape (c : Char) : List Char :=
  match c with
  | '"' => ['\\', '"']
  | '\\' => ['\\', '\\']
  | '\n' => ['\\', 'n']
  | '\r' => ['\\', 'r']
  | '\t' => ['\\', 't']
  | '\x08' => ['\\', 'b']
  | '\x0c' => ['\\', 'f']
  | c =>
    if c.toNat < 0x20 then
      ['\\', 'u', '0', '0', Nat.digitChar (c.toNat / 16), Nat.digitChar (c.toNat % 16)]
    else [c]

/-- A text as a JSON string. -/
def string (s : String) : String :=
  String.ofList (['"'] ++ s.toList.flatMap escape ++ ['"'])

/-- A tree without parts. -/
def leaf : Datum → String
  | .bool b => if b then "true" else "false"
  | .int n => toString n
  | .float x => Decimal.jsonNumber.write x
  | .text s => string s
  | _ => "null"

mutual

/-- A tree on one line. -/
def compact : Datum → String
  | .list items => "[" ++ compactItems items ++ "]"
  | .map entries => "\x7b" ++ compactEntries entries ++ "\x7d"
  | .variant name payload => "\x7b" ++ string name ++ ":" ++ compact payload ++ "\x7d"
  | d => leaf d

/-- The items of a list, separated by commas. -/
def compactItems : List Datum → String
  | [] => ""
  | [d] => compact d
  | d :: rest => compact d ++ "," ++ compactItems rest

/-- The entries of a map, separated by commas. -/
def compactEntries : List (Datum × Datum) → String
  | [] => ""
  | [(k, v)] => compact k ++ ":" ++ compact v
  | (k, v) :: rest => compact k ++ ":" ++ compact v ++ "," ++ compactEntries rest

end

/-- A new line at a level. -/
def lineBreak (level : Nat) : String :=
  "\n" ++ String.ofList (List.replicate (2 * level) ' ')

/-- What stands between two brackets on lines of its own. -/
def enclose (level : Nat) (opening body closing : String) : String :=
  opening ++ lineBreak (level + 1) ++ body ++ lineBreak level ++ closing

mutual

/-- A tree spread over lines, starting at a level. -/
def prettyAt (level : Nat) : Datum → String
  | .list [] => "[]"
  | .list items => enclose level "[" (prettyItems (level + 1) items) "]"
  | .map [] => "\x7b\x7d"
  | .map entries => enclose level "\x7b" (prettyEntries (level + 1) entries) "\x7d"
  | .variant name payload =>
    enclose level "\x7b" (string name ++ ": " ++ prettyAt (level + 1) payload) "\x7d"
  | d => leaf d

/-- The items of a list, each on a line. -/
def prettyItems (level : Nat) : List Datum → String
  | [] => ""
  | [d] => prettyAt level d
  | d :: rest => prettyAt level d ++ "," ++ lineBreak level ++ prettyItems level rest

/-- The entries of a map, each on a line. -/
def prettyEntries (level : Nat) : List (Datum × Datum) → String
  | [] => ""
  | [(k, v)] => prettyAt level k ++ ": " ++ prettyAt level v
  | (k, v) :: rest =>
    prettyAt level k ++ ": " ++ prettyAt level v ++ "," ++ lineBreak level ++
      prettyEntries level rest

end

/-- A tree spread over lines. -/
def pretty (d : Datum) : String :=
  prettyAt 0 d

end Json

end Concordance
