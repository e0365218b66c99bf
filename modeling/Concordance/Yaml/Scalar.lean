import Concordance.Data.Datum
import Concordance.Decimal.Reading

/-!
# YAML Scalars

What the text of a scalar stands for.

A scalar that is not quoted may be more than its text: nothing, a truth value
or a number. The words are few and fixed, numbers are decimal or carry a radix
mark, and a text of digits that begins with a zero is a text. An integer has
to fit into sixty-four bits; one that would fit into a hundred and
twenty-eight stands for no value at all, and a longer one is a double.

Quoted and block scalars are always texts, unless a tag says otherwise.

## Main definitions

* `Style`: How a scalar is written.
* `Scalar`: A text with its style and tag.
* `unsigned?`, `signed?`: The integer a text spells.
* `float?`: The double a text spells.
* `resolve`: What a plain text stands for.
-/

namespace Concordance

namespace Yaml

/-- How a scalar is written. -/
inductive Style where
  | plain
  | single
  | double
  | literal
  | folded
deriving DecidableEq

/-- A text with its style and tag. -/
structure Scalar where
  text : String
  style : Style
  tag : Option String
deriving DecidableEq

/-- Whether a text stands for nothing. -/
def isNull (s : String) : Bool :=
  s = "null" || s = "Null" || s = "NULL" || s = "~"

/-- The truth value a text stands for. -/
def bool? (s : String) : Option Bool :=
  if s = "true" || s = "True" || s = "TRUE" then some true
  else if s = "false" || s = "False" || s = "FALSE" then some false
  else none

/-- The value of a digit, up to the letter f. -/
def digitValue? (c : Char) : Option Nat :=
  if c.isDigit then some (c.toNat - '0'.toNat)
  else if 'a' ≤ c && c ≤ 'f' then some (c.toNat - 'a'.toNat + 10)
  else if 'A' ≤ c && c ≤ 'F' then some (c.toNat - 'A'.toNat + 10)
  else none

/-- The number that digits of a radix spell. -/
def digits? (radix : Nat) (cs : List Char) : Option Nat :=
  if cs.isEmpty then none
  else cs.foldlM (fun n c => do
    let d ← digitValue? c
    if d < radix then some (n * radix + d) else none) 0

/-- A number behind its radix mark. -/
def radixed? : List Char → Option Nat
  | '0' :: 'x' :: rest => digits? 16 rest
  | '0' :: 'o' :: rest => digits? 8 rest
  | '0' :: 'b' :: rest => digits? 2 rest
  | _ => none

/-- A text without its sign, if it has one. -/
def unsignedPart : List Char → List Char
  | '+' :: rest => rest
  | '-' :: rest => rest
  | cs => cs

/-- Whether a text is digits, at least two and the first a zero, behind an
    optional sign. Such a text is not a number. -/
def isZeroPadded (cs : List Char) : Bool :=
  match unsignedPart cs with
  | '0' :: d :: rest => (d :: rest).all Char.isDigit
  | _ => false

/-- The number that a text without minus sign spells. -/
def unsigned? (cs : List Char) : Option Nat :=
  let body := match cs with
    | '+' :: rest => rest
    | _ => cs
  radixed? body <|> if isZeroPadded cs then none else digits? 10 body

/-- The number that a text with minus sign spells. -/
def negated? : List Char → Option Int
  | '-' :: body =>
    (radixed? body <|> if isZeroPadded body then none else digits? 10 body).map fun n => -(n : Int)
  | _ => none

/-- The integer that a text spells. -/
def signed? (cs : List Char) : Option Int :=
  (unsigned? cs).map (fun n => (n : Int)) <|> negated? cs

/-- Whether a text is one of three spellings of a dotted word. -/
def isDotted (lower title upper : String) (cs : List Char) : Bool :=
  cs = lower.toList || cs = title.toList || cs = upper.toList

/-- The double that a text spells: a finite decimal, or a dotted word for an
    infinity or for no number. -/
def float? (cs : List Char) : Option Float :=
  let body := match cs with
    | '+' :: rest => rest
    | _ => cs
  let twoSigns := match cs with
    | '+' :: '+' :: _ => true
    | '+' :: '-' :: _ => true
    | _ => false
  if twoSigns then none
  else if isDotted ".inf" ".Inf" ".INF" body then some (1 / 0)
  else if isDotted "-.inf" "-.Inf" "-.INF" cs then some (-1 / 0)
  else if isDotted ".nan" ".NaN" ".NAN" cs then some (0 / 0)
  else (Decimal.read? body).filter Float.isFinite

/-- What an integer stands for. -/
def resolveInt (n : Int) : Datum :=
  if -2 ^ 63 ≤ n && n < 2 ^ 64 then .int n else .unreadable

/-- Whether an integer fits into a hundred and twenty-eight bits. -/
def isDoubleWord (n : Int) : Bool :=
  -2 ^ 127 ≤ n && n < 2 ^ 128

/-- What a plain text stands for. -/
def resolve (s : String) : Datum :=
  if s.isEmpty || isNull s then .null
  else match bool? s with
    | some b => .bool b
    | none =>
      let cs := s.toList
      match (signed? cs).filter isDoubleWord with
      | some n => resolveInt n
      | none =>
        match if isZeroPadded cs then none else float? cs with
        | some x => .float x
        | none => .text s

end Yaml

end Concordance
