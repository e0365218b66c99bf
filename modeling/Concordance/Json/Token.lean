import Concordance.Data.Datum
import Concordance.Power

/-!
# JSON Tokens

A JSON text cut into tokens: brackets, separators and scalars.

Numbers are whole when they have neither point nor exponent and fit into
sixty-four bits, signed or unsigned; every other number is a double. The
double is not always the nearest one. As many leading digits as fit into
sixty-four bits are taken as an integer, converted, and then multiplied or
divided by a power of ten once, each of which may round. Negative zero is the
double, since no integer is negative zero.

A surrogate escape without its partner and a number beyond every double are
spelled correctly and become unreadable scalars.

## Main definitions

* `Token`: A bracket, a separator, a string or another scalar.
* `number?`: Reads a number.
* `string?`: Reads a string behind its opening quotation mark.
* `tokens?`: Cuts a text into tokens.
-/

namespace Concordance

namespace Json

/-- A bracket, a separator, a string or another scalar. -/
inductive Token where
  | openList
  | closeList
  | openMap
  | closeMap
  | comma
  | colon
  | string (d : Datum)
  | scalar (d : Datum)

/-- The largest integer of sixty-four bits. -/
def maxWord : Nat := 2 ^ 64 - 1

/-- Digits taken in so far: the leading ones as an integer, the power of ten
    still to apply, and whether there was no room for a digit. -/
structure Significand where
  digits : Nat
  exponent : Int
  full : Bool

/-- Take in a digit before the point. A digit without room still counts as a
    place. -/
def Significand.pushWhole (s : Significand) (c : Char) : Significand :=
  let digits := s.digits * 10 + (c.toNat - '0'.toNat)
  if s.full || maxWord < digits then { s with exponent := s.exponent + 1, full := true }
  else { s with digits := digits }

/-- Take in a digit after the point. A digit without room is dropped. -/
def Significand.pushFraction (s : Significand) (c : Char) : Significand :=
  let digits := s.digits * 10 + (c.toNat - '0'.toNat)
  if s.full || maxWord < digits then { s with full := true }
  else { s with digits := digits, exponent := s.exponent - 1 }

/-- Apply a power of ten to a double, `none` if the result is infinite. An
    exponent below every power of ten is applied in steps. -/
def scaleByTen : Nat → Float → Int → Option Float
  | steps, x, e =>
    if e.natAbs ≤ 308 then
      let power := Float.ofScientific 1 false e.natAbs
      if 0 ≤ e then
        let y := x * power
        if y.isInf then none else some y
      else some (x / power)
    else if x == 0 then some x
    else if 0 ≤ e then none
    else match steps with
      | 0 => some 0
      | steps + 1 => scaleByTen steps (x / 1e308) (e + 308)

/-- The scalar of a number with a point, an exponent or too many digits. -/
def Significand.toDatum (s : Significand) (negative : Bool) (exponent : Int) : Datum :=
  match scaleByTen 4 (Float.ofNat s.digits) (s.exponent + exponent) with
  | none => .unreadable
  | some x => .float (if negative then -x else x)

/-- The scalar of a number without point and exponent. -/
def wholeNumber (s : Significand) (negative : Bool) : Datum :=
  if s.full then s.toDatum negative 0
  else if !negative then .int s.digits
  else if s.digits = 0 || 2 ^ 63 < s.digits then .float (-(Float.ofNat s.digits))
  else .int (-(s.digits : Int))

/-- The digits before the point: a single zero, or no zero in front. -/
def wholeDigits? (cs : List Char) : Option (List Char × List Char) :=
  match cs with
  | '0' :: rest =>
    match rest with
    | c :: _ => if c.isDigit then none else some (['0'], rest)
    | [] => some (['0'], [])
  | _ =>
    let digits := cs.takeWhile Char.isDigit
    if digits.isEmpty then none else some (digits, cs.dropWhile Char.isDigit)

/-- An exponent behind its mark. -/
def exponentDigits? (cs : List Char) : Option (Int × List Char) :=
  let (sign, rest) : Int × List Char := match cs with
    | '-' :: rest => (-1, rest)
    | '+' :: rest => (1, rest)
    | _ => (1, cs)
  let digits := rest.takeWhile Char.isDigit
  if digits.isEmpty then none
  else
    let n := digits.foldl (fun n c => 10 * n + (c.toNat - '0'.toNat)) 0
    some (sign * n, rest.dropWhile Char.isDigit)

/-- A number and what follows it. -/
def number? (cs : List Char) : Option (Datum × List Char) := do
  let (negative, cs) := match cs with
    | '-' :: rest => (true, rest)
    | _ => (false, cs)
  let (whole, cs) ← wholeDigits? cs
  let s := whole.foldl Significand.pushWhole ⟨0, 0, false⟩
  let (s, pointed, cs) ← match cs with
    | '.' :: rest =>
      let digits := rest.takeWhile Char.isDigit
      if digits.isEmpty then none
      else
        -- Room that ran out before the point may come back behind it.
        let s := digits.foldl Significand.pushFraction { s with full := false }
        some (s, true, rest.dropWhile Char.isDigit)
    | _ => some (s, false, cs)
  match cs with
  | mark :: rest =>
    if mark = 'e' || mark = 'E' then
      let (e, rest) ← exponentDigits? rest
      return (s.toDatum negative e, rest)
    else return (if pointed then s.toDatum negative 0 else wholeNumber s negative, cs)
  | [] => return (if pointed then s.toDatum negative 0 else wholeNumber s negative, [])

/-- The value of four hexadecimal digits. -/
def hexQuad? (a b c d : Char) : Option Nat := do
  let digit (c : Char) : Option Nat :=
    if c.isDigit then some (c.toNat - '0'.toNat)
    else if 'a' ≤ c && c ≤ 'f' then some (c.toNat - 'a'.toNat + 10)
    else if 'A' ≤ c && c ≤ 'F' then some (c.toNat - 'A'.toNat + 10)
    else none
  return (((← digit a) * 16 + (← digit b)) * 16 + (← digit c)) * 16 + (← digit d)

/-- The character of an escape with a single letter. -/
def simpleEscape? : Char → Option Char
  | '"' => some '"'
  | '\\' => some '\\'
  | '/' => some '/'
  | 'b' => some '\x08'
  | 'f' => some '\x0c'
  | 'n' => some '\n'
  | 'r' => some '\r'
  | 't' => some '\t'
  | _ => none

/-- A piece of a string: a character, the first half of a surrogate pair, or
    something that denotes no character. -/
inductive Piece where
  | char (c : Char)
  | high (n : Nat)
  | low (n : Nat)

/-- The piece that a code unit denotes. -/
def Piece.ofUnit (n : Nat) : Piece :=
  if 0xD800 ≤ n && n ≤ 0xDBFF then .high n
  else if 0xDC00 ≤ n && n ≤ 0xDFFF then .low n
  else .char (Char.ofNat n)

/-- The pieces of a string behind its opening quotation mark, and what
    follows the closing one. -/
def pieces? : List Char → Option (List Piece × List Char)
  | [] => none
  | '"' :: rest => some ([], rest)
  | '\\' :: 'u' :: a :: b :: c :: d :: rest => do
    let unit ← hexQuad? a b c d
    let (ps, rest) ← pieces? rest
    return (Piece.ofUnit unit :: ps, rest)
  | '\\' :: c :: rest => do
    let c ← simpleEscape? c
    let (ps, rest) ← pieces? rest
    return (.char c :: ps, rest)
  | c :: rest => do
    if c.toNat < 0x20 then none
    else
      let (ps, rest) ← pieces? rest
      return (.char c :: ps, rest)

/-- Join the pieces to characters, `none` if a surrogate stands alone. -/
def joinPieces? : List Piece → Option (List Char)
  | [] => some []
  | .char c :: rest => (joinPieces? rest).map (c :: ·)
  | .high h :: .low l :: rest =>
    (joinPieces? rest).map (Char.ofNat (0x10000 + (h - 0xD800) * 1024 + (l - 0xDC00)) :: ·)
  | _ => none

/-- A string behind its opening quotation mark, and what follows it. -/
def string? (cs : List Char) : Option (Datum × List Char) := do
  let (ps, rest) ← pieces? cs
  match joinPieces? ps with
  | some text => return (.text (String.ofList text), rest)
  | none => return (.unreadable, rest)

/-- Whether a character may stand between tokens. -/
def isSpace (c : Char) : Bool :=
  c = ' ' || c = '\t' || c = '\n' || c = '\r'

/-- The first token of a text that does not begin with a blank, and what
    follows it. -/
def nextToken? : List Char → Option (Token × List Char)
  | '[' :: rest => some (.openList, rest)
  | ']' :: rest => some (.closeList, rest)
  | '\x7b' :: rest => some (.openMap, rest)
  | '\x7d' :: rest => some (.closeMap, rest)
  | ',' :: rest => some (.comma, rest)
  | ':' :: rest => some (.colon, rest)
  | 't' :: 'r' :: 'u' :: 'e' :: rest => some (.scalar (.bool true), rest)
  | 'f' :: 'a' :: 'l' :: 's' :: 'e' :: rest => some (.scalar (.bool false), rest)
  | 'n' :: 'u' :: 'l' :: 'l' :: rest => some (.scalar .null, rest)
  | '"' :: rest => (string? rest).map fun r => (.string r.1, r.2)
  | cs => (number? cs).map fun r => (.scalar r.1, r.2)

/-- The tokens of a text, at most as many as the first argument says. Every
    token takes a character, so the length of the text is enough. -/
def tokensWithin? : Nat → List Char → Option (List Token)
  | fuel, cs =>
    match cs.dropWhile isSpace with
    | [] => some []
    | c :: rest =>
      match fuel with
      | 0 => none
      | fuel + 1 => do
        let (t, rest) ← nextToken? (c :: rest)
        return t :: (← tokensWithin? fuel rest)

/-- The tokens of a text. -/
def tokens? (text : String) : Option (List Token) :=
  tokensWithin? text.length text.toList

end Json

end Concordance
