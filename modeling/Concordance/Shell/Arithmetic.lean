import Concordance.Power

/-!
# Shell Arithmetic

The expressions between double brackets: integers of sixty-four bits and the
operators of the C language that scripts commonly use.

Literals that do not fit are cut to the largest integer, while results that do
not fit wrap around.

## Main definitions

* `ArithmeticFault`: Why an expression has no value.
* `arithmetic`: The value of an expression.
-/

namespace Concordance

namespace Shell

/-- Why an expression has no value. -/
inductive ArithmeticFault where
  | divisionByZero
  /-- Something follows the expression. -/
  | unexpectedRest
  /-- An operand is missing. -/
  | missingOperand
  /-- A closing bracket is missing. -/
  | missingBracket

namespace ArithmeticFault

/-- A fault in words. -/
def message : ArithmeticFault → String
  | .divisionByZero => "division by zero"
  | .unexpectedRest => "expecting EOF"
  | .missingOperand => "expecting primary"
  | .missingBracket => "expecting ')'"

end ArithmeticFault

/-- A token of an expression. -/
inductive Symbol where
  | number (n : Int)
  | name (s : String)
  | operator (s : String)

/-- The operators of two characters. -/
def longOperators : List (List Char) :=
  ["<=", ">=", "==", "!=", "&&", "||"].map String.toList

/-- An integer kept to sixty-four bits. -/
def wrap (n : Int) : Int :=
  n.bmod (2 ^ 64)

/-- The number that some digits of a base spell, cut to the largest integer. -/
def literal (base : Nat) (digits : List Char) : Int :=
  let digit (c : Char) : Nat :=
    if c.isDigit then c.toNat - 0x30 else c.toLower.toNat - 0x61 + 10
  min (digits.foldl (fun n c => n * base + digit c) 0) (2 ^ 63 - 1)

/-- The literal at the front of a text, in base sixteen behind `0x` and in base
    eight behind `0`. -/
def takeLiteral (cs : List Char) : Int × List Char :=
  let isOctal (c : Char) : Bool := '0' ≤ c && c ≤ '7'
  let isHex (c : Char) : Bool :=
    c.isDigit || ('a' ≤ c.toLower && c.toLower ≤ 'f')
  match cs with
  | '0' :: 'x' :: rest | '0' :: 'X' :: rest =>
    (literal 16 (rest.takeWhile isHex), rest.dropWhile isHex)
  | '0' :: rest => (literal 8 (rest.takeWhile isOctal), rest.dropWhile isOctal)
  | _ => (literal 10 (cs.takeWhile Char.isDigit), cs.dropWhile Char.isDigit)

/-- The tokens of an expression. -/
def symbols : Nat → List Char → List Symbol
  | 0, _ => []
  | _ + 1, [] => []
  | n + 1, c :: cs =>
    if c.isWhitespace then symbols n cs
    else if c.isDigit then
      let (value, rest) := takeLiteral (c :: cs)
      .number value :: symbols n rest
    else if c.isAlpha || c = '_' then
      let isName (c : Char) : Bool := c.isAlphanum || c = '_'
      .name (String.ofList ((c :: cs).takeWhile isName)) :: symbols n (cs.dropWhile isName)
    else match cs with
      | d :: rest =>
        if longOperators.contains [c, d] then .operator (String.ofList [c, d]) :: symbols n rest
        else .operator (String.singleton c) :: symbols n cs
      | [] => [.operator (String.singleton c)]

/-- A truth value as a number. -/
def ofBool (b : Bool) : Int :=
  if b then 1 else 0

/-- What an operator makes of its operands. -/
abbrev Operation := Int → Int → Except ArithmeticFault Int

/-- An operation that divides. -/
def dividing (divide : Int → Int → Int) : Operation := fun a b =>
  if b = 0 then .error .divisionByZero else .ok (divide a b)

/-- The operators, loosest first. Those of one level group to the left. -/
def levels : List (List (String × Operation)) :=
  [[("||", fun a b => .ok (ofBool (a ≠ 0 || b ≠ 0)))],
    [("&&", fun a b => .ok (ofBool (a ≠ 0 && b ≠ 0)))],
    [("==", fun a b => .ok (ofBool (a = b))), ("!=", fun a b => .ok (ofBool (a ≠ b)))],
    [("<=", fun a b => .ok (ofBool (a ≤ b))), (">=", fun a b => .ok (ofBool (b ≤ a))),
      ("<", fun a b => .ok (ofBool (a < b))), (">", fun a b => .ok (ofBool (b < a)))],
    [("+", fun a b => .ok (a + b)), ("-", fun a b => .ok (a - b))],
    [("*", fun a b => .ok (a * b)), ("/", dividing Int.tdiv), ("%", dividing Int.tmod)]]

/-- The value of the front of an expression and what follows it. -/
abbrev Evaluated := Except ArithmeticFault (Int × List Symbol)

mutual

/-- The value of what the operators of some levels join. -/
def level (value : String → Int) : Nat → List (List (String × Operation)) → List Symbol →
    Evaluated
  | 0, _, _ => .error .missingOperand
  | n + 1, [], symbols => operand value n symbols
  | n + 1, operators :: tighter, symbols => do
    let (first, rest) ← level value n tighter symbols
    joined value n operators tighter first rest

/-- The value of a left operand with all that the operators of its level join
    to it. -/
def joined (value : String → Int) : Nat → List (String × Operation) →
    List (List (String × Operation)) → Int → List Symbol → Evaluated
  | 0, _, _, _, _ => .error .missingOperand
  | n + 1, operators, tighter, left, symbols =>
    match symbols with
    | .operator s :: rest =>
      match operators.lookup s with
      | some apply => do
        let (right, rest) ← level value n tighter rest
        joined value n operators tighter (wrap (← apply left right)) rest
      | none => .ok (left, symbols)
    | _ => .ok (left, symbols)

/-- The value of a single operand. -/
def operand (value : String → Int) : Nat → List Symbol → Evaluated
  | 0, _ => .error .missingOperand
  | n + 1, symbols =>
    match symbols with
    | .number k :: rest => .ok (k, rest)
    | .name s :: rest => .ok (value s, rest)
    | .operator "-" :: rest => do
      let (k, rest) ← operand value n rest
      return (wrap (-k), rest)
    | .operator "+" :: rest => operand value n rest
    | .operator "!" :: rest => do
      let (k, rest) ← operand value n rest
      return (ofBool (k = 0), rest)
    | .operator "(" :: rest => do
      let (k, rest) ← level value n levels rest
      match rest with
      | .operator ")" :: rest => .ok (k, rest)
      | _ => .error .missingBracket
    | _ => .error .missingOperand

end

/-- The value of an expression, zero if it is blank. -/
def arithmetic (value : String → Int) (expression : List Char) : Except ArithmeticFault Int := do
  let symbols := symbols (expression.length + 1) expression
  if symbols.isEmpty then return 0
  let (n, rest) ← level value (20 * symbols.length + 20) levels symbols
  if rest.isEmpty then return n else throw .unexpectedRest

end Shell

end Concordance
