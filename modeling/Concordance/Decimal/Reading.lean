import Concordance.Binary64

/-!
# Reading Decimals

The texts that denote a double, and the double each denotes.

A number is an optional sign and then either one of the words `inf`,
`infinity` and `nan`, in any case, or decimal digits with at most one point
and an optional exponent. There is a digit before or after the point, and a
digit after the exponent mark. Nothing else is a number: no blank, no digit
separator, no other base.

The value is the double nearest to the decimal, ties to even. A magnitude
beyond the largest double reads as infinity and one below half the smallest
as zero.

## Main definitions

* `Numeral`: A decimal as it is spelled, digits and exponent apart.
* `numeral?`: Reads a numeral without its sign.
* `Numeral.toFloat`: The nearest double.
* `read?`: The double a text denotes.
-/

namespace Concordance

namespace Decimal

/-- A decimal as it is spelled: the digits before and after the point, and
    the exponent. -/
structure Numeral where
  whole : List Char
  fraction : List Char
  exponent : Int

/-- The number that decimal digits spell. -/
def natOfDigits (digits : List Char) : Nat :=
  digits.foldl (fun n c => 10 * n + (c.toNat - '0'.toNat)) 0

/-- A nonempty run of digits that is the whole text. -/
def allDigits? (cs : List Char) : Option Nat :=
  if cs.isEmpty || !cs.all Char.isDigit then none else some (natOfDigits cs)

/-- What may follow the digits of a numeral: nothing, or an exponent mark, an
    optional sign and digits. -/
def exponent? : List Char → Option Int
  | [] => some 0
  | mark :: rest =>
    if mark = 'e' || mark = 'E' then
      match rest with
      | '-' :: digits => (allDigits? digits).map fun n => -(n : Int)
      | '+' :: digits => (allDigits? digits).map fun n => (n : Int)
      | digits => (allDigits? digits).map fun n => (n : Int)
    else none

/-- A numeral without its sign. -/
def numeral? (cs : List Char) : Option Numeral :=
  let whole := cs.takeWhile Char.isDigit
  let rest := cs.dropWhile Char.isDigit
  let (fraction, rest) := match rest with
    | '.' :: after => (after.takeWhile Char.isDigit, after.dropWhile Char.isDigit)
    | _ => ([], rest)
  if whole.isEmpty && fraction.isEmpty then none
  else (exponent? rest).map fun e => ⟨whole, fraction, e⟩

/-- The nearest double. The position of the leading digit settles the values
    that are far out of range, so that no power of ten is larger than the
    digits and the range of doubles call for. -/
def Numeral.toFloat (n : Numeral) : Float :=
  let coefficient := natOfDigits (n.whole ++ n.fraction)
  let exponent := n.exponent - n.fraction.length
  if coefficient = 0 then 0
  else
    let leading := exponent + (Nat.toDigits 10 coefficient).length
    if 310 < leading then 1 / 0
    else if leading < -330 then 0
    else Float.ofScientific coefficient (exponent < 0) exponent.natAbs

/-- The magnitude that a text without a sign denotes. -/
def magnitude? (cs : List Char) : Option Float :=
  let word := cs.map Char.toLower
  if word = "inf".toList || word = "infinity".toList then some (1 / 0)
  else if word = "nan".toList then some (0 / 0)
  else (numeral? cs).map Numeral.toFloat

/-- The double a text denotes. -/
def read? : List Char → Option Float
  | '-' :: cs => (magnitude? cs).map fun x => -x
  | '+' :: cs => magnitude? cs
  | cs => magnitude? cs

end Decimal

end Concordance
