import Concordance.Decimal.Shortest

/-!
# Decimal Layouts

How a double is spelled out, once its shortest digits are known.

The same digits appear in five places: in arguments and answers, in error
messages, in the certificate, and in the two document formats. The places
differ only in small decisions, so each is one value of `Layout`: which
exponents are written positionally, whether a whole number keeps a `.0`,
whether a positive exponent carries a plus sign, and what stands for the
numbers that have no digits.

## Main definitions

* `Layout`: The decisions of one place where doubles are written.
* `Layout.write`: The text of a double.
* `exactly`: The layout of arguments, which keeps one fraction digit.
* `plainly`: The layout of messages, which never uses an exponent.
* `scientifically`: The layout of the certificate, always with an exponent.
* `jsonNumber`, `yamlNumber`: The layouts of the two document formats.
-/

namespace Concordance

namespace Decimal

/-- The decisions of one place where doubles are written. -/
structure Layout where
  /-- Which of two equally short and equally near decimals is written. -/
  tie : Tie
  /-- Whether a number whose leading digit counts `10 ^ s` is positional. -/
  positional : Int → Bool
  /-- What follows the digits of a whole number in positional form. -/
  wholeMark : String
  /-- What stands before a positive exponent. -/
  plus : String
  /-- What stands for a number that is not one. -/
  nan : String
  /-- What stands for infinity. -/
  infinity : String
  /-- Whether the sign of an infinity is written. -/
  signedInfinity : Bool := true

/-- So many zeros. -/
def zeros (n : Nat) : String :=
  String.ofList (List.replicate n '0')

namespace Layout

/-- The text of `digits · 10 ^ exponent` without a sign. -/
def spell (style : Layout) (coefficient : Nat) (exponent : Int) : String :=
  let digits := Nat.toDigits 10 coefficient
  let leading : Int := digits.length - 1 + exponent
  if style.positional leading then
    if 0 ≤ exponent then
      String.ofList digits ++ zeros exponent.toNat ++ style.wholeMark
    else if 0 ≤ leading then
      let whole := (leading + 1).toNat
      String.ofList (digits.take whole) ++ "." ++ String.ofList (digits.drop whole)
    else
      "0." ++ zeros (-leading - 1).toNat ++ String.ofList digits
  else
    let fraction := digits.drop 1
    let point := if fraction.isEmpty then "" else "."
    let sign := if 0 < leading then style.plus else ""
    String.ofList (digits.take 1) ++ point ++ String.ofList fraction ++ "e" ++ sign ++
      toString leading

/-- The text of a double. -/
def write (style : Layout) (x : Float) : String :=
  let sign := if Binary64.isNegative x then "-" else ""
  match Binary64.valueOf? x with
  | none => if x.isNaN then style.nan else if style.signedInfinity then sign ++ style.infinity
    else style.infinity
  | some ⟨_, 0, _⟩ => sign ++ style.spell 0 0
  | some ⟨_, m, q⟩ =>
    let d := shortest style.tie m q
    sign ++ style.spell d.coefficient d.exponent

end Layout

/-- Arguments and answers: an exponent below `10 ^ -4` and from `10 ^ 16` on,
    and always a fraction digit in positional form. -/
def exactly : Layout :=
  { tie := .away
    positional := fun s => -4 ≤ s && s < 16
    wholeMark := ".0"
    plus := ""
    nan := "NaN"
    infinity := "inf" }

/-- Messages: never an exponent, and no fraction for a whole number. -/
def plainly : Layout :=
  { exactly with positional := fun _ => true, wholeMark := "" }

/-- The certificate: always an exponent. -/
def scientifically : Layout :=
  { exactly with positional := fun _ => false }

/-- JSON documents. They have no text of their own for a number that is not
    finite, and say `null` in its place. -/
def jsonNumber : Layout :=
  { tie := .even
    positional := fun s => -5 ≤ s && s < 16
    wholeMark := ".0"
    plus := "+"
    nan := "null"
    infinity := "null"
    signedInfinity := false }

/-- YAML documents. -/
def yamlNumber : Layout :=
  { jsonNumber with plus := "", nan := ".nan", infinity := ".inf", signedInfinity := true }

end Decimal

end Concordance
