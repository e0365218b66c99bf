import Concordance.Power

/-!
# Binary64 Numbers

The exact value behind a double, and the few operations that need it.

Everything this library prints, samples or compares in floating point comes
down to one decoding: a finite double is `±m · 2 ^ q` for a natural number
`m` and an integer `q`, and both can be read off its bits. `valueOf?` is that
decoding and `ofExact` its inverse, rounding to the nearest double when a
value lies between two. With the two of them, shortest decimal texts and
sampling grids are arithmetic on natural numbers, where nothing rounds.

The larger and smaller of two doubles follow the rule that a missing number
never wins: a NaN on either side yields the other side.

## Main definitions

* `Exact`: A signed natural number times a power of two.
* `valueOf?`: The exact value of a finite double.
* `ofExact`: The double nearest to an exact value, ties to even.
* `maxNum`, `minNum`: The larger and smaller of two doubles, NaN ignored.
* `clampUnit`: The nearest double between zero and one.
* `exp`: The exponential function, with its exact values given as such.
* `machineEpsilon`: The distance from one to the next double.
* `orderKey`: The key of the total order of doubles.
-/

namespace Concordance

/-- Which of two equally near neighbours a rounding takes. -/
inductive Tie where
  /-- The neighbour with the even last digit. -/
  | even
  /-- The neighbour farther from zero. -/
  | away
deriving DecidableEq

/-- The quotient `num / den` rounded to the nearest natural number. -/
def roundDiv (num den : Nat) (tie : Tie) : Nat :=
  let q := num / den
  let twice := 2 * (num % den)
  if twice < den then q
  else if den < twice then q + 1
  else match tie with
    | .even => if q % 2 = 0 then q else q + 1
    | .away => q + 1

namespace Binary64

/-- The value `±mantissa · 2 ^ exponent`. -/
structure Exact where
  negative : Bool
  mantissa : Nat
  exponent : Int
deriving DecidableEq

/-- Whether the sign bit is set. Negative zero counts as negative. -/
def isNegative (x : Float) : Bool :=
  2 ^ 63 ≤ x.toBits.toNat

/-- The eleven bits between the sign and the fraction. -/
def exponentField (x : Float) : Nat :=
  x.toBits.toNat / 2 ^ 52 % 2 ^ 11

/-- The low fifty-two bits. -/
def fractionField (x : Float) : Nat :=
  x.toBits.toNat % 2 ^ 52

/-- The exact value of a finite double, `none` for NaN and the infinities.
    A zero exponent field marks the subnormal numbers, which have no leading
    one. -/
def valueOf? (x : Float) : Option Exact :=
  match exponentField x with
  | 2047 => none
  | 0 => some ⟨isNegative x, fractionField x, -1074⟩
  | e => some ⟨isNegative x, 2 ^ 52 + fractionField x, (e : Int) - 1075⟩

/-- The value times `2 ^ shift`, rounded to a natural number with ties going
    to even. -/
def scaleToNat (m : Nat) (shift : Int) : Nat :=
  if 0 ≤ shift then m * 2 ^ shift.toNat
  else roundDiv m (2 ^ (-shift).toNat) .even

/-- The double nearest to an exact value, ties to even. The last place kept
    is the fifty-third bit, or `2 ^ -1074` for values too small for that; a
    rounding that carries into the next binade lands on the right bits by
    itself, since the fields are adjacent. -/
def ofExact (v : Exact) : Float :=
  let last : Int := max (-1074) ((v.mantissa.log2 : Int) + 1 + v.exponent - 53)
  let n := scaleToNat v.mantissa (v.exponent - last)
  let magnitude := if n < 2 ^ 52 then n else (last + 1074).toNat * 2 ^ 52 + n
  let bounded := min magnitude (2047 * 2 ^ 52)
  Float.ofBits (UInt64.ofNat (if v.negative then 2 ^ 63 + bounded else bounded))

/-- The larger of two doubles. A NaN yields the other side, and of two equal
    zeros the first is kept. -/
def maxNum (a b : Float) : Float :=
  if a.isNaN then b else if a < b then b else a

/-- The smaller of two doubles. A NaN yields the other side, and of two equal
    zeros the first is kept. -/
def minNum (a b : Float) : Float :=
  if a.isNaN then b else if b < a then b else a

/-- The nearest double between zero and one. A NaN stays. -/
def clampUnit (x : Float) : Float :=
  if x < 0 then 0 else if 1 < x then 1 else x

/-- The exponential function. A NaN stays, and either zero is taken to one; every
    other value is left to the system's library. -/
def exp (x : Float) : Float :=
  if x.isNaN then x else if x == 0 then 1 else x.exp

/-- The distance from one to the next double, `2 ^ -52`. -/
def machineEpsilon : Float :=
  Float.ofBits 0x3CB0000000000000

/-- The key under which doubles stand in their total order: negative numbers
    before positive ones, each sign by magnitude. -/
def orderKey (x : Float) : Int :=
  let bits := x.toBits.toNat
  if isNegative x then (2 ^ 63 : Int) - 1 - bits else bits

end Binary64

end Concordance
