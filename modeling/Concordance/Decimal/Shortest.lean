import Concordance.Binary64

/-!
# Shortest Decimals

The shortest decimal that reads back as a given double.

A double stands for every real number that rounds to it, an interval around
its exact value. A decimal of `k` digits reads back exactly when it lies in
that interval, and if any point of the grid of `k`-digit decimals does, so
does one of the two grid points next to the value. So the search tries
`k = 1, 2, …, 17` in turn, tests those two neighbours, and stops at the first
grid with a hit. Seventeen digits always suffice.

When both neighbours lie inside, the nearer one is taken; when they are
equally near, the format that asked decides.

All comparisons are between natural numbers: value, interval and grid are
brought to one common unit first.

## Main definitions

* `Decimal`: A coefficient times a power of ten.
* `pointPosition`: How many digits the integral part of a value takes.
* `shortest`: The shortest decimal in the interval of a double.
-/

namespace Concordance

/-- The number `coefficient · 10 ^ exponent`. -/
structure Decimal where
  coefficient : Nat
  exponent : Int
deriving DecidableEq

namespace Decimal

/-- Whether `m · 2 ^ q < 10 ^ p`. -/
def belowPower (m : Nat) (q p : Int) : Bool :=
  m * 2 ^ q.toNat * 10 ^ (-p).toNat < 10 ^ p.toNat * 2 ^ (-q).toNat

/-- The least `p` with `m · 2 ^ q < 10 ^ p`, for a positive `m`. The length
    of `m` in bits gives the answer to within one, and the candidates around
    that estimate are tested exactly. -/
def pointPosition (m : Nat) (q : Int) : Int :=
  let estimate := ((m.log2 : Int) + q) * 30103 / 100000
  ([estimate - 1, estimate, estimate + 1].find? (belowPower m q ·)).getD (estimate + 2)

/-- One grid of decimals against the interval of a double. `low`, `value`,
    `high` and the distance `unit` between grid points are in a common unit;
    `closed` says whether the ends of the interval belong to it. -/
def gridHit (low value high unit : Nat) (closed : Bool) (tie : Tie) : Option Nat :=
  let c := value / unit
  let below := c * unit
  let above := below + unit
  let hitBelow := if closed then low ≤ below else low < below
  let hitAbove := if closed then above ≤ high else above < high
  if hitBelow && hitAbove then some (roundDiv value unit tie)
  else if hitBelow then some c
  else if hitAbove then some (c + 1)
  else none

/-- Move factors of ten from the coefficient into the exponent. -/
def strip : Nat → Nat → Int → Decimal
  | 0, c, e => ⟨c, e⟩
  | fuel + 1, c, e => if c % 10 = 0 then strip fuel (c / 10) (e + 1) else ⟨c, e⟩

/-- The shortest decimal that rounds to the double `m · 2 ^ q`, for a
    positive `m`. The gap below a power of two is half the gap above it. -/
def shortest (tie : Tie) (m : Nat) (q : Int) : Decimal :=
  let p := pointPosition m q
  let scale := 2 ^ (q - 2).toNat * 10 ^ (17 - p).toNat
  let unit := 2 ^ (2 - q).toNat * 10 ^ (p - 17).toNat
  let gapBelow := if m = 2 ^ 52 ∧ -1074 < q then 1 else 2
  let value := 4 * m * scale
  let low := (4 * m - gapBelow) * scale
  let high := (4 * m + 2) * scale
  let closed := m % 2 = 0
  let hit := (List.range 17).findSome? fun coarser =>
    let places : Nat := 16 - coarser
    (gridHit low value high (unit * 10 ^ places) closed tie).map fun c =>
      strip 17 c (p - 17 + (places : Int))
  hit.getD ⟨value / unit, p - 17⟩

end Decimal

end Concordance
