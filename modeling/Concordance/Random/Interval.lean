import Concordance.Binary64
import Concordance.Random.Draw

/-!
# Doubles from an Interval

A double drawn from a closed interval, so that every double in it can occur.

The interval is cut into pieces as wide as the distance between doubles at its
larger end, counted from that end. One piece is drawn, and a piece that still
contains finer doubles is cut again. At the last there is one piece with
nothing between its ends, and one of the two ends is drawn.

The larger end is a whole number of pieces away from zero, so in units of one
piece every cut is an integer, and the arithmetic here is exact. The pieces
get finer with every cut, and there are only some two thousand distances
between doubles, which bounds the number of cuts.

## Main definitions

* `Cuts`: The pieces of an interval, in units of one piece.
* `Cuts.ofEnds`: Cuts an interval.
* `Cuts.piece`: One piece.
* `between`: A double from a closed interval.
-/

namespace Concordance

namespace Random

open Binary64 (Exact)

/-- The pieces of an interval: they start at `start` and go toward the other
    end, `count` of them, each `2 ^ unit` wide. `upward` says which way. -/
structure Cuts where
  start : Int
  upward : Bool
  unit : Int
  count : Nat

/-- The exact value of a double, zero for the ones that have none. -/
def exactOrZero (x : Float) : Exact :=
  (Binary64.valueOf? x).getD ⟨false, 0, 0⟩

/-- How far the magnitude of `m · 2 ^ q` is from the next one below, as a
    power of two. -/
def gapBelow (m : Nat) (q : Int) : Int :=
  if m = 2 ^ 52 ∧ -1074 < q then q - 1 else q

/-- `m · 2 ^ q` in units of `2 ^ unit`, rounded down and rounded up. -/
def inUnits (m : Nat) (q unit : Int) : Nat × Nat :=
  let num := m * 2 ^ (q - unit).toNat
  let den := 2 ^ (unit - q).toNat
  (num / den, (num + den - 1) / den)

/-- Cut the interval between two doubles. -/
def Cuts.ofEnds (lo hi : Float) : Cuts :=
  let upward := !(lo.abs < hi.abs)
  let far := exactOrZero (if upward then lo else hi)
  let near := exactOrZero (if upward then hi else lo)
  let unit := gapBelow far.mantissa far.exponent
  let (reach, _) := inUnits far.mantissa far.exponent unit
  let (down, up) := inUnits near.mantissa near.exponent unit
  { start := if far.negative then -(reach : Int) else reach
    upward := upward
    unit := unit
    count := if far.negative = near.negative then reach - down else reach + up }

/-- The double at a cut. -/
def Cuts.point (cuts : Cuts) (n : Int) : Float :=
  Binary64.ofExact ⟨n < 0, n.natAbs, cuts.unit⟩

/-- One piece, its lower end first. -/
def Cuts.piece (cuts : Cuts) (i : Nat) : Float × Float :=
  if cuts.upward then (cuts.point (cuts.start + i), cuts.point (cuts.start + i + 1))
  else (cuts.point (cuts.start - i - 1), cuts.point (cuts.start - i))

/-- Draw pieces of pieces until nothing lies between the ends. -/
def refine : Nat → Cuts → Draw (Float × Float)
  | 0, cuts => return cuts.piece 0
  | depth + 1, cuts => do
    if 1 < cuts.count then
      let (lo, hi) := cuts.piece (← scaled .double cuts.count)
      refine depth (Cuts.ofEnds lo hi)
    else return cuts.piece 0

/-- A double from the interval with the given ends. An interval of one point
    takes no draw. -/
def between (min max : Float) : Draw Float := do
  if min == max then return min
  else
    let (lo, hi) ← refine 2200 (Cuts.ofEnds min max)
    let x := if (← scaled .single 2) = 0 then lo else hi
    return if x < min then min else if max < x then max else x

end Random

end Concordance
