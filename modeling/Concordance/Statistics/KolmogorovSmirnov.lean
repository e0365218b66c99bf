import Concordance.Binary64

/-!
# The Kolmogorov–Smirnov Test

Whether two samples may come from one distribution.

The statistic is the largest gap between the two empirical distribution
functions. Both can only jump at a value of a sample, so it is enough to walk
through the sorted samples side by side: at each value, how many of either
sample lie at or below it. Once one sample is used up the gap can only shrink.

The counts are natural numbers, and only what is made of them rounds. So the
statistic is written once for any arithmetic, like the Wilson bound, and what
is computed with doubles can also be read with exact fractions.

The samples are sorted in the total order of doubles, NaNs are left out, and
the p-value is the asymptotic one.

## Main definitions

* `mergeCounts`: How many values of two sorted samples lie at or below each
  value.
* `GapArithmetic`: What the statistic needs beside two operations.
* `statistic`: The largest gap.
* `TestResult`: A statistic with its p-value.
* `compareSamples?`: The test.
-/

namespace Concordance

namespace KolmogorovSmirnov

/-- How many values of two sorted samples lie at or below each value of
    either, until one sample is used up. The first number bounds the steps;
    the next two count the values passed before. -/
def mergeCounts : Nat → Nat → Nat → List Float → List Float → List (Nat × Nat)
  | 0, _, _, _, _ => []
  | _ + 1, _, _, [], _ => []
  | _ + 1, _, _, _ :: _, [] => []
  | steps + 1, i, j, x :: xs, y :: ys =>
    let low := Binary64.minNum x y
    let below := fun z : Float => decide (z ≤ low)
    let i' := i + ((x :: xs).takeWhile below).length
    let j' := j + ((y :: ys).takeWhile below).length
    (i', j') ::
      mergeCounts steps i' j' ((x :: xs).dropWhile below) ((y :: ys).dropWhile below)

/-- A sample in order, without its NaNs. -/
def ordered (xs : List Float) : List Float :=
  (xs.filter fun x => !x.isNaN).mergeSort fun x y =>
    decide (Binary64.orderKey x ≤ Binary64.orderKey y)

/-- The counts at every value of two sorted samples. -/
def counts (xs ys : List Float) : List (Nat × Nat) :=
  mergeCounts (xs.length + ys.length) 0 0 xs ys

/-- What the statistic needs beside differences and quotients. -/
structure GapArithmetic (α : Type) where
  ofNat : Nat → α
  abs : α → α
  larger : α → α → α

section

variable {α : Type} [Sub α] [Div α]

/-- The gap between the two distribution functions where so many values of
    each sample lie at or below a point. -/
def gap (ar : GapArithmetic α) (n m : Nat) (c : Nat × Nat) : α :=
  ar.abs (ar.ofNat c.1 / ar.ofNat n - ar.ofNat c.2 / ar.ofNat m)

/-- The largest gap between the distribution functions of two sorted
    samples. -/
def statistic (ar : GapArithmetic α) (xs ys : List Float) : α :=
  ((counts xs ys).map (gap ar xs.length ys.length)).foldl ar.larger (ar.ofNat 0)

end

/-- Arithmetic with doubles. -/
def GapArithmetic.binary64 : GapArithmetic Float :=
  { ofNat := Float.ofNat, abs := Float.abs, larger := Binary64.maxNum }

/-- Sum up the series of the distribution from the `k`-th term on, `terms`
    terms at most, until a term no longer counts. A series that does not
    settle has the sum one. -/
def sumSeries (square : Float) : Nat → Nat → Float → Float → Float → Float
  | 0, _, _, _, _ => 1
  | terms + 1, k, sign, previous, sum =>
    let x := Float.ofNat k
    let term := sign * Binary64.exp (square * x * x)
    let sum := sum + term
    if term.abs ≤ 0.001 * previous || term.abs ≤ 1e-8 * sum then Binary64.clampUnit sum
    else sumSeries square terms (k + 1) (-sign) term.abs sum

/-- How likely the distribution of Kolmogorov exceeds a value. -/
def exceedance (x : Float) : Float :=
  sumSeries (-2 * x * x) 100 1 2 0 0

/-- The p-value of a statistic of samples of two sizes. -/
def pValue (n m : Nat) (statistic : Float) : Float :=
  let effective := Float.ofNat (n * m) / Float.ofNat (n + m)
  let root := effective.sqrt
  exceedance ((root + 0.12 + 0.11 / root) * statistic)

/-- A statistic with its p-value. -/
structure TestResult where
  statistic : Float
  pValue : Float

/-- Whether two samples are compatible at a level of significance. -/
def TestResult.passes (r : TestResult) (significance : Float) : Bool :=
  significance ≤ r.pValue

/-- Test two samples. Nothing can be said about a sample without values. -/
def compareSamples? (xs ys : List Float) : Option TestResult :=
  let xs := ordered xs
  let ys := ordered ys
  if xs.isEmpty || ys.isEmpty then none
  else
    let d := statistic .binary64 xs ys
    some ⟨d, pValue xs.length ys.length d⟩

end KolmogorovSmirnov

end Concordance
