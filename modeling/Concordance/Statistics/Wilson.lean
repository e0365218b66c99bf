import Concordance.Binary64

/-!
# The Wilson Bound

How high the true rate of success must be, given so many successes in so many
trials.

The bound is the lower end of the Wilson score interval. It is written once
for any arithmetic with a square root, so that what is computed with doubles
can also be read with real numbers.

## Main definitions

* `Arithmetic`: What the formula needs beside the four operations.
* `wilsonBound`: The lower end of the interval.
* `confidence`: The bound for a run with doubles.
-/

namespace Concordance

/-- What the formula of the bound needs beside the four operations. -/
structure Arithmetic (α : Type) where
  ofNat : Nat → α
  sqrt : α → α
  /-- The nearest number between zero and one. -/
  clampUnit : α → α

section

variable {α : Type} [Add α] [Sub α] [Mul α] [Div α]

/-- The lower end of the interval before it is kept between zero and one. -/
def wilsonValue (ar : Arithmetic α) (successes trials : Nat) (z : α) : α :=
  let n := ar.ofNat trials
  let one := ar.ofNat 1
  let rate := ar.ofNat (Nat.min successes trials) / n
  let square := z * z
  let denominator := one + square / n
  let center := rate + square / (ar.ofNat 2 * n)
  let spread := z * ar.sqrt (rate * (one - rate) / n + square / (ar.ofNat 4 * n * n))
  (center - spread) / denominator

/-- The lower end of the Wilson score interval with `z` standard deviations,
    zero if there were no trials. -/
def wilsonBound (ar : Arithmetic α) (successes trials : Nat) (z : α) : α :=
  if trials = 0 then ar.ofNat 0 else ar.clampUnit (wilsonValue ar successes trials z)

end

/-- Arithmetic with doubles. -/
def Arithmetic.binary64 : Arithmetic Float :=
  { ofNat := Float.ofNat, sqrt := Float.sqrt, clampUnit := Binary64.clampUnit }

/-- The number of standard deviations of a two-sided interval of 99%. -/
def confidenceZ : Float := 2.5758293035489

/-- The confidence after a run with some failures. -/
def confidence (trials failures : Nat) : Float :=
  wilsonBound .binary64 (trials - failures) trials confidenceZ

end Concordance
