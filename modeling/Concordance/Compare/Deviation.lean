import Concordance.Binary64

/-!
# Deviations

How far two numbers are apart, and two lists of numbers of one length.

Equal numbers do not deviate, and neither do two NaNs. Otherwise both numbers
have to be finite: an infinity, or a NaN on one side only, cannot be compared
with anything else. The relative deviation is taken of the reference, or of
the machine epsilon where the reference is smaller than that.

## Main definitions

* `Deviation`: An absolute and a relative deviation.
* `Deviation.ofPair?`: The deviation of two numbers.
* `Deviation.ofLists?`: The largest deviations among pairs.
-/

namespace Concordance

/-- An absolute and a relative deviation. -/
structure Deviation where
  absolute : Float
  relative : Float

namespace Deviation

/-- No deviation. -/
def zero : Deviation :=
  ⟨0, 0⟩

/-- The deviation of a number from a reference, `none` if they cannot be
    compared. -/
def ofPair? (reference candidate : Float) : Option Deviation :=
  if reference.isNaN && candidate.isNaN then some zero
  else if reference == candidate then some zero
  else if !reference.isFinite || !candidate.isFinite then none
  else
    let absolute := (reference - candidate).abs
    some ⟨absolute, absolute / Binary64.maxNum reference.abs Binary64.machineEpsilon⟩

/-- The larger deviations of two. -/
def join (d e : Deviation) : Deviation :=
  ⟨Binary64.maxNum d.absolute e.absolute, Binary64.maxNum d.relative e.relative⟩

/-- The largest deviations among pairs of numbers, `none` if a pair cannot be
    compared. -/
def ofLists? (reference candidate : List Float) : Option Deviation := do
  let ds ← (reference.zip candidate).mapM fun p => ofPair? p.1 p.2
  return ds.foldl join zero

end Deviation

end Concordance
