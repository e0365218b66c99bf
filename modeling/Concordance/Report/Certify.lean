import Concordance.Report.Basic
import Concordance.Statistics.KolmogorovSmirnov
import Concordance.Statistics.Wilson

/-!
# Certification

From the records of a run to its report.

A candidate is certified if no case failed, no deviation exceeds the allowed
one, the confidence is high enough, and the outputs do not look like they come
from different distributions. The last of these is only asked of numbers, and
only when there are enough of them.

Records are put in the order of their cases before anything is computed from
them, since sums of doubles depend on their order.

## Main definitions

* `Policy`: The thresholds of a verdict.
* `Policy.certify`: The report of some records.
-/

namespace Concordance

/-- The thresholds of a verdict. -/
structure Policy where
  /-- The largest deviation that a certified candidate may show. -/
  maxDeviation : Float
  /-- The least confidence that is certified. -/
  minConfidence : Float
  /-- The number of standard deviations of the confidence bound. -/
  z : Float
  /-- The least number of values for the distribution test. -/
  minSamples : Nat
  /-- The level of significance of the distribution test. -/
  significance : Float

/-- Records in the order of their cases. -/
def inCaseOrder (records : List Comparison) : List Comparison :=
  records.mergeSort fun a b => decide (a.index ≤ b.index)

/-- The largest deviation of some records. -/
def largestDeviation (records : List Comparison) : Float :=
  (records.map (·.deviation)).foldl Binary64.maxNum 0

/-- The mean deviation of some records. -/
def meanDeviation (records : List Comparison) : Float :=
  (records.map (·.deviation)).foldl (· + ·) (-0.0) / Float.ofNat records.length

/-- A record that does not match, as a failure of the report. -/
def Failure.ofComparison (c : Comparison) : Failure :=
  { index := c.index, discrepancy := c.discrepancy.getD .outOfTolerance
    deviation := c.deviation, outputs := c.excerpts }

namespace Policy

/-- The policy that a profile asks for. -/
def ofProfile (p : Profile) : Policy :=
  { maxDeviation := p.maxDeviation, minConfidence := p.minConfidence, z := confidenceZ
    minSamples := 30, significance := 0.01 }

/-- The distribution test, where it applies. -/
def testDistributions? (policy : Policy) (kind : OutputKind) (records : List Comparison) :
    Option KolmogorovSmirnov.TestResult :=
  let reference := records.flatMap (·.referenceValues)
  let candidate := records.flatMap (·.candidateValues)
  if !kind.isNumeric || records.length < policy.minSamples
      || reference.length < policy.minSamples || candidate.length < policy.minSamples then none
  else KolmogorovSmirnov.compareSamples? reference candidate

/-- What a distribution test says. -/
def similarity (policy : Policy) : Option KolmogorovSmirnov.TestResult → Similarity
  | none => .notApplicable
  | some r => if r.passes policy.significance then .pass else .fail

/-- The report of records that stand in order. -/
def certifyOrdered (policy : Policy) (kind : OutputKind) (records : List Comparison) : Report :=
  let cases := records.length
  let failed := records.filter fun c => !c.isMatch
  let maxDeviation := largestDeviation records
  let confidence := wilsonBound .binary64 (cases - failed.length) cases policy.z
  let test := policy.testDistributions? kind records
  let similarity := policy.similarity test
  let isCertified := failed.isEmpty && maxDeviation ≤ policy.maxDeviation
    && policy.minConfidence ≤ confidence && similarity ≠ .fail
  { verdict := if isCertified then .certified else .failed
    kind
    cases
    failures := failed.length
    maxDeviation
    meanDeviation := meanDeviation records
    confidence
    similarity
    ksStatistic := test.map (·.statistic)
    ksPValue := test.map (·.pValue)
    failureDetails := failed.map Failure.ofComparison }

/-- The report of a run. -/
def certify (policy : Policy) (kind : OutputKind) (records : List Comparison) : Report :=
  if records.isEmpty then .inconclusive kind else policy.certifyOrdered kind (inCaseOrder records)

end Policy

end Concordance
