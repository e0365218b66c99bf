import Concordance.Compare.Comparison
import Concordance.Tolerance.Profile

/-!
# Reports

What a validation run found: the verdict, the figures it rests on, and the
failures.

## Main definitions

* `Verdict`: The verdict.
* `Similarity`: The outcome of the distribution test.
* `Failure`: One case that did not match.
* `Report`: The findings of a run.
-/

namespace Concordance

/-- The verdict about a candidate. -/
inductive Verdict where
  | certified
  | failed
  /-- There was no case to judge by. -/
  | inconclusive
deriving DecidableEq

namespace Verdict

/-- The names of the verdicts, in the order of the constructors. -/
def names : List String :=
  ["CERTIFIED", "FAILED", "INCONCLUSIVE"]

/-- The name of a verdict. -/
def name : Verdict → String
  | .certified => "CERTIFIED"
  | .failed => "FAILED"
  | .inconclusive => "INCONCLUSIVE"

/-- A verdict as data. -/
def toDatum (v : Verdict) : Datum :=
  .text v.name

/-- Read a verdict. -/
def ofSource? (s : Source) : Option Verdict := do
  [certified, failed, inconclusive][← s.unitVariant? names]?

end Verdict

/-- The outcome of the distribution test. -/
inductive Similarity where
  | pass
  | fail
  | notApplicable
deriving DecidableEq

namespace Similarity

/-- The names of the outcomes, in the order of the constructors. -/
def names : List String :=
  ["pass", "fail", "not-applicable"]

/-- The name of an outcome. -/
def name : Similarity → String
  | .pass => "pass"
  | .fail => "fail"
  | .notApplicable => "not-applicable"

/-- An outcome as data. -/
def toDatum (s : Similarity) : Datum :=
  .text s.name

/-- Read an outcome. -/
def ofSource? (s : Source) : Option Similarity := do
  [pass, fail, notApplicable][← s.unitVariant? names]?

end Similarity

/-- One case that did not match. -/
structure Failure where
  index : Nat
  discrepancy : Discrepancy
  deviation : Float
  outputs : Option Excerpts

namespace Failure

/-- A failure as data. -/
def toDatum (f : Failure) : Datum :=
  .object ([("index", .nat f.index), ("reason", f.discrepancy.toDatum),
      ("deviation", .float f.deviation)]
    ++ presentField "outputs" Excerpts.toDatum f.outputs)

/-- Read a failure. -/
def ofSource? (s : Source) : Option Failure := do
  let f ← s.record? ["index", "reason", "deviation", "outputs"]
  return {
    index := ← f.required? 0 Source.nat?
    discrepancy := ← f.required? 1 Discrepancy.ofSource?
    deviation := ← f.required? 2 Source.float?
    outputs := ← f.optional? 3 Excerpts.ofSource? }

end Failure

/-- The findings of a run. -/
structure Report where
  verdict : Verdict
  kind : OutputKind
  cases : Nat
  failures : Nat
  maxDeviation : Float
  meanDeviation : Float
  /-- The lower bound of the rate of success. -/
  confidence : Float
  similarity : Similarity
  ksStatistic : Option Float
  ksPValue : Option Float
  failureDetails : List Failure

namespace Report

/-- The report of a run without cases. -/
def inconclusive (kind : OutputKind) : Report :=
  { verdict := .inconclusive, kind, cases := 0, failures := 0, maxDeviation := 0
    meanDeviation := 0, confidence := 0, similarity := .notApplicable, ksStatistic := none
    ksPValue := none, failureDetails := [] }

/-- The confidence in percent. -/
def confidencePercent (r : Report) : Float :=
  r.confidence * 100

/-- The share of the cases that matched, zero if there were none. -/
def passRate (r : Report) : Float :=
  if r.cases = 0 then 0 else Float.ofNat (r.cases - r.failures) / Float.ofNat r.cases

/-- Whether the candidate was certified. -/
def isCertified (r : Report) : Bool :=
  r.verdict = .certified

/-- A report as data. -/
def toDatum (r : Report) : Datum :=
  .object [("status", r.verdict.toDatum), ("output_kind", r.kind.toDatum),
    ("test_cases", .nat r.cases), ("failures", .nat r.failures),
    ("max_deviation", .float r.maxDeviation), ("mean_deviation", .float r.meanDeviation),
    ("confidence", .float r.confidence), ("distribution_test", r.similarity.toDatum),
    ("ks_statistic", .option .float r.ksStatistic), ("ks_p_value", .option .float r.ksPValue),
    ("failure_details", .list (r.failureDetails.map Failure.toDatum))]

/-- Read a report. -/
def ofSource? (s : Source) : Option Report := do
  let f ← s.record? ["status", "output_kind", "test_cases", "failures", "max_deviation",
    "mean_deviation", "confidence", "distribution_test", "ks_statistic", "ks_p_value",
    "failure_details"]
  return {
    verdict := ← f.required? 0 Verdict.ofSource?
    kind := ← f.required? 1 OutputKind.ofSource?
    cases := ← f.required? 2 Source.nat?
    failures := ← f.required? 3 Source.nat?
    maxDeviation := ← f.required? 4 Source.float?
    meanDeviation := ← f.required? 5 Source.float?
    confidence := ← f.required? 6 Source.float?
    similarity := ← f.required? 7 Similarity.ofSource?
    ksStatistic := ← f.optional? 8 Source.float?
    ksPValue := ← f.optional? 9 Source.float?
    failureDetails := ← f.required? 10 fun d => do (← d.list?).mapM Failure.ofSource? }

end Report

end Concordance
