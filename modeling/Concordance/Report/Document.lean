import Concordance.Report.Basic

/-!
# Report Documents

A report with at most so many failures, and a mark where some were left out.

## Main definitions

* `ReportDocument`: What is written of a report.
* `Report.document`: A report with its failures capped.
-/

namespace Concordance

/-- What is written of a report. -/
structure ReportDocument where
  report : Report
  /-- The leading failures. -/
  shown : List Failure
  /-- Whether failures were left out. -/
  isTruncated : Bool

/-- The number of failures that are written unless stated otherwise. -/
def defaultFailureCap : Nat := 20

/-- A report with at most so many failures. -/
def Report.document (r : Report) (cap : Nat) : ReportDocument :=
  { report := r
    shown := r.failureDetails.take cap
    isTruncated := decide (cap < r.failureDetails.length) }

/-- A document as data. -/
def ReportDocument.toDatum (d : ReportDocument) : Datum :=
  let r := d.report
  .object ([("status", r.verdict.toDatum), ("output_kind", r.kind.toDatum),
      ("test_cases", .nat r.cases), ("failures", .nat r.failures),
      ("max_deviation", .float r.maxDeviation), ("mean_deviation", .float r.meanDeviation),
      ("confidence", .float r.confidence), ("distribution_test", r.similarity.toDatum)]
    ++ presentField "ks_statistic" Datum.float r.ksStatistic
    ++ presentField "ks_p_value" Datum.float r.ksPValue
    ++ [("failure_details", .list (d.shown.map Failure.toDatum)),
      ("failure_details_truncated", .bool d.isTruncated)])

end Concordance
