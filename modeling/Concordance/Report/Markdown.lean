import Concordance.Decimal.Fixed
import Concordance.Decimal.Layout
import Concordance.Report.Document

/-!
# Markdown Certificates

A report for human readers: a badge, a table of figures, and a table of
failures.

Outputs are quoted in cells of the table, so bars are escaped and line feeds
become spaces there.

## Main definitions

* `cell`: A text as it stands in a cell.
* `failureRow`: The row of a failure.
* `ReportDocument.markdown`: The certificate.
-/

namespace Concordance

/-- A character as it stands in a cell. -/
def cellCharacter (c : Char) : List Char :=
  if c = '|' then ['\\', '|'] else if c = '\n' then [' '] else [c]

/-- A text as it stands in a cell. -/
def cell (s : String) : String :=
  String.ofList (s.toList.flatMap cellCharacter)

/-- The image that announces a verdict. -/
def badge : Verdict → String
  | .certified => "![Certified](https://img.shields.io/badge/parity-CERTIFIED-green)"
  | .failed => "![Failed](https://img.shields.io/badge/parity-FAILED-red)"
  | .inconclusive => "![Inconclusive](https://img.shields.io/badge/parity-INCONCLUSIVE-lightgrey)"

/-- One line. -/
def line (s : String) : String :=
  s ++ "\n"

/-- A row of the table of figures. -/
def figureRow (name value : String) : String :=
  line ("| **" ++ name ++ "** | " ++ value ++ " |")

/-- The figures of the distribution test, a dash where it did not apply. -/
def testFigures (r : Report) : String :=
  match r.ksStatistic, r.ksPValue with
  | some statistic, some pValue =>
    "D = " ++ Decimal.fixed 6 statistic ++ ", p = " ++ Decimal.fixed 6 pValue
  | _, _ => "-"

/-- The table of figures. -/
def figures (r : Report) : String :=
  String.join [
    line "| Metric | Value |",
    line "|--------|-------|",
    figureRow "Status" ("**" ++ r.verdict.name ++ "**"),
    figureRow "Output Kind" ("\x60" ++ r.kind.tag ++ "\x60"),
    figureRow "Test Cases" (toString r.cases),
    figureRow "Failures" (toString r.failures),
    figureRow "Max Deviation" (Decimal.scientifically.write r.maxDeviation),
    figureRow "Mean Deviation" (Decimal.scientifically.write r.meanDeviation),
    figureRow "Confidence" (Decimal.fixed 4 r.confidencePercent ++ "%"),
    figureRow "Distribution Test" (r.similarity.name ++ " (" ++ testFigures r ++ ")")]

/-- The row of a failure. -/
def failureRow (f : Failure) : String :=
  let quote (s : String) : String := "\x60" ++ cell s ++ "\x60"
  let reference := (f.outputs.map (·.reference)).getD ""
  let candidate := (f.outputs.map (·.candidate)).getD ""
  line ("| " ++ toString f.index ++ " | " ++ f.discrepancy.text ++ " | "
    ++ Decimal.scientifically.write f.deviation ++ " | " ++ quote reference ++ " | "
    ++ quote candidate ++ " |")

/-- The notice that failures were left out. -/
def omissionNotice (shown failures : Nat) : String :=
  "\n" ++ line ("*Showing first " ++ toString shown ++ " of " ++ toString failures ++ " failures.*")

namespace ReportDocument

/-- The table of failures, if there are any to show. -/
def failureTable (d : ReportDocument) : String :=
  if d.shown.isEmpty then ""
  else
    String.join ([
      "\n", line "## Failures", "\n",
      line "| Case | Reason | Deviation | Reference | Candidate |",
      line "|------|--------|-----------|-----------|-----------|"]
      ++ d.shown.map failureRow)
    ++ if d.isTruncated then omissionNotice d.shown.length d.report.failures else ""

/-- The certificate. -/
def markdown (d : ReportDocument) : String :=
  String.join [
    line "# Parity Certificate", "\n",
    line (badge d.report.verdict), "\n",
    line "## Summary", "\n",
    figures d.report,
    d.failureTable,
    "\n", line "---", "\n",
    line "*Confidence is the 99% Wilson score lower bound of the pass rate.*"]

end ReportDocument

end Concordance
