import Concordance.Proofs.DividingCharacters
import Concordance.Proofs.ShortestDecimal

/-!
# The Lines of a Certificate

A certificate line by line.

What a certificate shows stands in lines: a figure or a failure has one, and so has the
notice that failures were left out. To tell lines apart by what they begin with, they must
be the lines that were meant, so nothing that is put into a line may break it. Numbers and
names have no line feeds, and those of an output become blanks in its cell. Whatever a
candidate prints, it cannot add a line that a line feed ends.

## Main definitions

* `Text.lines`: The lines of a text.
* `Text.IsUnbroken`: A text has no line feed.
* `ReportDocument.texts`: What is written of a document, as lines.

## Theorems

* `Text.lines_join`: Lines that are put together are the lines of the whole.
* `isUnbroken_cell`: Outputs in their cells.
* `ReportDocument.texts_eq`: The rows of failures among the lines, of which no other depends
  on outputs.
* `ReportDocument.lines_markdown`: The lines of a certificate.
-/

namespace Concordance

namespace Text

/-- The lines of some characters, each with the line feed that ends it. -/
def linesOf : List Char → List (List Char)
  | [] => []
  | c :: cs =>
    if c = '\n' then ['\n'] :: linesOf cs
    else match linesOf cs with
      | [] => [[c]]
      | l :: rest => (c :: l) :: rest

/-- The lines of a text, each with the line feed that ends it. -/
def lines (s : String) : List String :=
  (linesOf s.toList).map String.ofList

/-- Whether a text has no line feed. -/
def IsUnbroken (s : String) : Prop :=
  '\n' ∉ s.toList

instance (s : String) : Decidable (IsUnbroken s) :=
  inferInstanceAs (Decidable (_ ∉ _))

theorem linesOf_append {l : List Char} (h : '\n' ∉ l) (rest : List Char) :
    linesOf (l ++ '\n' :: rest) = (l ++ ['\n']) :: linesOf rest := by
  induction l with
  | nil => simp [linesOf]
  | cons c l ih =>
      rw [List.mem_cons, not_or] at h
      rw [List.cons_append, linesOf, if_neg (Ne.symm h.1), ih h.2]
      rfl

/-- Lines that are put together are the lines of the whole. -/
theorem lines_join {texts : List String} (h : ∀ s ∈ texts, IsUnbroken s) :
    lines (String.join (texts.map line)) = texts.map line := by
  unfold lines
  rw [String.toList_join]
  induction texts with
  | nil => rfl
  | cons s texts ih =>
      have hline : (line s).toList = s.toList ++ ['\n'] := String.toList_append
      obtain ⟨hs, htexts⟩ := List.forall_mem_cons.mp h
      rw [List.map_cons, List.flatMap_cons, hline, List.append_assoc, List.singleton_append,
        linesOf_append hs, List.map_cons, ih htexts, ← hline, String.ofList_toList]

/-! ### Texts without line feeds -/

@[simp]
theorem isUnbroken_append {s t : String} :
    IsUnbroken (s ++ t) ↔ IsUnbroken s ∧ IsUnbroken t := by
  unfold IsUnbroken
  rw [String.toList_append, List.mem_append, not_or]

@[simp]
theorem isUnbroken_ofList {cs : List Char} : IsUnbroken (String.ofList cs) ↔ '\n' ∉ cs := by
  unfold IsUnbroken
  rw [String.toList_ofList]

theorem Avoids.isUnbroken {bad : List Char} {s : String} (h : Avoids bad s) (hbad : '\n' ∈ bad) :
    IsUnbroken s :=
  fun hmem => h _ hmem hbad

end Text

open Text

/-- An output has no line feed in its cell. -/
theorem isUnbroken_cell (s : String) : IsUnbroken (cell s) := by
  rw [cell, isUnbroken_ofList, List.mem_flatMap]
  rintro ⟨c, -, hc⟩
  unfold cellCharacter at hc
  split_ifs at hc with hbar hfeed
  · exact absurd hc (by decide)
  · exact absurd hc (by decide)
  · exact hfeed (List.mem_singleton.mp hc).symm

/-! ### The lines -/

/-- The row of a figure, without the line feed. -/
def figureText (name value : String) : String :=
  "| **" ++ name ++ "** | " ++ value ++ " |"

/-- The row of a failure, without the line feed. -/
def failureText (f : Failure) : String :=
  let quote (s : String) : String := "\x60" ++ cell s ++ "\x60"
  let reference := (f.outputs.map (·.reference)).getD ""
  let candidate := (f.outputs.map (·.candidate)).getD ""
  "| " ++ toString f.index ++ " | " ++ f.discrepancy.text ++ " | "
    ++ Decimal.scientifically.write f.deviation ++ " | " ++ quote reference ++ " | "
    ++ quote candidate ++ " |"

/-- The notice that failures were left out, without the empty line before it and without the
    line feed. -/
def omissionText (shown failures : Nat) : String :=
  "*Showing first " ++ toString shown ++ " of " ++ toString failures ++ " failures.*"

/-- The figures, each with its name. -/
def figureEntries (r : Report) : List (String × String) :=
  [("Status", "**" ++ r.verdict.name ++ "**"),
    ("Output Kind", "\x60" ++ r.kind.tag ++ "\x60"),
    ("Test Cases", toString r.cases),
    ("Failures", toString r.failures),
    ("Max Deviation", Decimal.scientifically.write r.maxDeviation),
    ("Mean Deviation", Decimal.scientifically.write r.meanDeviation),
    ("Confidence", Decimal.fixed 4 r.confidencePercent ++ "%"),
    ("Distribution Test", r.similarity.name ++ " (" ++ testFigures r ++ ")")]

namespace ReportDocument

/-- The lines before the failures, without line feeds. -/
def textsBefore (d : ReportDocument) : List String :=
  ["# Parity Certificate", "", badge d.report.verdict, "", "## Summary", "",
    "| Metric | Value |", "|--------|-------|"]
    ++ (figureEntries d.report).map fun e => figureText e.1 e.2

/-- The lines about failures, without line feeds. -/
def failureTexts (d : ReportDocument) : List String :=
  if d.shown.isEmpty then []
  else
    ["", "## Failures", "", "| Case | Reason | Deviation | Reference | Candidate |",
      "|------|--------|-----------|-----------|-----------|"]
      ++ d.shown.map failureText
      ++ if d.isTruncated then ["", omissionText d.shown.length d.report.failures] else []

/-- The lines after the failures, without line feeds. -/
def textsAfter : List String :=
  ["", "---", "", "*Confidence is the 99% Wilson score lower bound of the pass rate.*"]

end ReportDocument

theorem avoids_figureText {name value : String} (hname : Avoids lineEnds name)
    (hvalue : Avoids lineEnds value) : Avoids lineEnds (figureText name value) := by
  unfold figureText
  simp only [avoids_append]
  exact ⟨⟨⟨⟨by decide, hname⟩, by decide⟩, hvalue⟩, by decide⟩

theorem isUnbroken_failureText (f : Failure) : IsUnbroken (failureText f) := by
  have hindex : IsUnbroken (toString f.index) := (avoids_nat f.index).isUnbroken (by decide)
  have hreason := f.discrepancy.avoids_text.isUnbroken (by decide)
  have hdeviation := (Decimal.avoids_scientifically f.deviation).isUnbroken (by decide)
  unfold failureText
  simp only [isUnbroken_append, hindex, hreason, hdeviation, isUnbroken_cell, and_true]
  decide

theorem avoids_omissionText (shown failures : Nat) :
    Avoids lineEnds (omissionText shown failures) := by
  have hcount (n : Nat) : Avoids lineEnds (toString n) :=
    (avoids_nat n).mono lineEnds_subset_dividers
  unfold omissionText
  simp only [avoids_append, hcount, and_true]
  decide

theorem avoids_of_mem_figureEntries (r : Report) :
    ∀ e ∈ figureEntries r, Avoids dividers e.1 ∧ Avoids dividers e.2 := by
  have hcount (n : Nat) : Avoids dividers (toString n) := avoids_nat n
  unfold figureEntries
  simp only [List.forall_mem_cons, avoids_append, hcount, r.verdict.avoids_name,
    r.kind.avoids_tag, r.similarity.avoids_name, avoids_testFigures,
    Decimal.avoids_scientifically, Decimal.avoids_fixed, and_true, true_and]
  decide

namespace ReportDocument

variable (d : ReportDocument)

theorem avoids_of_mem_textsBefore : ∀ s ∈ d.textsBefore, Avoids lineEnds s := by
  have hbadge : Avoids lineEnds (badge d.report.verdict) := by
    cases d.report.verdict <;> decide +kernel
  unfold textsBefore
  rw [List.forall_mem_append, List.forall_mem_map]
  refine ⟨?_, fun e he => ?_⟩
  · simp only [List.forall_mem_cons]
    exact ⟨by decide, by decide, hbadge, by decide, by decide, by decide, by decide, by decide,
      nofun⟩
  · obtain ⟨hname, hvalue⟩ := avoids_of_mem_figureEntries d.report e he
    exact avoids_figureText (hname.mono lineEnds_subset_dividers)
      (hvalue.mono lineEnds_subset_dividers)

/-- What is written of a document, without line feeds. -/
def texts : List String :=
  d.textsBefore ++ d.failureTexts ++ textsAfter

/-- What is written before the rows of failures. -/
def textsBeforeRows : List String :=
  d.textsBefore ++
    if d.shown.isEmpty then []
    else
      ["", "## Failures", "", "| Case | Reason | Deviation | Reference | Candidate |",
        "|------|--------|-----------|-----------|-----------|"]

/-- What is written after the rows of failures. -/
def textsAfterRows : List String :=
  (if d.shown.isEmpty then []
    else if d.isTruncated then ["", omissionText d.shown.length d.report.failures] else [])
      ++ textsAfter

theorem texts_eq : d.texts = d.textsBeforeRows ++ d.shown.map failureText ++ d.textsAfterRows := by
  unfold texts failureTexts textsBeforeRows textsAfterRows
  split
  · rename_i hempty
    rw [List.isEmpty_iff.mp hempty]
    rfl
  · simp only [List.append_assoc]

theorem avoids_of_mem_textsBeforeRows : ∀ s ∈ d.textsBeforeRows, Avoids lineEnds s := by
  unfold textsBeforeRows
  rw [List.forall_mem_append]
  refine ⟨d.avoids_of_mem_textsBefore, ?_⟩
  split
  · exact nofun
  · decide +kernel

theorem avoids_of_mem_textsAfterRows : ∀ s ∈ d.textsAfterRows, Avoids lineEnds s := by
  unfold textsAfterRows
  rw [List.forall_mem_append]
  refine ⟨?_, by decide +kernel⟩
  split
  · exact nofun
  · split
    · simp only [List.forall_mem_cons]
      exact ⟨by decide, avoids_omissionText _ _, nofun⟩
    · exact nofun

theorem isUnbroken_of_mem_texts : ∀ s ∈ d.texts, IsUnbroken s := by
  rw [texts_eq, List.forall_mem_append, List.forall_mem_append, List.forall_mem_map]
  refine ⟨⟨fun s hs => ?_, fun f _ => isUnbroken_failureText f⟩, fun s hs => ?_⟩
  · exact (d.avoids_of_mem_textsBeforeRows s hs).isUnbroken (by decide)
  · exact (d.avoids_of_mem_textsAfterRows s hs).isUnbroken (by decide)

theorem line_empty : line "" = "\n" :=
  rfl

theorem omissionNotice_eq (shown failures : Nat) : omissionNotice shown failures
    = String.join (["", omissionText shown failures].map line) := by
  simp only [List.map_cons, List.map_nil, String.join_cons, String.join_nil, String.append_empty]
  rfl

theorem failureTable_eq : d.failureTable = String.join (d.failureTexts.map line) := by
  have htable : ["\n", line "## Failures", "\n",
        line "| Case | Reason | Deviation | Reference | Candidate |",
        line "|------|--------|-----------|-----------|-----------|"] ++ d.shown.map failureRow
      = (["", "## Failures", "", "| Case | Reason | Deviation | Reference | Candidate |",
        "|------|--------|-----------|-----------|-----------|"]
          ++ d.shown.map failureText).map line := by
    rw [List.map_append, List.map_map]
    rfl
  unfold failureTable failureTexts
  split
  · rfl
  · rw [htable, @List.map_append _ _ line _ (ite _ _ _), String.join_append]
    split
    · rw [omissionNotice_eq]
    · rfl

theorem markdown_eq : d.markdown = String.join (d.texts.map line) := by
  have hfigures : figures d.report = String.join (["| Metric | Value |", "|--------|-------|"].map
      line ++ ((figureEntries d.report).map fun e => figureText e.1 e.2).map line) := rfl
  unfold markdown texts textsBefore textsAfter
  rw [hfigures, failureTable_eq]
  simp only [List.map_append, List.map_cons, List.map_nil, String.join_append, String.join_cons,
    String.join_nil, String.append_empty, String.append_assoc, line_empty]

/-- The lines of a certificate. -/
theorem lines_markdown : Text.lines d.markdown = d.texts.map line := by
  rw [markdown_eq]
  exact lines_join d.isUnbroken_of_mem_texts

end ReportDocument

end Concordance
