import Concordance.Proofs.ArrivalOrder
import Concordance.Proofs.CertificateLines
import Concordance.Proofs.ReportShape
import Concordance.Proofs.ReportText

/-!
# Omitted Failures

How a report tells that it does not show all failures.

A document shows the leading failures and marks whether some are left out. The two document
formats carry that mark. The certificate has a notice instead, and it stands at the end of
the table of failures. A document that may not show any failure has no such table, so its
certificate says nothing of the failures that were left out, whatever the mark.

Rows and notices are found by the beginning of their lines. No other line begins so.

## Main definitions

* `isFailureRow`, `isOmission`: What the line of a failure and a notice begin with.
* `Text.Contains`: A text stands somewhere in another one.
* `Report.Discloses`: How a report tells of the failures that it leaves out.

## Theorems

* `ReportDocument.filter_isFailureRow`: The rows of failures in a certificate.
* `ReportDocument.contains_omissionNotice_iff`: The notices in a certificate.
* `Policy.certify_omissions`: What a report shows, and what it tells of the rest.
-/

namespace Concordance

/-- Whether a line begins like the row of a failure. -/
def isFailureRow (s : String) : Bool :=
  match s.toList with
  | '|' :: ' ' :: c :: _ => c.isDigit
  | _ => false

/-- Whether a line begins like a notice that failures were left out. -/
def isOmission (s : String) : Bool :=
  "*Showing first ".toList.isPrefixOf s.toList

/-- Whether a line begins like neither of the two. -/
def isAside (s : String) : Bool :=
  !isFailureRow s && !isOmission s

namespace Text

/-- Whether a text stands somewhere in another one. -/
def Contains (text part : String) : Prop :=
  ∃ before after, text = before ++ part ++ after

theorem linesOf_ne_nil {cs : List Char} (h : cs ≠ []) : linesOf cs ≠ [] := by
  cases cs with
  | nil => exact absurd rfl h
  | cons c cs =>
      unfold linesOf
      split
      · exact List.cons_ne_nil _ _
      · split <;> exact List.cons_ne_nil _ _

/-- The lines up to a line feed and the lines behind it. -/
theorem linesOf_append_feed (cs ds : List Char) :
    linesOf (cs ++ '\n' :: ds) = linesOf (cs ++ ['\n']) ++ linesOf ds := by
  induction cs with
  | nil => rfl
  | cons c cs ih =>
      rw [List.cons_append, List.cons_append, linesOf, linesOf, ih]
      split
      · rfl
      · -- The character is put in front of the first line, and there is one.
        obtain ⟨l, rest, hlines⟩ := List.exists_cons_of_ne_nil
          (linesOf_ne_nil (List.concat_ne_nil '\n' cs))
        rw [hlines]
        rfl

/-- What stands between two line feeds is a line. -/
theorem mem_lines_of_contains {s t : String} (ht : IsUnbroken t)
    (h : Contains s ("\n" ++ line t)) : line t ∈ lines s := by
  obtain ⟨before, after, rfl⟩ := h
  have hline : (line t).toList = t.toList ++ ['\n'] := String.toList_append
  have hchars : (before ++ ("\n" ++ line t) ++ after).toList
      = before.toList ++ '\n' :: (t.toList ++ '\n' :: after.toList) := by
    simp [hline]
  have hmem : t.toList ++ ['\n'] ∈ linesOf (before.toList ++ '\n' :: (t.toList ++ '\n' ::
      after.toList)) := by
    rw [linesOf_append_feed, linesOf_append ht]
    exact List.mem_append_right _ List.mem_cons_self
  unfold lines
  rw [hchars]
  refine List.mem_map.mpr ⟨_, hmem, ?_⟩
  rw [← hline, String.ofList_toList]

/-- Some of the lines of a text stand in it. -/
theorem contains_join (before part after : List String) :
    Contains (String.join ((before ++ part ++ after).map line)) (String.join (part.map line)) := by
  refine ⟨String.join (before.map line), String.join (after.map line), ?_⟩
  rw [List.map_append, List.map_append, String.join_append, String.join_append]

end Text

open Text

/-! ### Beginnings of lines -/

theorem toList_failureText (f : Failure) :
    ∃ rest, (line (failureText f)).toList = '|' :: ' ' :: (Nat.toDigits 10 f.index ++ rest) := by
  have hindex : (toString f.index).toList = Nat.toDigits 10 f.index := Nat.toList_repr
  unfold line failureText
  simp only [String.toList_append, List.append_assoc, hindex]
  exact ⟨_, rfl⟩

theorem toList_figureText (name value : String) :
    ∃ rest, (line (figureText name value)).toList = '|' :: ' ' :: '*' :: rest := by
  unfold line figureText
  simp only [String.toList_append, List.append_assoc]
  exact ⟨_, rfl⟩

theorem toList_omissionText (shown failures : Nat) :
    (line (omissionText shown failures)).toList = "*Showing first ".toList ++
      (Nat.toDigits 10 shown ++ ' ' :: ("of ".toList ++
        (Nat.toDigits 10 failures ++ ' ' :: "failures.*\n".toList))) := by
  have hdigits (n : Nat) : (toString n).toList = Nat.toDigits 10 n := Nat.toList_repr
  unfold line omissionText
  simp only [String.toList_append, List.append_assoc, hdigits]
  rfl

theorem isFailureRow_failureText (f : Failure) : isFailureRow (line (failureText f)) = true := by
  obtain ⟨rest, hrest⟩ := toList_failureText f
  obtain ⟨c, cs, hdigits⟩ := List.exists_cons_of_ne_nil (Nat.toDigits_ne_nil (n := f.index))
  unfold isFailureRow
  rw [hrest, hdigits]
  exact Nat.isDigit_of_mem_toDigits (by decide) (by decide) (hdigits ▸ List.mem_cons_self)

theorem isOmission_failureText (f : Failure) : isOmission (line (failureText f)) = false := by
  obtain ⟨rest, hrest⟩ := toList_failureText f
  unfold isOmission
  rw [hrest]
  rfl

theorem isAside_figureText (name value : String) :
    isAside (line (figureText name value)) = true := by
  obtain ⟨rest, hrest⟩ := toList_figureText name value
  unfold isAside isFailureRow isOmission
  rw [hrest]
  rfl

theorem isFailureRow_omissionText (shown failures : Nat) :
    isFailureRow (line (omissionText shown failures)) = false := by
  unfold isFailureRow
  rw [toList_omissionText]
  rfl

theorem isOmission_omissionText (shown failures : Nat) :
    isOmission (line (omissionText shown failures)) = true := by
  unfold isOmission
  rw [toList_omissionText]
  exact List.isPrefixOf_iff_prefix.mpr (List.prefix_append _ _)

theorem toDigits_append_inj {m n : Nat} {cs ds : List Char}
    (h : Nat.toDigits 10 m ++ ' ' :: cs = Nat.toDigits 10 n ++ ' ' :: ds) : m = n ∧ cs = ds := by
  have hdigits (k : Nat) : ∀ c ∈ Nat.toDigits 10 k, c.isDigit = true := fun c hc =>
    Nat.isDigit_of_mem_toDigits (by decide) (by decide) hc
  have htake := congrArg (List.takeWhile Char.isDigit) h
  rw [List.takeWhile_append_of_pos (hdigits m), List.takeWhile_append_of_pos (hdigits n),
    List.takeWhile_cons_of_neg (by decide), List.takeWhile_cons_of_neg (by decide),
    List.append_nil, List.append_nil] at htake
  rw [htake, List.append_cancel_left_eq, List.cons.injEq] at h
  have heq : m = n := calc
    m = Nat.ofDigitChars 10 (Nat.toDigits 10 m) 0 := Nat.ofDigitChars_ten_toDigits.symm
    _ = Nat.ofDigitChars 10 (Nat.toDigits 10 n) 0 := by rw [htake]
    _ = n := Nat.ofDigitChars_ten_toDigits
  exact ⟨heq, h.2⟩

/-- A notice says how many failures are shown and how many there are. -/
theorem omissionText_inj {k m k' m' : Nat}
    (h : line (omissionText k m) = line (omissionText k' m')) : k = k' ∧ m = m' := by
  have hchars := congrArg String.toList h
  rw [toList_omissionText, toList_omissionText, List.append_cancel_left_eq] at hchars
  obtain ⟨hshown, hrest⟩ := toDigits_append_inj hchars
  rw [List.append_cancel_left_eq] at hrest
  exact ⟨hshown, (toDigits_append_inj hrest).1⟩

theorem isFailureRow_of_isAside {s : String} (h : isAside s = true) : isFailureRow s = false :=
  (Bool.not_eq_true' _).mp (Bool.and_eq_true_iff.mp h).1

theorem isOmission_of_isAside {s : String} (h : isAside s = true) : isOmission s = false :=
  (Bool.not_eq_true' _).mp (Bool.and_eq_true_iff.mp h).2

namespace ReportDocument

variable (d : ReportDocument)

theorem isAside_of_mem_textsBefore : ∀ s ∈ d.textsBefore, isAside (line s) = true := by
  have hbadge : isAside (line (badge d.report.verdict)) = true := by
    cases d.report.verdict <;> decide +kernel
  unfold textsBefore
  rw [List.forall_mem_append, List.forall_mem_map]
  refine ⟨?_, fun e _ => isAside_figureText e.1 e.2⟩
  simp only [List.forall_mem_cons]
  exact ⟨rfl, rfl, hbadge, rfl, rfl, rfl, rfl, rfl, nofun⟩

theorem filter_eq_nil_of_isAside {p : String → Bool} (hp : ∀ s, isAside s = true → p s = false)
    {texts : List String} (h : ∀ s ∈ texts, isAside (line s) = true) :
    (texts.map line).filter p = [] := by
  rw [List.filter_eq_nil_iff, List.forall_mem_map]
  exact fun s hs => ne_true_of_eq_false (hp _ (h s hs))

/-- Rows and notices are among the lines about failures. -/
theorem filter_lines_markdown {p : String → Bool} (hp : ∀ s, isAside s = true → p s = false) :
    (Text.lines d.markdown).filter p =
      if d.shown.isEmpty then []
      else (d.shown.map failureRow).filter p ++
        if d.isTruncated then
          [line (omissionText d.shown.length d.report.failures)].filter p else [] := by
  have hrows : (d.shown.map failureText).map line = d.shown.map failureRow := List.map_map
  have hafter : ∀ s ∈ textsAfter, isAside (line s) = true := by decide +kernel
  have hhead : ∀ s ∈ ["", "## Failures", "", "| Case | Reason | Deviation | Reference | Candidate |",
      "|------|--------|-----------|-----------|-----------|"], isAside (line s) = true := by
    decide +kernel
  have hempty : p (line "") = false := hp _ (hhead _ List.mem_cons_self)
  rw [lines_markdown, texts, List.map_append, List.map_append, List.filter_append,
    List.filter_append, filter_eq_nil_of_isAside hp d.isAside_of_mem_textsBefore,
    filter_eq_nil_of_isAside hp hafter, List.nil_append, List.append_nil]
  unfold failureTexts
  split
  · rfl
  · rw [List.map_append, List.map_append, List.filter_append, List.filter_append,
      filter_eq_nil_of_isAside hp hhead, List.nil_append, hrows]
    congr 1
    split
    · rw [List.map_cons, List.filter_cons_of_neg (ne_true_of_eq_false hempty)]
      rfl
    · rfl

/-- The rows of failures in a certificate are those of the failures that are shown. -/
theorem filter_isFailureRow :
    (Text.lines d.markdown).filter isFailureRow = d.shown.map failureRow := by
  have hrows : ∀ s ∈ d.shown.map failureRow, isFailureRow s = true :=
    List.forall_mem_map.mpr fun f _ => isFailureRow_failureText f
  rw [d.filter_lines_markdown fun _ => isFailureRow_of_isAside, List.filter_eq_self.mpr hrows,
    List.filter_cons_of_neg (ne_true_of_eq_false (isFailureRow_omissionText _ _))]
  split
  · rename_i hempty
    rw [List.isEmpty_iff.mp hempty]
    rfl
  · split <;> exact List.append_nil _

/-- A certificate has a notice if failures were left out, unless none is shown. -/
theorem filter_isOmission :
    (Text.lines d.markdown).filter isOmission =
      if d.shown ≠ [] ∧ d.isTruncated = true then
        [line (omissionText d.shown.length d.report.failures)] else [] := by
  have hrows : ∀ s ∈ d.shown.map failureRow, ¬ isOmission s = true :=
    List.forall_mem_map.mpr fun f _ => ne_true_of_eq_false (isOmission_failureText f)
  rw [d.filter_lines_markdown fun _ => isOmission_of_isAside,
    List.filter_eq_nil_iff.mpr hrows,
    List.filter_cons_of_pos (isOmission_omissionText _ _)]
  simp only [List.isEmpty_iff, List.nil_append, List.filter_nil, ite_and, ite_not]

/-- The notice that so many failures of so many are shown stands in a certificate exactly if
    it is true, failures were left out, and not all of them were. -/
theorem contains_omissionNotice_iff (k m : Nat) :
    Text.Contains d.markdown (omissionNotice k m) ↔
      d.shown ≠ [] ∧ d.isTruncated = true ∧ k = d.shown.length ∧ m = d.report.failures := by
  constructor
  · intro h
    have hline : line (omissionText k m) ∈ (Text.lines d.markdown).filter isOmission :=
      List.mem_filter.mpr ⟨mem_lines_of_contains
        ((avoids_omissionText k m).isUnbroken (by decide)) h,
        isOmission_omissionText k m⟩
    rw [filter_isOmission] at hline
    split at hline
    · rename_i hshown
      obtain ⟨rfl, rfl⟩ := omissionText_inj (List.mem_singleton.mp hline)
      exact ⟨hshown.1, hshown.2, rfl, rfl⟩
    · exact absurd hline List.not_mem_nil
  · rintro ⟨hshown, htruncated, rfl, rfl⟩
    rw [markdown_eq, omissionNotice_eq, texts, failureTexts,
      if_neg (mt List.isEmpty_iff.mp hshown), if_pos htruncated, ← List.append_assoc]
    exact contains_join _ _ _

end ReportDocument

namespace Report

/-- The mark of a document stands on a line of its JSON text. -/
theorem hasEntry_isTruncated (r : Report) (cap : Nat) :
    Json.HasEntry (r.render cap .json) 1 "failure_details_truncated"
      (if (r.document cap).isTruncated then "true" else "false") := by
  have hmark : ("failure_details_truncated", Datum.bool (r.document cap).isTruncated) ∈
      [("failure_details", Datum.list ((r.document cap).shown.map Failure.toDatum)),
        ("failure_details_truncated", Datum.bool (r.document cap).isTruncated)] :=
    List.mem_cons_of_mem _ List.mem_cons_self
  have hholds : Json.Holds 0 (r.document cap).toDatum 1 "failure_details_truncated"
      (.bool (r.document cap).isTruncated) := .field (List.mem_append_right _ hmark)
  have hvalue (b : Bool) : Json.prettyAt 1 (.bool b) = if b then "true" else "false" := by
    simp [Json.prettyAt, Json.leaf]
  rw [← hvalue]
  exact Json.hasEntry_of_holds hholds

/-- How a report that shows at most so many failures tells of those that it leaves out. -/
structure Discloses (r : Report) (cap : Nat) : Prop where
  length_shown : (r.document cap).shown.length = min cap r.failures
  isTruncated_iff : (r.document cap).isTruncated = true ↔ cap < r.failures
  hasEntry : Json.HasEntry (r.render cap .json) 1 "failure_details_truncated"
    (if (r.document cap).isTruncated then "true" else "false")
  rows : (Text.lines (r.render cap .markdown)).filter isFailureRow =
    (r.document cap).shown.map failureRow
  /-- The certificate says nothing of the failures that are left out if none may be shown. -/
  notices : ∀ k m, Text.Contains (r.render cap .markdown) (omissionNotice k m) ↔
    cap ≠ 0 ∧ (r.document cap).isTruncated = true ∧ k = (r.document cap).shown.length ∧
      m = r.failures

/-- A report that counts the failures it lists discloses what it leaves out. -/
theorem discloses {r : Report} (hlength : r.failureDetails.length = r.failures) (cap : Nat) :
    r.Discloses cap := by
  have htruncated : (r.document cap).isTruncated = true ↔ cap < r.failures := by
    rw [← hlength]
    exact decide_eq_true_iff
  have hshown : (r.document cap).shown = r.failureDetails.take cap := rfl
  refine ⟨?_, htruncated, r.hasEntry_isTruncated cap, (r.document cap).filter_isFailureRow,
    fun k m => ?_⟩
  · rw [hshown, List.length_take, hlength]
  · refine ((r.document cap).contains_omissionNotice_iff k m).trans
      (and_congr_left fun h => not_congr ?_)
    -- Where failures were left out, there is one to show unless none may be.
    have hmore : r.failureDetails ≠ [] := by
      intro hnone
      have hpos := htruncated.mp h.1
      rw [← hlength, hnone] at hpos
      exact Nat.not_lt_zero cap hpos
    rw [hshown, List.take_eq_nil_iff]
    exact or_iff_left hmore

end Report

namespace Policy

variable (policy : Policy) (kind : OutputKind) (records : List Comparison)

theorem failureDetails_certify : (policy.certify kind records).failureDetails =
    ((inCaseOrder records).filter fun c => !c.isMatch).map Failure.ofComparison := by
  unfold certify
  split
  · rename_i hempty
    rw [List.isEmpty_iff.mp hempty, inCaseOrder, List.mergeSort_nil]
    rfl
  · rfl

theorem length_failureDetails_certify : (policy.certify kind records).failureDetails.length =
    (policy.certify kind records).failures := by
  unfold certify
  split
  · rfl
  · exact List.length_map _

/-- A report shows as many failures as it may, the leading ones in the order of their cases,
    and it discloses that others are left out, but for the certificate of a report that may
    not show any. -/
theorem certify_omissions (cap : Nat) :
    ((policy.certify kind records).document cap).shown =
        (((inCaseOrder records).filter fun c => !c.isMatch).take cap).map Failure.ofComparison ∧
      (((policy.certify kind records).document cap).shown.map Failure.index).Pairwise (· ≤ ·) ∧
      (policy.certify kind records).Discloses cap := by
  have hshown : ((policy.certify kind records).document cap).shown =
      (((inCaseOrder records).filter fun c => !c.isMatch).take cap).map Failure.ofComparison := by
    change (policy.certify kind records).failureDetails.take cap = _
    rw [failureDetails_certify, List.map_take]
  refine ⟨hshown, ?_, Report.discloses (length_failureDetails_certify policy kind records) cap⟩
  rw [hshown, List.map_map, List.pairwise_map]
  exact (inCaseOrder_pairwise records).sublist
    ((List.take_sublist cap _).trans List.filter_sublist)

/-- The report of one failure. -/
private def ofOneFailure : Report :=
  (ofProfile .standard).certify .text [.failure 0 .different]

/-- None of one failure may be shown. The mark stands in the JSON text, and the certificate
    says nothing. -/
theorem certify_unannounced :
    ofOneFailure.failures = 1 ∧ (ofOneFailure.document 0).isTruncated = true ∧
      Json.HasEntry (ofOneFailure.render 0 .json) 1 "failure_details_truncated" "true" ∧
      ¬ Text.Contains (ofOneFailure.render 0 .markdown) (omissionNotice 0 1) := by
  have hlength : ofOneFailure.failureDetails.length = ofOneFailure.failures :=
    length_failureDetails_certify _ _ _
  have hone : ofOneFailure.failures = 1 := by
    rw [← hlength, ofOneFailure, failureDetails_certify, inCaseOrder, List.mergeSort_singleton]
    rfl
  have hdiscloses := Report.discloses hlength 0
  have htruncated : (ofOneFailure.document 0).isTruncated = true :=
    hdiscloses.isTruncated_iff.mpr (hone ▸ Nat.one_pos)
  have hentry := hdiscloses.hasEntry
  rw [if_pos htruncated] at hentry
  exact ⟨hone, htruncated, hentry, fun h => ((hdiscloses.notices 0 1).mp h).1 rfl⟩

end Policy

end Concordance
