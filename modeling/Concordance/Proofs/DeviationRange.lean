import Concordance.Proofs.Binary64.Overflow
import Concordance.Proofs.Certification
import Concordance.Proofs.RecordShape
import Concordance.Proofs.ReportText

/-!
# Deviations Beyond All Doubles

When the deviations that a report tells of are numbers, and when they are not.

Numbers that cannot be compared have no distance, and their record has a deviation of one
instead, so infinities and NaNs that an artifact puts out never become deviations. But the
distance of two finite numbers need not be a double, and if it is one it may still be too
large to be divided by a small reference. Then the deviation is infinite. So is the largest
deviation of the report, that of a failure, and the mean. The mean may be infinite even if
no deviation is, because the sum is taken before it is divided. None of this has any other
cause: the outcomes that matched are within a tolerance that is finite, and the number of
cases does not harm the quotient.

## Main definitions

* `Comparator.IsBeyond`: Two numbers are too far apart.
* `Comparator.ComparesNumbers`: A comparison comes to lists of numbers.
* `Comparator.Overflows`: A comparison leaves the range of doubles.
* `State.deviations`, `State.Overflows`: The deviations of a run, and whether one of them
  leaves the range.

## Theorems

* `isFinite_compareValues_iff`: Deviations of lists of numbers.
* `isFinite_compare_iff`: Deviations of outcomes.
* `isFinite_maxDeviation_iff`, `isFinite_meanDeviation_iff`, `isFinite_failureDetails_iff`:
  The figures of a report.
* `isFinite_records_iff`: Deviations of a run.
* `reports_isFinite_iff`: Deviations of a validation.
-/

namespace Concordance

open Binary64

namespace Comparator

open Deviation (IsComparable ofComparable)

/-- Whether two different numbers are too far apart for their deviation to be a double. -/
def IsBeyond (c : Comparator) (x y : Float) : Prop :=
  x.isFinite = true ∧ y.isFinite = true ∧ (x == y) = false ∧ (c.pairDeviation x y).isFinite = false

instance (c : Comparator) (x y : Float) : Decidable (c.IsBeyond x y) :=
  inferInstanceAs (Decidable (_ ∧ _ ∧ _ ∧ _))

/-- Whether the comparison of two outcomes comes to two lists of numbers of one length. -/
structure ComparesNumbers (c : Comparator) (r k : Outcome) (rs ks : List Float) : Prop where
  kind : c.kind.isNumeric = true
  status : r.status = .ok ∧ k.status = .ok
  reference : ∃ rt, c.extractor.extract? r.stdout = some rt ∧ numbers? rt = some rs
  candidate : ∃ kt, c.extractor.extract? k.stdout = some kt ∧ numbers? kt = some ks
  length_eq : rs.length = ks.length

/-- Whether the comparison of two outcomes leaves the range of doubles: it comes to two lists
    of numbers, all of them can be compared, and two are too far apart. -/
def Overflows (c : Comparator) (r k : Outcome) : Prop :=
  ∃ rs ks, c.ComparesNumbers r k rs ks ∧ (∀ p ∈ rs.zip ks, IsComparable p.1 p.2) ∧
    ∃ p ∈ rs.zip ks, c.IsBeyond p.1 p.2

section

variable {c : Comparator}

/-- The deviation of two numbers that can be compared is finite, unless they are too far
    apart. -/
theorem isFinite_governing_iff {x y : Float} (h : IsComparable x y) :
    (c.governing (ofComparable x y)).isFinite = true ↔ ¬ c.IsBeyond x y := by
  have hzero : (c.governing .zero).isFinite = true := by
    unfold governing
    cases c.kind <;> exact isFinite_zero
  unfold ofComparable
  by_cases hsame : (x.isNaN = true ∧ y.isNaN = true) ∨ (x == y) = true
  · -- What is the same does not deviate, and is not two different finite numbers.
    rw [if_pos hsame]
    refine iff_of_true hzero ?_
    rintro ⟨hx, _, hne, _⟩
    rcases hsame with ⟨hnan, _⟩ | heq
    · exact nomatch hnan.symm.trans (isNaN_of_isFinite hx)
    · exact nomatch hne.symm.trans heq
  · rw [if_neg hsame]
    obtain ⟨hx, hy⟩ := (or_assoc.mpr h).resolve_left hsame
    have hne : (x == y) = false := Bool.eq_false_iff.mpr fun heq => hsame (Or.inr heq)
    unfold IsBeyond
    rw [c.governing_pair, and_iff_right hx, and_iff_right hy, and_iff_right hne, Bool.not_eq_false]

/-- How far two numbers may be apart depends on what their distance is divided by. -/
example : IsBeyond ⟨.relative, 0, .whole⟩ 0 1e300 ∧ ¬ IsBeyond ⟨.absolute, 0, .whole⟩ 0 1e300 := by
  decide +kernel

/-- The deviation that counts among the largest ones is the largest one that counts. -/
theorem governing_foldl (ps : List (Float × Float)) :
    c.governing ⟨(ps.map fun p => (ofComparable p.1 p.2).absolute).foldl maxNum 0,
      (ps.map fun p => (ofComparable p.1 p.2).relative).foldl maxNum 0⟩
      = (ps.map fun p => c.governing (ofComparable p.1 p.2)).foldl maxNum 0 := by
  unfold governing
  cases c.kind <;> rfl

section

variable {rs ks : List Float} (index : Nat) (rt kt : String)

/-- Numbers that can all be compared have a finite deviation, unless two of them are too far
    apart. -/
theorem isFinite_compareValues_iff (hall : ∀ p ∈ rs.zip ks, IsComparable p.1 p.2) :
    (c.compareValues index rt kt rs ks).deviation.isFinite = true ↔
      ∀ p ∈ rs.zip ks, ¬ c.IsBeyond p.1 p.2 := by
  unfold compareValues
  rw [Deviation.ofLists?_of_isComparable hall]
  change (c.governing _).isFinite = true ↔ _
  rw [governing_foldl, isFinite_foldl_maxNum_iff, List.forall_mem_map]
  · exact forall₂_congr fun p hp => isFinite_governing_iff (hall p hp)
  · rw [List.forall_mem_map]
    intro p hp
    obtain ⟨habsolute, hrelative⟩ := Deviation.isMagnitude_ofComparable (hall p hp)
    exact isMagnitude_governing habsolute hrelative

theorem isFinite_compareValues_of_not_isComparable
    (hsome : ∃ p ∈ rs.zip ks, ¬ IsComparable p.1 p.2) :
    (c.compareValues index rt kt rs ks).deviation.isFinite = true := by
  unfold compareValues
  rw [Deviation.ofLists?_eq_none hsome]
  exact isFinite_one

end

variable {r k : Outcome}

theorem isMagnitude_compare : IsMagnitude (c.compare r k).deviation := by
  rcases c.compare_forms r k with ⟨_, _, _, h⟩ | h | ⟨_, h⟩ | ⟨rt, kt, rs, ks, h⟩
  · rw [h]
    exact isMagnitude_one
  · rw [h]
    exact isMagnitude_zero
  · rw [h]
    exact isMagnitude_one
  · rw [h]
    exact (c.compareValues_fields r.index rt kt rs ks).2.2.2.2.2.2

/-- Outcomes that match have a finite deviation, since the tolerance is finite. -/
theorem isFinite_compare_of_isMatch (hnonneg : 0 ≤ c.epsilon) (hfinite : c.epsilon.isFinite = true)
    (h : (c.compare r k).isMatch = true) : (c.compare r k).deviation.isFinite = true :=
  isMagnitude_compare.isFinite_of_le (c.deviation_le_of_isMatch hnonneg h) hfinite

theorem ComparesNumbers.compare_eq {rs ks : List Float} (h : c.ComparesNumbers r k rs ks) :
    ∃ rt kt, c.compare r k = c.compareValues r.index rt kt rs ks := by
  obtain ⟨rt, hrt, hrs⟩ := h.reference
  obtain ⟨kt, hkt, hks⟩ := h.candidate
  rcases compare_of_numbers h.kind h.status.1 h.status.2 hrt hkt hrs hks with ⟨hne, _⟩ | ⟨_, heq⟩
  · exact absurd h.length_eq hne
  · exact ⟨rt, kt, heq⟩

/-- A deviation is zero or one where no numbers were compared. -/
theorem compare_deviation_cases (c : Comparator) (r k : Outcome) :
    ((c.compare r k).deviation = 0 ∨ (c.compare r k).deviation = 1) ∨
      ∃ rs ks, c.ComparesNumbers r k rs ks := by
  rcases c.compare_cases r k with ⟨_, h⟩ | ⟨_, d, _, h⟩ | ⟨_, _, _, h⟩ | ⟨_, _, _, _, _, h⟩ |
    ⟨hr, hk, rt, kt, hrt, hkt, h⟩
  · exact Or.inl (Or.inr (congrArg Comparison.deviation h))
  · exact Or.inl (Or.inr (congrArg Comparison.deviation h))
  · exact Or.inl (Or.inr (congrArg Comparison.deviation h))
  · exact Or.inl (Or.inr (congrArg Comparison.deviation h))
  · rw [h]
    rcases c.compareTexts_cases r k rt kt with ⟨hkind, h⟩ | ⟨_, _, h⟩ | ⟨_, _, _, h⟩
    · rw [h]
      rcases c.compareNumbers_cases r k rt kt with ⟨_, h⟩ | ⟨_, _, _, h⟩ | ⟨_, _, _, _, _, h⟩ |
        ⟨rs, ks, hrs, hks, hlength, _⟩
      · exact Or.inl (Or.inr (congrArg Comparison.deviation h))
      · exact Or.inl (Or.inr (congrArg Comparison.deviation h))
      · exact Or.inl (Or.inr (congrArg Comparison.deviation h))
      · exact Or.inr ⟨rs, ks, hkind, ⟨hr, hk⟩, ⟨rt, hrt, hrs⟩, ⟨kt, hkt, hks⟩, hlength⟩
    · exact Or.inl (Or.inl (congrArg Comparison.deviation h))
    · exact Or.inl (Or.inr (congrArg Comparison.deviation h))

/-- A deviation is finite, unless the comparison leaves the range of doubles. -/
theorem isFinite_compare_iff :
    (c.compare r k).deviation.isFinite = true ↔ ¬ c.Overflows r k := by
  constructor
  · rintro hfinite ⟨rs, ks, hnumbers, hall, p, hp, hbeyond⟩
    obtain ⟨rt, kt, h⟩ := hnumbers.compare_eq
    rw [h, isFinite_compareValues_iff r.index rt kt hall] at hfinite
    exact hfinite p hp hbeyond
  · intro hover
    rcases c.compare_deviation_cases r k with (h | h) | ⟨rs, ks, hnumbers⟩
    · rw [h]
      exact isFinite_zero
    · rw [h]
      exact isFinite_one
    · obtain ⟨rt, kt, h⟩ := hnumbers.compare_eq
      rw [h]
      by_cases hall : ∀ p ∈ rs.zip ks, IsComparable p.1 p.2
      · exact (isFinite_compareValues_iff r.index rt kt hall).mpr fun p hp hbeyond =>
          hover ⟨rs, ks, hnumbers, hall, p, hp, hbeyond⟩
      · push Not at hall
        exact isFinite_compareValues_of_not_isComparable r.index rt kt hall

end

end Comparator

theorem inCaseOrder_nil : inCaseOrder [] = [] :=
  List.mergeSort_nil

namespace Policy

section

variable (policy : Policy) (kind : OutputKind) (records : List Comparison)

/-- The largest deviation is finite if all of them are. -/
theorem isFinite_maxDeviation_iff (hmagnitude : ∀ r ∈ records, IsMagnitude r.deviation) :
    (policy.certify kind records).maxDeviation.isFinite = true ↔
      ∀ r ∈ records, r.deviation.isFinite = true := by
  rcases eq_or_ne records [] with rfl | hne
  · exact iff_of_true isFinite_zero (List.forall_mem_nil _)
  · rw [policy.certify_of_ne_nil kind hne]
    change (largestDeviation (inCaseOrder records)).isFinite = true ↔ _
    unfold largestDeviation
    rw [isFinite_foldl_maxNum_iff, List.forall_mem_map]
    · exact forall_congr' fun r => by rw [mem_inCaseOrder]
    · rw [List.forall_mem_map]
      exact fun r hr => hmagnitude r (mem_inCaseOrder.mp hr)

/-- The mean is finite if the sum of the deviations is. It does no harm to divide by their
    number. -/
theorem isFinite_meanDeviation_iff :
    (policy.certify kind records).meanDeviation.isFinite = true ↔
      (((inCaseOrder records).map Comparison.deviation).foldl (· + ·) (-0.0)).isFinite = true := by
  rcases eq_or_ne records [] with rfl | hne
  · rw [inCaseOrder_nil]
    exact iff_of_true isFinite_zero isFinite_neg_zero
  · rw [policy.certify_of_ne_nil kind hne]
    change (meanDeviation (inCaseOrder records)).isFinite = true ↔ _
    unfold meanDeviation
    refine ⟨isFinite_of_div, fun h => isFinite_div_ofNat h ?_⟩
    rwa [(inCaseOrder_perm records).length_eq, Ne, List.length_eq_zero_iff]

/-- The deviations of the failures are finite if all deviations are, provided that those of
    the other records are. -/
theorem isFinite_failureDetails_iff
    (hmatch : ∀ r ∈ records, r.isMatch = true → r.deviation.isFinite = true) :
    (∀ f ∈ (policy.certify kind records).failureDetails, f.deviation.isFinite = true) ↔
      ∀ r ∈ records, r.deviation.isFinite = true := by
  rcases eq_or_ne records [] with rfl | hne
  · exact iff_of_true (List.forall_mem_nil _) (List.forall_mem_nil _)
  · rw [policy.certify_of_ne_nil kind hne]
    change (∀ f ∈ ((inCaseOrder records).filter fun c => !c.isMatch).map Failure.ofComparison,
      f.deviation.isFinite = true) ↔ _
    rw [List.forall_mem_map]
    constructor
    · -- A record is a failure unless it matches.
      intro h r hr
      cases hr' : r.isMatch with
      | true => exact hmatch r hr hr'
      | false => exact h r (List.mem_filter.mpr ⟨mem_inCaseOrder.mpr hr, by rw [hr']; rfl⟩)
    · exact fun h r hr => h r (mem_inCaseOrder.mp (List.mem_filter.mp hr).1)

end

end Policy

namespace Interleaving

/-- The deviations of the cases of a run that went through, in the order of the cases. -/
def State.deviations (s : State) (c : Comparator) : List Float :=
  (inCaseOrder (s.lanes.filterMap fun lane => lane.progress.outcomes?.map fun o =>
    c.compare o.reference o.candidate)).map Comparison.deviation

/-- Whether the comparison of some case of a run leaves the range of doubles. -/
def State.Overflows (s : State) (c : Comparator) : Prop :=
  ∃ lane ∈ s.lanes, ∃ o, lane.progress.outcomes? = some o ∧ c.Overflows o.reference o.candidate

section

variable {e : Executor} {reference candidate : Conduct} {comparator : Comparator}
  {cases : List Case} {m : Moment} {s : State} {records : List Comparison}

theorem isMagnitude_of_mem_records
    (h : Returns e reference candidate comparator cases m s (.ok records)) :
    ∀ r ∈ records, IsMagnitude r.deviation := by
  intro r hr
  obtain ⟨lane, _, o, _, rfl⟩ := (mem_records h).mp hr
  exact Comparator.isMagnitude_compare

theorem isFinite_of_mem_records_of_isMatch (hnonneg : 0 ≤ comparator.epsilon)
    (hfinite : comparator.epsilon.isFinite = true)
    (h : Returns e reference candidate comparator cases m s (.ok records)) :
    ∀ r ∈ records, r.isMatch = true → r.deviation.isFinite = true := by
  intro r hr hmatch
  obtain ⟨lane, _, o, _, rfl⟩ := (mem_records h).mp hr
  exact Comparator.isFinite_compare_of_isMatch hnonneg hfinite hmatch

/-- All deviations of a run are finite, unless some comparison leaves the range of doubles. -/
theorem isFinite_records_iff
    (h : Returns e reference candidate comparator cases m s (.ok records)) :
    (∀ r ∈ records, r.deviation.isFinite = true) ↔ ¬ s.Overflows comparator := by
  constructor
  · rintro hall ⟨lane, hlane, o, ho, hover⟩
    have hrecord := (mem_records h).mpr ⟨lane, hlane, o, ho, rfl⟩
    exact Comparator.isFinite_compare_iff.mp (hall _ hrecord) hover
  · intro hover r hr
    obtain ⟨lane, hlane, o, ho, rfl⟩ := (mem_records h).mp hr
    exact Comparator.isFinite_compare_iff.mpr fun h => hover ⟨lane, hlane, o, ho, h⟩

/-- The deviations of the records are those of the cases. -/
theorem deviations_eq (h : Returns e reference candidate comparator cases m s (.ok records)) :
    (inCaseOrder records).map Comparison.deviation = s.deviations comparator := by
  unfold State.deviations inCaseOrder
  rw [List.mergeSort_of_pairwise, records_eq_outcomes h]
  exact (records_pairwise h).imp decide_eq_true

end

end Interleaving

namespace Validator

section

variable {c : Config} {dialect : Pattern.Dialect} {v : Validator} {reference candidate : Conduct}
  {domain : Domain} {m : Moment} {s : Interleaving.State} {report : Report}

/-- The deviations that a report tells of are finite, unless the comparison of some case
    leaves the range of doubles: then the largest deviation is not finite, and one of the
    failures has a deviation that is not finite either. The mean is finite exactly if the sum
    of the deviations, taken in the order of the cases, stays in range, which it does not if
    some comparison leaves it. In the JSON text of the report each of these deviations is a
    number of JSON if it is finite, and otherwise it is `null`. -/
theorem reports_isFinite_iff (hv : ofConfig c dialect = .ok v)
    (h : v.Reports reference candidate domain m s report) :
    (report.maxDeviation.isFinite = true ↔ ¬ s.Overflows v.comparator) ∧
      ((∀ f ∈ report.failureDetails, f.deviation.isFinite = true) ↔
        ¬ s.Overflows v.comparator) ∧
      (report.meanDeviation.isFinite = true ↔
        ((s.deviations v.comparator).foldl (· + ·) (-0.0)).isFinite = true) ∧
      (report.meanDeviation.isFinite = true → ¬ s.Overflows v.comparator) ∧
      ∀ cap, report.WritesDeviations cap := by
  have hwrites := fun cap => report.writesDeviations cap
  cases h with
  | inconclusive _ =>
      -- Where nothing was compared, all figures are zero.
      have hnone : ¬ Interleaving.State.Overflows (.start [] m) v.comparator :=
        fun ⟨_, hlane, _⟩ => nomatch hlane
      have hdeviations : Interleaving.State.deviations (.start [] m) v.comparator = [] :=
        congrArg (List.map Comparison.deviation) inCaseOrder_nil
      rw [hdeviations]
      exact ⟨iff_of_true isFinite_zero hnone, iff_of_true (List.forall_mem_nil _) hnone,
        iff_of_true isFinite_zero isFinite_neg_zero, fun _ => hnone, hwrites⟩
  | @ofRecords cases s records hcases hne h =>
      obtain ⟨rfl, hsound⟩ := ofConfig_ok hv
      have hnonneg : 0 ≤ v.comparator.epsilon := hsound.epsilon_nonneg v.config.kind
      have hepsilon : v.comparator.epsilon.isFinite = true := hsound.isFinite_epsilon v.config.kind
      have hall := Interleaving.isFinite_records_iff h
      have hmean :=
        (Policy.ofProfile v.config.profile).isFinite_meanDeviation_iff v.config.kind records
      rw [Interleaving.deviations_eq h] at hmean
      refine ⟨?_, ?_, hmean, fun hfinite => ?_, hwrites⟩
      · rw [← hall]
        exact Policy.isFinite_maxDeviation_iff _ _ _ (Interleaving.isMagnitude_of_mem_records h)
      · rw [← hall]
        exact Policy.isFinite_failureDetails_iff _ _ _
          (Interleaving.isFinite_of_mem_records_of_isMatch hnonneg hepsilon h)
      · rw [← hall]
        -- A sum that is finite has finite terms.
        have hterms := (isFinite_of_foldl_add (hmean.mp hfinite)).2
        rw [← Interleaving.deviations_eq h, List.forall_mem_map] at hterms
        exact fun r hr => hterms r (Policy.mem_inCaseOrder.mpr hr)

end

/-- Artifacts that put out one text each. -/
private def putting (r k : String) : Pair :=
  ⟨.answering fun case => .succeeded case.index r, .answering fun case => .succeeded case.index k⟩

/-- The report about such artifacts. -/
private def reportOn (v : Validator) (r k : String) (cases : List Case) : Report :=
  (Policy.ofProfile v.config.profile).certifyOrdered v.config.kind (cases.map fun case =>
    v.comparator.compare (.succeeded case.index r) (.succeeded case.index k))

private theorem exists_reports_reportOn {v : Validator} {r k : String} {cases : List Case}
    (hcases : v.cases ⟨[]⟩ = .ok cases) (hne : cases ≠ [])
    (hok : (v.executor.execute (putting r k) v.comparator cases .start).1.isOk = true) :
    ∃ s, v.Reports ((putting r k).reference.conduct (v.executor.limits .start))
      ((putting r k).candidate.conduct (v.executor.limits .start)) ⟨[]⟩ .start s
      (reportOn v r k cases) := by
  obtain ⟨s, h⟩ := Interleaving.exists_returns_execute v.executor (putting r k) v.comparator cases
    .start
  cases hrun : (v.executor.execute (putting r k) v.comparator cases .start).1 with
  | error e =>
      rw [hrun] at hok
      exact nomatch hok
  | ok records =>
      rw [hrun] at h
      have hrecords := Interleaving.records_eq_alone (Artifact.conduct_answering_follows _ _)
        (Artifact.conduct_answering_follows _ _) h
      -- The cases are in order, and so are their records.
      have hsorted : (cases.map fun case => v.comparator.compare (.succeeded case.index r)
          (.succeeded case.index k)).Pairwise fun a b => decide (a.index ≤ b.index) = true := by
        have hindex : (cases.map Case.index).Pairwise (· < ·) := by
          rw [cases_index hcases]
          exact List.pairwise_lt_range
        rw [List.pairwise_map]
        refine (List.pairwise_map.mp hindex).imp fun hlt => decide_eq_true ?_
        rw [Comparator.compare_index, Comparator.compare_index]
        exact hlt.le
      have hreports := Reports.ofRecords hcases hne h
      rw [List.mergeSort_of_pairwise hsorted] at hrecords
      rw [hrecords, report, Policy.certify_of_ne_nil _ _ (List.map_eq_nil_iff.not.mpr hne),
        inCaseOrder, List.mergeSort_of_pairwise hsorted] at hreports
      exact ⟨s, hreports⟩

/-- A validator that measures distances, on two cases. -/
private def absolutely : Validator :=
  ⟨{ Config.standard with sampleSize := 2, kind := .absolute }, .whole⟩

private def twoCases : List Case :=
  [⟨0, Domain.sample ⟨[]⟩ 42 0, .random⟩, ⟨1, Domain.sample ⟨[]⟩ 42 1, .random⟩]

/-- Two cases on which the outputs are so far apart that twice the distance is not a double.
    The largest deviation is finite, and the mean is not. -/
theorem reports_isFinite_iff_farApart :
    ∃ c v s report, ofConfig c = .ok v ∧
      v.Reports ((putting "1e308" "-7e307").reference.conduct (v.executor.limits .start))
        ((putting "1e308" "-7e307").candidate.conduct (v.executor.limits .start)) ⟨[]⟩ .start s
        report ∧
      report.maxDeviation.isFinite = true ∧ ¬ s.Overflows v.comparator ∧
      report.meanDeviation.isFinite = false ∧
      ((s.deviations v.comparator).foldl (· + ·) (-0.0)).isFinite = false := by
  have hsound : absolutely.config.IsSound :=
    Config.isSound_standard .absolute _ (by decide) Config.standard_thresholds.2
  have hv : ofConfig absolutely.config = .ok absolutely := ofConfig_ok_iff.mpr ⟨rfl, hsound, rfl⟩
  have hcases : absolutely.cases ⟨[]⟩ = .ok twoCases := rfl
  obtain ⟨s, h⟩ := exists_reports_reportOn (r := "1e308") (k := "-7e307") hcases
    (List.cons_ne_nil _ _) (by decide +kernel)
  have hlargest : (reportOn absolutely "1e308" "-7e307" twoCases).maxDeviation.isFinite = true := by
    decide +kernel
  have hmean : (reportOn absolutely "1e308" "-7e307" twoCases).meanDeviation.isFinite = false := by
    decide +kernel
  obtain ⟨hlargest', -, hmean', -⟩ := reports_isFinite_iff hv h
  rw [hmean, Bool.false_eq_true, false_iff, Bool.not_eq_true] at hmean'
  exact ⟨_, _, s, _, hv, h, hlargest, hlargest'.mp hlargest, hmean, hmean'⟩

/-- A validator that measures deviations relative to the reference, on one case. -/
private def relatively : Validator :=
  ⟨{ Config.standard with sampleSize := 1 }, .whole⟩

private def oneCase : List Case :=
  [⟨0, Domain.sample ⟨[]⟩ 42 0, .random⟩]

/-- A reference that puts out zero, and a candidate that puts out a double so large that it
    cannot be divided by the machine epsilon. No deviation of the report is finite, and the
    JSON text says `null` for each of them. -/
theorem reports_null :
    ∃ c v s report, ofConfig c = .ok v ∧
      v.Reports ((putting "0" "1e300").reference.conduct (v.executor.limits .start))
        ((putting "0" "1e300").candidate.conduct (v.executor.limits .start)) ⟨[]⟩ .start s report ∧
      report.maxDeviation.isFinite = false ∧ report.meanDeviation.isFinite = false ∧
      (∃ f ∈ report.failureDetails, f.deviation.isFinite = false) ∧
      Json.HasEntry (report.render defaultFailureCap .json) 1 "max_deviation" "null" ∧
      Json.HasEntry (report.render defaultFailureCap .json) 1 "mean_deviation" "null" ∧
      Json.HasEntry (report.render defaultFailureCap .json) 3 "deviation" "null" := by
  have hsound : relatively.config.IsSound :=
    Config.isSound_standard .relative _ (by decide) Config.standard_thresholds.2
  have hv : ofConfig relatively.config = .ok relatively := ofConfig_ok_iff.mpr ⟨rfl, hsound, rfl⟩
  have hcases : relatively.cases ⟨[]⟩ = .ok oneCase := rfl
  obtain ⟨s, h⟩ := exists_reports_reportOn (r := "0") (k := "1e300") hcases
    (List.cons_ne_nil _ _) (by decide +kernel)
  have hlargest : (reportOn relatively "0" "1e300" oneCase).maxDeviation.isFinite = false := by
    decide +kernel
  have hmean : (reportOn relatively "0" "1e300" oneCase).meanDeviation.isFinite = false := by
    decide +kernel
  have hfailure : ∃ f ∈ (reportOn relatively "0" "1e300" oneCase).failureDetails.take
      defaultFailureCap, f.deviation.isFinite = false := by
    decide +kernel
  obtain ⟨f, hf, hdeviation⟩ := hfailure
  obtain ⟨hwrites, hwrites', hwrites''⟩ :=
    (reportOn relatively "0" "1e300" oneCase).writesDeviations defaultFailureCap
  exact ⟨_, _, s, _, hv, h, hlargest, hmean, ⟨f, List.mem_of_mem_take hf, hdeviation⟩,
    hwrites.null hlargest, hwrites'.null hmean, (hwrites'' f hf).null hdeviation⟩

end Validator

end Concordance
