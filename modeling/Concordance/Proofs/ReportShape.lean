import Concordance.Proofs.ArrivalOrder
import Concordance.Proofs.Binary64.Magnitude
import Concordance.Proofs.SampleSize

/-!
# How a Report Hangs Together

What the figures of a report have to do with one another, and with the records it was
made from.

Each figure is computed by itself from the records in the order of their cases: some are
counted, some filtered, the deviations are folded up in two ways, and the values are pooled
for the distribution test. Nobody compares the outcomes afterwards. They agree all the same,
for whatever records there are: with several of one case, with deviations that are no
numbers, with failures that have no reason.

## Main definitions

* `Failure.TellsOf`: A failure is about a record.
* `Failure.Lists`: Failures are about all the records that do not match, in order.
* `Policy.Accounts`: How a report and its records hang together.

## Theorems

* `inCaseOrder_stable`: Records of one case stay in the order of their arrival.
* `lists_certifyOrdered`: The failures of a report.
* `similarity_eq_pass_iff`: When the distribution test is passed.
* `largestDeviation_mem`, `le_largestDeviation`: The largest deviation.
* `certify_accounts`: Every report accounts for its records.
-/

namespace Concordance

open Binary64

namespace Failure

/-- Whether a failure is about a record. A record without a reason is out of tolerance. -/
structure TellsOf (f : Failure) (c : Comparison) : Prop where
  index_eq : f.index = c.index
  deviation_eq : f.deviation = c.deviation
  discrepancy_eq : f.discrepancy = c.discrepancy.getD .outOfTolerance
  outputs_eq : f.outputs = c.excerpts

/-- Whether failures are about the records that do not match: about every one of them and no
    other, in the order of their cases, and about those of one case in the order in which they
    came. -/
def Lists (details : List Failure) (records : List Comparison) : Prop :=
  ∃ failed : List Comparison,
    List.Forall₂ TellsOf details failed ∧
      failed.Perm (records.filter fun c => !c.isMatch) ∧
      failed.Pairwise (fun a b => a.index ≤ b.index) ∧
      ∀ i, failed.filter (fun c => decide (c.index = i))
        = (records.filter fun c => !c.isMatch).filter fun c => decide (c.index = i)

end Failure

namespace Policy

/-- How a report hangs together with the records it was made from. -/
structure Accounts (policy : Policy) (kind : OutputKind) (records : List Comparison)
    (report : Report) : Prop where
  kind_eq : report.kind = kind
  cases_eq : report.cases = records.length
  failures_eq : report.failures = records.countP fun c => !c.isMatch
  failures_le : report.failures ≤ report.cases
  length_failureDetails : report.failureDetails.length = report.failures
  lists : Failure.Lists report.failureDetails records
  /-- What is subtracted from the number of cases is no more than that. -/
  passRate_eq : report.passRate = if records = [] then 0 else
    Float.ofNat (records.countP fun c => c.isMatch) / Float.ofNat records.length
  inconclusive_iff : report.verdict = .inconclusive ↔ records = []
  of_certified : report.verdict = .certified →
    report.failures = 0 ∧ report.failureDetails = [] ∧
      policy.minConfidence ≤ report.confidence ∧ report.maxDeviation ≤ policy.maxDeviation
  isSome_ksStatistic : report.ksStatistic.isSome = true ↔ report.similarity ≠ .notApplicable
  isSome_ksPValue : report.ksPValue.isSome = true ↔ report.similarity ≠ .notApplicable
  of_applicable : report.similarity ≠ .notApplicable →
    kind.isNumeric = true ∧ policy.minSamples ≤ records.length
  pass_iff : report.similarity = .pass ↔ ∃ p, report.ksPValue = some p ∧ policy.significance ≤ p
  maxDeviation_mem : report.maxDeviation = 0 ∨ ∃ c ∈ records, c.deviation = report.maxDeviation
  le_maxDeviation : ∀ c ∈ records, c.deviation.isNaN = false → c.deviation ≤ report.maxDeviation

/-! ### Failures -/

theorem inCaseOrder_stable (records : List Comparison) (i : Nat) :
    (inCaseOrder records).filter (fun c => decide (c.index = i))
      = records.filter fun c => decide (c.index = i) :=
  filter_mergeSort_key Comparison.index records i

theorem tellsOf_ofComparison (c : Comparison) : (Failure.ofComparison c).TellsOf c :=
  ⟨rfl, rfl, rfl, rfl⟩

/-- The failures of a report are about the records that do not match. -/
theorem lists_certifyOrdered (policy : Policy) (kind : OutputKind) (records : List Comparison) :
    Failure.Lists (policy.certifyOrdered kind (inCaseOrder records)).failureDetails records := by
  refine ⟨(inCaseOrder records).filter fun c => !c.isMatch, ?_, (inCaseOrder_perm records).filter _,
    (inCaseOrder_pairwise records).sublist List.filter_sublist, fun i => ?_⟩
  · exact List.forall₂_map_left_iff.mpr (List.forall₂_same.mpr fun c _ => tellsOf_ofComparison c)
  · -- It does not matter which of the two filters comes first.
    rw [List.filter_comm, inCaseOrder_stable, List.filter_comm]

theorem countP_isMatch (records : List Comparison) :
    records.length - records.countP (fun c => !c.isMatch) = records.countP fun c => c.isMatch := by
  have hadd := records.length_eq_countP_add_countP fun c => c.isMatch
  have hnot : records.countP (fun c => decide ¬ (c.isMatch = true))
      = records.countP fun c => !c.isMatch :=
    List.countP_congr fun c _ => by cases c.isMatch <;> decide
  omega

/-! ### The distribution test -/

theorem similarity_eq_pass_iff (policy : Policy) {test : Option KolmogorovSmirnov.TestResult} :
    policy.similarity test = .pass ↔
      ∃ p, test.map (·.pValue) = some p ∧ policy.significance ≤ p := by
  cases test with
  | none => exact iff_of_false nofun fun ⟨_, h, _⟩ => nomatch h
  | some r =>
      have hpasses : r.passes policy.significance = true ↔ policy.significance ≤ r.pValue :=
        decide_eq_true_iff
      unfold similarity
      dsimp only
      by_cases h : r.passes policy.significance = true
      · rw [if_pos h]
        exact iff_of_true rfl ⟨r.pValue, rfl, hpasses.mp h⟩
      · rw [if_neg h]
        refine iff_of_false nofun ?_
        rintro ⟨p, hp, hle⟩
        cases hp
        exact h (hpasses.mpr hle)

/-! ### The largest deviation -/

theorem largestDeviation_mem (records : List Comparison) :
    largestDeviation records = 0 ∨ ∃ c ∈ records, c.deviation = largestDeviation records :=
  (List.mem_cons.mp (foldl_maxNum_mem _ 0)).imp_right List.mem_map.mp

/-- A deviation that is no number is passed over, and every other one counts. -/
theorem le_largestDeviation {records : List Comparison} {c : Comparison} (hc : c ∈ records)
    (hnumber : c.deviation.isNaN = false) : c.deviation ≤ largestDeviation records :=
  (le_foldl_maxNum isMagnitude_zero.isNaN_eq_false).2 _ (List.mem_map_of_mem hc) hnumber

/-! ### The report -/

theorem accounts_inconclusive (policy : Policy) (kind : OutputKind) :
    policy.Accounts kind [] (.inconclusive kind) where
  kind_eq := rfl
  cases_eq := rfl
  failures_eq := rfl
  failures_le := Nat.le_refl 0
  length_failureDetails := rfl
  lists := ⟨[], .nil, .nil, .nil, fun _ => rfl⟩
  passRate_eq := rfl
  inconclusive_iff := iff_of_true rfl rfl
  of_certified := nofun
  isSome_ksStatistic := iff_of_false Bool.false_ne_true fun h => h rfl
  isSome_ksPValue := iff_of_false Bool.false_ne_true fun h => h rfl
  of_applicable h := absurd rfl h
  pass_iff := iff_of_false nofun fun ⟨_, h, _⟩ => nomatch h
  maxDeviation_mem := Or.inl rfl
  le_maxDeviation := nofun

theorem accounts_certifyOrdered (policy : Policy) (kind : OutputKind) {records : List Comparison}
    (hne : records ≠ []) :
    policy.Accounts kind records (policy.certifyOrdered kind (inCaseOrder records)) := by
  -- What is counted in the order of the cases is what there is to count.
  have hperm := inCaseOrder_perm records
  have hcases : (policy.certifyOrdered kind (inCaseOrder records)).cases = records.length :=
    hperm.length_eq
  have hfailures : (policy.certifyOrdered kind (inCaseOrder records)).failures
      = records.countP fun c => !c.isMatch :=
    List.countP_eq_length_filter.symm.trans (hperm.countP_eq _)
  have hdetails : (policy.certifyOrdered kind (inCaseOrder records)).failureDetails.length
      = (policy.certifyOrdered kind (inCaseOrder records)).failures := List.length_map _
  exact {
    kind_eq := rfl
    cases_eq := hcases
    failures_eq := hfailures
    failures_le := by
      rw [hcases, hfailures]
      exact List.countP_le_length
    length_failureDetails := hdetails
    lists := lists_certifyOrdered policy kind records
    passRate_eq := by
      unfold Report.passRate
      rw [hcases, hfailures, countP_isMatch, if_neg hne,
        if_neg (mt List.eq_nil_of_length_eq_zero hne)]
    inconclusive_iff := by
      refine iff_of_false ?_ hne
      unfold certifyOrdered
      dsimp only
      split <;> exact nofun
    of_certified := fun h => by
      obtain ⟨hfailed, hdeviation, hconfidence, -⟩ :=
        (policy.certifyOrdered_verdict_iff kind (inCaseOrder records)).mp h
      have hnone : (policy.certifyOrdered kind (inCaseOrder records)).failureDetails = [] :=
        List.map_eq_nil_iff.mpr hfailed
      exact ⟨hdetails.symm.trans (congrArg List.length hnone), hnone, hconfidence, hdeviation⟩
    isSome_ksStatistic := (Bool.eq_iff_iff.mp Option.isSome_map).trans
      policy.similarity_ne_notApplicable_iff.symm
    isSome_ksPValue := (Bool.eq_iff_iff.mp Option.isSome_map).trans
      policy.similarity_ne_notApplicable_iff.symm
    of_applicable := fun h => by
      have happlicable := (policy.testDistributions?_isSome_iff kind).mp
        (policy.similarity_ne_notApplicable_iff.mp h)
      exact ⟨happlicable.isNumeric, happlicable.records_ge.trans hperm.length_eq.le⟩
    pass_iff := policy.similarity_eq_pass_iff
    maxDeviation_mem :=
      (largestDeviation_mem (inCaseOrder records)).imp_right fun ⟨c, hc, heq⟩ =>
        ⟨c, mem_inCaseOrder.mp hc, heq⟩
    le_maxDeviation := fun c hc => le_largestDeviation (mem_inCaseOrder.mpr hc) }

/-- Every report accounts for its records, whatever they hold. -/
theorem certify_accounts (policy : Policy) (kind : OutputKind) (records : List Comparison) :
    policy.Accounts kind records (policy.certify kind records) := by
  by_cases hne : records = []
  · subst hne
    exact policy.accounts_inconclusive kind
  · rw [policy.certify_of_ne_nil kind hne]
    exact policy.accounts_certifyOrdered kind hne

end Policy

end Concordance
