import Concordance.Proofs.Acceptance
import Concordance.Proofs.Interleaving.Records
import Concordance.Proofs.Options
import Mathlib.Data.List.Nodup

/-!
# What a Certificate Means

A validation certifies a candidate if every case was accepted and the thresholds
are met, and not otherwise.

A report is three steps away from the outcomes it rests on: the run puts them into
records, the records are put in order, and the verdict is read off figures that
are computed from all of them. The run loses no case and adds none, whatever the
order of its steps was; the order of the records does not matter to whether all of
them match; and the largest deviation is within the allowed one only if each
deviation is. So the verdict can be told case by case, from the outcomes of the
two calls.

## Main definitions

* `Validator.Reports`: The reports that a validation may give.
* `Validator.Concludes`: The reports and the errors that it may give.

## Theorems

* `largestDeviation_le_iff`: When the largest deviation is allowed.
* `certify_iff`: When records are certified.
* `exists_concludes_alike`, `exists_concludes_validate`, `exists_reports_validate`:
  What one worker gives may be given.
* `reports_certified_iff`: When a candidate is certified.
-/

namespace Concordance

namespace Policy

theorem inCaseOrder_perm (records : List Comparison) : (inCaseOrder records).Perm records :=
  List.mergeSort_perm _ _

theorem mem_inCaseOrder {records : List Comparison} {r : Comparison} :
    r ∈ inCaseOrder records ↔ r ∈ records :=
  (inCaseOrder_perm records).mem_iff

theorem certify_of_ne_nil (policy : Policy) (kind : OutputKind) {records : List Comparison}
    (h : records ≠ []) :
    policy.certify kind records = policy.certifyOrdered kind (inCaseOrder records) := by
  unfold certify
  rw [if_neg]
  rwa [List.isEmpty_iff]

/-- The verdict, read off the figures of a report. -/
theorem certifyOrdered_verdict_iff (policy : Policy) (kind : OutputKind)
    (records : List Comparison) :
    (policy.certifyOrdered kind records).verdict = .certified ↔
      records.filter (fun c => !c.isMatch) = [] ∧
        largestDeviation records ≤ policy.maxDeviation ∧
        policy.minConfidence
          ≤ (policy.certifyOrdered kind records).confidence ∧
        (policy.certifyOrdered kind records).similarity ≠ .fail := by
  unfold certifyOrdered
  dsimp only
  rw [← List.isEmpty_iff]
  split
  · rename_i h
    simp only [Bool.and_eq_true, decide_eq_true_eq] at h
    exact iff_of_true rfl ⟨h.1.1.1, h.1.1.2, h.1.2, h.2⟩
  · rename_i h
    simp only [Bool.and_eq_true, decide_eq_true_eq] at h
    exact iff_of_false nofun fun h' => h ⟨⟨⟨h'.1, h'.2.1⟩, h'.2.2.1⟩, h'.2.2.2⟩

/-- The largest of several deviations is allowed if each of them is, provided that
    none is NaN, which would be overlooked. -/
theorem largestDeviation_le_iff {records : List Comparison} {bound : Float} (hbound : 0 ≤ bound)
    (hnan : ∀ r ∈ records, r.deviation.isNaN = false) :
    largestDeviation records ≤ bound ↔ ∀ r ∈ records, r.deviation ≤ bound := by
  unfold largestDeviation
  rw [Binary64.foldl_maxNum_le_iff _ _ Deviation.isNaN_zero, List.forall_mem_map,
    and_iff_right hbound]
  intro y hy
  rcases List.mem_map.mp hy with ⟨r, hr, rfl⟩
  exact hnan r hr

theorem filter_failed_eq_nil {records : List Comparison} :
    records.filter (fun c => !c.isMatch) = [] ↔ ∀ r ∈ records, r.isMatch = true := by
  rw [List.filter_eq_nil_iff]
  exact forall₂_congr fun r _ => by rw [Bool.not_eq_true', Bool.not_eq_false]

/-- Where every record matches, the confidence is the bound for as many successes
    as there are records. -/
theorem certifyOrdered_confidence (policy : Policy) (kind : OutputKind)
    {records : List Comparison} (hmatch : ∀ r ∈ records, r.isMatch = true) :
    (policy.certifyOrdered kind records).confidence
      = wilsonBound .binary64 records.length records.length policy.z := by
  unfold certifyOrdered
  dsimp only
  rw [filter_failed_eq_nil.mpr hmatch]
  rfl

/-- Records are certified if all of them match with a deviation that is allowed,
    the bound for that many successes is high enough, and the distribution test
    does not fail. -/
theorem certify_iff (policy : Policy) (kind : OutputKind) {records : List Comparison}
    (hne : records ≠ []) (hmax : 0 ≤ policy.maxDeviation)
    (hnan : ∀ r ∈ records, r.isMatch = true → r.deviation.isNaN = false) :
    (policy.certify kind records).verdict = .certified ↔
      (∀ r ∈ records, r.isMatch = true ∧ r.deviation ≤ policy.maxDeviation) ∧
        policy.minConfidence
          ≤ wilsonBound .binary64 records.length records.length policy.z ∧
        (policy.certify kind records).similarity ≠ .fail := by
  have hperm := inCaseOrder_perm records
  -- Neither side depends on the order of the records.
  rw [policy.certify_of_ne_nil kind hne, ← hperm.length_eq]
  have hall : (∀ r ∈ records, r.isMatch = true ∧ r.deviation ≤ policy.maxDeviation) ↔
      ∀ r ∈ inCaseOrder records, r.isMatch = true ∧ r.deviation ≤ policy.maxDeviation :=
    forall_congr' fun r => by rw [mem_inCaseOrder]
  rw [hall]
  have hnan' : ∀ r ∈ inCaseOrder records, r.isMatch = true → r.deviation.isNaN = false :=
    fun r hr => hnan r (mem_inCaseOrder.mp hr)
  generalize inCaseOrder records = ordered at hnan'
  rw [certifyOrdered_verdict_iff, filter_failed_eq_nil, forall₂_and, and_assoc]
  refine and_congr_right fun hmatch => ?_
  -- Only records that match are sure to have a deviation that is a number.
  rw [largestDeviation_le_iff hmax fun r hr => hnan' r hr (hmatch r hr),
    policy.certifyOrdered_confidence kind hmatch]

/-- The distribution test is only asked of numbers. -/
theorem similarity_of_not_isNumeric (policy : Policy) {kind : OutputKind}
    (h : kind.isNumeric = false) (records : List Comparison) :
    (policy.certify kind records).similarity = .notApplicable := by
  unfold certify
  split
  · rfl
  · unfold certifyOrdered testDistributions?
    rw [h]
    rfl

end Policy

theorem Generator.cases_index (g : Generator) : g.cases.map Case.index = List.range g.size := by
  unfold cases
  rw [List.map_filterMap]
  refine (List.filterMap_congr fun i hi => ?_).trans List.filterMap_some
  unfold case?
  rw [if_neg (Nat.not_le.mpr (List.mem_range.mp hi))]
  split
  · rfl
  · rfl

namespace Validator

/-- The reports that a validation may give of two artifacts, each with the state
    in which its run ended, if there were cases to run at all. -/
inductive Reports (v : Validator) (reference candidate : Conduct) (domain : Domain) (m : Moment) :
    Interleaving.State → Report → Prop
  | inconclusive (h : v.cases domain = .ok []) :
      Reports v reference candidate domain m (.start [] m) (.inconclusive v.config.kind)
  | ofRecords {cases : List Case} {s : Interleaving.State} {records : List Comparison}
      (hcases : v.cases domain = .ok cases) (hne : cases ≠ [])
      (h : Interleaving.Returns v.executor reference candidate v.comparator cases m s
        (.ok records)) :
      Reports v reference candidate domain m s (v.report records)

/-- What a validation may give of two artifacts, a report or an error, each with the
    state in which its run ended, if there were cases to run at all. -/
inductive Concludes (v : Validator) (reference candidate : Conduct) (domain : Domain) (m : Moment) :
    Interleaving.State → Except ValidationError Report → Prop
  | refused {e : ValidationError} (h : v.cases domain = .error e) :
      Concludes v reference candidate domain m (.start [] m) (.error e)
  | inconclusive (h : v.cases domain = .ok []) :
      Concludes v reference candidate domain m (.start [] m) (.ok (.inconclusive v.config.kind))
  | returned {cases : List Case} {s : Interleaving.State}
      {result : Except RunError (List Comparison)}
      (hcases : v.cases domain = .ok cases) (hne : cases ≠ [])
      (h : Interleaving.Returns v.executor reference candidate v.comparator cases m s result) :
      Concludes v reference candidate domain m s ((result.map v.report).mapError .run)

/-- The reports among what a validation may give are those that it may report. -/
theorem Concludes.reports {v : Validator} {reference candidate : Conduct} {domain : Domain}
    {m : Moment} {s : Interleaving.State} {report : Report}
    (h : v.Concludes reference candidate domain m s (.ok report)) :
    v.Reports reference candidate domain m s report := by
  generalize hresult : (Except.ok report : Except ValidationError Report) = result at h
  cases h with
  | refused => exact nomatch hresult
  | inconclusive hcases =>
      rw [Except.ok.inj hresult]
      exact .inconclusive hcases
  | @returned cases s result hcases hne h =>
      cases result with
      | error e => exact nomatch hresult
      | ok records =>
          rw [Except.ok.inj hresult]
          exact .ofRecords hcases hne h

/-- What a validation gives with one worker is among what it may give, at the moment at
    which it is there. -/
theorem exists_concludes_alike (v : Validator) (pair : Pair) (domain : Domain) (m : Moment) :
    ∃ s, v.Concludes (pair.reference.conduct (v.executor.limits m))
        (pair.candidate.conduct (v.executor.limits m)) domain m s (v.validate pair domain m).1 ∧
      s.moment.Alike (v.validate pair domain m).2 := by
  unfold validate
  cases hcases : v.cases domain with
  | error e => exact ⟨_, .refused hcases, rfl, rfl⟩
  | ok cases =>
      cases cases with
      | nil => exact ⟨_, .inconclusive hcases, rfl, rfl⟩
      | cons case cases =>
          rcases Interleaving.exists_returns_inTurn v.executor pair v.comparator (case :: cases) m
            with ⟨s, hreturns, _, halike⟩
          have hconcludes := Concludes.returned hcases (List.cons_ne_nil _ _) hreturns
          refine ⟨s, ?_⟩
          dsimp only
          rcases hrun : v.executor.execute pair v.comparator (case :: cases) m with ⟨result, m'⟩
          rw [hrun] at hconcludes halike
          cases result with
          | error e => exact ⟨hconcludes, halike⟩
          | ok records => exact ⟨hconcludes, halike⟩

/-- What a validation gives with one worker is among what it may give. -/
theorem exists_concludes_validate (v : Validator) (pair : Pair) (domain : Domain) (m : Moment) :
    ∃ s, v.Concludes (pair.reference.conduct (v.executor.limits m))
      (pair.candidate.conduct (v.executor.limits m)) domain m s (v.validate pair domain m).1 := by
  rcases v.exists_concludes_alike pair domain m with ⟨s, hconcludes, _⟩
  exact ⟨s, hconcludes⟩

/-- What a validation reports with one worker is one of the reports that it may
    give. -/
theorem exists_reports_validate (v : Validator) (pair : Pair) (domain : Domain) (m : Moment)
    {report : Report} (h : (v.validate pair domain m).1 = .ok report) :
    ∃ s, v.Reports (pair.reference.conduct (v.executor.limits m))
      (pair.candidate.conduct (v.executor.limits m)) domain m s report := by
  rcases v.exists_concludes_validate pair domain m with ⟨s, hconcludes⟩
  rw [h] at hconcludes
  exact ⟨s, hconcludes.reports⟩

/-- The cases of a validation are numbered from zero up to the sample size. -/
theorem cases_index {v : Validator} {domain : Domain} {cases : List Case}
    (h : v.cases domain = .ok cases) :
    cases.map Case.index = List.range v.config.sampleSize := by
  unfold Validator.cases Generator.ofDomain at h
  simp only [bind, Except.bind, pure, Except.pure] at h
  cases hcheck : domain.check with
  | error fault =>
      rw [hcheck] at h
      exact nomatch h
  | ok u =>
      rw [hcheck] at h
      rw [← Except.ok.inj h]
      exact Generator.cases_index _

/-- There are as many cases as were asked for. -/
theorem cases_length {v : Validator} {domain : Domain} {cases : List Case}
    (h : v.cases domain = .ok cases) : cases.length = v.config.sampleSize := by
  rw [← List.length_map (f := Case.index), cases_index h, List.length_range]

section

variable {c : Config} {dialect : Pattern.Dialect} {v : Validator} {reference candidate : Conduct}
  {domain : Domain} {m : Moment} {s : Interleaving.State} {report : Report}

/-- The records of a validation are certified if the outcomes of every case are
    accepted and the thresholds are met. -/
theorem report_certified_iff (hsound : v.config.IsSound dialect) {cases : List Case}
    {records : List Comparison} (hne : cases ≠ [])
    (h : Interleaving.Returns v.executor reference candidate v.comparator cases m s
      (.ok records)) :
    (v.report records).verdict = .certified ↔
      (∀ lane ∈ s.lanes, ∃ o, lane.progress.outcomes? = some o ∧
        v.comparator.Accepts v.config.maxDeviation o.reference o.candidate) ∧
      v.config.minConfidence
        ≤ wilsonBound .binary64 cases.length cases.length confidenceZ ∧
      (v.report records).similarity ≠ .fail := by
  have hepsilon : 0 ≤ v.comparator.epsilon := hsound.epsilon_nonneg v.config.kind
  have hmax : 0 ≤ v.config.maxDeviation := Config.nonneg_of_isNonNegative hsound.maxDeviation
  -- There is a record for every case.
  have hlength := Interleaving.records_length h
  have hnonempty : records ≠ [] := by
    rw [← List.length_pos_iff, hlength, List.length_pos_iff]
    exact hne
  have hnan : ∀ record ∈ records, record.isMatch = true → record.deviation.isNaN = false := by
    intro record hrecord hmatch
    rcases (Interleaving.mem_records h).mp hrecord with ⟨_, _, o, _, rfl⟩
    exact ((Binary64.le_iff _ _).mp
      (v.comparator.deviation_le_of_isMatch hepsilon hmatch)).1
  have hcertify := Policy.certify_iff (.ofProfile v.config.profile) v.config.kind hnonempty hmax
    hnan
  rw [hlength] at hcertify
  refine hcertify.trans (and_congr_left fun _ => ?_)
  constructor
  · intro hall lane hlane
    rcases Interleaving.finished_of_ok h lane hlane with ⟨o, ho, _⟩
    have houtcomes : lane.progress.outcomes? = some o := by
      rw [ho]
      rfl
    exact ⟨o, houtcomes, (v.comparator.compare_accepts_iff hepsilon hmax _ _).mp
      (hall _ ((Interleaving.mem_records h).mpr ⟨lane, hlane, o, houtcomes, rfl⟩))⟩
  · intro hall record hrecord
    rcases (Interleaving.mem_records h).mp hrecord with ⟨lane, hlane, o, ho, rfl⟩
    rcases hall lane hlane with ⟨o', ho', haccepts⟩
    cases ho.symm.trans ho'
    exact (v.comparator.compare_accepts_iff hepsilon hmax _ _).mpr haccepts

/-- A case of a run is found again among the lanes, once. -/
theorem forall_lane_iff {cases : List Case} (hcases : v.cases domain = .ok cases)
    {σ : Interleaving.Setting} (h : Interleaving.Run σ (.start cases m) s)
    (P : Interleaving.Lane → Prop) :
    (∀ lane ∈ s.lanes, P lane) ↔
      ∀ i < v.config.sampleSize, ∃ lane ∈ s.lanes, lane.case.index = i ∧ P lane := by
  have hlanes : s.lanes.map (fun lane => lane.case.index) = List.range v.config.sampleSize := by
    rw [← cases_index hcases]
    have hrun := congrArg (List.map Case.index) (Interleaving.run_cases h)
    rw [List.map_map, Interleaving.State.start, List.map_map, List.map_map] at hrun
    exact hrun
  constructor
  · intro hall i hi
    rw [← List.mem_range, ← hlanes] at hi
    rcases List.mem_map.mp hi with ⟨lane, hlane, hindex⟩
    exact ⟨lane, hlane, hindex, hall lane hlane⟩
  · intro hall lane hlane
    have hindex : lane.case.index < v.config.sampleSize := by
      rw [← List.mem_range, ← hlanes]
      exact List.mem_map_of_mem hlane
    rcases hall _ hindex with ⟨lane', hlane', heq, hP⟩
    -- No number is given twice, so it is the same case.
    have hnodup : (s.lanes.map fun lane => lane.case.index).Nodup := by
      rw [hlanes]
      exact List.nodup_range
    rwa [← List.inj_on_of_nodup_map hnodup hlane' hlane heq]

/-- A candidate is certified if there is a case at all, on every case both calls
    succeeded with outputs that are accepted, the bound for so many successes is
    as high as was asked for, and the distribution test does not fail; and it is
    certified in no other case. The artifacts may do what they like, and so may
    the caller, and patterns may be of any dialect. -/
theorem reports_certified_iff (hv : ofConfig c dialect = .ok v)
    (h : v.Reports reference candidate domain m s report) :
    report.verdict = .certified ↔
      1 ≤ c.sampleSize ∧
        (∀ i < c.sampleSize, ∃ lane ∈ s.lanes, lane.case.index = i ∧
          ∃ o, lane.progress.outcomes? = some o ∧
            v.comparator.Accepts c.maxDeviation o.reference o.candidate) ∧
        c.minConfidence ≤ wilsonBound .binary64 c.sampleSize c.sampleSize confidenceZ ∧
        report.similarity ≠ .fail := by
  rcases ofConfig_ok hv with ⟨rfl, hsound⟩
  cases h with
  | inconclusive hcases =>
      -- There are no cases, and nothing is certified without any.
      have hsize : v.config.sampleSize = 0 := by
        have hlength := congrArg List.length (cases_index hcases)
        rw [List.length_range] at hlength
        exact hlength.symm
      rw [hsize]
      exact iff_of_false nofun fun hall => nomatch hall.1
  | @ofRecords cases s records hcases hne hreturns =>
      have hlength : cases.length = v.config.sampleSize := by
        rw [← List.length_map (f := Case.index), cases_index hcases, List.length_range]
      have hpos : 1 ≤ v.config.sampleSize := by
        rw [← hlength]
        exact List.length_pos_iff.mpr hne
      have hreport := report_certified_iff hsound hne hreturns
      rw [hlength, forall_lane_iff hcases hreturns.run] at hreport
      exact hreport.trans (and_iff_right hpos).symm

end

/-- One case on which both artifacts put out the same label. -/
theorem reports_certified_iff_label :
    ∃ c v s report, ofConfig c = .ok v ∧
      v.Reports (fun case _ o => o = .succeeded case.index "a")
        (fun case _ o => o = .succeeded case.index "a") ⟨[]⟩ .start s report ∧
      report.verdict = .certified := by
  let c : Config :=
    { Config.standard with sampleSize := 1, minConfidence := 0.125, kind := .label }
  let v : Validator := ⟨c, .whole⟩
  have hsound : c.IsSound :=
    Config.isSound_standard .label _ (by decide) (by decide +kernel)
  have hv : ofConfig c = .ok v := ofConfig_ok_iff.mpr ⟨rfl, hsound, rfl⟩
  rcases Interleaving.exists_returns_single (e := v.executor) rfl
    (fun case _ o => o = .succeeded case.index "a")
    (fun case _ o => o = .succeeded case.index "a") v.comparator
    ⟨0, Domain.sample ⟨[]⟩ c.seed 0, .random⟩ (m := .start) rfl (fun _ => rfl)
    (fun _ => rfl) with ⟨s, h, _, hlanes, _⟩
  have hok : ∃ records, settle [(CaseResult.ofOutcomes v.comparator 0
      ⟨.succeeded 0 "a", .succeeded 0 "a"⟩).1] none false = .ok records := ⟨_, rfl⟩
  rcases hok with ⟨records, hok⟩
  rw [hok] at h
  have hreports : v.Reports (fun case _ o => o = .succeeded case.index "a")
      (fun case _ o => o = .succeeded case.index "a") ⟨[]⟩ .start s (v.report records) :=
    .ofRecords rfl (List.cons_ne_nil _ _) h
  refine ⟨c, v, s, v.report records, hv, hreports, (reports_certified_iff hv hreports).mpr
    ⟨Nat.le_refl 1, ?_, by decide +kernel, ?_⟩⟩
  · intro i hi
    rw [hlanes, Nat.lt_one_iff.mp hi]
    exact ⟨_, List.mem_singleton_self _, rfl, _, rfl, rfl, rfl, _, _, rfl, rfl, rfl⟩
  · rw [report, Policy.similarity_of_not_isNumeric _ rfl]
    exact nofun

end Validator

end Concordance
