import Concordance.Proofs.Interleaving.Usable
import Concordance.Proofs.Likeness

/-!
# An Artifact and Itself

A validation of an artifact against itself finds nothing, if its outputs depend on
the inputs alone.

The two calls of a case are calls of one artifact, so they put out the same, and it
can be read: the artifact is a reference of use, and every record is one of no
difference. What the outputs are does not matter. There may be NaNs and infinities
among them, zeros of either sign, no numbers at all, or the same number many times
over. The artifact is certified if there are enough cases for the confidence that is
asked for, and that is the only thing that may be missing.

## Main definitions

* `Conduct.Answers`: Calls on a case succeed with one output.

## Theorems

* `isUsable_of_answers`: An artifact that answers is of use as a reference.
* `records_isFlawless`: Its records against itself are of no difference.
* `report_of_flawless`: What is reported of such records.
* `concludes_self`: What a validation against itself gives.
-/

namespace Concordance

/-- Whether calls on a case succeed with one output, unless they are cut short
    together with the run. -/
def Conduct.Answers (a : Conduct) (case : Case) (output : String) : Prop :=
  ∀ isInterrupted o, a case isInterrupted o →
    (o.status = .ok ∧ o.stdout = output) ∨ (isInterrupted = true ∧ o.status = .cancelled)

theorem Conduct.Answers.of_allows {a : Conduct} {case : Case} {output : String}
    (h : a.Answers case output) {b : Bool} {o : Outcome} (ho : a.Allows case b o)
    (hcut : o.status ≠ .cancelled) : o.status = .ok ∧ o.stdout = output := by
  rcases ho with ⟨b₀, hcalled, _⟩
  rcases h b₀ o hcalled with hok | ⟨_, hcancelled⟩
  · exact hok
  · exact absurd hcancelled hcut

namespace Interleaving

section

variable {e : Executor} {a : Conduct} {comparator : Comparator} {cases : List Case} {m : Moment}
  {s : State} {f : Inputs → String}

/-- An artifact whose answers can be read is of use as a reference. -/
theorem isUsable_of_answers (hanswers : ∀ case ∈ cases, a.Answers case (f case.inputs))
    (hread : ∀ case ∈ cases, comparator.CanRead (f case.inputs)) :
    a.IsUsable comparator cases := by
  intro case hcase b o ho
  rcases hanswers case hcase b o ho with ⟨hok, hstdout⟩ | hcut
  · refine Or.inl ⟨hok, ?_⟩
    rw [hstdout]
    exact hread case hcase
  · exact Or.inr hcut

/-- The records of an artifact and itself tell of no difference. -/
theorem records_isFlawless (hepsilon : 0 ≤ comparator.epsilon)
    (hanswers : ∀ case ∈ cases, a.Answers case (f case.inputs))
    (hread : ∀ case ∈ cases, comparator.CanRead (f case.inputs)) {records : List Comparison}
    (h : Returns e a a comparator cases m s (.ok records)) :
    ∀ record ∈ records, record.IsFlawless := by
  intro record hrecord
  rcases (mem_records h).mp hrecord with ⟨lane, hlane, o, ho, rfl⟩
  rcases finished_of_ok h lane hlane with ⟨o', ho', hok, hcut, _⟩
  have hallowed := allowed_of_outcomes h.run hlane ho
  rw [ho'] at ho
  cases ho
  have hcase := case_mem h.run hlane
  have hnot : o.reference.status ≠ .cancelled := by
    rw [hok]
    exact Status.noConfusion
  -- Neither call was cut short, so both put out the answer of the case.
  have hreference := (hanswers lane.case hcase).of_allows hallowed.1 hnot
  have hcandidate := (hanswers lane.case hcase).of_allows hallowed.2 hcut
  refine comparator.compare_isFlawless hepsilon hreference.1 hcandidate.1
    (hreference.2.trans hcandidate.2.symm) ?_
  rw [hreference.2]
  exact hread lane.case hcase

end

end Interleaving

namespace Validator

section

variable {c : Config} {dialect : Pattern.Dialect} {v : Validator} {a : Conduct} {domain : Domain}
  {cases : List Case} {m : Moment} {f : Inputs → String}

/-- The report of records of no difference. -/
theorem report_of_flawless (hsound : v.config.IsSound dialect) {records : List Comparison}
    (hne : records ≠ []) (hrecords : ∀ record ∈ records, record.IsFlawless) :
    (v.report records).IsClean ∧
      ((v.report records).verdict = .certified ↔ v.config.minConfidence
        ≤ wilsonBound .binary64 records.length records.length confidenceZ) := by
  have hmax : 0 ≤ v.config.maxDeviation := Config.nonneg_of_isNonNegative hsound.maxDeviation
  have hsignificance : (Policy.ofProfile v.config.profile).significance ≤ 1 := by
    change (0.01 : Float) ≤ 1
    decide +kernel
  exact ⟨Policy.isClean_certify _ _ hsignificance hne hrecords,
    Policy.certify_certified_iff _ _ hmax hsignificance hne hrecords⟩

/-- A validation of an artifact against itself finds nothing. Let the options and the
    domain be valid, let there be a case, and let the artifact answer every case with
    an output that can be read and depends on the inputs alone. Without a deadline,
    and without a caller who cancels, every run that has begun can be led to a report,
    and nothing but a report is ever given. It tells of no failure and no deviation,
    its distribution test passes or does not apply, and it certifies the artifact
    exactly if the bound for as many successes as there are cases is as high as was
    asked for. -/
theorem concludes_self (hv : ofConfig c dialect = .ok v) (hsize : 1 ≤ c.sampleSize)
    (htime : c.runTimeout = none) (htoken : m.isCancelled = false)
    (hcases : v.cases domain = .ok cases) (hhonest : a.IsHonest) (htotal : a.IsTotal)
    (hanswers : ∀ case ∈ cases, a.Answers case (f case.inputs))
    (hread : ∀ case ∈ cases, v.comparator.CanRead (f case.inputs)) :
    (∀ s, Interleaving.Run (Interleaving.setting v.executor a a v.comparator m)
          (.start cases m) s →
        s.isCancelledByCaller = false →
        ∃ s' report, Interleaving.Run (Interleaving.setting v.executor a a v.comparator m) s s' ∧
          s'.isCancelledByCaller = false ∧ v.Concludes a a domain m s' (.ok report)) ∧
      ∀ s result, v.Concludes a a domain m s result → s.isCancelledByCaller = false →
        ∃ report, result = .ok report ∧ report.IsClean ∧
          (report.verdict = .certified ↔
            c.minConfidence ≤ wilsonBound .binary64 c.sampleSize c.sampleSize confidenceZ) := by
  rcases ofConfig_ok hv with ⟨rfl, hsound⟩
  have hlength := cases_length hcases
  have hne : cases ≠ [] := by
    rw [← List.length_pos_iff, hlength]
    exact hsize
  have husable := Interleaving.isUsable_of_answers hanswers hread
  have hnever : v.executor.runTimeout = none := htime
  have hepsilon : 0 ≤ v.comparator.epsilon := hsound.epsilon_nonneg v.config.kind
  constructor
  · intro s hrun hcaller
    rcases Interleaving.exists_returns v.comparator htotal htotal hrun with
      ⟨s', result, hrest, h, hcaller'⟩
    have hnobody : s'.isCancelledByCaller = false := hcaller'.trans hcaller
    rcases Interleaving.returns_ok_of_usable husable hhonest hhonest hnever htoken hnobody h with
      ⟨records, rfl⟩
    exact ⟨s', _, hrest, hnobody, .returned hcases hne h⟩
  · intro s result h hcaller
    cases h with
    | refused hrefused => exact nomatch hcases.symm.trans hrefused
    | inconclusive hempty => exact absurd (Except.ok.inj (hcases.symm.trans hempty)) hne
    | returned hcases' _ h =>
        cases hcases.symm.trans hcases'
        rcases Interleaving.returns_ok_of_usable husable hhonest hhonest hnever htoken hcaller h
          with ⟨records, rfl⟩
        -- There is a record for every case, and none tells of a difference.
        have hrecords := Interleaving.records_isFlawless hepsilon hanswers hread h
        have hcount : records.length = v.config.sampleSize :=
          (Interleaving.records_length h).trans hlength
        have hsome : records ≠ [] := by
          rw [← List.length_pos_iff, hcount]
          exact hsize
        have hreport := report_of_flawless hsound hsome hrecords
        rw [hcount] at hreport
        exact ⟨v.report records, rfl, hreport⟩

end

/-- The conduct of an artifact that puts out a NaN, an infinity and zeros of both
    signs. -/
private def oddities : Conduct := fun case _ o =>
  o = .succeeded case.index "[NaN, -inf, 0.0, -0.0, -0.0]"

private theorem canRead_oddities (epsilon : Float) :
    (⟨.relative, epsilon, .whole⟩ : Comparator).CanRead "[NaN, -inf, 0.0, -0.0, -0.0]" := by
  refine ⟨_, rfl, fun _ => Option.isSome_iff_exists.mp ?_⟩
  decide +kernel

/-- Thirty cases with odd numbers among the outputs, as many as the distribution test
    asks for. The artifact is certified with even odds. -/
theorem concludes_self_oddities :
    ∃ c v s report, ofConfig c = .ok v ∧ c.sampleSize = 30 ∧
      v.Concludes oddities oddities ⟨[]⟩ .start s (.ok report) ∧ report.IsClean ∧
      report.verdict = .certified := by
  let c : Config := { Config.standard with sampleSize := 30, minConfidence := 0.5 }
  let v : Validator := ⟨c, .whole⟩
  have hsound : c.IsSound :=
    Config.isSound_standard .relative _ (by decide) (by decide +kernel)
  have hv : ofConfig c = .ok v := ofConfig_ok_iff.mpr ⟨rfl, hsound, rfl⟩
  have hhonest : oddities.IsHonest := by
    rintro case o rfl
    exact Status.noConfusion
  have hcases : ∃ cases, v.cases ⟨[]⟩ = .ok cases := ⟨_, rfl⟩
  rcases hcases with ⟨cases, hcases⟩
  have hanswers : ∀ case ∈ cases, oddities.Answers case "[NaN, -inf, 0.0, -0.0, -0.0]" := by
    rintro case - b o rfl
    exact Or.inl ⟨rfl, rfl⟩
  rcases concludes_self (f := fun _ => "[NaN, -inf, 0.0, -0.0, -0.0]") (m := .start) hv
    (by decide) rfl rfl hcases hhonest (fun case b => ⟨_, rfl⟩) hanswers
    (fun _ _ => canRead_oddities _) with ⟨hleads, hgives⟩
  rcases hleads _ .refl rfl with ⟨s, report, _, hnobody, hconcludes⟩
  rcases hgives s _ hconcludes hnobody with ⟨report', heq, hclean, hcertified⟩
  cases heq
  exact ⟨c, v, s, report, hv, rfl, hconcludes, hclean, hcertified.mpr (by decide +kernel)⟩

end Validator

end Concordance
