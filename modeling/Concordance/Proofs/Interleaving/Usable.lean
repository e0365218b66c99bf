import Concordance.Proofs.Interleaving.Aftermath
import Concordance.Proofs.Interleaving.Completion
import Concordance.Proofs.Interleaving.Exposure

/-!
# References of Use

What a candidate can do to an interleaved run whose reference is of use: nothing.

A run is stopped by its caller, by its deadline, or on behalf of the reference.
If the first two keep out of it and the reference succeeds on every case with an
output that can be read, then no case is ever cut short, whatever the candidate
puts out and however its calls end. The run returns a record for every case, and
leaves the token as it was. What the candidate does on one case shows in the
record of that case only, for that record is made of the two outcomes there.

## Main definitions

* `Conduct.IsUsable`: Calls on some cases succeed with outputs that can be read.

## Theorems

* `not_blameReference_of_isUsable`: Nothing is held against such a reference.
* `returns_ok_of_usable`: With such a reference there are records.
* `records_perm_results`: The records are those of the cases.
* `result_of_gives`: What the result of a case depends on.
* `returns_ok_of_isUsable`: A candidate cannot break off a run.
-/

namespace Concordance

/-- Whether calls on some cases succeed with an output that can be read, unless
    they are cut short together with the run. -/
def Conduct.IsUsable (c : Conduct) (comparator : Comparator) (cases : List Case) : Prop :=
  ∀ case ∈ cases, ∀ isInterrupted o, c case isInterrupted o →
    (o.status = .ok ∧ comparator.CanRead o.stdout) ∨
      (isInterrupted = true ∧ o.status = .cancelled)

namespace Interleaving

section

variable {e : Executor} {reference candidate : Conduct} {comparator : Comparator}
  {cases : List Case} {m : Moment} {s : State} {result : Except RunError (List Comparison)}

/-- Nothing is held against a reference that is of use. -/
theorem not_blameReference_of_isUsable {σ : Setting}
    (husable : σ.reference.IsUsable σ.comparator cases) (h : Run σ (.start cases m) s) {lane : Lane}
    (hlane : lane ∈ s.lanes) {o : Outcomes} (ho : lane.progress.outcomes? = some o) :
    ¬ o.BlameReference σ.comparator := by
  rcases (allowed_of_outcomes h hlane ho).1 with ⟨b, hcalled, _⟩
  intro hblame
  rcases hblame.unusable with ⟨hcut, hbad⟩
  rcases husable lane.case (case_mem h hlane) b o.reference hcalled with
    ⟨hok, hread⟩ | ⟨_, hcancelled⟩
  · rcases hbad with hne | hno
    · exact hne hok
    · exact hno hread
  · exact hcut hcancelled

/-- With a reference that is of use, and without a deadline and a caller who
    cancels, a run returns records. -/
theorem returns_ok_of_usable (husable : reference.IsUsable comparator cases)
    (hreference : reference.IsHonest) (hcandidate : candidate.IsHonest)
    (htime : e.runTimeout = none) (htoken : m.isCancelled = false)
    (hcaller : s.isCancelledByCaller = false)
    (h : Returns e reference candidate comparator cases m s result) :
    ∃ records, result = .ok records := by
  have hnone : ∀ i st d, .referenceFailed i st d ∉ s.results := by
    intro i st d hmem
    rcases mem_referenceFailed h.run hmem with ⟨lane, hlane, o, ho, hblame, _⟩
    exact not_blameReference_of_isUsable husable h.run hlane ho hblame
  rcases h.cases with ⟨i, st, d, hmem, _⟩ | ⟨_, hcut, _⟩ | ⟨_, hok⟩
  · exact absurd hmem (hnone i st d)
  · -- A case that was cut short has a failure of the reference behind it.
    rcases exists_referenceFailed_of_interrupted hreference hcandidate htime htoken hcaller h hcut
      with ⟨i, st, d, hmem⟩
    exact absurd hmem (hnone i st d)
  · exact ⟨_, hok⟩

/-- The records of a run are the records of its cases, one for each. -/
theorem records_perm_results {records : List Comparison}
    (h : Returns e reference candidate comparator cases m s (.ok records)) :
    (records.map some).Perm
      (s.lanes.map fun lane => lane.progress.result?.bind CaseResult.record?) := by
  refine ((records_perm_outcomes h).map some).trans (List.Perm.of_eq ?_)
  rw [← List.filterMap_eq_map, ← List.filterMap_eq_map, List.filterMap_filterMap]
  refine List.filterMap_congr fun lane hlane => ?_
  rcases finished_of_ok h lane hlane with ⟨o, ho, _⟩
  simp only [Function.comp_apply, ho]
  rfl

/-- In a run with records, the record of a case is made of what the two artifacts
    do on that case. -/
theorem result_of_gives {records : List Comparison}
    (h : Returns e reference candidate comparator cases m s (.ok records)) {lane : Lane}
    (hlane : lane ∈ s.lanes) {r k : Outcome} (hr : reference.Gives lane.case r)
    (hk : candidate.Gives lane.case k) :
    lane.progress.result? = some (.record (comparator.compare r k)) := by
  rcases finished_of_ok h lane hlane with ⟨o, ho, hok, hcut, _⟩
  have hallowed := allowed_of_outcomes h.run hlane (congrArg Progress.outcomes? ho)
  have hnot : o.reference.status ≠ .cancelled := by
    rw [hok]
    exact Status.noConfusion
  have hreference := hr.agrees hallowed.1 (Or.inl hnot)
  have hcandidate := hk.agrees hallowed.2 (Or.inl hcut)
  rw [ho, ← comparator.compare_congr hreference hcandidate]
  rfl

/-- A candidate cannot break off a run. Let the reference be of use, let there be
    no deadline, and let nobody cancel the run. Then a run that has begun can be
    led to records, and whenever it is over there are records, one for each case,
    and the token is not cancelled. What the candidate does on a case shows in the
    record of that case, and in no other. -/
theorem returns_ok_of_isUsable (hreference : reference.IsHonest) (hcandidate : candidate.IsHonest)
    (hreferenceTotal : reference.IsTotal) (hcandidateTotal : candidate.IsTotal)
    (husable : reference.IsUsable comparator cases) (htime : e.runTimeout = none)
    (htoken : m.isCancelled = false) :
    (∀ s, Run (setting e reference candidate comparator m) (.start cases m) s →
        s.isCancelledByCaller = false →
        ∃ s' records, Run (setting e reference candidate comparator m) s s' ∧
          s'.isCancelledByCaller = false ∧
          Returns e reference candidate comparator cases m s' (.ok records)) ∧
      ∀ s result, Returns e reference candidate comparator cases m s result →
        s.isCancelledByCaller = false →
        s.moment.isCancelled = false ∧
          ∃ records, result = .ok records ∧ records.length = cases.length ∧
            (records.map some).Perm
              (s.lanes.map fun lane => lane.progress.result?.bind CaseResult.record?) ∧
            ∀ lane ∈ s.lanes, ∀ r k, reference.Gives lane.case r → candidate.Gives lane.case k →
              lane.progress.result? = some (.record (comparator.compare r k)) := by
  constructor
  · intro s hrun hcaller
    rcases exists_returns comparator hreferenceTotal hcandidateTotal hrun with
      ⟨s', result, hrest, h, hcaller'⟩
    have hnobody : s'.isCancelledByCaller = false := hcaller'.trans hcaller
    rcases returns_ok_of_usable husable hreference hcandidate htime htoken hnobody h with
      ⟨records, rfl⟩
    exact ⟨s', records, hrest, hnobody, h⟩
  · intro s result h hcaller
    rcases returns_ok_of_usable husable hreference hcandidate htime htoken hcaller h with
      ⟨records, rfl⟩
    have htoken' : ¬ s.moment.isCancelled = true := by
      rw [isCancelled_iff_of_ok htoken h, hcaller]
      exact Bool.false_ne_true
    refine ⟨Bool.not_eq_true _ ▸ htoken', records, rfl, records_length h,
      records_perm_results h, ?_⟩
    intro lane hlane r k hr hk
    exact result_of_gives h hlane hr hk

end

/-- The conduct of an artifact that puts out a letter. -/
private def lettering : Conduct := fun case _ o => o = .succeeded case.index "a"

/-- The conduct of an artifact that crashes on the first case. -/
private def faltering : Conduct := fun case _ o =>
  o = if case.index = 0 then .failed case.index .crashed "" else .succeeded case.index "a"

/-- Two cases, of which the candidate survives one. There are two records, one of
    the crash and one of an agreement. -/
theorem returns_ok_of_isUsable_faltering :
    let comparator : Comparator := ⟨.label, 0, .whole⟩
    let cases : List Case := [⟨0, ⟨[]⟩, .boundary⟩, ⟨1, ⟨[]⟩, .random⟩]
    ∃ s records, Returns ⟨2, 5, none⟩ lettering faltering comparator cases .start s
        (.ok records) ∧
      s.moment.isCancelled = false ∧ records.length = 2 ∧
      ∀ lane ∈ s.lanes, lane.case.index = 1 → lane.progress.result? = some (.record
        (comparator.compare (.succeeded 1 "a") (.succeeded 1 "a"))) := by
  intro comparator cases
  have hreference : lettering.IsHonest := by
    rintro case o rfl
    exact Status.noConfusion
  have hcandidate : faltering.IsHonest := by
    rintro case o rfl
    split
    · exact Status.noConfusion
    · exact Status.noConfusion
  have husable : lettering.IsUsable comparator cases := by
    rintro case - b o rfl
    exact Or.inl ⟨rfl, _, rfl, nofun⟩
  rcases returns_ok_of_isUsable (e := ⟨2, 5, none⟩) (m := .start) hreference hcandidate
    (fun case b => ⟨_, rfl⟩) (fun case b => ⟨_, rfl⟩) husable rfl rfl with ⟨hleads, hover⟩
  rcases hleads _ .refl rfl with ⟨s, records, _, hnobody, h⟩
  rcases hover s _ h hnobody with ⟨htoken, records', hok, hlength, _, hlane⟩
  cases hok
  refine ⟨s, records, h, htoken, hlength, ?_⟩
  intro lane hmem hone
  refine hlane lane hmem _ _ ?_ ?_
  · rintro b o rfl
    rw [hone]
    exact Or.inl (.refl _)
  · rintro b o rfl
    rw [hone]
    exact Or.inl (.refl _)

end Interleaving

end Concordance
