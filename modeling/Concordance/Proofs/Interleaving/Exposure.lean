import Concordance.Proofs.Interleaving.Abort
import Concordance.Proofs.Interleaving.Records

/-!
# References of No Use

When an interleaved run is given up on behalf of the reference.

A reference that fails, or whose output cannot be read, should put an end to the
run, whatever the candidate does. It does so only if the record of the case
exposes it. The outputs are looked at after the statuses of both calls, and the
numbers in them after both texts were extracted, so a candidate that fails on
the same case gets in between: it is told as its failure, and the run goes on.
Without a caller who cancels and without a deadline this is all that there is to
say. `returns_unavailable_iff` gives the exact condition, for every order of the
steps, and `returns_ok_masked` a run in which the reference is of no use and
nobody notices.

## Theorems

* `Outcomes.BlameReference.unusable`: Only a reference of no use is to blame.
* `exists_referenceFailed_of_isInterrupted`: Why a run is interrupted that nobody
  cancels and that has no deadline.
* `returns_unavailable_iff`: When a run is given up on behalf of the reference,
  and that it has records otherwise.
* `returns_ok_masked`: A candidate that crashes hides an output that cannot be
  read.
-/

namespace Concordance

theorem Comparator.exposes_congr (c : Comparator) {r r' k k' : Outcome} (hr : r.Agrees r')
    (hk : k.Agrees k') : c.Exposes r k ↔ c.Exposes r' k' := by
  unfold Exposes
  rw [hr.status_eq, hr.stdout_eq, hk.status_eq, hk.stdout_eq]

/-- A reference that is to blame was not cut short, and it failed or its output
    cannot be read. -/
theorem Outcomes.BlameReference.unusable {c : Comparator} {o : Outcomes}
    (h : o.BlameReference c) :
    o.reference.status ≠ .cancelled ∧
      (o.reference.status ≠ .ok ∨ ¬ c.CanRead o.reference.stdout) := by
  rcases h with ⟨hne, hcut⟩ | ⟨hok, _, hany⟩
  · exact ⟨hcut, Or.inl hne⟩
  · refine ⟨?_, ((c.compare_blames_iff _ _).mp hany).of_unusable⟩
    rw [hok]
    exact Status.noConfusion

namespace Interleaving

section

variable {e : Executor} {reference candidate : Conduct} {comparator : Comparator}
  {cases : List Case} {m : Moment} {s : State} {result : Except RunError (List Comparison)}
  {R C : Case → Outcome}

/-- If a run is interrupted that nobody cancels and that has no deadline, then a
    failure of the reference is among its results. -/
theorem exists_referenceFailed_of_isInterrupted (hreference : reference.IsHonest)
    (htime : e.runTimeout = none) (htoken : m.isCancelled = false)
    (hcaller : s.isCancelledByCaller = false)
    (h : Returns e reference candidate comparator cases m s result)
    (hinterrupted : s.moment.isInterrupted (e.limits m) = true) :
    ∃ i st d, .referenceFailed i st d ∈ s.results := by
  have hnever := Executor.isExpired_limits_of_none htime m s.moment.time
  rw [Moment.isInterrupted, hnever, Bool.or_false] at hinterrupted
  rcases run_cause hreference h.run hinterrupted with hbefore | hcancelled | hlate | hblame
  · exact absurd (htoken.symm.trans hbefore) Bool.false_ne_true
  · exact absurd (hcaller.symm.trans hcancelled) Bool.false_ne_true
  · exact absurd (hnever.symm.trans hlate) Bool.false_ne_true
  · exact exists_referenceFailed h.run h.isOver hblame

/-- A run that nobody cancels and that has no deadline has a failure of the
    reference among its results as soon as a case was cut short. -/
theorem exists_referenceFailed_of_interrupted (hreference : reference.IsHonest)
    (hcandidate : candidate.IsHonest) (htime : e.runTimeout = none)
    (htoken : m.isCancelled = false) (hcaller : s.isCancelledByCaller = false)
    (h : Returns e reference candidate comparator cases m s result)
    (hcut : .interrupted ∈ s.results) : ∃ i st d, .referenceFailed i st d ∈ s.results :=
  exists_referenceFailed_of_isInterrupted hreference htime htoken hcaller h
    (isInterrupted_of_interrupted hreference hcandidate h.run hcut)

/-- A failure of the reference among the results is exposed by the case run
    alone. -/
theorem exposes_of_referenceFailed (hreference : reference.Follows R)
    (hcandidate : candidate.Follows C)
    (h : Returns e reference candidate comparator cases m s result) {i : Nat} {st : Status}
    {d : String} (hmem : .referenceFailed i st d ∈ s.results) :
    ∃ case ∈ cases, comparator.Exposes (R case) (C case) := by
  rcases mem_referenceFailed h.run hmem with ⟨lane, hlane, o, ho, hblame, _, _⟩
  refine ⟨lane.case, case_mem h.run hlane, ?_⟩
  have hallowed := allowed_of_outcomes h.run hlane ho
  rcases hblame with ⟨hfailed, hcut⟩ | ⟨hok, hcut, hany⟩
  · -- The reference failed by itself, and it does so when the case is run alone.
    refine Or.inl ?_
    rw [← (hreference.agrees hallowed.1 (Or.inl hcut)).status_eq]
    exact hfailed
  · -- The record is held against the reference, and so is that of the case run alone.
    have hokay : o.reference.status ≠ .cancelled := by
      rw [hok]
      exact Status.noConfusion
    rw [← comparator.exposes_congr (hreference.agrees hallowed.1 (Or.inl hokay))
      (hcandidate.agrees hallowed.2 (Or.inl hcut))]
    exact (comparator.compare_blames_iff _ _).mp hany

/-- A run with records has no case that exposes the reference. -/
theorem not_exposes_of_ok (hreference : reference.Follows R) (hcandidate : candidate.Follows C)
    {records : List Comparison}
    (h : Returns e reference candidate comparator cases m s (.ok records)) :
    ∀ case ∈ cases, ¬ comparator.Exposes (R case) (C case) := by
  intro case hcase hexposes
  have hmem : comparator.compare (R case) (C case) ∈ records :=
    (records_perm_alone hreference hcandidate h).mem_iff.mpr (List.mem_map_of_mem hcase)
  rcases (mem_records h).mp hmem with ⟨lane, hlane, o, ho, heq⟩
  rcases finished_of_ok h lane hlane with ⟨o', ho', hok, hcancelled, hblame⟩
  rw [ho'] at ho
  cases ho
  refine hblame (Or.inr ⟨hok, hcancelled, ?_⟩)
  rw [heq]
  exact (comparator.compare_blames_iff _ _).mpr hexposes

/-- A run that nobody cancels and that has no deadline is given up on behalf of
    the reference if the record of some case exposes it, and returns records
    otherwise. The artifacts do on a case what two functions say, unless a call
    is cut short together with the run. -/
theorem returns_unavailable_iff (hreference : reference.Follows R)
    (hcandidate : candidate.Follows C) (hR : ∀ case, (R case).status ≠ .cancelled)
    (hC : ∀ case, (C case).status ≠ .cancelled) (htime : e.runTimeout = none)
    (htoken : m.isCancelled = false) (hcaller : s.isCancelledByCaller = false)
    (h : Returns e reference candidate comparator cases m s result) :
    ((∃ i st d, result = .error (.referenceUnavailable i st d)) ↔
        ∃ case ∈ cases, comparator.Exposes (R case) (C case)) ∧
      ((∃ records, result = .ok records) ↔
        ∀ case ∈ cases, ¬ comparator.Exposes (R case) (C case)) := by
  rcases h.cases with ⟨i, st, d, hmem, _, herr⟩ | ⟨hno, hcut, _⟩ | ⟨_, hok⟩
  · have hexposed := exposes_of_referenceFailed hreference hcandidate h hmem
    refine ⟨iff_of_true ⟨i, st, d, herr⟩ hexposed, iff_of_false ?_ ?_⟩
    · rintro ⟨records, hok⟩
      exact nomatch herr.symm.trans hok
    · intro hall
      rcases hexposed with ⟨case, hcase, hexposes⟩
      exact hall case hcase hexposes
  · -- Nobody but the run itself can have cut a case short, and not without a failure.
    rcases exists_referenceFailed_of_interrupted (hreference.isHonest hR) (hcandidate.isHonest hC)
      htime htoken hcaller h hcut with ⟨i, st, d, hmem⟩
    exact absurd hmem (hno i st d)
  · have hnone := not_exposes_of_ok hreference hcandidate (hok ▸ h)
    refine ⟨iff_of_false ?_ ?_, iff_of_true ⟨_, hok⟩ hnone⟩
    · rintro ⟨i, st, d, herr⟩
      exact nomatch hok.symm.trans herr
    · rintro ⟨case, hcase, hexposes⟩
      exact hnone case hcase hexposes

end

/-- The conduct of an artifact that always puts out the same. -/
private def printing (output : String) : Conduct := fun case _ o =>
  o = .succeeded case.index output

/-- The conduct of an artifact that always breaks down. -/
private def breaking : Conduct := fun case _ o => o = .failed case.index .crashed ""

theorem not_canRead_x : ¬ (⟨.relative, 0, .whole⟩ : Comparator).CanRead "x" := by
  rintro ⟨text, htext, hnumbers⟩
  rcases hnumbers rfl with ⟨xs, hxs⟩
  have hnone : (numbers? (String.ofList (Text.trimList "x".toList))).isNone = true := by
    decide +kernel
  rw [Option.some.inj htext, hxs] at hnone
  exact nomatch hnone

/-- A reference that puts out no number, and a candidate that does: the run is
    given up. -/
theorem returns_unavailable_iff_printing :
    ∃ s result, Returns ⟨1, 5, none⟩ (printing "x") (printing "1") ⟨.relative, 0, .whole⟩
        [⟨0, ⟨[]⟩, .boundary⟩] .start s result ∧
      ∃ i st d, result = .error (.referenceUnavailable i st d) := by
  rcases exists_returns_single (e := ⟨1, 5, none⟩) rfl (printing "x") (printing "1")
    ⟨.relative, 0, .whole⟩ ⟨0, ⟨[]⟩, .boundary⟩ (m := .start) rfl (fun _ => rfl) (fun _ => rfl)
    with ⟨s, h, hcaller, _⟩
  refine ⟨s, _, h, ?_⟩
  refine (returns_unavailable_iff (R := fun case => .succeeded case.index "x")
    (C := fun case => .succeeded case.index "1") ?_ ?_ ?_ ?_ rfl rfl hcaller h).1.mpr ?_
  · rintro case b o rfl
    exact Or.inl (.refl _)
  · rintro case b o rfl
    exact Or.inl (.refl _)
  · exact fun case => Status.noConfusion
  · exact fun case => Status.noConfusion
  · exact ⟨_, List.mem_singleton_self _, Or.inr ⟨rfl, Or.inr ⟨Option.some_ne_none _,
      not_canRead_x⟩⟩⟩

/-- The same reference, and a candidate that breaks down: the run returns a
    record, although what the reference puts out cannot be read. -/
theorem returns_ok_masked :
    ∃ s records, Returns ⟨1, 5, none⟩ (printing "x") breaking ⟨.relative, 0, .whole⟩
        [⟨0, ⟨[]⟩, .boundary⟩] .start s (.ok records) ∧
      s.isCancelledByCaller = false ∧
      ¬ (⟨.relative, 0, .whole⟩ : Comparator).CanRead "x" := by
  rcases exists_returns_single (e := ⟨1, 5, none⟩) rfl (printing "x") breaking
    ⟨.relative, 0, .whole⟩ ⟨0, ⟨[]⟩, .boundary⟩ (m := .start) rfl (fun _ => rfl) (fun _ => rfl)
    with ⟨s, h, hcaller, _⟩
  exact ⟨s, _, h, hcaller, not_canRead_x⟩

end Interleaving

end Concordance
