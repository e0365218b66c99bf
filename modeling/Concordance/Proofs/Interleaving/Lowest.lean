import Concordance.Proofs.Interleaving.Aftermath
import Concordance.Proofs.Interleaving.Completion
import Concordance.Proofs.Interleaving.Exposure

/-!
# The Failure That Is Told

Which of several failures of the reference an interleaved run tells.

The lowest, among those that the run has seen. A reference that fails cancels the
run, and that may cut short a lower case on which it would have failed as well.
So the case that is told depends on the order of the steps, and it need not be
the lowest on which the reference fails when the cases are run alone. What can be
said for every order is that all lower ones were cut short. If the cases are taken
in turn, then a case is cut short only after one below it has shown a failure, and
no lower one is passed over.

An output that cannot be read counts as a failure here, if the record of the case
shows it.

## Main definitions

* `Progress.IsUnheard`: The reference was cut short on a case, or not called.

## Theorems

* `isUnheard_advance`: A reference is not heard only if the run is interrupted.
* `result_of_failed`: What comes of a case on which the reference fails.
* `exists_incriminates_le`: In turn, a case is cut short only on behalf of a lower
  one.
* `exists_told`: The case that a run tells.
* `returns_unavailable_of_failed`: Which case it is.
* `returns_unavailable_notLowest`: It need not be the lowest on which the reference
  fails.
-/

namespace Concordance

namespace Interleaving

/-- Whether the reference is not heard on a case: its call was cut short, or the
    case got a result without it. -/
def Progress.IsUnheard (p : Progress) : Prop :=
  (∃ o, p.reference? = some o ∧ o.status = .cancelled) ∨ ∃ r, p = .finished none r

section

variable {σ : Setting}

theorem result?_of_advance {case : Case} {m m' : Moment} {p p' : Progress}
    (h : Advance σ case m p p' m') : p.result? = none := by
  cases h <;> rfl

/-- A case on which the reference is not heard from now on was like that before, or
    the run is interrupted. -/
theorem isUnheard_advance (hr : σ.reference.IsHonest) {case : Case} {m m' : Moment}
    {p p' : Progress} (h : Advance σ case m p p' m') (hp : p'.IsUnheard) :
    p.IsUnheard ∨ m.isInterrupted σ.limits = true := by
  cases h with
  | refuse hc => exact Or.inr (by rw [Moment.isInterrupted, hc, Bool.true_or])
  | expire he => exact Or.inr (by rw [Moment.isInterrupted, he, Bool.or_true])
  | pass | enter | callReference =>
      rcases hp with ⟨_, ho, _⟩ | ⟨_, heq⟩
      · cases ho
      · cases heq
  | answerReference h =>
      rcases hp with ⟨o, ho, hcut⟩ | ⟨_, heq⟩
      · cases ho
        exact Or.inr (hr.isInterrupted ⟨_, h, id⟩ hcut)
      · cases heq
  | callCandidate | settleReference | answerCandidate | conclude =>
      rcases hp with ⟨o, ho, hcut⟩ | ⟨_, heq⟩
      · exact Or.inl (Or.inl ⟨o, ho, hcut⟩)
      · cases heq

/-- The reference is not heard on a case only if the run is interrupted. -/
theorem isInterrupted_of_isUnheard (hr : σ.reference.IsHonest) {cases : List Case} {m : Moment}
    {s : State} (h : Run σ (.start cases m) s) {lane : Lane} (hlane : lane ∈ s.lanes)
    (hun : lane.progress.IsUnheard) : s.moment.isInterrupted σ.limits = true := by
  rcases hun with ⟨o, ho, hcut⟩ | ⟨r, hr'⟩
  · exact hr.isInterrupted ((lane_outcomesAllowed h lane hlane).1 o ho) hcut
  · have hearned := lane_resultEarned h lane hlane
    rw [hr'] at hearned
    exact hearned.2

/-- A case on which the reference fails when it is run alone shows the failure, or
    it was cut short before the reference was heard. -/
theorem result_of_failed {R : Case → Outcome} (hreference : σ.reference.Follows R)
    {cases : List Case} {m : Moment} {s : State} (h : Run σ (.start cases m) s)
    (hover : s.IsOver) {lane : Lane} (hlane : lane ∈ s.lanes)
    (hok : (R lane.case).status ≠ .ok) :
    lane.progress.Incriminates ∨
      (lane.progress.IsUnheard ∧ lane.progress.result? = some .interrupted) := by
  rcases Option.ne_none_iff_exists'.mp (hover lane hlane) with ⟨r, hresult⟩
  rcases Progress.finished_of_result hresult with ⟨os, hos⟩
  have hearned := lane_resultEarned h lane hlane
  have hallowed := (lane_outcomesAllowed h lane hlane).1
  rw [hos] at hearned hallowed
  cases os with
  | none => exact Or.inr ⟨Or.inr ⟨r, hos⟩, by rw [hresult, hearned.1]⟩
  | some os =>
      have href : lane.progress.reference? = some os.reference := by
        rw [hos]
        rfl
      by_cases hcancelled : os.reference.status = .cancelled
      · refine Or.inr ⟨Or.inl ⟨_, href, hcancelled⟩, ?_⟩
        rw [hresult, hearned, CaseResult.ofOutcomes, if_pos hcancelled]
      · -- The reference was heard, and it does here what it does alone.
        have hstatus := (hreference.agrees (hallowed _ rfl) (Or.inl hcancelled)).status_eq
        exact Or.inl (Or.inl ⟨_, href, hstatus ▸ hok, hcancelled⟩)

/-- The cases of a run stay in order. -/
theorem lanes_pairwise {cases : List Case} {m : Moment} {s : State}
    (hsorted : cases.Pairwise fun a b => a.index ≤ b.index) (h : Run σ (.start cases m) s) :
    s.lanes.Pairwise fun a b => a.case.index ≤ b.case.index := by
  have hcases : s.lanes.map Lane.case = cases := by
    rw [run_cases h, State.start, List.map_map]
    exact List.map_id cases
  rw [← hcases] at hsorted
  exact (List.pairwise_map (R := fun a b : Case => a.index ≤ b.index)).mp hsorted

/-- If cases are in turn, then one that has been begun is not above one that is not
    through. -/
theorem index_le_of_inTurn {before after : List Lane} {lane lane' : Lane}
    (hsorted : (before ++ lane :: after).Pairwise fun a b => a.case.index ≤ b.case.index)
    (hturn : InTurn (before ++ lane :: after)) (hp : lane.progress.result? = none)
    (hlane' : lane' ∈ before ++ lane :: after) (hbegun : lane'.progress ≠ .waiting) :
    lane'.case.index ≤ lane.case.index := by
  rcases List.mem_append.mp hlane' with hbefore | hlane'
  · exact (List.pairwise_append.mp hsorted).2.2 lane' hbefore lane List.mem_cons_self
  · rcases List.mem_cons.mp hlane' with rfl | hafter
    · exact Nat.le_refl _
    · -- Those after it wait for their turn.
      rcases (List.pairwise_cons.mp (List.pairwise_append.mp hturn).2.1).1 lane' hafter with
        hthrough | hwaiting
      · exact absurd hp hthrough
      · exact absurd hwaiting hbegun

theorem Progress.Incriminates.ne_waiting {p : Progress} (h : p.Incriminates) : p ≠ .waiting := by
  rintro rfl
  rcases h with ⟨_, ho, _⟩ | ⟨_, _, _, hr⟩
  · exact nomatch ho
  · exact nomatch hr

/-- In a run that takes the cases in turn, the reference is not heard on a case only
    if a case that is not above it shows a failure. The induction is on the steps. A
    case that is refused or cut short finds the token cancelled, and the first cause
    of that is among the cases begun so far. -/
theorem exists_incriminates_le (hr : σ.reference.IsHonest)
    (hnever : ∀ now, σ.limits.deadline.isExpired now = false) {cases : List Case} {m : Moment}
    {s : State} (htoken : m.isCancelled = false)
    (hsorted : cases.Pairwise fun a b => a.index ≤ b.index)
    (h : RunInTurn σ (.start cases m) s) (hcaller : s.isCancelledByCaller = false) :
    ∀ lane ∈ s.lanes, lane.progress.IsUnheard →
      ∃ lane' ∈ s.lanes, lane'.case.index ≤ lane.case.index ∧ lane'.progress.Incriminates := by
  induction h with
  | refl =>
      intro lane hlane hun
      rcases List.mem_map.mp hlane with ⟨_, _, rfl⟩
      rcases hun with ⟨_, ho, _⟩ | ⟨_, heq⟩
      · exact nomatch ho
      · exact nomatch heq
  | @tail s s' hsteps hstep ih =>
      have hturn := inTurn_of_run hsteps
      have hrun := RunInTurn.run hsteps
      have hordered := lanes_pairwise hsorted hrun
      rcases hstep with ⟨hstep, _⟩
      -- A failure that was shown below some case stays to be seen.
      have hkeep : ∀ i : Nat, (∃ lane ∈ s.lanes, lane.case.index ≤ i ∧ lane.progress.Incriminates) →
          ∃ lane ∈ s'.lanes, lane.case.index ≤ i ∧ lane.progress.Incriminates :=
        fun i => exists_lane_step (Q := fun case p => case.index ≤ i ∧ p.Incriminates)
          (fun hadv hq => ⟨hq.1, incriminates_advance hadv hq.2⟩) hstep
      cases hstep with
      | elapse duration => exact ih hcaller
      | cancel => exact nomatch hcaller
      | @work m₁ m₂ b before after case p p' hadv =>
          intro lane hlane hun
          rcases List.mem_append.mp hlane with hbefore | hlane
          · exact hkeep _ (ih hcaller lane (List.mem_append_left _ hbefore) hun)
          · rcases List.mem_cons.mp hlane with rfl | hafter
            · rcases isUnheard_advance hr hadv hun with hold | hinterrupted
              · exact hkeep _ (ih hcaller ⟨case, p⟩
                  (List.mem_append_right _ List.mem_cons_self) hold)
              · -- The token is cancelled, and there is a case to blame for it.
                rw [Moment.isInterrupted, hnever, Bool.or_false] at hinterrupted
                rcases run_cause hr hrun hinterrupted with
                  hbefore | hcancelled | hlate | ⟨lane', hlane', hin⟩
                · exact absurd (htoken.symm.trans hbefore) Bool.false_ne_true
                · exact absurd (hcaller.symm.trans hcancelled) Bool.false_ne_true
                · exact absurd ((hnever _).symm.trans hlate) Bool.false_ne_true
                · have hle := index_le_of_inTurn hordered hturn (result?_of_advance hadv) hlane'
                    hin.ne_waiting
                  exact hkeep _ ⟨lane', hlane', hle, hin⟩
            · exact hkeep _ (ih hcaller lane
                (List.mem_append_right _ (List.mem_cons_of_mem _ hafter)) hun)

end

section

variable {e : Executor} {reference candidate : Conduct} {comparator : Comparator}
  {cases : List Case} {m : Moment} {s : State} {result : Except RunError (List Comparison)}
  {R : Case → Outcome}

/-- A reference that fails on some case when it is run alone is seen to fail on some
    case: there is either that failure, or one that has kept it from being seen. -/
theorem exists_referenceFailed_of_failed (hreference : reference.Follows R)
    (hR : ∀ case, (R case).status ≠ .cancelled) (htime : e.runTimeout = none)
    (htoken : m.isCancelled = false) (hcaller : s.isCancelledByCaller = false)
    (h : Returns e reference candidate comparator cases m s result)
    (hfailed : ∃ case ∈ cases, (R case).status ≠ .ok) :
    ∃ i st d, .referenceFailed i st d ∈ s.results := by
  have hhonest := hreference.isHonest hR
  rcases hfailed with ⟨case, hcase, hne⟩
  rcases exists_lane h.run hcase with ⟨lane, hlane, rfl⟩
  rcases result_of_failed hreference h.run h.isOver hlane hne with hin | ⟨hun, _⟩
  · exact exists_referenceFailed h.run h.isOver ⟨lane, hlane, hin⟩
  · exact exists_referenceFailed_of_isInterrupted hhonest htime htoken hcaller h
      (isInterrupted_of_isUnheard hhonest h.run hlane hun)

/-- What is told is the lowest failure among the results, and it is one of the
    reference's own. -/
theorem exists_told (hreference : reference.Follows R)
    (h : Returns e reference candidate comparator cases m s result)
    (hsome : ∃ i st d, .referenceFailed i st d ∈ s.results) :
    ∃ case ∈ cases, ∃ detail,
      result = .error (.referenceUnavailable case.index (R case).status detail) ∧
      ((R case).status ≠ .ok ∨ ¬ comparator.CanRead (R case).stdout) ∧
      ∀ i st d, .referenceFailed i st d ∈ s.results → case.index ≤ i := by
  rcases hsome with ⟨i, st, d, hmem⟩
  rcases h.cases with ⟨i, st, d, hmem, hlow, herr⟩ | ⟨hno, _, _⟩ | ⟨hall, _⟩
  · rcases mem_referenceFailed h.run hmem with ⟨lane, hlane, o, ho, hblame, rfl, rfl⟩
    rcases hblame.unusable with ⟨hcut, hbad⟩
    have hagree := hreference.agrees (allowed_of_outcomes h.run hlane ho).1 (Or.inl hcut)
    refine ⟨lane.case, case_mem h.run hlane, d, hagree.status_eq ▸ herr, ?_, hlow⟩
    rw [← hagree.status_eq, ← hagree.stdout_eq]
    exact hbad
  · exact absurd hmem (hno i st d)
  · rcases hall _ hmem with ⟨c, hc⟩
    exact nomatch hc

/-- Let the reference fail on some case when it is run alone, let there be no
    deadline, and let nobody cancel the run. Then a run that has begun can be led to
    where it is given up on behalf of the reference, and whenever it is over it is
    given up like that. It tells a case on which the reference fails or puts out what
    cannot be read, with how the reference ends there. No lower case has shown a
    failure of the reference, and every lower case on which the reference fails was
    cut short. If the cases were taken in turn, then there is no lower case on which
    the reference fails. -/
theorem returns_unavailable_of_failed (hreference : reference.Follows R)
    (hR : ∀ case, (R case).status ≠ .cancelled) (hreferenceTotal : reference.IsTotal)
    (hcandidateTotal : candidate.IsTotal) (htime : e.runTimeout = none)
    (htoken : m.isCancelled = false) (hfailed : ∃ case ∈ cases, (R case).status ≠ .ok) :
    (∀ s, Run (setting e reference candidate comparator m) (.start cases m) s →
        s.isCancelledByCaller = false →
        ∃ s' i st d, Run (setting e reference candidate comparator m) s s' ∧
          s'.isCancelledByCaller = false ∧ Returns e reference candidate comparator cases m s'
            (.error (.referenceUnavailable i st d))) ∧
      ∀ s result, Returns e reference candidate comparator cases m s result →
        s.isCancelledByCaller = false →
        ∃ case ∈ cases, ∃ detail,
          result = .error (.referenceUnavailable case.index (R case).status detail) ∧
          ((R case).status ≠ .ok ∨ ¬ comparator.CanRead (R case).stdout) ∧
          (∀ lane ∈ s.lanes, lane.progress.Blames comparator →
            case.index ≤ lane.case.index) ∧
          (∀ lane ∈ s.lanes, (R lane.case).status ≠ .ok →
            case.index ≤ lane.case.index ∨ lane.progress.result? = some .interrupted) ∧
          (cases.Pairwise (fun a b => a.index ≤ b.index) →
            RunInTurn (setting e reference candidate comparator m) (.start cases m) s →
            ∀ case' ∈ cases, (R case').status ≠ .ok → case.index ≤ case'.index) := by
  have hhonest := hreference.isHonest hR
  have hnever := Executor.isExpired_limits_of_none htime m
  constructor
  · intro s hrun hcaller
    rcases exists_returns comparator hreferenceTotal hcandidateTotal hrun with
      ⟨s', result, hrest, h, hcaller'⟩
    have hnobody : s'.isCancelledByCaller = false := hcaller'.trans hcaller
    have hsome := exists_referenceFailed_of_failed hreference hR htime htoken hnobody h hfailed
    rcases (returns_unavailable_iff_mem h).mpr hsome with ⟨i, st, d, rfl⟩
    exact ⟨s', i, st, d, hrest, hnobody, h⟩
  · intro s result h hcaller
    have hsome := exists_referenceFailed_of_failed hreference hR htime htoken hcaller h hfailed
    rcases exists_told hreference h hsome with ⟨case, hcase, d, herr, hbad, hlow⟩
    -- What a case shows is not below what is told.
    have hle : ∀ lane ∈ s.lanes, lane.progress.Incriminates →
        case.index ≤ lane.case.index := by
      intro lane hlane hin
      rcases result_of_incriminates h.run h.isOver hlane hin with ⟨st, d, hr⟩
      exact hlow _ st d (mem_results.mpr ⟨lane, hlane, hr⟩)
    refine ⟨case, hcase, d, herr, hbad, ?_, ?_, ?_⟩
    · intro lane hlane hshown
      rcases referenceFailed_mem h.run hlane hshown with ⟨st, d, hmem⟩
      exact hlow _ st d hmem
    · intro lane hlane hne
      rcases result_of_failed hreference h.run h.isOver hlane hne with hin | ⟨_, hcut⟩
      · exact Or.inl (hle lane hlane hin)
      · exact Or.inr hcut
    · intro hsorted hturn case' hcase' hne
      rcases exists_lane h.run hcase' with ⟨lane, hlane, rfl⟩
      rcases result_of_failed hreference h.run h.isOver hlane hne with hin | ⟨hun, _⟩
      · exact hle lane hlane hin
      · rcases exists_incriminates_le hhonest hnever htoken hsorted hturn hcaller lane hlane hun
          with ⟨lane', hlane', hbelow, hin⟩
        exact Nat.le_trans (hle lane' hlane' hin) hbelow

end

/-- The conduct of an artifact that breaks down on every case. -/
private def collapsing : Conduct := fun case _ o => o = .failed case.index .crashed "down"

/-- The conduct of an artifact that puts out no number on the first case, and breaks
    down on the others. -/
private def garbling : Conduct := fun case _ o =>
  o = if case.index = 0 then .succeeded 0 "x" else .failed case.index .crashed "down"

/-- The conduct of an artifact that puts out a number. -/
private def numbering : Conduct := fun case _ o => o = .succeeded case.index "1"

private def first : Case := ⟨0, ⟨[]⟩, .boundary⟩

private def second : Case := ⟨1, ⟨[]⟩, .random⟩

/-- Two cases in turn, of which the first one stops the run. -/
private theorem returns_secondRefused (reference candidate : Conduct) (comparator : Comparator)
    {r k : Outcome} (hr : ∀ b, reference first b r) (hk : ∀ b, candidate first b k)
    (hstops : r.status ≠ .ok ∨
      (CaseResult.ofOutcomes comparator first.index ⟨r, k⟩).2 = true) :
    ∃ s, Returns ⟨2, 5, none⟩ reference candidate comparator [first, second] .start s
        (settle [(CaseResult.ofOutcomes comparator first.index ⟨r, k⟩).1, .interrupted] none
          false) ∧
      RunInTurn (setting ⟨2, 5, none⟩ reference candidate comparator .start)
        (.start [first, second] .start) s ∧
      s.isCancelledByCaller = false := by
  let σ : Setting := setting ⟨2, 5, none⟩ reference candidate comparator .start
  let through : Lane := ⟨first, .finished (some ⟨r, k⟩)
    (CaseResult.ofOutcomes comparator first.index ⟨r, k⟩).1⟩
  let m : Moment := if (CaseResult.ofOutcomes comparator first.index ⟨r, k⟩).2
    then (Pair.afterReference r .start).cancel else Pair.afterReference r .start
  have hcase : RunInTurn σ (.start [first, second] .start)
      ⟨m, false, [through] ++ [⟨second, .waiting⟩]⟩ :=
    runs_case (StepInTurn σ) first [] [⟨second, .waiting⟩]
      (.work (fun _ h => absurd h List.not_mem_nil) (fun _ h => by rw [List.mem_singleton.mp h]))
      (fun _ => rfl) rfl hr hk false
  -- The first case is through, and the second one is refused.
  have hcancelled : m.isCancelled = true := by
    by_cases hcancels : (CaseResult.ofOutcomes comparator first.index ⟨r, k⟩).2 = true
    · simp only [m, if_pos hcancels, Moment.cancel]
    · simp only [m, if_neg hcancels, Pair.afterReference, if_neg (hstops.resolve_right hcancels),
        Moment.cancel]
  have hthrough : ∀ a ∈ [through], a.progress.result? ≠ none := by
    intro a ha
    rw [List.mem_singleton.mp ha]
    exact Option.some_ne_none _
  have hrefuse : StepInTurn σ ⟨m, false, [through] ++ [⟨second, .waiting⟩]⟩
      ⟨m, false, [through] ++ [⟨second, .finished none .interrupted⟩]⟩ :=
    .work hthrough (fun _ h => absurd h List.not_mem_nil) (.refuse hcancelled)
  have hrun := hcase.tail hrefuse
  refine ⟨_, ⟨RunInTurn.run hrun, ?_, rfl⟩, hrun, rfl⟩
  intro lane hlane
  rcases List.mem_cons.mp hlane with rfl | hlane
  · exact Option.some_ne_none _
  · rw [List.mem_singleton.mp hlane]
    exact Option.some_ne_none _

/-- Two cases in turn and a reference that breaks down on both: the lower one is
    told. -/
theorem returns_unavailable_of_failed_collapsing :
    ∃ s result, Returns ⟨2, 5, none⟩ collapsing numbering ⟨.label, 0, .whole⟩ [first, second]
        .start s result ∧
      ∃ case ∈ [first, second], ∃ detail,
        result = .error (.referenceUnavailable case.index .crashed detail) ∧
        ∀ case' ∈ [first, second], case.index ≤ case'.index := by
  have hfollows : collapsing.Follows fun case => .failed case.index .crashed "down" := by
    rintro case b o rfl
    exact Or.inl (.refl _)
  rcases returns_secondRefused collapsing numbering ⟨.label, 0, .whole⟩ (fun _ => rfl)
    (fun _ => rfl) (Or.inl Status.noConfusion) with ⟨s, h, hturn, hcaller⟩
  have htotal : collapsing.IsTotal := fun case _ => ⟨.failed case.index .crashed "down", rfl⟩
  have htotal' : numbering.IsTotal := fun case _ => ⟨.succeeded case.index "1", rfl⟩
  rcases (returns_unavailable_of_failed hfollows (fun _ => Status.noConfusion) htotal htotal'
    rfl rfl ⟨first, List.mem_cons_self, Status.noConfusion⟩).2 s _ h hcaller with
    ⟨case, hcase, detail, herr, _, _, _, hlow⟩
  refine ⟨s, _, h, case, hcase, detail, herr, ?_⟩
  intro case' hcase'
  exact hlow (by decide) hturn case' hcase' Status.noConfusion

/-- A worker is through with the second case before another one begins with the
    first. -/
private theorem returns_secondFirst :
    ∃ s, Returns ⟨2, 5, none⟩ collapsing numbering ⟨.label, 0, .whole⟩ [first, second] .start s
        (.error (.referenceUnavailable second.index .crashed (excerpt "down"))) ∧
      s.isCancelledByCaller = false := by
  let σ : Setting := setting ⟨2, 5, none⟩ collapsing numbering ⟨.label, 0, .whole⟩ .start
  let through : Lane := ⟨second, .finished (some ⟨.failed 1 .crashed "down", .succeeded 1 "1"⟩)
    (.referenceFailed 1 .crashed (excerpt "down"))⟩
  have hcase : Run σ (.start [first, second] .start)
      ⟨Moment.start.cancel, false, [] ++ ⟨first, .waiting⟩ :: [through]⟩ :=
    runs_case (Step σ) second [⟨first, .waiting⟩] [] .work (fun _ => rfl) rfl (fun _ => rfl)
      (fun _ => rfl) false
  refine ⟨_, ⟨hcase.tail (.work (.refuse rfl)), ?_, rfl⟩, rfl⟩
  intro lane hlane
  rcases List.mem_cons.mp hlane with rfl | hlane
  · exact Option.some_ne_none _
  · rw [List.mem_singleton.mp hlane]
    exact Option.some_ne_none _

/-- What the reference puts out on the first case cannot be read. -/
private theorem returns_firstGarbled :
    ∃ s detail, Returns ⟨2, 5, none⟩ garbling numbering ⟨.relative, 0, .whole⟩ [first, second]
        .start s (.error (.referenceUnavailable first.index .ok detail)) ∧
      s.isCancelledByCaller = false := by
  have hblame : (⟨.succeeded 0 "x", .succeeded 0 "1"⟩ : Outcomes).BlameReference
      ⟨.relative, 0, .whole⟩ := by
    refine Or.inr ⟨rfl, Status.noConfusion, (Comparator.compare_blames_iff _ _ _).mpr ?_⟩
    exact Or.inr ⟨rfl, Or.inr ⟨Option.some_ne_none _, not_canRead_x⟩⟩
  rcases returns_secondRefused garbling numbering ⟨.relative, 0, .whole⟩
    (r := .succeeded 0 "x") (k := .succeeded 0 "1") (fun _ => rfl) (fun _ => rfl)
    (Or.inr (CaseResult.ofOutcomes_cancels _ first.index rfl hblame)) with ⟨s, h, _, hcaller⟩
  rcases CaseResult.ofOutcomes_cases ⟨.relative, 0, .whole⟩ first.index
    ⟨.succeeded 0 "x", .succeeded 0 "1"⟩ with ⟨_, d, hd⟩ | ⟨hno, _⟩
  · rw [hd] at h
    exact ⟨s, d, h, hcaller⟩
  · exact absurd hblame hno

/-- The case that is told need not be the lowest on which the reference breaks down.
    If it breaks down on two cases and the second is taken first, then the second is
    told. If it puts out what cannot be read on the first case, and breaks down on
    the second only, then the first is told. -/
theorem returns_unavailable_notLowest :
    (∃ s, Returns ⟨2, 5, none⟩ collapsing numbering ⟨.label, 0, .whole⟩ [first, second] .start s
        (.error (.referenceUnavailable second.index .crashed (excerpt "down"))) ∧
      s.isCancelledByCaller = false ∧ first.index < second.index ∧
      ∀ b o, collapsing first b o → o.status = .crashed) ∧
      ∃ s detail, Returns ⟨2, 5, none⟩ garbling numbering ⟨.relative, 0, .whole⟩ [first, second]
          .start s (.error (.referenceUnavailable first.index .ok detail)) ∧
        s.isCancelledByCaller = false ∧ (∀ b o, garbling first b o → o.status = .ok) ∧
        ∀ b o, garbling second b o → o.status = .crashed := by
  rcases returns_secondFirst with ⟨s, h, hcaller⟩
  rcases returns_firstGarbled with ⟨s', detail, h', hcaller'⟩
  refine ⟨⟨s, h, hcaller, by decide, ?_⟩, s', detail, h', hcaller', ?_, ?_⟩
  · rintro b o rfl
    rfl
  · rintro b o rfl
    rfl
  · rintro b o rfl
    rfl

end Interleaving

end Concordance
