import Concordance.Proofs.Interleaving.Basic

/-!
# What Stops a Run

Where the results of an interleaved run come from, and who cancelled it.

The token says that a run is cancelled, but not by whom, and it is written by
the caller, on behalf of a reference that did not succeed, and on behalf of a
record that is held against the reference. The middle one is the difficulty: a
reference that was itself cut short did not succeed either, so the run may be
cancelled because it was stopped already. `run_cause` follows that chain back to
its first link. Whenever the token is cancelled, either it was so at the
beginning, or the caller did it, or the deadline has passed, or the reference of
some case has failed by itself.

What is known about a single case stays known while other cases move on, so it
is kept as invariants of the cases: an outcome was possible when its call ended,
and the result of a case follows from its outcomes.

## Main definitions

* `OutcomesAllowed`: The outcomes of a case were possible.
* `ResultEarned`: The result of a case follows from its outcomes.
* `Progress.Incriminates`: A case shows that the reference has failed.
* `IsExplained`: There is a reason for a cancelled token.

## Theorems

* `lane_outcomesAllowed`, `lane_resultEarned`: Both hold of every case.
* `allowed_of_outcomes`: The first of them, for a case that went through.
* `run_cause`: The first cause of a cancelled token.
* `isInterrupted_of_interrupted`: A case is cut short only if the run is.
* `result_of_incriminates`, `exists_referenceFailed`: A reference that failed shows
  in the results.
-/

namespace Concordance

namespace Interleaving

section

variable {σ : Setting}

/-- The outcomes that a case has were possible when its calls ended. -/
def OutcomesAllowed (σ : Setting) (m : Moment) (case : Case) (p : Progress) : Prop :=
  (∀ o, p.reference? = some o → σ.reference.Allows case (m.isInterrupted σ.limits) o) ∧
    ∀ o, p.candidate? = some o → σ.candidate.Allows case (m.isInterrupted σ.limits) o

/-- The result of a case follows from its outcomes. A case without outcomes was
    cut short. -/
def ResultEarned (σ : Setting) (m : Moment) (case : Case) : Progress → Prop
  | .finished none r => r = .interrupted ∧ m.isInterrupted σ.limits = true
  | .finished (some o) r => r = (CaseResult.ofOutcomes σ.comparator case.index o).1
  | _ => True

theorem outcomesAllowed_invariant (σ : Setting) : LaneInvariant σ (OutcomesAllowed σ) where
  mono hle hp :=
    ⟨fun o ho => (hp.1 o ho).mono (hle.isInterrupted σ.limits),
      fun o ho => (hp.2 o ho).mono (hle.isInterrupted σ.limits)⟩
  advance {m m' case p p'} h hp := by
    have hle := (advance_precedes h).isInterrupted σ.limits
    cases h with
    | refuse | pass | expire | enter =>
        exact ⟨fun o ho => (nomatch ho), fun o ho => (nomatch ho)⟩
    | callReference => exact ⟨fun o ho => (nomatch ho), hp.2⟩
    | callCandidate => exact ⟨hp.1, fun o ho => nomatch ho⟩
    | answerReference h =>
        refine ⟨fun o ho => ?_, hp.2⟩
        cases ho
        exact ⟨_, h, id⟩
    | answerCandidate h =>
        refine ⟨hp.1, fun o ho => ?_⟩
        cases ho
        exact ⟨_, h, id⟩
    | settleReference =>
        exact ⟨fun o ho => (hp.1 o ho).mono hle, fun o ho => (hp.2 o ho).mono hle⟩
    | conclude =>
        exact ⟨fun o ho => (hp.1 o ho).mono hle, fun o ho => (hp.2 o ho).mono hle⟩

theorem resultEarned_invariant (σ : Setting) : LaneInvariant σ (ResultEarned σ) where
  mono {m m' case p} hle hp := by
    cases p with
    | waiting | admitted | underway => trivial
    | finished o r =>
        cases o with
        | none => exact ⟨hp.1, hle.isInterrupted σ.limits hp.2⟩
        | some o => exact hp
  advance {m m' case p p'} h hp := by
    cases h with
    | refuse hc => exact ⟨rfl, by rw [Moment.isInterrupted, hc, Bool.true_or]⟩
    | expire he => exact ⟨rfl, by rw [Moment.isInterrupted, he, Bool.or_true]⟩
    | conclude => rfl
    | _ => trivial

theorem lane_outcomesAllowed {cases : List Case} {m : Moment} {s : State}
    (h : Run σ (.start cases m) s) :
    ∀ lane ∈ s.lanes, OutcomesAllowed σ s.moment lane.case lane.progress :=
  (outcomesAllowed_invariant σ).of_start
    (fun _ _ => ⟨fun _ ho => (nomatch ho), fun _ ho => (nomatch ho)⟩) h

/-- Both calls of a case that went through were possible when they ended. -/
theorem allowed_of_outcomes {cases : List Case} {m : Moment} {s : State}
    (h : Run σ (.start cases m) s) {lane : Lane} (hlane : lane ∈ s.lanes) {o : Outcomes}
    (ho : lane.progress.outcomes? = some o) :
    σ.reference.Allows lane.case (s.moment.isInterrupted σ.limits) o.reference ∧
      σ.candidate.Allows lane.case (s.moment.isInterrupted σ.limits) o.candidate := by
  rcases Progress.finished_of_outcomes ho with ⟨r, hr⟩
  have hallowed := lane_outcomesAllowed h lane hlane
  rw [hr] at hallowed
  exact ⟨hallowed.1 _ rfl, hallowed.2 _ rfl⟩

theorem lane_resultEarned {cases : List Case} {m : Moment} {s : State}
    (h : Run σ (.start cases m) s) :
    ∀ lane ∈ s.lanes, ResultEarned σ s.moment lane.case lane.progress :=
  (resultEarned_invariant σ).of_start (fun _ _ => trivial) h

/-- A case shows that the reference has failed: by how its call ended, or by a
    result that says so. -/
def Progress.Incriminates (p : Progress) : Prop :=
  (∃ o, p.reference? = some o ∧ o.status ≠ .ok ∧ o.status ≠ .cancelled) ∨
    ∃ i st d, p.result? = some (.referenceFailed i st d)

/-- What a case shows of the reference stays to be seen. -/
theorem incriminates_advance {case : Case} {m m' : Moment} {p p' : Progress}
    (h : Advance σ case m p p' m') (hp : p.Incriminates) : p'.Incriminates := by
  rcases hp with ⟨o, ho, hstatus⟩ | ⟨i, st, d, hr⟩
  · refine Or.inl ⟨o, ?_, hstatus⟩
    -- The outcome of a call is never taken back.
    cases h with
    | callReference | answerReference => exact nomatch ho
    | _ => exact ho
  · -- A case that has a result does not move on.
    cases h <;> exact nomatch hr

/-- What an advance does to the token: it is left alone, or the case shows a
    failure of the reference from now on, or the reference was cut short. -/
theorem isCancelled_advance {case : Case} {m m' : Moment} {p p' : Progress}
    (h : Advance σ case m p p' m') (hc : m'.isCancelled = true) :
    m.isCancelled = true ∨ p'.Incriminates ∨
      ∃ o, p.reference? = some o ∧ o.status = .cancelled := by
  cases h with
  | @settleReference c o =>
      by_cases hok : o.status = .ok
      · rw [Pair.afterReference, if_pos hok] at hc
        exact Or.inl hc
      · by_cases hcancelled : o.status = .cancelled
        · exact Or.inr (Or.inr ⟨o, rfl, hcancelled⟩)
        · exact Or.inr (Or.inl (Or.inl ⟨o, rfl, hok, hcancelled⟩))
  | @conclude r c =>
      rcases CaseResult.ofOutcomes_cases σ.comparator case.index ⟨r, c⟩ with
        ⟨_, d, hr⟩ | ⟨_, hfalse, _⟩
      · exact Or.inr (Or.inl (Or.inr ⟨_, _, d, congrArg some hr⟩))
      · rw [hfalse] at hc
        exact Or.inl hc
  | _ => exact Or.inl hc

/-- There is a reason for a cancelled token: it was so at the beginning, or the
    caller has cancelled the run, or the deadline has passed, or the reference of
    some case has failed by itself. -/
def IsExplained (σ : Setting) (m : Moment) (s : State) : Prop :=
  m.isCancelled = true ∨ s.isCancelledByCaller = true ∨
    σ.limits.deadline.isExpired s.moment.time = true ∨
    ∃ lane ∈ s.lanes, lane.progress.Incriminates

/-- What explains a cancelled token explains it ever after. -/
theorem isExplained_step {m : Moment} {s s' : State} (h : Step σ s s')
    (hs : IsExplained σ m s) : IsExplained σ m s' := by
  rcases hs with hbefore | hcaller | hlate | hblame
  · exact Or.inl hbefore
  · refine Or.inr (Or.inl ?_)
    cases h with
    | elapse duration => exact hcaller
    | cancel => rfl
    | work h => exact hcaller
  · exact Or.inr (Or.inr (Or.inl
      (σ.limits.deadline.isExpired_mono (step_precedes h).time_le hlate)))
  · exact Or.inr (Or.inr (Or.inr (exists_lane_step incriminates_advance h hblame)))

/-- The first cause of a cancelled token. The induction is on the steps of the
    run. A reference that was cut short hands the question back to an earlier
    state, in which the run was interrupted already. -/
theorem run_cause (hr : σ.reference.IsHonest) {cases : List Case} {m : Moment} {s : State}
    (h : Run σ (.start cases m) s) (hc : s.moment.isCancelled = true) : IsExplained σ m s := by
  induction h with
  | refl => exact Or.inl hc
  | @tail s s' hrun hstep ih =>
      by_cases hbefore : s.moment.isCancelled = true
      · exact isExplained_step hstep (ih hbefore)
      · -- It is this very step that cancels the token.
        cases hstep with
        | elapse duration => exact absurd hc hbefore
        | cancel => exact Or.inr (Or.inl rfl)
        | @work m₁ m₂ b before after case p p' hadv =>
            have hmem : ∀ q : Progress, (⟨case, q⟩ : Lane) ∈ before ++ ⟨case, q⟩ :: after :=
              fun q => List.mem_append_right _ List.mem_cons_self
            rcases isCancelled_advance hadv hc with hc₁ | hin | ⟨o, ho, hcut⟩
            · exact absurd hc₁ hbefore
            · exact Or.inr (Or.inr (Or.inr ⟨_, hmem p', hin⟩))
            · -- A call was cut short, so the run was interrupted before.
              have hallowed := (lane_outcomesAllowed hrun _ (hmem p)).1 o ho
              rcases Bool.or_eq_true_iff.mp (hr.isInterrupted hallowed hcut) with hc₁ | hlate
              · exact absurd hc₁ hbefore
              · exact Or.inr (Or.inr (Or.inl
                  (σ.limits.deadline.isExpired_mono (advance_precedes hadv).time_le hlate)))

end

theorem mem_results {s : State} {r : CaseResult} :
    r ∈ s.results ↔ ∃ lane ∈ s.lanes, lane.progress.result? = some r := by
  unfold State.results
  rw [List.mem_filterMap]

/-- Every result is that of some case, and it is what the outcomes of the case
    come to, unless the case was refused. -/
theorem results_cases {σ : Setting} {cases : List Case} {m : Moment} {s : State}
    (h : Run σ (.start cases m) s) {r : CaseResult} (hr : r ∈ s.results) :
    (r = .interrupted ∧ s.moment.isInterrupted σ.limits = true) ∨
      ∃ lane ∈ s.lanes, ∃ o, lane.progress = .finished (some o) r ∧
        (CaseResult.ofOutcomes σ.comparator lane.case.index o).1 = r := by
  rcases mem_results.mp hr with ⟨lane, hlane, hresult⟩
  rcases Progress.finished_of_result hresult with ⟨o, ho⟩
  have hearned := lane_resultEarned h lane hlane
  rw [ho] at hearned
  cases o with
  | none => exact Or.inl hearned
  | some o => exact Or.inr ⟨lane, hlane, o, ho, hearned.symm⟩

section

variable {σ : Setting} {cases : List Case} {m : Moment} {s : State}

/-- A case is cut short only if the run is. -/
theorem isInterrupted_of_interrupted (hr : σ.reference.IsHonest) (hc : σ.candidate.IsHonest)
    (h : Run σ (.start cases m) s) (hs : .interrupted ∈ s.results) :
    s.moment.isInterrupted σ.limits = true := by
  rcases results_cases h hs with ⟨_, hinterrupted⟩ | ⟨lane, hlane, o, ho, heq⟩
  · exact hinterrupted
  · have hallowed := lane_outcomesAllowed h lane hlane
    rw [ho] at hallowed
    rcases CaseResult.of_interrupted heq with hcancelled | hcancelled
    · exact hr.isInterrupted (hallowed.1 _ rfl) hcancelled
    · exact hc.isInterrupted (hallowed.2 _ rfl) hcancelled

/-- A case that shows a failure of the reference ends with it as its result. -/
theorem result_of_incriminates (h : Run σ (.start cases m) s) (hover : s.IsOver) {lane : Lane}
    (hlane : lane ∈ s.lanes) (hin : lane.progress.Incriminates) :
    ∃ st d, lane.progress.result? = some (.referenceFailed lane.case.index st d) := by
  -- By the end of the run the case has a result.
  rcases Option.ne_none_iff_exists'.mp (hover lane hlane) with ⟨r, hresult⟩
  rcases Progress.finished_of_result hresult with ⟨os, hos⟩
  have hearned := lane_resultEarned h lane hlane
  rw [hos] at hearned hin
  cases os with
  | none =>
      rcases hin with ⟨_, ho, _⟩ | ⟨_, _, _, hr⟩
      · exact nomatch ho
      · rw [hearned.1] at hr
        exact nomatch Option.some.inj hr
  | some os =>
      rcases CaseResult.ofOutcomes_cases σ.comparator lane.case.index os with
        ⟨_, d, hd⟩ | ⟨hno, _⟩
      · exact ⟨_, d, by rw [hresult, hearned, hd]⟩
      · rcases hin with ⟨o, ho, hok, hcancelled⟩ | ⟨_, _, _, hr⟩
        · have hstatus : os.reference = o := Option.some.inj ho
          exact absurd (Or.inl ⟨hstatus ▸ hok, hstatus ▸ hcancelled⟩) hno
        · have hfailed := hearned.symm.trans (Option.some.inj hr)
          exact absurd (CaseResult.of_referenceFailed hfailed).1 hno

/-- A reference that failed on some case shows in the results. -/
theorem exists_referenceFailed (h : Run σ (.start cases m) s) (hover : s.IsOver)
    (hs : ∃ lane ∈ s.lanes, lane.progress.Incriminates) :
    ∃ i st d, .referenceFailed i st d ∈ s.results := by
  rcases hs with ⟨lane, hlane, hin⟩
  rcases result_of_incriminates h hover hlane hin with ⟨st, d, hr⟩
  exact ⟨_, st, d, mem_results.mpr ⟨lane, hlane, hr⟩⟩

end

end Interleaving

end Concordance
