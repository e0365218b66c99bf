import Concordance.Proofs.Interleaving.Records

/-!
# The Token After a Run

Who has left the token of an interleaved run cancelled.

A token may be shared by several runs, and one that finds it cancelled does
nothing. So it should be left alone unless the caller or a failure of the
reference asks for it. `isCancelled_iff` says what is done instead: a case stops
the run as soon as the outcome of its reference is anything but a success, or its
record is held against the reference. A call that was cut short is no success
either. After a deadline has passed, the run is therefore also stopped on behalf
of calls that were cut short by that deadline, and the token stays cancelled
although nobody has cancelled it and no reference has failed.

## Main definitions

* `CallStage.acknowledged?`, `Progress.acknowledged?`: An outcome that was acted
  upon.
* `Progress.Stops`: A case on whose behalf the run is cancelled.

## Theorems

* `isCancelled_of_stops`, `isCancelled_cause`: What a cancelled token and the
  cases say about each other.
* `isCancelled_iff`: By whom the token of a run has been cancelled.
* `isCancelled_iff_of_ok`, `returns_cause`: By whom it has been when the run is
  over.
* `returns_isCancelled_iff`: The same, in terms of what the run gives.
* `returns_timedOut_cancelled`: A deadline that cancels the token.
-/

namespace Concordance

namespace Interleaving

/-- The outcome of a call, once it has been acted upon. -/
def CallStage.acknowledged? : CallStage → Option Outcome
  | .settled o => some o
  | .pending | .calling | .answered _ => none

namespace Progress

/-- The outcome of the reference, once it has been acted upon. -/
def acknowledged? : Progress → Option Outcome
  | .underway r _ => r.acknowledged?
  | .finished o _ => o.map Outcomes.reference
  | .waiting | .admitted => none

/-- Whether the run is cancelled on behalf of a case: its reference did not
    succeed, or its record is held against the reference. -/
def Stops (p : Progress) : Prop :=
  (∃ o, p.acknowledged? = some o ∧ o.status ≠ .ok) ∨
    ∃ i st d, p.result? = some (.referenceFailed i st d)

theorem reference?_of_acknowledged {p : Progress} {o : Outcome} (h : p.acknowledged? = some o) :
    p.reference? = some o := by
  cases p with
  | waiting => exact nomatch h
  | admitted => exact nomatch h
  | finished os r => exact h
  | underway r c =>
      cases r with
      | settled o' => exact h
      | _ => exact nomatch h

/-- By the end of a case the outcome of its reference has been acted upon. -/
theorem acknowledged?_of_result {p : Progress} (h : p.result? ≠ none) :
    p.acknowledged? = p.reference? := by
  cases p with
  | finished os r => rfl
  | _ => exact absurd rfl h

end Progress

section

variable {σ : Setting}

theorem stops_advance {case : Case} {m m' : Moment} {p p' : Progress}
    (h : Advance σ case m p p' m') (hp : p.Stops) : p'.Stops := by
  rcases hp with ⟨o, ho, hstatus⟩ | ⟨i, st, d, hr⟩
  · refine Or.inl ⟨o, ?_, hstatus⟩
    -- What has been acted upon is not called again.
    cases h with
    | callCandidate | answerCandidate | conclude => exact ho
    | _ => exact nomatch ho
  · cases h <;> exact nomatch hr

/-- The token is cancelled as soon as there is a case on whose behalf it should
    be: the outcome of a reference is acted upon in the same step, and so is a
    record. -/
theorem stops_invariant (σ : Setting) :
    LaneInvariant σ fun m _ p => p.Stops → m.isCancelled = true where
  mono hle hp hstops := hle.isCancelled_of (hp hstops)
  advance {m m' case p p'} h hp hstops := by
    cases h with
    | @settleReference c o =>
        rcases hstops with ⟨o', ho', hstatus⟩ | ⟨_, _, _, hr⟩
        · have hne : o.status ≠ .ok := by
            cases ho'
            exact hstatus
          rw [Pair.afterReference, if_neg hne]
          rfl
        · cases hr
    | @conclude r c =>
        have hle : m.Precedes (if (CaseResult.ofOutcomes σ.comparator case.index ⟨r, c⟩).2
            then m.cancel else m) := advance_precedes .conclude
        by_cases hok : r.status = .ok
        · -- With a reference that succeeded, it is the record that stops the run.
          rcases hstops with ⟨o', ho', hstatus⟩ | ⟨i, st, d, hr⟩
          · cases ho'
            exact absurd hok hstatus
          · have hblame := (CaseResult.of_referenceFailed (Option.some.inj hr)).1
            rw [CaseResult.ofOutcomes_cancels σ.comparator case.index hok hblame]
            rfl
        · exact hle.isCancelled_of (hp (Or.inl ⟨r, rfl, hok⟩))
    | callCandidate | answerCandidate => exact hp hstops
    | pass | enter | callReference | answerReference =>
        rcases hstops with ⟨_, ho, _⟩ | ⟨_, _, _, hr⟩
        · cases ho
        · cases hr
    | refuse | expire =>
        rcases hstops with ⟨_, ho, _⟩ | ⟨_, _, _, hr⟩
        · cases ho
        · cases hr

theorem isCancelled_of_stops {cases : List Case} {m : Moment} {s : State}
    (h : Run σ (.start cases m) s) (hs : ∃ lane ∈ s.lanes, lane.progress.Stops) :
    s.moment.isCancelled = true := by
  have hinvariant := (stops_invariant σ).of_start (fun m case hstops => by
    rcases hstops with ⟨_, ho, _⟩ | ⟨_, _, _, hr⟩
    · exact nomatch ho
    · exact nomatch hr) h
  rcases hs with ⟨lane, hlane, hstops⟩
  exact hinvariant lane hlane hstops

/-- A worker cancels the token only on behalf of the case it works on. -/
theorem stops_of_isCancelled {case : Case} {m m' : Moment} {p p' : Progress}
    (h : Advance σ case m p p' m') (hc : m'.isCancelled = true) :
    m.isCancelled = true ∨ p'.Stops := by
  cases h with
  | @settleReference c o =>
      by_cases hok : o.status = .ok
      · rw [Pair.afterReference, if_pos hok] at hc
        exact Or.inl hc
      · exact Or.inr (Or.inl ⟨o, rfl, hok⟩)
  | @conclude r c =>
      rcases CaseResult.ofOutcomes_cases σ.comparator case.index ⟨r, c⟩ with
        ⟨_, d, hr⟩ | ⟨_, hfalse, _⟩
      · exact Or.inr (Or.inr ⟨_, _, d, congrArg some hr⟩)
      · rw [hfalse] at hc
        exact Or.inl hc
  | _ => exact Or.inl hc

theorem isCancelled_of_caller {s s' : State} (h : Run σ s s')
    (hs : s.isCancelledByCaller = true → s.moment.isCancelled = true)
    (hs' : s'.isCancelledByCaller = true) : s'.moment.isCancelled = true := by
  induction h with
  | refl => exact hs hs'
  | tail _ hstep ih =>
      have hle := step_precedes hstep
      cases hstep with
      | elapse duration => exact ih hs'
      | cancel => rfl
      | work h => exact hle.isCancelled_of (ih hs')

/-- Whenever the token is cancelled, it was so at the beginning, or the caller has
    cancelled the run, or it was done on behalf of some case. The induction is on
    the steps of the run, and none of these reasons is ever lost. -/
theorem isCancelled_cause {cases : List Case} {m : Moment} {s : State}
    (h : Run σ (.start cases m) s) (hc : s.moment.isCancelled = true) :
    m.isCancelled = true ∨ s.isCancelledByCaller = true ∨
      ∃ lane ∈ s.lanes, lane.progress.Stops := by
  induction h with
  | refl => exact Or.inl hc
  | @tail s s' _ hstep ih =>
      by_cases hbefore : s.moment.isCancelled = true
      · rcases ih hbefore with hstart | hcaller | hcase
        · exact Or.inl hstart
        · refine Or.inr (Or.inl ?_)
          cases hstep with
          | elapse duration => exact hcaller
          | cancel => rfl
          | work h => exact hcaller
        · exact Or.inr (Or.inr (exists_lane_step stops_advance hstep hcase))
      · -- It is this very step that cancels the token.
        cases hstep with
        | elapse duration => exact absurd hc hbefore
        | cancel => exact Or.inr (Or.inl rfl)
        | work h =>
            rcases stops_of_isCancelled h hc with hc' | hstops
            · exact absurd hc' hbefore
            · exact Or.inr (Or.inr
                ⟨_, List.mem_append_right _ List.mem_cons_self, hstops⟩)

/-- By whom the token of a run has been cancelled. -/
theorem isCancelled_iff {cases : List Case} {m : Moment} {s : State}
    (h : Run σ (.start cases m) s) :
    s.moment.isCancelled = true ↔ m.isCancelled = true ∨ s.isCancelledByCaller = true ∨
      ∃ lane ∈ s.lanes, lane.progress.Stops := by
  refine ⟨isCancelled_cause h, ?_⟩
  rintro (hstart | hcaller | hcase)
  · exact (run_precedes h).isCancelled_of hstart
  · exact isCancelled_of_caller h nofun hcaller
  · exact isCancelled_of_stops h hcase

end

section

variable {e : Executor} {reference candidate : Conduct} {comparator : Comparator}
  {cases : List Case} {m : Moment} {s : State} {result : Except RunError (List Comparison)}

/-- A run is given up on behalf of the reference exactly if a failure of the
    reference is among the results. -/
theorem returns_unavailable_iff_mem
    (h : Returns e reference candidate comparator cases m s result) :
    (∃ i st d, result = .error (.referenceUnavailable i st d)) ↔
      ∃ i st d, .referenceFailed i st d ∈ s.results := by
  rcases h.cases with ⟨i, st, d, hmem, _, herr⟩ | ⟨hno, _, herr⟩ | ⟨hall, hok⟩
  · exact iff_of_true ⟨i, st, d, herr⟩ ⟨i, st, d, hmem⟩
  · refine iff_of_false ?_ fun ⟨i, st, d, hmem⟩ => hno i st d hmem
    rintro ⟨i, st, d, heq⟩
    have hcut := Except.error.inj (heq.symm.trans herr)
    unfold cutShort at hcut
    split at hcut
    · exact nomatch hcut
    · exact nomatch hcut
  · refine iff_of_false ?_ ?_
    · rintro ⟨i, st, d, heq⟩
      exact nomatch heq.symm.trans hok
    · rintro ⟨i, st, d, hmem⟩
      rcases hall _ hmem with ⟨c, hc⟩
      exact nomatch hc

/-- Of a run that returns records only the caller can have cancelled the token,
    unless it was cancelled before. -/
theorem isCancelled_iff_of_ok {records : List Comparison} (htoken : m.isCancelled = false)
    (h : Returns e reference candidate comparator cases m s (.ok records)) :
    s.moment.isCancelled = true ↔ s.isCancelledByCaller = true := by
  rw [isCancelled_iff h.run, htoken]
  constructor
  · rintro (hstart | hcaller | ⟨lane, hlane, hstops⟩)
    · exact absurd hstart Bool.false_ne_true
    · exact hcaller
    · -- Every case has a record, and a reference that succeeded.
      rcases finished_of_ok h lane hlane with ⟨os, hos, hok, _⟩
      rw [hos] at hstops
      rcases hstops with ⟨o, ho, hne⟩ | ⟨_, _, _, hr⟩
      · cases ho
        exact absurd hok hne
      · exact nomatch Option.some.inj hr
  · exact fun hcaller => Or.inr (Or.inl hcaller)

/-- Who has cancelled the token of a run that is over, if it was not cancelled
    before. The deadline matters only if there is no other reason. -/
theorem returns_cause (hreference : reference.IsHonest) (htoken : m.isCancelled = false)
    (h : Returns e reference candidate comparator cases m s result)
    (hc : s.moment.isCancelled = true) :
    s.isCancelledByCaller = true ∨ (∃ i st d, .referenceFailed i st d ∈ s.results) ∨
      ((e.limits m).deadline.isExpired s.moment.time = true ∧
        ∃ lane ∈ s.lanes, ∃ o, lane.progress.reference? = some o ∧ o.status = .cancelled) := by
  have hstart : ¬ m.isCancelled = true := by
    rw [htoken]
    exact Bool.false_ne_true
  rcases run_cause hreference h.run hc with hbefore | hcaller | hlate | hblame
  · exact absurd hbefore hstart
  · exact Or.inl hcaller
  · rcases isCancelled_cause h.run hc with hbefore | hcaller | ⟨lane, hlane, hstops⟩
    · exact absurd hbefore hstart
    · exact Or.inl hcaller
    · rcases hstops with ⟨o, ho, hne⟩ | ⟨i, st, d, hr⟩
      · -- The reference did not succeed, so it was cut short unless it failed.
        have href := Progress.reference?_of_acknowledged ho
        by_cases hcut : o.status = .cancelled
        · exact Or.inr (Or.inr ⟨hlate, lane, hlane, o, href, hcut⟩)
        · exact Or.inr (Or.inl (exists_referenceFailed h.run h.isOver
            ⟨lane, hlane, Or.inl ⟨o, href, hne, hcut⟩⟩))
      · exact Or.inr (Or.inl ⟨i, st, d, mem_results.mpr ⟨lane, hlane, hr⟩⟩)
  · exact Or.inr (Or.inl (exists_referenceFailed h.run h.isOver hblame))

/-- A run that is over was cancelled on behalf of every reference that was cut
    short. -/
theorem stops_of_cut (h : Returns e reference candidate comparator cases m s result) {lane : Lane}
    (hlane : lane ∈ s.lanes) {o : Outcome} (ho : lane.progress.reference? = some o)
    (hcut : o.status = .cancelled) : lane.progress.Stops := by
  -- The case is through, so its reference was acted upon.
  have hack := Progress.acknowledged?_of_result (h.isOver lane hlane)
  refine Or.inl ⟨o, hack.trans ho, ?_⟩
  rw [hcut]
  exact Status.noConfusion

/-- A run that was not cancelled before leaves the token cancelled exactly if the
    caller has cancelled it, or the run is given up on behalf of the reference, or
    the deadline has passed and a call of the reference was cut short. If the run
    returns records, it is only ever the caller. -/
theorem returns_isCancelled_iff (hreference : reference.IsHonest) (htoken : m.isCancelled = false)
    (h : Returns e reference candidate comparator cases m s result) :
    (s.moment.isCancelled = true ↔ s.isCancelledByCaller = true ∨
        (∃ i st d, result = .error (.referenceUnavailable i st d)) ∨
        ((e.limits m).deadline.isExpired s.moment.time = true ∧
          ∃ lane ∈ s.lanes, ∃ o, lane.progress.reference? = some o ∧ o.status = .cancelled)) ∧
      ((∃ records, result = .ok records) →
        (s.moment.isCancelled = true ↔ s.isCancelledByCaller = true)) := by
  constructor
  · rw [returns_unavailable_iff_mem h]
    constructor
    · exact returns_cause hreference htoken h
    · rintro (hcaller | ⟨i, st, d, hmem⟩ | ⟨_, lane, hlane, o, ho, hcut⟩)
      · exact (isCancelled_iff h.run).mpr (Or.inr (Or.inl hcaller))
      · rcases mem_results.mp hmem with ⟨lane, hlane, hr⟩
        exact isCancelled_of_stops h.run ⟨lane, hlane, Or.inr ⟨i, st, d, hr⟩⟩
      · exact isCancelled_of_stops h.run ⟨lane, hlane, stops_of_cut h hlane ho hcut⟩
  · rintro ⟨records, rfl⟩
    exact isCancelled_iff_of_ok htoken h

end

/-- The conduct of an artifact that gives its output at once, or is cut short
    together with the run. -/
private def yielding : Conduct := fun case isInterrupted o =>
  o = if isInterrupted then interrupted case.index else .succeeded case.index "a"

private theorem yielding_isHonest : yielding.IsHonest := by
  rintro case o rfl
  exact Status.noConfusion

/-- One case on which the reference is called and takes until after the
    deadline. -/
private theorem returns_late :
    ∃ s, Returns ⟨1, 5, some 1⟩ yielding yielding ⟨.label, 0, .whole⟩ [⟨0, ⟨[]⟩, .boundary⟩]
        .start s (.error (.timedOut 1 0 1)) ∧
      s.isCancelledByCaller = false ∧ s.moment.isCancelled = true := by
  refine ⟨⟨⟨1000, true, none⟩, false, [⟨⟨0, ⟨[]⟩, .boundary⟩,
    .finished (some ⟨interrupted 0, interrupted 0⟩) .interrupted⟩]⟩, ⟨?_, ?_, rfl⟩, rfl, rfl⟩
  · exact .head (.only (.pass rfl))
      (.head (.only (.enter (by decide)))
        (.head (.only .callReference)
          (.head (.elapse _ 1000)
            (.head (.only (.answerReference (o := interrupted 0) rfl))
              (.head (.only .settleReference)
                (.head (.only .callCandidate)
                  (.head (.only (.answerCandidate (o := interrupted 0) rfl))
                    (.single (.only .conclude)))))))))
  · intro lane hlane
    rw [List.mem_singleton.mp hlane]
    exact Option.some_ne_none _

/-- The late run leaves its token cancelled, and not because of the caller. -/
theorem returns_isCancelled_iff_late :
    ∃ s, Returns ⟨1, 5, some 1⟩ yielding yielding ⟨.label, 0, .whole⟩ [⟨0, ⟨[]⟩, .boundary⟩]
        .start s (.error (.timedOut 1 0 1)) ∧
      ∃ lane ∈ s.lanes, ∃ o, lane.progress.reference? = some o ∧ o.status = .cancelled := by
  rcases returns_late with ⟨s, h, hcaller, hcancelled⟩
  refine ⟨s, h, ?_⟩
  rcases (returns_isCancelled_iff yielding_isHonest rfl h).1.mp hcancelled with
    hcaller' | ⟨i, st, d, herr⟩ | ⟨_, hcut⟩
  · exact absurd (hcaller.symm.trans hcaller') Bool.false_ne_true
  · exact nomatch herr
  · exact hcut

/-- A deadline cancels the token: the run is told to have taken too long, and its
    token is cancelled although the caller did not do it. -/
theorem returns_timedOut_cancelled :
    ∃ s, Returns ⟨1, 5, some 1⟩ yielding yielding ⟨.label, 0, .whole⟩ [⟨0, ⟨[]⟩, .boundary⟩]
        .start s (.error (.timedOut 1 0 1)) ∧
      yielding.IsHonest ∧ Moment.start.isCancelled = false ∧
      s.isCancelledByCaller = false ∧ s.moment.isCancelled = true := by
  rcases returns_late with ⟨s, h, hcaller, hcancelled⟩
  exact ⟨s, h, yielding_isHonest, rfl, hcaller, hcancelled⟩

end Interleaving

end Concordance
