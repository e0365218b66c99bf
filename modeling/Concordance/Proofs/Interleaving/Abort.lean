import Concordance.Proofs.Interleaving.Cause
import Concordance.Proofs.Interleaving.InTurn

/-!
# Runs Without Records

What an interleaved run tells when it returns no records, and that it is true.

The token and the deadline are shared by all, and a case that was cut short does
not know by whom. The answer is put together afterwards: a failure of the
reference goes before everything else, then a deadline that has passed, and what
is left is put down to the caller. That the last of these is not a guess is due
to `run_cause`: if the token was cancelled by the run itself, then there is a
failure of the reference among the results, unless the deadline has passed. So
where neither is told, the token was cancelled by others at every moment at
which it was.

The token outlives the run. A run that finds it cancelled tells so, even if it
was an earlier run that cancelled it.

## Main definitions

* `Progress.Blames`: The outcomes of a case show a failure of the reference.
* `Progress.isRecorded`: A case has produced a record.
* `IsCancelledByOthers`: It was not the run itself that cancelled its token.

## Theorems

* `mem_referenceFailed`: Which failures of the reference are among the results.
* `completed_eq`, `total_eq`: What is counted of a run that was cut short.
* `returns_isCancelledByOthers`: Who cancelled a run that is told to be cancelled.
* `returns_truthful`: What a run without records tells is so.
* `returns_cancelled_again`: A run after one that was aborted is told to be
  cancelled, although no caller did it.
-/

namespace Concordance

namespace Interleaving

/-- Whether the outcomes of a case show that the reference has failed. -/
def Progress.Blames (comparator : Comparator) (p : Progress) : Prop :=
  ∃ o, p.outcomes? = some o ∧ o.BlameReference comparator

/-- Whether a case has produced a record. -/
def Progress.isRecorded (p : Progress) : Bool :=
  (p.result?.bind CaseResult.record?).isSome

/-- Whether it was not the run itself that cancelled its token: whenever the token was
    cancelled on the way to a state, the caller had done it by then, or the token was
    cancelled before the run began. -/
def IsCancelledByOthers (σ : Setting) (cases : List Case) (m : Moment) (s : State) : Prop :=
  ∀ s', Run σ (.start cases m) s' → Run σ s' s → s'.moment.isCancelled = true →
    s'.isCancelledByCaller = true ∨ m.isCancelled = true

section

variable {σ : Setting} {cases : List Case} {m : Moment} {s : State}

/-- The failures of the reference among the results are those that the outcomes
    of the cases show. -/
theorem mem_referenceFailed (h : Run σ (.start cases m) s) {i : Nat} {st : Status} {d : String}
    (hmem : .referenceFailed i st d ∈ s.results) :
    ∃ lane ∈ s.lanes, ∃ o, lane.progress.outcomes? = some o ∧ o.BlameReference σ.comparator ∧
      i = lane.case.index ∧ st = o.reference.status := by
  rcases results_cases h hmem with ⟨hcut, _⟩ | ⟨lane, hlane, o, ho, heq⟩
  · exact nomatch hcut
  · exact ⟨lane, hlane, o, by rw [ho]; rfl, CaseResult.of_referenceFailed heq⟩

theorem referenceFailed_mem (h : Run σ (.start cases m) s) {lane : Lane} (hlane : lane ∈ s.lanes)
    (hblame : lane.progress.Blames σ.comparator) :
    ∃ st d, .referenceFailed lane.case.index st d ∈ s.results := by
  rcases hblame with ⟨o, ho, hblame⟩
  rcases Progress.finished_of_outcomes ho with ⟨r, hr⟩
  have hearned := lane_resultEarned h lane hlane
  rw [hr] at hearned
  rcases CaseResult.ofOutcomes_cases σ.comparator lane.case.index o with
    ⟨_, d, hfailed⟩ | ⟨hno, _⟩
  · exact ⟨_, d, mem_results.mpr ⟨lane, hlane, by rw [hr, hearned, hfailed]; rfl⟩⟩
  · exact absurd hblame hno

theorem total_eq (h : Run σ (.start cases m) s) (hover : s.IsOver) :
    s.results.length = cases.length := by
  rw [← lanes_length h, State.results, List.length_filterMap_eq_countP, List.countP_eq_length]
  exact fun lane hlane => Option.isSome_iff_ne_none.mpr (hover lane hlane)

theorem completed_eq (s : State) :
    (s.results.filterMap CaseResult.record?).length
      = s.lanes.countP fun lane => lane.progress.isRecorded := by
  rw [State.results, List.filterMap_filterMap, List.length_filterMap_eq_countP]
  rfl

end

section

variable {e : Executor} {reference candidate : Conduct} {comparator : Comparator}
  {cases : List Case} {m : Moment} {s : State} {result : Except RunError (List Comparison)}

/-- If a case shows a failure of the reference, then the lowest such case is told,
    with how the reference ended there. -/
theorem returns_unavailable (h : Returns e reference candidate comparator cases m s result)
    (hblame : ∃ lane ∈ s.lanes, lane.progress.Blames comparator) :
    ∃ lane ∈ s.lanes, ∃ o detail, lane.progress.outcomes? = some o ∧
      o.BlameReference comparator ∧
      (∀ lane' ∈ s.lanes, lane'.progress.Blames comparator →
        lane.case.index ≤ lane'.case.index) ∧
      result = .error (.referenceUnavailable lane.case.index o.reference.status detail) := by
  rcases h.cases with ⟨i, st, d, hmem, hlow, herr⟩ | ⟨hno, _, _⟩ | ⟨hall, _⟩
  · rcases mem_referenceFailed h.run hmem with ⟨lane, hlane, o, ho, hblame', rfl, rfl⟩
    refine ⟨lane, hlane, o, d, ho, hblame', ?_, herr⟩
    intro lane' hlane' hshown
    rcases referenceFailed_mem h.run hlane' hshown with ⟨st', d', hmem'⟩
    exact hlow _ st' d' hmem'
  · rcases hblame with ⟨lane, hlane, hshown⟩
    rcases referenceFailed_mem h.run hlane hshown with ⟨st, d, hmem⟩
    exact absurd hmem (hno _ st d)
  · rcases hblame with ⟨lane, hlane, hshown⟩
    rcases referenceFailed_mem h.run hlane hshown with ⟨st, d, hmem⟩
    rcases hall _ hmem with ⟨c, hc⟩
    exact nomatch hc

/-- A run is told to be cut short only if a case was, and if no failure of the
    reference is among the results. -/
theorem cutShort_of_returns (h : Returns e reference candidate comparator cases m s result)
    {err : RunError} (hresult : result = .error err)
    (herr : ∀ i st d, err ≠ .referenceUnavailable i st d) :
    (∀ i st d, .referenceFailed i st d ∉ s.results) ∧ .interrupted ∈ s.results ∧
      err = cutShort s.results e.runTimeout ((e.limits m).deadline.isExpired s.moment.time) := by
  rcases h.cases with ⟨i, st, d, _, _, heq⟩ | ⟨hno, hcut, heq⟩ | ⟨_, heq⟩
  · exact absurd (Except.error.inj (hresult.symm.trans heq)) (herr i st d)
  · exact ⟨hno, hcut, Except.error.inj (hresult.symm.trans heq)⟩
  · exact nomatch hresult.symm.trans heq

/-- The time of a run is over only if there was a deadline and it has passed. -/
theorem returns_timedOut (h : Returns e reference candidate comparator cases m s result)
    {timeout : UInt64} {completed total : Nat}
    (hresult : result = .error (.timedOut timeout completed total)) :
    e.runTimeout = some timeout ∧ (e.limits m).deadline.isExpired s.moment.time = true ∧
      completed = s.lanes.countP (fun lane => lane.progress.isRecorded) ∧
      total = cases.length := by
  rcases cutShort_of_returns h hresult (fun _ _ _ => RunError.noConfusion) with ⟨_, _, heq⟩
  rcases eq_of_timedOut heq with ⟨hexpired, rfl, rfl, rfl⟩
  refine ⟨?_, hexpired, completed_eq s, total_eq h.run h.isOver⟩
  -- Without a deadline nothing expires.
  cases ht : e.runTimeout with
  | some t => rfl
  | none =>
      rw [Executor.isExpired_limits_of_none ht] at hexpired
      exact absurd hexpired Bool.false_ne_true

/-- A run that is told to be cancelled has not cancelled its token at any moment. -/
theorem returns_isCancelledByOthers (hreference : reference.IsHonest)
    (h : Returns e reference candidate comparator cases m s result) {completed total : Nat}
    (hresult : result = .error (.cancelled completed total)) :
    IsCancelledByOthers (setting e reference candidate comparator m) cases m s := by
  rcases cutShort_of_returns h hresult (fun _ _ _ => RunError.noConfusion) with ⟨hno, _, heq⟩
  have hexpired := (eq_of_cancelled heq).1
  intro s' hbegun hrest hcancelled
  rcases run_cause hreference hbegun hcancelled with hbefore | hcaller | hlate | hblame
  · exact Or.inr hbefore
  · exact Or.inl hcaller
  · -- A deadline that has passed at that moment has passed at the end.
    have hlater := (e.limits m).deadline.isExpired_mono (run_precedes hrest).time_le hlate
    exact absurd (hexpired.symm.trans hlater) Bool.false_ne_true
  · -- And a case that shows a failure then shows it at the end.
    have hshown :=
      exists_lane_run (Q := fun _ p => p.Incriminates) incriminates_advance hrest hblame
    rcases exists_referenceFailed h.run h.isOver hshown with ⟨i, st, d, hmem⟩
    exact absurd hmem (hno i st d)

/-- A run was cancelled only if the caller did it, or the token was cancelled
    before the run began. -/
theorem returns_cancelled (hreference : reference.IsHonest) (hcandidate : candidate.IsHonest)
    (h : Returns e reference candidate comparator cases m s result) {completed total : Nat}
    (hresult : result = .error (.cancelled completed total)) :
    (s.isCancelledByCaller = true ∨ m.isCancelled = true) ∧
      completed = s.lanes.countP (fun lane => lane.progress.isRecorded) ∧
      total = cases.length := by
  rcases cutShort_of_returns h hresult (fun _ _ _ => RunError.noConfusion) with ⟨hno, hcut, heq⟩
  rcases eq_of_cancelled heq with ⟨hexpired, rfl, rfl⟩
  refine ⟨?_, completed_eq s, total_eq h.run h.isOver⟩
  have hinterrupted := isInterrupted_of_interrupted hreference hcandidate h.run hcut
  change (s.moment.isCancelled || (e.limits m).deadline.isExpired s.moment.time) = true
    at hinterrupted
  rw [hexpired, Bool.or_false] at hinterrupted
  exact returns_isCancelledByOthers hreference h hresult s h.run .refl hinterrupted

/-- What a run tells that returns no records is so. A failure of the reference
    comes first, whoever else has stopped the run: the lowest case is told that
    shows one, with how the reference ended there. The time is over only if there
    was a deadline and it has passed. The run was cancelled only if the caller
    did it, or the token was cancelled before the run began, and it is never the run
    itself that did it. -/
theorem returns_truthful (hreference : reference.IsHonest) (hcandidate : candidate.IsHonest)
    (h : Returns e reference candidate comparator cases m s result) :
    ((∃ lane ∈ s.lanes, lane.progress.Blames comparator) →
      ∃ lane ∈ s.lanes, ∃ o detail, lane.progress.outcomes? = some o ∧
        o.BlameReference comparator ∧
        (∀ lane' ∈ s.lanes, lane'.progress.Blames comparator →
          lane.case.index ≤ lane'.case.index) ∧
        result = .error (.referenceUnavailable lane.case.index o.reference.status detail)) ∧
      (∀ timeout completed total, result = .error (.timedOut timeout completed total) →
        e.runTimeout = some timeout ∧
          (e.limits m).deadline.isExpired s.moment.time = true ∧
          completed = s.lanes.countP (fun lane => lane.progress.isRecorded) ∧
          total = cases.length) ∧
      ∀ completed total, result = .error (.cancelled completed total) →
        (s.isCancelledByCaller = true ∨ m.isCancelled = true) ∧
          IsCancelledByOthers (setting e reference candidate comparator m) cases m s ∧
          completed = s.lanes.countP (fun lane => lane.progress.isRecorded) ∧
          total = cases.length := by
  refine ⟨?_, ?_, ?_⟩
  · exact returns_unavailable h
  · intro timeout completed total hresult
    exact returns_timedOut h hresult
  · intro completed total hresult
    rcases returns_cancelled hreference hcandidate h hresult with ⟨hcause, hcompleted, htotal⟩
    exact ⟨hcause, returns_isCancelledByOthers hreference h hresult, hcompleted, htotal⟩

end

/-- The conduct of an artifact that always crashes. -/
private def crashing : Conduct := fun case _ o => o = .failed case.index .crashed ""

/-- The conduct of an artifact that always puts out the same. -/
private def steady : Conduct := fun case _ o => o = .succeeded case.index "a"

private def lone : Case := ⟨0, ⟨[]⟩, .boundary⟩

/-- One case that is refused, since the token was cancelled before. -/
private theorem returns_refused {m : Moment} (hm : m.isCancelled = true) :
    ∃ s, Returns ⟨1, 5, none⟩ steady steady ⟨.label, 0, .whole⟩ [lone] m s
        (.error (.cancelled 0 1)) ∧ s.isCancelledByCaller = false := by
  refine ⟨⟨m, false, [⟨lone, .finished none .interrupted⟩]⟩,
    ⟨.single (.only (.refuse hm)), ?_, rfl⟩, rfl⟩
  intro lane hlane
  rw [List.mem_singleton.mp hlane]
  exact Option.some_ne_none _

/-- What the refused run tells is so: its token was cancelled before it began. -/
theorem returns_truthful_refused :
    ∃ s, Returns ⟨1, 5, none⟩ steady steady ⟨.label, 0, .whole⟩ [lone] Moment.start.cancel s
        (.error (.cancelled 0 1)) ∧
      (s.isCancelledByCaller = true ∨ Moment.start.cancel.isCancelled = true) ∧
      0 = s.lanes.countP (fun lane => lane.progress.isRecorded) := by
  have hhonest : steady.IsHonest := by
    rintro case o rfl
    exact Status.noConfusion
  rcases returns_refused (m := Moment.start.cancel) rfl with ⟨s, h, _⟩
  rcases (returns_truthful hhonest hhonest h).2.2 0 1 rfl with ⟨hcause, _, hcompleted, _⟩
  exact ⟨s, h, hcause, hcompleted⟩

/-- Two runs on one token, the first with a reference that crashes. It is told to
    have failed, and the second one to be cancelled, although the caller has
    cancelled neither. -/
theorem returns_cancelled_again :
    ∃ s s', Returns ⟨1, 5, none⟩ crashing steady ⟨.label, 0, .whole⟩ [lone] .start s
        (.error (.referenceUnavailable 0 .crashed (excerpt ""))) ∧
      s.isCancelledByCaller = false ∧
      Returns ⟨1, 5, none⟩ steady steady ⟨.label, 0, .whole⟩ [lone] s.moment s'
        (.error (.cancelled 0 1)) ∧
      s'.isCancelledByCaller = false := by
  rcases exists_returns_single (e := ⟨1, 5, none⟩) rfl crashing steady ⟨.label, 0, .whole⟩ lone
    (m := .start) rfl (fun _ => rfl) (fun _ => rfl) with ⟨s, h, hcaller, _, hmoment⟩
  rcases returns_refused (m := s.moment) (by rw [hmoment]; rfl) with ⟨s', h', hcaller'⟩
  exact ⟨s, s', h, hcaller, h', hcaller'⟩

end Interleaving

end Concordance
