import Concordance.Run.Executor

/-!
# Settling a Run

What a run comes to, read off the results of its cases.

`settle` looks at the results in a fixed order of precedence, and each of its
answers says something about every result: a reference failure that is told is
the lowest there is, a run that is told to be cut short has no reference failure
at all, and a run with records has nothing but records. `settle_cases` is that
reading, and everything else about whole runs goes through it.

## Theorems

* `lowest_spec`: The lowest failure is one of the failures, and none lies below.
* `ofOutcomes_cases`, `ofOutcomes_cancels`: What one case comes to, and when it
  cancels the run.
* `of_referenceFailed`, `of_interrupted`, `of_record`: What the result of a case
  says about its outcomes.
* `settle_cases`: What a run comes to, with what it says about every result.
-/

namespace Concordance

/-- The better of a failure that was found before and the next one. -/
private def lowerOf (best : Option (Nat × Status × String)) (f : Nat × Status × String) :
    Option (Nat × Status × String) :=
  match best with
  | none => some f
  | some b => if f.1 < b.1 then some f else some b

private theorem lowest_eq_foldl (failures : List (Nat × Status × String)) :
    lowest failures = failures.foldl lowerOf none := rfl

private theorem foldl_lowerOf_some (failures : List (Nat × Status × String)) :
    ∀ b : Nat × Status × String, ∃ f, failures.foldl lowerOf (some b) = some f ∧
      (f = b ∨ f ∈ failures) ∧ f.1 ≤ b.1 ∧ ∀ g ∈ failures, f.1 ≤ g.1 := by
  induction failures with
  | nil => exact fun b => ⟨b, rfl, Or.inl rfl, Nat.le_refl _, fun g hg => nomatch hg⟩
  | cons g gs ih =>
      intro b
      by_cases hlt : g.1 < b.1
      · -- The next failure is lower, so the search goes on from there.
        rcases ih g with ⟨f, hf, hmem, hle, hall⟩
        refine ⟨f, ?_, ?_, by omega, ?_⟩
        · rw [List.foldl_cons, lowerOf, if_pos hlt, hf]
        · rcases hmem with rfl | hmem
          · exact Or.inr List.mem_cons_self
          · exact Or.inr (List.mem_cons_of_mem g hmem)
        · intro e he
          rcases List.mem_cons.mp he with rfl | he
          · exact hle
          · exact hall e he
      · -- A failure that is no lower leaves the search where it is.
        rcases ih b with ⟨f, hf, hmem, hle, hall⟩
        refine ⟨f, ?_, hmem.imp_right (List.mem_cons_of_mem g), hle, ?_⟩
        · rw [List.foldl_cons, lowerOf, if_neg hlt, hf]
        · intro e he
          rcases List.mem_cons.mp he with rfl | he
          · omega
          · exact hall e he

/-- The lowest failure is one of the failures and lies below all of them, and
    there is one as soon as there are failures at all. -/
theorem lowest_spec (failures : List (Nat × Status × String)) :
    (failures = [] ∧ lowest failures = none) ∨
      ∃ f ∈ failures, lowest failures = some f ∧ ∀ g ∈ failures, f.1 ≤ g.1 := by
  cases failures with
  | nil => exact Or.inl ⟨rfl, rfl⟩
  | cons b failures =>
      rcases foldl_lowerOf_some failures b with ⟨f, hf, hmem, hle, hall⟩
      refine Or.inr ⟨f, List.mem_cons.mpr hmem, ?_, ?_⟩
      · rw [lowest_eq_foldl, List.foldl_cons, lowerOf, hf]
      · intro g hg
        rcases List.mem_cons.mp hg with rfl | hg
        · exact hle
        · exact hall g hg

/-- Whether the outcomes of a case show that the reference is of no use: it did
    not end well by itself, or the record of the case holds its output against
    it. -/
def Outcomes.BlameReference (comparator : Comparator) (o : Outcomes) : Prop :=
  (o.reference.status ≠ .ok ∧ o.reference.status ≠ .cancelled) ∨
    (o.reference.status = .ok ∧ o.candidate.status ≠ .cancelled ∧
      (comparator.compare o.reference o.candidate).discrepancy.any Discrepancy.blamesReference
        = true)

namespace CaseResult

/-- What one case comes to, told by its outcomes. Only a record that blames the
    reference cancels the run here, and it is no record then. -/
theorem ofOutcomes_cases (comparator : Comparator) (index : Nat) (o : Outcomes) :
    (o.BlameReference comparator ∧ ∃ detail, (ofOutcomes comparator index o).1
        = .referenceFailed index o.reference.status detail) ∨
      (¬ o.BlameReference comparator ∧ (ofOutcomes comparator index o).2 = false ∧
        (((o.reference.status = .cancelled ∨ o.candidate.status = .cancelled) ∧
            (ofOutcomes comparator index o).1 = .interrupted) ∨
          (o.reference.status = .ok ∧ o.candidate.status ≠ .cancelled ∧
            (ofOutcomes comparator index o).1
              = .record (comparator.compare o.reference o.candidate)))) := by
  unfold ofOutcomes Outcomes.BlameReference
  -- A reference that was cut short is not to blame for it.
  by_cases hcancelled : o.reference.status = .cancelled
  · rw [if_pos hcancelled]
    refine Or.inr ⟨?_, rfl, Or.inl ⟨Or.inl hcancelled, rfl⟩⟩
    rw [hcancelled]
    simp only [ne_eq, not_true_eq_false, and_false, reduceCtorEq, false_and, or_false,
      not_false_eq_true]
  · rw [if_neg hcancelled]
    by_cases hok : o.reference.status = .ok
    · rw [if_neg (by rw [hok]; exact fun h => h rfl)]
      -- Without an outcome of the candidate there is nothing to compare.
      by_cases hcand : o.candidate.status = .cancelled
      · rw [if_pos hcand]
        refine Or.inr ⟨?_, rfl, Or.inl ⟨Or.inr hcand, rfl⟩⟩
        rintro (h | h)
        · exact h.1 hok
        · exact h.2.1 hcand
      · rw [if_neg hcand]
        dsimp only
        by_cases hblame : (comparator.compare o.reference o.candidate).discrepancy.any
            Discrepancy.blamesReference = true
        · rw [if_pos hblame]
          exact Or.inl ⟨Or.inr ⟨hok, hcand, hblame⟩, _, rfl⟩
        · rw [if_neg hblame]
          refine Or.inr ⟨?_, rfl, Or.inr ⟨hok, hcand, rfl⟩⟩
          rintro (h | h)
          · exact h.1 hok
          · exact hblame h.2.2
    · rw [if_pos hok]
      exact Or.inl ⟨Or.inl ⟨hok, hcancelled⟩, _, rfl⟩

/-- A case whose record is held against the reference cancels the run. -/
theorem ofOutcomes_cancels (comparator : Comparator) (index : Nat) {o : Outcomes}
    (hok : o.reference.status = .ok) (hblame : o.BlameReference comparator) :
    (ofOutcomes comparator index o).2 = true := by
  rcases hblame with ⟨hfailed, _⟩ | ⟨_, hcand, hany⟩
  · exact absurd hok hfailed
  · unfold ofOutcomes
    rw [hok, if_neg Status.noConfusion, if_neg (fun h => h rfl), if_neg hcand]
    dsimp only
    rw [if_pos hany]

section

variable {comparator : Comparator} {index : Nat} {o : Outcomes}

/-- A case that tells of a failure of the reference has outcomes that show it. -/
theorem of_referenceFailed {i : Nat} {st : Status} {d : String}
    (h : (ofOutcomes comparator index o).1 = .referenceFailed i st d) :
    o.BlameReference comparator ∧ i = index ∧ st = o.reference.status := by
  rcases ofOutcomes_cases comparator index o with
    ⟨hblame, _, hfailed⟩ | ⟨_, _, ⟨_, hcut⟩ | ⟨_, _, hrecord⟩⟩
  · rcases CaseResult.referenceFailed.inj (h.symm.trans hfailed) with ⟨hi, hst, _⟩
    exact ⟨hblame, hi, hst⟩
  · exact nomatch h.symm.trans hcut
  · exact nomatch h.symm.trans hrecord

/-- A case that was cut short has a call that was. -/
theorem of_interrupted (h : (ofOutcomes comparator index o).1 = .interrupted) :
    o.reference.status = .cancelled ∨ o.candidate.status = .cancelled := by
  rcases ofOutcomes_cases comparator index o with
    ⟨_, _, hfailed⟩ | ⟨_, _, ⟨hcancelled, _⟩ | ⟨_, _, hrecord⟩⟩
  · exact nomatch h.symm.trans hfailed
  · exact hcancelled
  · exact nomatch h.symm.trans hrecord

/-- A case with a record has a reference that succeeded and a call of the
    candidate that was not cut short, and nothing is held against the former. -/
theorem of_record {c : Comparison} (h : (ofOutcomes comparator index o).1 = .record c) :
    c = comparator.compare o.reference o.candidate ∧ o.reference.status = .ok ∧
      o.candidate.status ≠ .cancelled ∧ ¬ o.BlameReference comparator := by
  rcases ofOutcomes_cases comparator index o with
    ⟨_, _, hfailed⟩ | ⟨hno, _, ⟨_, hcut⟩ | ⟨hok, hcancelled, hrecord⟩⟩
  · exact nomatch h.symm.trans hfailed
  · exact nomatch h.symm.trans hcut
  · exact ⟨CaseResult.record.inj (h.symm.trans hrecord), hok, hcancelled, hno⟩

end

theorem mem_referenceFailures {results : List CaseResult} {i : Nat} {st : Status} {d : String} :
    (i, st, d) ∈ results.filterMap referenceFailure? ↔ .referenceFailed i st d ∈ results := by
  rw [List.mem_filterMap]
  constructor
  · rintro ⟨r, hr, h⟩
    cases r with
    | referenceFailed i' st' d' =>
        simp only [referenceFailure?, Option.some.injEq, Prod.mk.injEq] at h
        rcases h with ⟨rfl, rfl, rfl⟩
        exact hr
    | record c => simp only [referenceFailure?, reduceCtorEq] at h
    | interrupted => simp only [referenceFailure?, reduceCtorEq] at h
  · exact fun h => ⟨_, h, rfl⟩

theorem any_isInterrupted {results : List CaseResult} :
    results.any isInterrupted = true ↔ .interrupted ∈ results := by
  rw [List.any_eq_true]
  constructor
  · rintro ⟨r, hr, h⟩
    cases r with
    | interrupted => exact hr
    | record c => exact absurd h Bool.false_ne_true
    | referenceFailed i st d => exact absurd h Bool.false_ne_true
  · exact fun h => ⟨_, h, rfl⟩

end CaseResult

/-- What is said of a run that was cut short. -/
def cutShort (results : List CaseResult) (runTimeout : Option UInt64) (isOver : Bool) : RunError :=
  if isOver then
    .timedOut (runTimeout.getD 0) (results.filterMap CaseResult.record?).length results.length
  else .cancelled (results.filterMap CaseResult.record?).length results.length

section

variable {results : List CaseResult} {runTimeout : Option UInt64} {isOver : Bool}
  {completed total : Nat}

theorem eq_of_timedOut {timeout : UInt64}
    (h : .timedOut timeout completed total = cutShort results runTimeout isOver) :
    isOver = true ∧ timeout = runTimeout.getD 0 ∧
      completed = (results.filterMap CaseResult.record?).length ∧ total = results.length := by
  cases isOver with
  | false => exact nomatch h
  | true =>
      rcases RunError.timedOut.inj h with ⟨htimeout, hcompleted, htotal⟩
      exact ⟨rfl, htimeout, hcompleted, htotal⟩

theorem eq_of_cancelled (h : .cancelled completed total = cutShort results runTimeout isOver) :
    isOver = false ∧ completed = (results.filterMap CaseResult.record?).length ∧
      total = results.length := by
  cases isOver with
  | true => exact nomatch h
  | false =>
      rcases RunError.cancelled.inj h with ⟨hcompleted, htotal⟩
      exact ⟨rfl, hcompleted, htotal⟩

end

/-- What a run comes to, with what each answer says about the results. -/
theorem settle_cases (results : List CaseResult) (runTimeout : Option UInt64) (isOver : Bool) :
    (∃ i st d, .referenceFailed i st d ∈ results ∧
        (∀ i' st' d', .referenceFailed i' st' d' ∈ results → i ≤ i') ∧
        settle results runTimeout isOver = .error (.referenceUnavailable i st d)) ∨
      ((∀ i st d, .referenceFailed i st d ∉ results) ∧ .interrupted ∈ results ∧
        settle results runTimeout isOver = .error (cutShort results runTimeout isOver)) ∨
      ((∀ r ∈ results, ∃ c, r = .record c) ∧
        settle results runTimeout isOver = .ok ((results.filterMap CaseResult.record?).mergeSort
          fun a b => decide (a.index ≤ b.index))) := by
  unfold settle
  rcases lowest_spec (results.filterMap CaseResult.referenceFailure?) with ⟨hnil, hnone⟩ | hsome
  · rw [hnone]
    -- No failure is the lowest, so there is none.
    have hno : ∀ i st d, .referenceFailed i st d ∉ results := by
      intro i st d h
      have hmem := CaseResult.mem_referenceFailures.mpr h
      rw [hnil] at hmem
      exact nomatch hmem
    dsimp only
    by_cases hint : results.any CaseResult.isInterrupted = true
    · refine Or.inr (Or.inl ⟨hno, CaseResult.any_isInterrupted.mp hint, ?_⟩)
      rw [if_pos hint, cutShort]
      cases isOver
      · rfl
      · rfl
    · refine Or.inr (Or.inr ⟨fun r hr => ?_, by rw [if_neg hint]⟩)
      -- A result that is neither a failure nor an interruption is a record.
      cases r with
      | record c => exact ⟨c, rfl⟩
      | referenceFailed i st d => exact absurd hr (hno i st d)
      | interrupted => exact absurd (CaseResult.any_isInterrupted.mpr hr) hint
  · rcases hsome with ⟨⟨i, st, d⟩, hmem, hlow, hle⟩
    rw [hlow]
    refine Or.inl ⟨i, st, d, CaseResult.mem_referenceFailures.mp hmem, ?_, rfl⟩
    intro i' st' d' h'
    exact hle _ (CaseResult.mem_referenceFailures.mpr h')

end Concordance
