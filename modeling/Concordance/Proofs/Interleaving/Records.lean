import Concordance.Proofs.Interleaving.Cause
import Concordance.Proofs.Interleaving.InTurn
import Concordance.Proofs.Sorting
import Mathlib.Data.List.Basic

/-!
# The Records of a Run

An interleaved run that returns records returns those of its cases.

A run may be cut short at any moment, by the caller, the deadline or the
reference, and then some calls were cut short with it. None of that is left in
the records: where there are records at all, every case went through to its end,
and its record is the one that the outcomes of its two calls give. If the
artifacts do on every case what they do when it is run alone, then so do the
records, whatever the order of the steps was.

## Theorems

* `finished_of_ok`: Every case of a run with records went through.
* `records_perm_outcomes`: The records are those of the outcomes.
* `records_eq_alone`: The records are those of the cases run alone.
* `records_of_returns`: They stand in the order of the cases, each case once, and
  tell of nothing that was cut short.
-/

namespace Concordance

namespace Interleaving

section

variable {e : Executor} {reference candidate : Conduct} {comparator : Comparator}
  {cases : List Case} {m : Moment} {s : State} {records : List Comparison}

/-- Every case of a run that returns records was finished with one, and nothing
    was wrong with its reference. -/
theorem finished_of_ok (h : Returns e reference candidate comparator cases m s (.ok records)) :
    ∀ lane ∈ s.lanes, ∃ o, lane.progress
        = .finished (some o) (.record (comparator.compare o.reference o.candidate)) ∧
      o.reference.status = .ok ∧ o.candidate.status ≠ .cancelled ∧
      ¬ o.BlameReference comparator := by
  intro lane hlane
  rcases h.cases with ⟨_, _, _, _, _, herr⟩ | ⟨_, _, herr⟩ | ⟨hall, _⟩
  · exact nomatch herr
  · exact nomatch herr
  · rcases Option.ne_none_iff_exists'.mp (h.isOver lane hlane) with ⟨r, hr⟩
    rcases hall r (mem_results.mpr ⟨lane, hlane, hr⟩) with ⟨c, rfl⟩
    rcases Progress.finished_of_result hr with ⟨o, ho⟩
    have hearned := lane_resultEarned h.run lane hlane
    rw [ho] at hearned
    cases o with
    | none => exact nomatch hearned.1
    | some o =>
        rcases CaseResult.of_record hearned.symm with ⟨rfl, hok, hcancelled, hno⟩
        exact ⟨o, ho, hok, hcancelled, hno⟩

/-- The records of a run are those of its results, sorted. -/
theorem records_eq (h : Returns e reference candidate comparator cases m s (.ok records)) :
    records = (s.results.filterMap CaseResult.record?).mergeSort
      fun a b => decide (a.index ≤ b.index) := by
  rcases h.cases with ⟨_, _, _, _, _, herr⟩ | ⟨_, _, herr⟩ | ⟨_, hok⟩
  · exact nomatch herr
  · exact nomatch herr
  · exact Except.ok.inj hok

/-- The records of a run are those of the outcomes of its cases, sorted. -/
theorem records_eq_outcomes
    (h : Returns e reference candidate comparator cases m s (.ok records)) :
    records = (s.lanes.filterMap fun lane => lane.progress.outcomes?.map fun o =>
      comparator.compare o.reference o.candidate).mergeSort
        fun a b => decide (a.index ≤ b.index) := by
  rw [records_eq h, State.results, List.filterMap_filterMap]
  refine congrArg (List.mergeSort · _) (List.filterMap_congr fun lane hlane => ?_)
  rcases finished_of_ok h lane hlane with ⟨o, ho, _⟩
  rw [ho]
  rfl

/-- The records of a run are those of the outcomes of its cases. -/
theorem records_perm_outcomes
    (h : Returns e reference candidate comparator cases m s (.ok records)) :
    records.Perm (s.lanes.filterMap fun lane => lane.progress.outcomes?.map fun o =>
      comparator.compare o.reference o.candidate) := by
  rw [records_eq_outcomes h]
  exact List.mergeSort_perm _ _

theorem mem_records (h : Returns e reference candidate comparator cases m s (.ok records))
    {record : Comparison} :
    record ∈ records ↔ ∃ lane ∈ s.lanes, ∃ o, lane.progress.outcomes? = some o ∧
      comparator.compare o.reference o.candidate = record := by
  rw [(records_perm_outcomes h).mem_iff, List.mem_filterMap]
  simp only [Option.map_eq_some_iff]

theorem records_length (h : Returns e reference candidate comparator cases m s (.ok records)) :
    records.length = cases.length := by
  rw [(records_perm_outcomes h).length_eq, List.length_filterMap_eq_countP, ← lanes_length h.run,
    List.countP_eq_length]
  intro lane hlane
  rcases finished_of_ok h lane hlane with ⟨o, ho, _⟩
  rw [ho]
  rfl

/-- The records of a run stand in the order of their cases. -/
theorem records_pairwise (h : Returns e reference candidate comparator cases m s (.ok records)) :
    records.Pairwise fun a b => a.index ≤ b.index := by
  rw [records_eq h]
  exact pairwise_mergeSort_key Comparison.index _

variable {R C : Case → Outcome}

/-- The records of a run are those of its cases run alone, sorted. -/
theorem records_eq_alone (hreference : reference.Follows R) (hcandidate : candidate.Follows C)
    (h : Returns e reference candidate comparator cases m s (.ok records)) :
    records = (cases.map fun case => comparator.compare (R case) (C case)).mergeSort
      fun a b => decide (a.index ≤ b.index) := by
  have hcases : cases = s.lanes.map Lane.case := by
    rw [run_cases h.run, State.start, List.map_map]
    exact (List.map_id cases).symm
  rw [records_eq_outcomes h]
  refine congrArg (List.mergeSort · _) ?_
  -- Case by case, the outcomes are those of the case run alone.
  rw [hcases, List.map_map, ← List.filterMap_eq_map]
  refine List.filterMap_congr fun lane hlane => ?_
  rcases finished_of_ok h lane hlane with ⟨o, ho, hok, hcancelled, _⟩
  have hallowed := lane_outcomesAllowed h.run lane hlane
  rw [ho] at hallowed ⊢
  have hr : o.reference.status ≠ .cancelled := by
    rw [hok]
    exact Status.noConfusion
  -- Neither call was cut short, so each did what it does on the case alone.
  have hagree := comparator.compare_congr
    (hreference.agrees (hallowed.1 _ rfl) (Or.inl hr))
    (hcandidate.agrees (hallowed.2 _ rfl) (Or.inl hcancelled))
  exact congrArg some hagree

/-- The records of a run are those of its cases run alone. -/
theorem records_perm_alone (hreference : reference.Follows R) (hcandidate : candidate.Follows C)
    (h : Returns e reference candidate comparator cases m s (.ok records)) :
    records.Perm (cases.map fun case => comparator.compare (R case) (C case)) := by
  rw [records_eq_alone hreference hcandidate h]
  exact List.mergeSort_perm _ _

/-- Whenever a run returns records, they are those that its cases have when each
    is run alone: one for each, none twice, in the order of the cases. None says
    that a call was cut short, and none is held against the reference. -/
theorem records_of_returns (hreference : reference.Follows R) (hcandidate : candidate.Follows C)
    (hindex : ∀ case ∈ cases, (R case).index = case.index)
    (hdistinct : (cases.map Case.index).Nodup)
    (h : Returns e reference candidate comparator cases m s (.ok records)) :
    records.Perm (cases.map fun case => comparator.compare (R case) (C case)) ∧
      records.Pairwise (fun a b => a.index < b.index) ∧
      ∀ record ∈ records, record.discrepancy ≠ some .cancelled ∧
        record.discrepancy.any Discrepancy.blamesReference = false := by
  have hperm := records_perm_alone hreference hcandidate h
  refine ⟨hperm, ?_, ?_⟩
  · -- Records of different cases have different numbers, so sorted is strictly sorted.
    have hindices : (cases.map fun case => comparator.compare (R case) (C case)).map
        Comparison.index = cases.map Case.index := by
      rw [List.map_map]
      refine List.map_congr_left fun case hcase => ?_
      exact (comparator.compare_index _ _).trans (hindex case hcase)
    have hnodup : (records.map Comparison.index).Nodup := by
      rw [(hperm.map Comparison.index).nodup_iff, hindices]
      exact hdistinct
    exact (records_pairwise h).imp₂ (fun a b hle hne => Nat.lt_of_le_of_ne hle hne)
      (List.pairwise_map.mp hnodup)
  · intro record hrecord
    rcases (mem_records h).mp hrecord with ⟨lane, hlane, o, ho, rfl⟩
    rcases finished_of_ok h lane hlane with ⟨o', ho', hok, hcancelled, hblame⟩
    rw [ho'] at ho
    cases ho
    refine ⟨fun hcut => hcancelled ((comparator.compare_cancelled_iff _ _).mp hcut).2, ?_⟩
    rw [← Bool.not_eq_true]
    exact fun hany => hblame (Or.inr ⟨hok, hcancelled, hany⟩)

/-- Two cases in the wrong order. The candidate agrees on one and crashes on the
    other. -/
theorem records_of_returns_twoCases :
    let cases : List Case := [⟨1, ⟨[]⟩, .random⟩, ⟨0, ⟨[]⟩, .boundary⟩]
    let R : Case → Outcome := fun case => .succeeded case.index "a"
    let C : Case → Outcome := fun case =>
      if case.index = 0 then .succeeded case.index "a" else .failed case.index .crashed ""
    let comparator : Comparator := ⟨.label, 0, .whole⟩
    ∃ s records, Returns ⟨2, 5, none⟩ ((Artifact.answering R).conduct ⟨5, .none⟩)
        ((Artifact.answering C).conduct ⟨5, .none⟩) comparator cases .start s (.ok records) ∧
      records.Perm (cases.map fun case => comparator.compare (R case) (C case)) ∧
      records.Pairwise fun a b => a.index < b.index := by
  intro cases R C comparator
  rcases exists_returns_execute ⟨2, 5, none⟩ ⟨.answering R, .answering C⟩ comparator cases .start
    with ⟨s, h⟩
  have hok : (Executor.execute ⟨2, 5, none⟩ ⟨.answering R, .answering C⟩ comparator
      cases .start).1.isOk = true := by decide +kernel
  cases hrun : (Executor.execute ⟨2, 5, none⟩ ⟨.answering R, .answering C⟩ comparator
      cases .start).1 with
  | error err => rw [hrun] at hok; exact nomatch hok
  | ok records =>
      rw [hrun] at h
      rcases records_of_returns (Artifact.conduct_answering_follows R _)
        (Artifact.conduct_answering_follows C _) (fun case _ => rfl) (by decide) h with
        ⟨hperm, hpairwise, _⟩
      exact ⟨s, records, h, hperm, hpairwise⟩

end

end Interleaving

end Concordance
