import Concordance.Proofs.Comparing
import Concordance.Proofs.Settlement
import Mathlib.Logic.Relation

/-!
# Interleaved Runs

Runs in which any number of workers share the cases.

`Executor.execute` takes the cases in turn. With more workers a case may be
anywhere while another moves on, and what they share is the token and the clock.
Here a run is a state that is changed by one step at a time: a worker does the
next thing on one of the cases, time passes, or the caller cancels. Every look
at the token or at the clock, every write of the token, and every beginning and
end of a call is a step of its own, so anything can happen in between. How many
workers there are, and which of them takes what, only narrows down the order of
the steps; what holds of all runs here holds for every number of workers.

An artifact is given by its conduct: which outcomes a call on a case may have,
depending on whether the run is interrupted by the time that the call ends. The
token is never taken back and the clock runs on, so a run that is interrupted at
any moment of a call is interrupted at its end.

An artifact that cancels the run by itself is the caller's, and so counts as the
caller.

## Main definitions

* `Conduct`: Which outcomes the calls of an artifact may have.
* `Artifact.conduct`: The conduct of an artifact.
* `Interleaving.Setting`: What is called and compared in a run, and its limits.
* `Interleaving.Progress`: How far a case has come.
* `Interleaving.Advance`: What a worker may do next on a case.
* `Interleaving.State`, `Interleaving.Step`, `Interleaving.Run`: States of runs,
  their steps, and sequences of steps.
* `Interleaving.Returns`: What a run gives in the end.
* `Interleaving.LaneInvariant`: What holds of every case all along.

## Theorems

* `Returns.cases`: What a run gives, with what it says about the results.
* `advance_precedes`, `run_precedes`: The clock and the token never go back.
* `run_cases`: No case is lost, and none is added.
* `exists_lane_step`, `exists_lane_run`: What a case shows for good stays to be seen.
* `LaneInvariant.run`: What every step keeps up for one case holds of all cases
  throughout a run.
-/

namespace Concordance

/-- Which outcomes the calls of an artifact may have: on a case, by whether the
    run is interrupted when the call ends. -/
def Conduct : Type :=
  Case → Bool → Outcome → Prop

/-- The outcomes of an artifact's calls, whenever they are made. -/
def Artifact.conduct (a : Artifact) (l : Limits) : Conduct := fun case isInterrupted o =>
  ∃ m, o = (a.call case l m).1 ∧ isInterrupted = (a.call case l m).2.isInterrupted l

namespace Conduct

/-- Whether calls are cut short only if the run is. -/
def IsHonest (c : Conduct) : Prop :=
  ∀ case o, c case false o → o.status ≠ .cancelled

/-- Whether a call on a case has the outcome that a function gives for it,
    unless it is cut short together with the run. -/
def Follows (c : Conduct) (f : Case → Outcome) : Prop :=
  ∀ case isInterrupted o, c case isInterrupted o →
    o.Agrees (f case) ∨ (isInterrupted = true ∧ o.status = .cancelled)

/-- Whether calls on a case have an outcome, unless they are cut short together
    with the run. -/
def Gives (c : Conduct) (case : Case) (o : Outcome) : Prop :=
  ∀ isInterrupted o', c case isInterrupted o' →
    o'.Agrees o ∨ (isInterrupted = true ∧ o'.status = .cancelled)

/-- Whether an outcome was possible at the end of a call, given whether the run
    is interrupted by now. -/
def Allows (c : Conduct) (case : Case) (isInterrupted : Bool) (o : Outcome) : Prop :=
  ∃ b, c case b o ∧ (b = true → isInterrupted = true)

theorem Allows.mono {c : Conduct} {case : Case} {b b' : Bool} {o : Outcome}
    (h : c.Allows case b o) (hb : b = true → b' = true) : c.Allows case b' o := by
  rcases h with ⟨b₀, h, h₀⟩
  exact ⟨b₀, h, fun h' => hb (h₀ h')⟩

theorem IsHonest.isInterrupted {c : Conduct} (hc : c.IsHonest) {case : Case} {b : Bool}
    {o : Outcome} (h : c.Allows case b o) (ho : o.status = .cancelled) : b = true := by
  rcases h with ⟨b₀, h, hb⟩
  cases b₀ with
  | true => exact hb rfl
  | false => exact absurd ho (hc case o h)

theorem Gives.agrees {c : Conduct} {case : Case} {k o : Outcome} (hc : c.Gives case k) {b : Bool}
    (h : c.Allows case b o) (ho : o.status ≠ .cancelled ∨ b = false) : o.Agrees k := by
  rcases h with ⟨b₀, h, hb⟩
  rcases hc b₀ o h with hagree | ⟨htrue, hcancelled⟩
  · exact hagree
  · rcases ho with ho | ho
    · exact absurd hcancelled ho
    · rw [hb htrue] at ho
      exact absurd ho Bool.true_eq_false.mp

theorem Follows.agrees {c : Conduct} {f : Case → Outcome} (hc : c.Follows f) {case : Case}
    {b : Bool} {o : Outcome} (h : c.Allows case b o) (ho : o.status ≠ .cancelled ∨ b = false) :
    o.Agrees (f case) :=
  Gives.agrees (hc case) h ho

theorem Follows.isHonest {c : Conduct} {f : Case → Outcome} (hc : c.Follows f)
    (hf : ∀ case, (f case).status ≠ .cancelled) : c.IsHonest := by
  intro case o h
  rw [(hc.agrees ⟨false, h, id⟩ (Or.inr rfl)).status_eq]
  exact hf case

end Conduct

theorem Moment.Precedes.isInterrupted {m m' : Moment} (h : m.Precedes m') (l : Limits)
    (hm : m.isInterrupted l = true) : m'.isInterrupted l = true := by
  unfold Moment.isInterrupted at *
  rcases Bool.or_eq_true_iff.mp hm with hc | he
  · rw [h.isCancelled_of hc, Bool.true_or]
  · rw [l.deadline.isExpired_mono h.time_le he, Bool.or_true]

namespace Interleaving

/-- What is called and compared in a run, and what limits the calls. -/
structure Setting where
  reference : Conduct
  candidate : Conduct
  comparator : Comparator
  limits : Limits

/-- How far a call has come. -/
inductive CallStage where
  | pending
  | calling
  /-- The outcome is there, but nobody has acted upon it. -/
  | answered (o : Outcome)
  | settled (o : Outcome)

/-- The outcome of a call, once it is there. -/
def CallStage.outcome? : CallStage → Option Outcome
  | .answered o | .settled o => some o
  | .pending | .calling => none

/-- How far a case has come. -/
inductive Progress where
  | waiting
  /-- The token was not cancelled. The clock is looked at next. -/
  | admitted
  /-- The artifacts are called, side by side. -/
  | underway (reference candidate : CallStage)
  /-- The case has a result, and outcomes if the artifacts were called. -/
  | finished (outcomes? : Option Outcomes) (result : CaseResult)

namespace Progress

/-- The outcome of the reference, once it is there. -/
def reference? : Progress → Option Outcome
  | .underway r _ => r.outcome?
  | .finished o _ => o.map Outcomes.reference
  | .waiting | .admitted => none

/-- The outcome of the candidate, once it is there. -/
def candidate? : Progress → Option Outcome
  | .underway _ c => c.outcome?
  | .finished o _ => o.map Outcomes.candidate
  | .waiting | .admitted => none

/-- The outcomes of both calls, once the case is finished. -/
def outcomes? : Progress → Option Outcomes
  | .finished o _ => o
  | _ => none

/-- The result, once it is there. -/
def result? : Progress → Option CaseResult
  | .finished _ r => some r
  | _ => none

/-- A case with a result is finished. -/
theorem finished_of_result {p : Progress} {r : CaseResult} (h : p.result? = some r) :
    ∃ o, p = .finished o r := by
  cases p with
  | finished o r' => exact ⟨o, congrArg _ (Option.some.inj h)⟩
  | _ => exact nomatch h

/-- A case with the outcomes of both calls is finished. -/
theorem finished_of_outcomes {p : Progress} {o : Outcomes} (h : p.outcomes? = some o) :
    ∃ r, p = .finished (some o) r := by
  cases p with
  | finished o' r =>
      cases h
      exact ⟨r, rfl⟩
  | _ => exact nomatch h

end Progress

/-- What a worker may do next on a case, with the moment after it. The reference
    and the candidate are called in any order or at a time. A reference that did
    not succeed cancels the run, and so does a record that is held against it. -/
inductive Advance (σ : Setting) (case : Case) (m : Moment) : Progress → Progress → Moment → Prop
  | refuse (h : m.isCancelled = true) : Advance σ case m .waiting (.finished none .interrupted) m
  | pass (h : m.isCancelled = false) : Advance σ case m .waiting .admitted m
  | expire (h : σ.limits.deadline.isExpired m.time = true) :
      Advance σ case m .admitted (.finished none .interrupted) m
  | enter (h : σ.limits.deadline.isExpired m.time = false) :
      Advance σ case m .admitted (.underway .pending .pending) m
  | callReference {c : CallStage} :
      Advance σ case m (.underway .pending c) (.underway .calling c) m
  | callCandidate {r : CallStage} :
      Advance σ case m (.underway r .pending) (.underway r .calling) m
  | answerReference {c : CallStage} {o : Outcome}
      (h : σ.reference case (m.isInterrupted σ.limits) o) :
      Advance σ case m (.underway .calling c) (.underway (.answered o) c) m
  | settleReference {c : CallStage} {o : Outcome} :
      Advance σ case m (.underway (.answered o) c) (.underway (.settled o) c)
        (Pair.afterReference o m)
  | answerCandidate {r : CallStage} {o : Outcome}
      (h : σ.candidate case (m.isInterrupted σ.limits) o) :
      Advance σ case m (.underway r .calling) (.underway r (.settled o)) m
  | conclude {r c : Outcome} :
      Advance σ case m (.underway (.settled r) (.settled c))
        (.finished (some ⟨r, c⟩) (CaseResult.ofOutcomes σ.comparator case.index ⟨r, c⟩).1)
        (if (CaseResult.ofOutcomes σ.comparator case.index ⟨r, c⟩).2 then m.cancel else m)

/-- A case, and how far it has come. -/
structure Lane where
  case : Case
  progress : Progress

/-- The state of a run. -/
structure State where
  moment : Moment
  /-- Whether the caller has cancelled the run since it began. -/
  isCancelledByCaller : Bool
  lanes : List Lane

namespace State

/-- A run that begins. -/
def start (cases : List Case) (m : Moment) : State :=
  ⟨m, false, cases.map fun case => ⟨case, .waiting⟩⟩

/-- Whether every case has a result. -/
def IsOver (s : State) : Prop :=
  ∀ lane ∈ s.lanes, lane.progress.result? ≠ none

/-- The results that are there, in the order of the cases. -/
def results (s : State) : List CaseResult :=
  s.lanes.filterMap fun lane => lane.progress.result?

end State

/-- One step of a run. -/
inductive Step (σ : Setting) : State → State → Prop
  /-- Time passes. -/
  | elapse (s : State) (duration : Nat) :
      Step σ s { s with moment := { s.moment with time := s.moment.time + duration } }
  /-- The caller cancels the run. -/
  | cancel (s : State) :
      Step σ s { s with moment := s.moment.cancel, isCancelledByCaller := true }
  /-- A worker moves on with a case. -/
  | work {m m' : Moment} {b : Bool} {before after : List Lane} {case : Case} {p p' : Progress}
      (h : Advance σ case m p p' m') :
      Step σ ⟨m, b, before ++ ⟨case, p⟩ :: after⟩ ⟨m', b, before ++ ⟨case, p'⟩ :: after⟩

/-- A step on the only case there is. -/
theorem Step.only {σ : Setting} {m m' : Moment} {b : Bool} {case : Case} {p p' : Progress}
    (h : Advance σ case m p p' m') : Step σ ⟨m, b, [⟨case, p⟩]⟩ ⟨m', b, [⟨case, p'⟩]⟩ :=
  @Step.work σ m m' b [] [] case p p' h

/-- Any number of steps. -/
abbrev Run (σ : Setting) : State → State → Prop :=
  Relation.ReflTransGen (Step σ)

/-- The setting of a run of an executor that begins at some moment. -/
def setting (e : Executor) (reference candidate : Conduct) (comparator : Comparator) (m : Moment) :
    Setting :=
  { reference, candidate, comparator, limits := e.limits m }

/-- What the run of an executor gives in the end, when every case has a result. -/
structure Returns (e : Executor) (reference candidate : Conduct) (comparator : Comparator)
    (cases : List Case) (m : Moment) (s : State) (result : Except RunError (List Comparison)) :
    Prop where
  run : Run (setting e reference candidate comparator m) (.start cases m) s
  isOver : s.IsOver
  result_eq : result
    = settle s.results e.runTimeout ((e.limits m).deadline.isExpired s.moment.time)

/-- What a run gives, with what it says about the results of the cases. -/
theorem Returns.cases {e : Executor} {reference candidate : Conduct} {comparator : Comparator}
    {cases : List Case} {m : Moment} {s : State} {result : Except RunError (List Comparison)}
    (h : Returns e reference candidate comparator cases m s result) :
    (∃ i st d, .referenceFailed i st d ∈ s.results ∧
        (∀ i' st' d', .referenceFailed i' st' d' ∈ s.results → i ≤ i') ∧
        result = .error (.referenceUnavailable i st d)) ∨
      ((∀ i st d, .referenceFailed i st d ∉ s.results) ∧ .interrupted ∈ s.results ∧
        result = .error (cutShort s.results e.runTimeout
          ((e.limits m).deadline.isExpired s.moment.time))) ∨
      ((∀ r ∈ s.results, ∃ c, r = .record c) ∧
        result = .ok ((s.results.filterMap CaseResult.record?).mergeSort
          fun a b => decide (a.index ≤ b.index))) := by
  rw [h.result_eq]
  exact settle_cases _ _ _

theorem advance_precedes {σ : Setting} {case : Case} {m m' : Moment} {p p' : Progress}
    (h : Advance σ case m p p' m') : m.Precedes m' := by
  cases h with
  | settleReference =>
      unfold Pair.afterReference
      split
      · exact .refl m
      · exact m.precedes_cancel
  | conclude =>
      split
      · exact m.precedes_cancel
      · exact .refl m
  | _ => exact .refl m

theorem step_precedes {σ : Setting} {s s' : State} (h : Step σ s s') :
    s.moment.Precedes s'.moment := by
  cases h with
  | elapse duration => exact ⟨Nat.le_add_right _ _, id⟩
  | cancel => exact s.moment.precedes_cancel
  | work h => exact advance_precedes h

theorem run_precedes {σ : Setting} {s s' : State} (h : Run σ s s') :
    s.moment.Precedes s'.moment := by
  induction h with
  | refl => exact .refl _
  | tail _ hstep ih => exact ih.trans (step_precedes hstep)

theorem run_cases {σ : Setting} {s s' : State} (h : Run σ s s') :
    s'.lanes.map Lane.case = s.lanes.map Lane.case := by
  induction h with
  | refl => rfl
  | tail _ hstep ih =>
      rw [← ih]
      -- A step may change how far a case has come, but not which case it is.
      cases hstep with
      | elapse duration => rfl
      | cancel => rfl
      | work h => simp only [List.map_append, List.map_cons]

theorem lanes_length {σ : Setting} {cases : List Case} {m : Moment} {s : State}
    (h : Run σ (.start cases m) s) : s.lanes.length = cases.length := by
  have hcases := congrArg List.length (run_cases h)
  rw [List.length_map, List.length_map, State.start, List.length_map] at hcases
  exact hcases

theorem case_mem {σ : Setting} {cases : List Case} {m : Moment} {s : State}
    (h : Run σ (.start cases m) s) {lane : Lane} (hlane : lane ∈ s.lanes) : lane.case ∈ cases := by
  have hmem : lane.case ∈ s.lanes.map Lane.case := List.mem_map_of_mem hlane
  rw [run_cases h, State.start, List.map_map] at hmem
  rcases List.mem_map.mp hmem with ⟨case, hcase, rfl⟩
  exact hcase

theorem exists_lane {σ : Setting} {cases : List Case} {m : Moment} {s : State}
    (h : Run σ (.start cases m) s) {case : Case} (hcase : case ∈ cases) :
    ∃ lane ∈ s.lanes, lane.case = case := by
  have hcases := run_cases h
  rw [State.start, List.map_map] at hcases
  have hmem : case ∈ s.lanes.map Lane.case := by
    rw [hcases]
    exact List.mem_map.mpr ⟨case, hcase, rfl⟩
  exact List.mem_map.mp hmem

/-- What a case shows for good is shown by some case ever after, once one does. -/
theorem exists_lane_step {σ : Setting} {Q : Case → Progress → Prop}
    (hQ : ∀ {case m m' p p'}, Advance σ case m p p' m' → Q case p → Q case p') {s s' : State}
    (h : Step σ s s') (hs : ∃ lane ∈ s.lanes, Q lane.case lane.progress) :
    ∃ lane ∈ s'.lanes, Q lane.case lane.progress := by
  cases h with
  | elapse duration => exact hs
  | cancel => exact hs
  | work h =>
      rcases hs with ⟨lane, hlane, hq⟩
      -- The case that shows it is one of the others, or the one that moves on.
      rcases List.mem_append.mp hlane with hbefore | hlane
      · exact ⟨lane, List.mem_append_left _ hbefore, hq⟩
      · rcases List.mem_cons.mp hlane with rfl | hafter
        · exact ⟨_, List.mem_append_right _ List.mem_cons_self, hQ h hq⟩
        · exact ⟨lane, List.mem_append_right _ (List.mem_cons_of_mem _ hafter), hq⟩

/-- What a case shows for good is shown at the end of a run, once it is shown. -/
theorem exists_lane_run {σ : Setting} {Q : Case → Progress → Prop}
    (hQ : ∀ {case m m' p p'}, Advance σ case m p p' m' → Q case p → Q case p') {s s' : State}
    (h : Run σ s s') (hs : ∃ lane ∈ s.lanes, Q lane.case lane.progress) :
    ∃ lane ∈ s'.lanes, Q lane.case lane.progress := by
  induction h with
  | refl => exact hs
  | tail _ hstep ih => exact exists_lane_step hQ hstep ih

/-- What holds of every case all along: a later moment does not change it, and
    neither does a step on the case. -/
structure LaneInvariant (σ : Setting) (P : Moment → Case → Progress → Prop) : Prop where
  mono : ∀ {m m' case p}, m.Precedes m' → P m case p → P m' case p
  advance : ∀ {m m' case p p'}, Advance σ case m p p' m' → P m case p → P m' case p'

theorem LaneInvariant.step {σ : Setting} {P : Moment → Case → Progress → Prop}
    (hP : LaneInvariant σ P) {s s' : State} (h : Step σ s s')
    (hs : ∀ lane ∈ s.lanes, P s.moment lane.case lane.progress) :
    ∀ lane ∈ s'.lanes, P s'.moment lane.case lane.progress := by
  have hle := step_precedes h
  cases h with
  | elapse duration => exact fun lane hlane => hP.mono hle (hs lane hlane)
  | cancel => exact fun lane hlane => hP.mono hle (hs lane hlane)
  | work h =>
      intro lane hlane
      -- One case moves on. For the others it is only later.
      rcases List.mem_append.mp hlane with hbefore | hlane
      · exact hP.mono hle (hs lane (List.mem_append_left _ hbefore))
      · rcases List.mem_cons.mp hlane with rfl | hafter
        · exact hP.advance h (hs _ (List.mem_append_right _ List.mem_cons_self))
        · exact hP.mono hle (hs lane (List.mem_append_right _ (List.mem_cons_of_mem _ hafter)))

theorem LaneInvariant.run {σ : Setting} {P : Moment → Case → Progress → Prop}
    (hP : LaneInvariant σ P) {s s' : State} (h : Run σ s s')
    (hs : ∀ lane ∈ s.lanes, P s.moment lane.case lane.progress) :
    ∀ lane ∈ s'.lanes, P s'.moment lane.case lane.progress := by
  induction h with
  | refl => exact hs
  | tail _ hstep ih => exact hP.step hstep ih

/-- An invariant that holds of cases nobody has begun holds throughout a run. -/
theorem LaneInvariant.of_start {σ : Setting} {P : Moment → Case → Progress → Prop}
    (hP : LaneInvariant σ P) (h0 : ∀ m case, P m case .waiting) {cases : List Case} {m : Moment}
    {s : State} (h : Run σ (.start cases m) s) :
    ∀ lane ∈ s.lanes, P s.moment lane.case lane.progress := by
  refine hP.run h fun lane hlane => ?_
  rcases List.mem_map.mp hlane with ⟨case, _, rfl⟩
  exact h0 _ _

end Interleaving

end Concordance
