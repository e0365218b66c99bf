import Concordance.Proofs.Interleaving.Basic
import Mathlib.Algebra.GroupWithZero.Nat
import Mathlib.Tactic.Push

/-!
# Runs Come to an End

An interleaved run never gets stuck, and the workers finish it in finitely many
steps.

A case that is not finished can always be moved on, provided that every call
comes back with some outcome, and each time it is moved on there is less left to
do for it. The clock and the caller may do what they like in between; neither
adds any work.

## Main definitions

* `Conduct.IsTotal`: Every call comes back.
* `Progress.remaining`, `State.remaining`: An upper bound for the work that is
  left.

## Theorems

* `advance_remaining`, `step_remaining`: Every step of a worker leaves less work.
* `exists_advance`: A case that is not finished can be moved on.
* `exists_run_isOver_of`, `exists_run_isOver`: A run can be led to its end from
  everywhere, without the caller and without waiting.
-/

namespace Concordance

/-- Whether every call comes back with some outcome. -/
def Conduct.IsTotal (c : Conduct) : Prop :=
  ∀ case isInterrupted, ∃ o, c case isInterrupted o

namespace Interleaving

/-- An upper bound for the steps that a call takes until its end. -/
def CallStage.remaining : CallStage → Nat
  | .pending => 3
  | .calling => 2
  | .answered _ => 1
  | .settled _ => 0

/-- An upper bound for the steps that a case takes until its end. -/
def Progress.remaining : Progress → Nat
  | .waiting => 9
  | .admitted => 8
  | .underway r c => r.remaining + c.remaining + 1
  | .finished _ _ => 0

/-- An upper bound for the steps that the workers take until the end of a run. -/
def State.remaining (s : State) : Nat :=
  (s.lanes.map fun lane => lane.progress.remaining).sum

/-- Nobody waits to act upon the outcome of a candidate. -/
def CandidateSettled (_ : Moment) (_ : Case) (p : Progress) : Prop :=
  ∀ r o, p ≠ .underway r (.answered o)

theorem candidateSettled_invariant (σ : Setting) : LaneInvariant σ CandidateSettled where
  mono _ hp := hp
  advance {m m' case p p'} h hp := by
    intro r o heq
    cases h with
    | callReference | answerReference | settleReference =>
        rcases Progress.underway.inj heq with ⟨_, rfl⟩
        exact hp _ o rfl
    | _ => exact nomatch heq

section

variable {σ : Setting}

theorem advance_remaining {case : Case} {m m' : Moment} {p p' : Progress}
    (h : Advance σ case m p p' m') : p'.remaining < p.remaining := by
  cases h with
  | refuse | pass | expire | enter => decide
  | callReference | callCandidate | answerReference | settleReference | answerCandidate =>
      simp only [Progress.remaining, CallStage.remaining]
      omega
  | conclude => exact Nat.succ_pos _

theorem work_remaining {case : Case} {m m' : Moment} {p p' : Progress}
    (h : Advance σ case m p p' m') (b : Bool) (before after : List Lane) :
    State.remaining ⟨m', b, before ++ ⟨case, p'⟩ :: after⟩
      < State.remaining ⟨m, b, before ++ ⟨case, p⟩ :: after⟩ := by
  have hlt := advance_remaining h
  simp only [State.remaining, List.map_append, List.map_cons, List.sum_append, List.sum_cons]
  omega

/-- A step of a worker leaves less work, and every other step leaves the cases as
    they are. -/
theorem step_remaining {s s' : State} (h : Step σ s s') :
    s'.remaining < s.remaining ∨ s'.lanes = s.lanes := by
  cases h with
  | elapse duration => exact Or.inr rfl
  | cancel => exact Or.inr rfl
  | work h => exact Or.inl (work_remaining h _ _ _)

/-- A case that is not finished can be moved on. -/
theorem exists_advance (hreference : σ.reference.IsTotal) (hcandidate : σ.candidate.IsTotal)
    {case : Case} {m : Moment} {p : Progress} (hp : p.result? = none)
    (hsettled : CandidateSettled m case p) :
    ∃ p' m', m'.time = m.time ∧ Advance σ case m p p' m' := by
  cases p with
  | waiting =>
      cases hc : m.isCancelled with
      | true => exact ⟨_, m, rfl, .refuse hc⟩
      | false => exact ⟨_, m, rfl, .pass hc⟩
  | admitted =>
      cases he : σ.limits.deadline.isExpired m.time with
      | true => exact ⟨_, m, rfl, .expire he⟩
      | false => exact ⟨_, m, rfl, .enter he⟩
  | finished o r => exact nomatch hp
  | underway r c =>
      cases r with
      | pending => exact ⟨_, m, rfl, .callReference⟩
      | calling =>
          rcases hreference case (m.isInterrupted σ.limits) with ⟨o, ho⟩
          exact ⟨_, m, rfl, .answerReference ho⟩
      | answered o =>
          refine ⟨_, _, ?_, .settleReference⟩
          unfold Pair.afterReference
          split
          · rfl
          · rfl
      | settled o =>
          -- The reference is through, so it is the turn of the candidate.
          cases c with
          | pending => exact ⟨_, m, rfl, .callCandidate⟩
          | calling =>
              rcases hcandidate case (m.isInterrupted σ.limits) with ⟨o', ho'⟩
              exact ⟨_, m, rfl, .answerCandidate ho'⟩
          | answered o' => exact absurd rfl (hsettled _ o')
          | settled o' =>
              refine ⟨_, _, ?_, .conclude⟩
              split
              · rfl
              · rfl

/-- Where every case that is not finished can be moved on, a run can be led to its end,
    by the workers alone and at once. The induction is on the work that is left. -/
theorem exists_run_isOver_of {start : State}
    (hadvance : ∀ s, Run σ start s → ∀ lane ∈ s.lanes, lane.progress.result? = none →
      ∃ p' m', m'.time = s.moment.time ∧ Advance σ lane.case s.moment lane.progress p' m') :
    ∀ {s : State}, Run σ start s → ∃ s', Run σ s s' ∧ s'.IsOver ∧
      s'.isCancelledByCaller = s.isCancelledByCaller ∧ s'.moment.time = s.moment.time := by
  intro s h
  induction hn : s.remaining using Nat.strongRecOn generalizing s with
  | _ n ih =>
      by_cases hover : s.IsOver
      · exact ⟨s, .refl, hover, rfl, rfl⟩
      · -- Some case is not finished, so a worker moves on with it.
        unfold State.IsOver at hover
        push Not at hover
        rcases hover with ⟨⟨case, p⟩, hlane, hp⟩
        rcases hadvance s h _ hlane hp with ⟨p', m', htime, hadvance⟩
        rcases List.append_of_mem hlane with ⟨before, after, hlanes⟩
        have hs : s = ⟨s.moment, s.isCancelledByCaller, before ++ ⟨case, p⟩ :: after⟩ := by
          rw [← hlanes]
        have hstep : Step σ s ⟨m', s.isCancelledByCaller, before ++ ⟨case, p'⟩ :: after⟩ := by
          rw [hs]
          exact .work hadvance
        -- That leaves less work, and the rest is done by induction.
        have hless := work_remaining hadvance s.isCancelledByCaller before after
        rw [← hs, hn] at hless
        rcases ih _ hless (h.tail hstep) rfl with ⟨s', hrun, hover, hcaller, htime'⟩
        exact ⟨s', .head hstep hrun, hover, hcaller, htime'.trans htime⟩

/-- A run can be led to its end from every state that it reaches, if every call comes
    back. -/
theorem exists_run_isOver (hreference : σ.reference.IsTotal) (hcandidate : σ.candidate.IsTotal)
    {cases : List Case} {m : Moment} :
    ∀ {s : State}, Run σ (.start cases m) s → ∃ s', Run σ s s' ∧ s'.IsOver ∧
      s'.isCancelledByCaller = s.isCancelledByCaller ∧ s'.moment.time = s.moment.time := by
  refine exists_run_isOver_of fun s h lane hlane hp => ?_
  have hsettled := (candidateSettled_invariant σ).of_start (fun _ _ _ _ => nofun) h lane hlane
  exact exists_advance hreference hcandidate hp hsettled

end

/-- An executor returns: every run that has begun can be led to a result. -/
theorem exists_returns {e : Executor} {reference candidate : Conduct} (comparator : Comparator)
    (hreference : reference.IsTotal) (hcandidate : candidate.IsTotal) {cases : List Case}
    {m : Moment} {s : State}
    (h : Run (setting e reference candidate comparator m) (.start cases m) s) :
    ∃ s' result, Run (setting e reference candidate comparator m) s s' ∧
      Returns e reference candidate comparator cases m s' result ∧
      s'.isCancelledByCaller = s.isCancelledByCaller := by
  rcases exists_run_isOver hreference hcandidate h with ⟨s', hrun, hover, hcaller, _⟩
  exact ⟨s', _, hrun, ⟨h.trans hrun, hover, rfl⟩, hcaller⟩

end Interleaving

end Concordance
