import Concordance.Proofs.Interleaving.Cause

/-!
# Runs in Another Setting

When the steps of a run can be made in another setting too.

A run depends on its setting in three places: in the limits, in the outcomes that
the calls may have, and in what the outcomes of a case come to. Another setting has
the run as well if it agrees in these, and it needs to do so only on the cases and
the outcomes that occur. What the comparison would say of other outcomes does not
matter, nor what the artifacts would do on other cases.

That a setting agrees can be asked of the state in which a run ends, because
nothing is lost on the way to it: every case is there, and outcomes stay.

## Main definitions

* `Covers`: A setting agrees with another one on all that a state shows.
* `Conduct.on`: An artifact that is called on some cases only.

## Theorems

* `Covers.run`: A run in one setting is a run in the other.
* `Returns.on`: A run calls the artifacts on its cases only.
-/

namespace Concordance

/-- An artifact that is called on some cases only. -/
def Conduct.on (c : Conduct) (cases : List Case) : Conduct := fun case b o =>
  case ∈ cases ∧ c case b o

namespace Interleaving

/-- Whether a setting agrees with another one on all that a state shows: on the
    limits, on the calls on its cases, and on what the outcomes come to. -/
structure Covers (σ σ' : Setting) (s : State) : Prop where
  limits : σ'.limits = σ.limits
  reference : ∀ lane ∈ s.lanes, ∀ b o, σ.reference lane.case b o → σ'.reference lane.case b o
  candidate : ∀ lane ∈ s.lanes, ∀ b o, σ.candidate lane.case b o → σ'.candidate lane.case b o
  result : ∀ lane ∈ s.lanes, ∀ o, lane.progress.outcomes? = some o →
    CaseResult.ofOutcomes σ'.comparator lane.case.index o
      = CaseResult.ofOutcomes σ.comparator lane.case.index o

section

variable {σ σ' : Setting} {s s' : State}

theorem outcomes?_advance {case : Case} {m m' : Moment} {p p' : Progress}
    (h : Advance σ case m p p' m') {o : Outcomes} (ho : p.outcomes? = some o) :
    p'.outcomes? = some o := by
  -- A case with the outcomes of both calls does not move on.
  cases h <;> exact nomatch ho

/-- What a worker may do on a case of a run can be done in the other setting, if the
    state in which the run ends shows the case, and the outcomes that it has now. -/
theorem Covers.advance (hcovers : Covers σ σ' s') {case : Case} {m m' : Moment}
    {p p' : Progress} (h : Advance σ case m p p' m')
    (hcase : ∃ lane ∈ s'.lanes, lane.case = case)
    (houtcomes : ∀ o, p'.outcomes? = some o →
      ∃ lane ∈ s'.lanes, lane.case = case ∧ lane.progress.outcomes? = some o) :
    Advance σ' case m p p' m' := by
  rcases hcase with ⟨lane, hlane, rfl⟩
  -- The limits are looked at before the calls, the conduct when a call is answered, and
  -- the comparison in the end. The other steps look at nothing.
  cases h with
  | refuse hc => exact .refuse hc
  | pass hc => exact .pass hc
  | expire he => exact .expire (by rw [hcovers.limits]; exact he)
  | enter he => exact .enter (by rw [hcovers.limits]; exact he)
  | callReference => exact .callReference
  | callCandidate => exact .callCandidate
  | answerReference ho =>
      refine .answerReference ?_
      rw [hcovers.limits]
      exact hcovers.reference lane hlane _ _ ho
  | settleReference => exact .settleReference
  | answerCandidate ho =>
      refine .answerCandidate ?_
      rw [hcovers.limits]
      exact hcovers.candidate lane hlane _ _ ho
  | @conclude r c =>
      rcases houtcomes ⟨r, c⟩ rfl with ⟨lane', hlane', hsame, ho⟩
      have heq := hcovers.result lane' hlane' ⟨r, c⟩ ho
      rw [hsame] at heq
      rw [← heq]
      exact .conclude

/-- A run in a setting is a run in every other one that agrees with it on the state
    in which the run ends. The induction goes from that state backwards. -/
theorem Covers.run (hcovers : Covers σ σ' s') (h : Run σ s s') : Run σ' s s' := by
  induction h using Relation.ReflTransGen.head_induction_on with
  | refl => exact .refl
  | @head s s₁ hstep hrest ih =>
      refine .head ?_ ih
      cases hstep with
      | elapse => exact .elapse _ _
      | cancel => exact .cancel _
      | @work m m' b before after case p p' hadvance =>
          have hmem : (⟨case, p'⟩ : Lane) ∈ before ++ ⟨case, p'⟩ :: after :=
            List.mem_append_right _ List.mem_cons_self
          -- The last state shows the case of this step, and the outcomes if it has them.
          refine .work (hcovers.advance hadvance ?_ ?_)
          · exact exists_lane_run (Q := fun c _ => c = case) (fun _ heq => heq) hrest
              ⟨_, hmem, rfl⟩
          · intro o ho
            exact exists_lane_run (Q := fun c q => c = case ∧ q.outcomes? = some o)
              (fun hadv hq => ⟨hq.1, outcomes?_advance hadv hq.2⟩) hrest ⟨_, hmem, rfl, ho⟩

end

section

variable {e : Executor} {reference candidate reference' candidate' : Conduct}
  {comparator comparator' : Comparator} {cases : List Case} {m : Moment} {s : State}
  {result : Except RunError (List Comparison)}

/-- What a run returns in a setting, it returns in every other one that agrees. -/
theorem Covers.returns
    (hcovers : Covers (setting e reference candidate comparator m)
      (setting e reference' candidate' comparator' m) s)
    (h : Returns e reference candidate comparator cases m s result) :
    Returns e reference' candidate' comparator' cases m s result :=
  ⟨hcovers.run h.run, h.isOver, h.result_eq⟩

/-- A run calls the artifacts on its cases only. -/
theorem Returns.on (h : Returns e reference candidate comparator cases m s result) :
    Returns e (reference.on cases) (candidate.on cases) comparator cases m s result := by
  have hcovers : Covers (setting e reference candidate comparator m)
      (setting e (reference.on cases) (candidate.on cases) comparator m) s :=
    ⟨rfl, fun _ hlane _ _ ho => ⟨case_mem h.run hlane, ho⟩,
      fun _ hlane _ _ ho => ⟨case_mem h.run hlane, ho⟩, fun _ _ _ _ => rfl⟩
  exact hcovers.returns h

end

end Interleaving

end Concordance
