import Concordance.Proofs.Interleaving.Basic

/-!
# One Case After the Other

The run in which one worker takes the cases in turn is an interleaved run.

`Executor.execute` threads one moment through all calls, and the call of an
artifact takes it from its beginning to its end at one stroke. In an interleaved
run the same happens step by step: a call begins, the clock runs on, the caller
may cancel, and the call ends. So whatever holds of interleaved runs holds of
what `Executor.execute` gives, and so does what holds only of the runs in which
no case is begun before those ahead of it are through.

## Main definitions

* `Moment.Alike`: Moments with one time and one token.
* `Interleaving.InTurn`, `Interleaving.RunInTurn`: No case is begun before the ones
  ahead of it are through, and runs of this kind.
* `Artifact.answering`: An artifact that is nothing but a function of the case.

## Theorems

* `inTurn_of_run`, `inTurn_mk`: Which cases have been begun.
* `exists_runInTurn_until`: Time passes and the token is cancelled as one likes.
* `exists_runInTurn_calls`, `exists_runInTurn_runCase`, `exists_runInTurn_runCases`:
  The steps of two calls, of one case, and of several.
* `exists_returns_inTurn`, `exists_returns_execute`: What one worker gives is given
  by an interleaved run.
* `runs_case`: The steps of a case that nothing disturbs.
* `exists_returns_single`: What a run of one case gives.
-/

namespace Concordance

/-- Whether the clock and the token are the same at two moments. -/
structure Moment.Alike (m m' : Moment) : Prop where
  time_eq : m.time = m'.time
  isCancelled_eq : m.isCancelled = m'.isCancelled

namespace Moment.Alike

theorem isInterrupted_eq {m m' : Moment} (h : m.Alike m') (l : Limits) :
    m.isInterrupted l = m'.isInterrupted l := by
  unfold isInterrupted
  rw [h.time_eq, h.isCancelled_eq]

theorem cancel {m m' : Moment} (h : m.Alike m') : m.cancel.Alike m'.cancel :=
  ⟨h.time_eq, rfl⟩

theorem afterReference {m m' : Moment} (h : m.Alike m') (o : Outcome) :
    (Pair.afterReference o m).Alike (Pair.afterReference o m') := by
  unfold Pair.afterReference
  split
  · exact h
  · exact h.cancel

end Moment.Alike

namespace Executor

theorem runCases_cons (pair : Pair) (comparator : Comparator) (l : Limits) (case : Case)
    (cases : List Case) (m : Moment) :
    runCases pair comparator l (case :: cases) m
      = ((runCase pair comparator l case m).1
            :: (runCases pair comparator l cases (runCase pair comparator l case m).2).1,
          (runCases pair comparator l cases (runCase pair comparator l case m).2).2) := by
  -- Results are gathered last first, so what was gathered before stays behind.
  have hfold : ∀ (cases : List Case) (gathered : List CaseResult) (m : Moment),
      cases.foldl (fun (x : List CaseResult × Moment) case =>
          ((runCase pair comparator l case x.2).1 :: x.1, (runCase pair comparator l case x.2).2))
        (gathered, m)
        = ((runCases pair comparator l cases m).1.reverse ++ gathered,
            (runCases pair comparator l cases m).2) := by
    intro cases
    induction cases with
    | nil => exact fun gathered m => rfl
    | cons case cases ih =>
        intro gathered m
        unfold runCases
        rw [List.foldl_cons, List.foldl_cons, ih, ih]
        simp only [List.reverse_reverse, List.append_assoc, List.cons_append, List.nil_append,
          List.reverse_append]
  conv => lhs; unfold runCases
  rw [List.foldl_cons, hfold]
  simp only [List.reverse_append, List.reverse_reverse, List.reverse_cons, List.reverse_nil,
    List.nil_append, List.cons_append]

end Executor

namespace Interleaving

/-- Whether no case was begun before the ones ahead of it were through. -/
def InTurn (lanes : List Lane) : Prop :=
  lanes.Pairwise fun a b => a.progress.result? ≠ none ∨ b.progress = .waiting

/-- A step after which no case has been begun out of turn. -/
def StepInTurn (σ : Setting) (s s' : State) : Prop :=
  Step σ s s' ∧ InTurn s'.lanes

/-- Any number of steps that take the cases in turn. -/
abbrev RunInTurn (σ : Setting) : State → State → Prop :=
  Relation.ReflTransGen (StepInTurn σ)

section

variable {σ : Setting}

theorem RunInTurn.run {s s' : State} (h : RunInTurn σ s s') : Run σ s s' :=
  Relation.ReflTransGen.mono (fun _ _ hstep => hstep.1) _ _ h

/-- Cases are in turn if those ahead of some case are through and those after it
    wait. -/
theorem inTurn_mk {before after : List Lane} (lane : Lane)
    (hbefore : ∀ a ∈ before, a.progress.result? ≠ none)
    (hafter : ∀ b ∈ after, b.progress = .waiting) : InTurn (before ++ lane :: after) := by
  refine List.pairwise_append.mpr ⟨?_, List.pairwise_cons.mpr ⟨?_, ?_⟩, ?_⟩
  · exact List.pairwise_of_forall_mem_list fun a ha _ _ => Or.inl (hbefore a ha)
  · exact fun b hb => Or.inr (hafter b hb)
  · exact List.pairwise_of_forall_mem_list fun _ _ b hb => Or.inr (hafter b hb)
  · exact fun a ha _ _ => Or.inl (hbefore a ha)

theorem inTurn_of_run {cases : List Case} {m : Moment} {s : State}
    (h : RunInTurn σ (.start cases m) s) : InTurn s.lanes := by
  cases h with
  | refl =>
      -- Nothing has been begun.
      exact List.pairwise_map.mpr (List.pairwise_of_forall fun _ _ => Or.inr rfl)
  | tail _ hstep => exact hstep.2

/-- A step on a case whose turn it is. -/
theorem StepInTurn.work {m m' : Moment} {b : Bool} {before after : List Lane} {case : Case}
    {p p' : Progress} (hbefore : ∀ a ∈ before, a.progress.result? ≠ none)
    (hafter : ∀ b ∈ after, b.progress = .waiting) (h : Advance σ case m p p' m') :
    StepInTurn σ ⟨m, b, before ++ ⟨case, p⟩ :: after⟩ ⟨m', b, before ++ ⟨case, p'⟩ :: after⟩ :=
  ⟨.work h, inTurn_mk _ hbefore hafter⟩

/-- Time passes, and the caller cancels if need be, until a later moment is
    reached. -/
theorem exists_runInTurn_until {M m m' : Moment} (h : M.Alike m) (hle : m.Precedes m') (b : Bool)
    {lanes : List Lane} (hlanes : InTurn lanes) :
    ∃ M' b', M'.Alike m' ∧ RunInTurn σ ⟨M, b, lanes⟩ ⟨M', b', lanes⟩ := by
  have htime : M.time + (m'.time - M.time) = m'.time := by
    rw [h.time_eq]
    have := hle.time_le
    omega
  have helapse : RunInTurn σ ⟨M, b, lanes⟩ ⟨{ M with time := m'.time }, b, lanes⟩ := by
    have hstep := Step.elapse (σ := σ) ⟨M, b, lanes⟩ (m'.time - M.time)
    rw [htime] at hstep
    exact .single ⟨hstep, hlanes⟩
  by_cases hc : M.isCancelled = m'.isCancelled
  · exact ⟨{ M with time := m'.time }, b, ⟨rfl, hc⟩, helapse⟩
  · -- A token that is not the same any more was cancelled in between.
    have hcancelled : m'.isCancelled = true := by
      cases hm : m.isCancelled with
      | true => exact hle.isCancelled_of hm
      | false =>
          rw [h.isCancelled_eq, hm] at hc
          exact eq_true_of_ne_false (Ne.symm hc)
    exact ⟨Moment.cancel { M with time := m'.time }, true, ⟨rfl, hcancelled.symm⟩,
      helapse.tail ⟨.cancel _, hlanes⟩⟩

end

section

variable (pair : Pair) (comparator : Comparator) (l : Limits)

/-- What a pair of artifacts is called and compared for within limits. -/
def settingOf (pair : Pair) (comparator : Comparator) (l : Limits) : Setting :=
  { reference := pair.reference.conduct l, candidate := pair.candidate.conduct l, comparator
    limits := l }

/-- The steps of the two calls of a case: the reference is called and answers, its
    outcome is acted upon, and then it is the turn of the candidate. -/
theorem exists_runInTurn_calls (case : Case) {M m : Moment} (h : M.Alike m) (b : Bool)
    {before after : List Lane} (hbefore : ∀ a ∈ before, a.progress.result? ≠ none)
    (hafter : ∀ b ∈ after, b.progress = .waiting) :
    ∃ M' b', M'.Alike (pair.call case l m).2 ∧
      RunInTurn (settingOf pair comparator l)
        ⟨M, b, before ++ ⟨case, .underway .pending .pending⟩ :: after⟩
        ⟨M', b', before ++ ⟨case, .underway (.settled (pair.call case l m).1.reference)
          (.settled (pair.call case l m).1.candidate)⟩ :: after⟩ := by
  generalize hr : pair.reference.call case l m = reference
  generalize hk : pair.candidate.call case l (Pair.afterReference reference.1 reference.2)
    = candidate
  have hpair : pair.call case l m = (⟨reference.1, candidate.1⟩, candidate.2) := by
    subst hr
    subst hk
    rfl
  rw [hpair]
  have hle₁ : m.Precedes reference.2 := by
    rw [← hr]
    exact pair.reference.precedes_call case l m
  have hle₂ : (Pair.afterReference reference.1 reference.2).Precedes candidate.2 := by
    rw [← hk]
    exact pair.candidate.precedes_call case l _
  -- Time passes until the reference answers.
  rcases exists_runInTurn_until (σ := settingOf pair comparator l) h hle₁ b
    (inTurn_mk ⟨case, .underway .calling .pending⟩ hbefore hafter) with
    ⟨M₁, b₁, h₁, hrun₁⟩
  have hanswer₁ : (settingOf pair comparator l).reference case
      (M₁.isInterrupted (settingOf pair comparator l).limits) reference.1 :=
    ⟨m, by rw [hr], by rw [hr]; exact h₁.isInterrupted_eq l⟩
  -- Time passes until the candidate answers.
  rcases exists_runInTurn_until (σ := settingOf pair comparator l)
    (h₁.afterReference reference.1) hle₂ b₁
    (inTurn_mk ⟨case, .underway (.settled reference.1) .calling⟩ hbefore hafter) with
    ⟨M₂, b₂, h₂, hrun₂⟩
  have hanswer₂ : (settingOf pair comparator l).candidate case
      (M₂.isInterrupted (settingOf pair comparator l).limits) candidate.1 :=
    ⟨_, by rw [hk], by rw [hk]; exact h₂.isInterrupted_eq l⟩
  exact ⟨M₂, b₂, h₂, .head (.work hbefore hafter .callReference) (hrun₁.trans
    (.head (.work hbefore hafter (.answerReference hanswer₁))
      (.head (.work hbefore hafter .settleReference)
        (.head (.work hbefore hafter .callCandidate) (hrun₂.trans
          (.single (.work hbefore hafter (.answerCandidate hanswer₂))))))))⟩

/-- The steps of one case: it is refused at once, or the artifacts are called and
    the case is concluded. -/
theorem exists_runInTurn_runCase (case : Case) {M m : Moment} (h : M.Alike m) (b : Bool)
    {before after : List Lane} (hbefore : ∀ a ∈ before, a.progress.result? ≠ none)
    (hafter : ∀ b ∈ after, b.progress = .waiting) :
    ∃ M' b' o, M'.Alike (Executor.runCase pair comparator l case m).2 ∧
      RunInTurn (settingOf pair comparator l) ⟨M, b, before ++ ⟨case, .waiting⟩ :: after⟩
        ⟨M', b', before ++
          ⟨case, .finished o (Executor.runCase pair comparator l case m).1⟩ :: after⟩ := by
  unfold Executor.runCase
  by_cases hint : m.isInterrupted l = true
  · -- The token is looked at before the clock.
    rw [if_pos hint]
    rw [← h.isInterrupted_eq l, Moment.isInterrupted] at hint
    cases hc : M.isCancelled with
    | true => exact ⟨M, b, none, h, .single (.work hbefore hafter (.refuse hc))⟩
    | false =>
        rw [hc, Bool.false_or] at hint
        exact ⟨M, b, none, h, .head (.work hbefore hafter (.pass hc))
          (.single (.work hbefore hafter (.expire hint)))⟩
  · rw [if_neg hint]
    rw [← h.isInterrupted_eq l, Moment.isInterrupted, Bool.or_eq_true_iff, not_or,
      Bool.not_eq_true, Bool.not_eq_true] at hint
    rcases exists_runInTurn_calls pair comparator l case h b hbefore hafter with
      ⟨M', b', h', hcalls⟩
    refine ⟨_, b', some (pair.call case l m).1, ?_, .head (.work hbefore hafter (.pass hint.1))
      (.head (.work hbefore hafter (.enter hint.2))
        (hcalls.tail (.work hbefore hafter .conclude)))⟩
    change Moment.Alike (if (CaseResult.ofOutcomes comparator case.index _).2 then _ else _) _
    dsimp only
    split
    · exact h'.cancel
    · exact h'

/-- The steps of several cases, one after the other. The induction is on the
    cases that are left; those before them are through. -/
theorem exists_runInTurn_runCases (cases : List Case) : ∀ {M m : Moment}, M.Alike m → ∀ (b : Bool)
    (before : List Lane), (∀ a ∈ before, a.progress.result? ≠ none) → ∃ M' b' done,
      M'.Alike (Executor.runCases pair comparator l cases m).2 ∧
      done.map (fun lane => lane.progress.result?)
        = (Executor.runCases pair comparator l cases m).1.map some ∧
      RunInTurn (settingOf pair comparator l)
        ⟨M, b, before ++ cases.map fun case => ⟨case, .waiting⟩⟩ ⟨M', b', before ++ done⟩ := by
  induction cases with
  | nil => exact fun {M m} h b before _ => ⟨M, b, [], h, rfl, .refl⟩
  | cons case cases ih =>
      intro M m h b before hbefore
      have hafter : ∀ b ∈ cases.map fun case => (⟨case, .waiting⟩ : Lane),
          b.progress = .waiting := by
        intro b hb
        rcases List.mem_map.mp hb with ⟨_, _, rfl⟩
        rfl
      rcases exists_runInTurn_runCase pair comparator l case h b hbefore hafter with
        ⟨M₁, b₁, o, h₁, hrun₁⟩
      have hbefore₁ : ∀ a ∈ before ++
          [⟨case, .finished o (Executor.runCase pair comparator l case m).1⟩],
          a.progress.result? ≠ none := by
        intro a ha
        rcases List.mem_append.mp ha with ha | ha
        · exact hbefore a ha
        · rw [List.mem_singleton.mp ha]
          exact Option.some_ne_none _
      -- The case that is through now stands among those before the others.
      rcases ih h₁ b₁ _ hbefore₁ with ⟨M₂, b₂, done, h₂, hdone, hrun₂⟩
      rw [Executor.runCases_cons]
      refine ⟨M₂, b₂, ⟨case, .finished o (Executor.runCase pair comparator l case m).1⟩ :: done,
        h₂, ?_, hrun₁.trans ?_⟩
      · rw [List.map_cons, List.map_cons, hdone]
        rfl
      · rw [List.append_assoc, List.append_assoc] at hrun₂
        exact hrun₂

end

theorem results_of_map_result? {s : State} {results : List CaseResult}
    (h : s.lanes.map (fun lane => lane.progress.result?) = results.map some) :
    s.IsOver ∧ s.results = results := by
  constructor
  · intro lane hlane hnone
    have hmem : none ∈ results.map some := by
      rw [← h, ← hnone]
      exact List.mem_map_of_mem hlane
    rcases List.mem_map.mp hmem with ⟨r, _, hr⟩
    exact nomatch hr
  · have hfilter : s.results
        = (s.lanes.map fun lane => lane.progress.result?).filterMap id := by
      rw [List.filterMap_map]
      rfl
    rw [hfilter, h, List.filterMap_map]
    exact List.filterMap_some

/-- What one worker gives that takes the cases in turn is given by a run of the
    same artifacts that takes them in turn, and it ends at the same moment. -/
theorem exists_returns_inTurn (e : Executor) (pair : Pair) (comparator : Comparator)
    (cases : List Case) (m : Moment) :
    ∃ s, Returns e (pair.reference.conduct (e.limits m)) (pair.candidate.conduct (e.limits m))
        comparator cases m s (e.execute pair comparator cases m).1 ∧
      RunInTurn (setting e (pair.reference.conduct (e.limits m))
        (pair.candidate.conduct (e.limits m)) comparator m) (.start cases m) s ∧
      s.moment.Alike (e.execute pair comparator cases m).2 := by
  rcases exists_runInTurn_runCases pair comparator (e.limits m) cases (M := m)
    (m := m) ⟨rfl, rfl⟩ false [] (fun _ ha => absurd ha List.not_mem_nil) with
    ⟨M, b, done, hmoment, hdone, hrun⟩
  rcases results_of_map_result? (s := ⟨M, b, done⟩) hdone with ⟨hover, hresults⟩
  refine ⟨⟨M, b, done⟩, ⟨hrun.run, hover, ?_⟩, hrun, hmoment⟩
  rw [hresults, hmoment.time_eq]
  rfl

/-- What one worker gives that takes the cases in turn is given by an interleaved
    run of the same artifacts. -/
theorem exists_returns_execute (e : Executor) (pair : Pair) (comparator : Comparator)
    (cases : List Case) (m : Moment) :
    ∃ s, Returns e (pair.reference.conduct (e.limits m)) (pair.candidate.conduct (e.limits m))
      comparator cases m s (e.execute pair comparator cases m).1 := by
  rcases exists_returns_inTurn e pair comparator cases m with ⟨s, h, _⟩
  exact ⟨s, h⟩

/-- The steps of a case that nothing disturbs, of whatever kind the steps are that
    may be made on it. -/
theorem runs_case {σ : Setting} (step : State → State → Prop) (case : Case)
    (before after : List Lane)
    (hstep : ∀ {m m' b p p'}, Advance σ case m p p' m' →
      step ⟨m, b, before ++ ⟨case, p⟩ :: after⟩ ⟨m', b, before ++ ⟨case, p'⟩ :: after⟩)
    (hnever : ∀ now, σ.limits.deadline.isExpired now = false) {m : Moment}
    (htoken : m.isCancelled = false) {r k : Outcome} (hr : ∀ b, σ.reference case b r)
    (hk : ∀ b, σ.candidate case b k) (b : Bool) :
    Relation.ReflTransGen step ⟨m, b, before ++ ⟨case, .waiting⟩ :: after⟩
      ⟨if (CaseResult.ofOutcomes σ.comparator case.index ⟨r, k⟩).2
          then (Pair.afterReference r m).cancel else Pair.afterReference r m, b,
        before ++ ⟨case, .finished (some ⟨r, k⟩)
          (CaseResult.ofOutcomes σ.comparator case.index ⟨r, k⟩).1⟩ :: after⟩ :=
  .head (hstep (.pass htoken))
    (.head (hstep (.enter (hnever _)))
      (.head (hstep .callReference)
        (.head (hstep (.answerReference (hr _)))
          (.head (hstep .settleReference)
            (.head (hstep .callCandidate)
              (.head (hstep (.answerCandidate (hk _)))
                (.single (hstep .conclude))))))))

/-- One case on its own, in a run that has no deadline and that nobody cancels. -/
theorem exists_returns_single {e : Executor} (htime : e.runTimeout = none)
    (reference candidate : Conduct) (comparator : Comparator) (case : Case) {m : Moment}
    (htoken : m.isCancelled = false) {r k : Outcome} (hr : ∀ b, reference case b r)
    (hk : ∀ b, candidate case b k) :
    ∃ s, Returns e reference candidate comparator [case] m s
        (settle [(CaseResult.ofOutcomes comparator case.index ⟨r, k⟩).1] none false) ∧
      s.isCancelledByCaller = false ∧
      s.lanes = [⟨case, .finished (some ⟨r, k⟩)
        (CaseResult.ofOutcomes comparator case.index ⟨r, k⟩).1⟩] ∧
      s.moment = if (CaseResult.ofOutcomes comparator case.index ⟨r, k⟩).2
        then (Pair.afterReference r m).cancel else Pair.afterReference r m := by
  have hnever := Executor.isExpired_limits_of_none htime m
  refine ⟨⟨_, false, [⟨case, .finished (some ⟨r, k⟩)
    (CaseResult.ofOutcomes comparator case.index ⟨r, k⟩).1⟩]⟩, ⟨?_, ?_, ?_⟩, rfl, rfl, rfl⟩
  · exact runs_case (Step (setting e reference candidate comparator m)) case [] [] .only hnever
      htoken hr hk false
  · intro lane hlane
    rw [List.mem_singleton.mp hlane]
    exact Option.some_ne_none _
  · rw [htime, hnever]
    rfl

end Interleaving

namespace Artifact

/-- An artifact that does one thing on a case and takes no time. -/
def answering (f : Case → Outcome) : Artifact where
  name := "answering"
  call case _ m := (f case, m)
  precedes_call _ _ m := .refl m

theorem conduct_answering_follows (f : Case → Outcome) (l : Limits) :
    ((answering f).conduct l).Follows f := by
  rintro case b o ⟨m, rfl, _⟩
  exact Or.inl (.refl _)

end Artifact

end Concordance
