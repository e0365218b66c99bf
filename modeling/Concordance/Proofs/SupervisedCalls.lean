import Concordance.Run.Execution

/-!
# Calls of Programs, Round by Round

What becomes of the child of a call, whatever happens in the meantime.

A call waits twice: for the child, and then for the pipes that the child and everyone whom it
has started may hold. In each round of either wait there is an answer first, and then a check
whether to stop. The wait for the child leaves behind a guard that has no child any more, or
else the call stops and kills it, so that the second wait cannot lose the child. What it can do
is to kill what is left of the group, which does not reap anyone.

Of the pipes only one thing counts, which is that a reading end is not asked again after it has
ended. So what it holds is what the first answer that was not pending has told.

## Main definitions

* `EndingRound.isIdle`, `EndingRound.conclusion`: Whether a round decides, and how.
* `firstEnd?`: What a pipe tells when it ends.
* `ReapedBy`: How a child is reaped.
* `Supervised.HasCompleted`: What it takes for an exit code to be told.
* `Supervised.IsAccountedFor`: What is left of a call when it returns.

## Theorems

* `awaitEnding_eq`, `awaitEnding_cases`: The first round that is not idle decides about the
  child.
* `drainPipes_spec`: The pipes are asked up to some round, and why no further.
* `supervise_isAccountedFor`: No call leaves its child behind.
* `Execution.supervise_isSome`: A call on a clock of its own returns.
-/

namespace Concordance

/-! ### The child -/

namespace Guard

variable {g : Guard}

/-- Without a child there is nothing left to reap. -/
theorem kill_of_not_ownsChild (h : g.ownsChild = false) :
    g.kill = { g with groupKills := g.groupKills + 1 } := by
  obtain ⟨child?, reaps, groupKills⟩ := g
  cases child? with
  | none => rfl
  | some child => exact nomatch h

theorem drop_of_not_ownsChild (h : g.ownsChild = false) : g.drop = g := by
  unfold ownsChild at h
  rw [drop, h]
  rfl

theorem ownsChild_kill : g.kill.ownsChild = false := by
  obtain ⟨_ | ⟨_ | _⟩, reaps, groupKills⟩ := g <;> rfl

theorem groupKills_kill : g.kill.groupKills = g.groupKills + 1 := by
  obtain ⟨_ | ⟨_ | _⟩, reaps, groupKills⟩ := g <;> rfl

end Guard

namespace EndingRound

variable (l : Limits) (round : EndingRound)

/-- Whether the wait goes on after a round. -/
def isIdle : Bool :=
  decide (round.answer = .running) && !round.check.stops l

theorem isIdle_iff : round.isIdle l = true ↔
    round.answer = .running ∧ round.check.stops l = false := by
  rw [isIdle, Bool.and_eq_true, decide_eq_true_eq, Bool.not_eq_true']

theorem stops_of_running (h : round.isIdle l = false) (hanswer : round.answer = .running) :
    round.check.stops l = true := by
  rw [isIdle, hanswer, decide_eq_true rfl, Bool.true_and, Bool.not_eq_false'] at h
  exact h

/-- What has become of the child after a round that decides, and how the wait has ended. -/
def conclusion : Guard × Awaited :=
  match round.answer with
  | .ended e => ((Guard.start.ask (.ended e)).1.release, .ended (some e))
  | .failed => (Guard.start.kill, .ended none)
  | .running => (.start, .stopped round.check)

end EndingRound

section

variable {l : Limits}

theorem awaitEnding_cons_of_isIdle {round : EndingRound} (h : round.isIdle l = true)
    (rounds : List EndingRound) :
    awaitEnding l .start (round :: rounds) = awaitEnding l .start rounds := by
  obtain ⟨hanswer, hstops⟩ := (round.isIdle_iff l).mp h
  rw [awaitEnding, hanswer]
  exact if_neg (ne_true_of_eq_false hstops)

theorem awaitEnding_cons_of_not_isIdle {round : EndingRound} (h : round.isIdle l = false)
    (rounds : List EndingRound) :
    awaitEnding l .start (round :: rounds) = round.conclusion := by
  rw [awaitEnding, EndingRound.conclusion]
  cases hanswer : round.answer with
  | ended e => rfl
  | failed => rfl
  | running => exact if_pos (round.stops_of_running l h hanswer)

/-- The first round that is not idle decides about the child. -/
theorem awaitEnding_eq (rounds : List EndingRound) : awaitEnding l .start rounds =
    ((rounds.find? fun round => !round.isIdle l).map EndingRound.conclusion).getD
      (.start, .pending) := by
  induction rounds with
  | nil => rfl
  | cons round rounds ih =>
      cases h : round.isIdle l with
      | true =>
          rw [awaitEnding_cons_of_isIdle h, ih, List.find?_cons_of_neg (by rw [h]; decide)]
      | false =>
          rw [awaitEnding_cons_of_not_isIdle h, List.find?_cons_of_pos (by rw [h]; rfl)]
          rfl

variable (l) in
/-- The wait for the child still goes on, or there is a round that decides, and all the rounds
    before were idle. -/
theorem awaitEnding_cases (rounds : List EndingRound) :
    awaitEnding l .start rounds = (.start, .pending) ∨ ∃ before round after,
      rounds = before ++ round :: after ∧ (∀ r ∈ before, r.isIdle l = true) ∧
        round.isIdle l = false ∧ awaitEnding l .start rounds = round.conclusion := by
  rw [awaitEnding_eq]
  cases hround : rounds.find? fun round => !round.isIdle l with
  | none => exact .inl rfl
  | some round =>
      obtain ⟨hidle, before, after, hsplit, hbefore⟩ := List.find?_eq_some_iff_append.mp hround
      refine .inr ⟨before, round, after, hsplit, fun r hr => ?_, ?_, rfl⟩
      · simpa using hbefore r hr
      · simpa using hidle

end

/-! ### The pipes -/

/-- What a pipe tells when it ends: nothing if its reader is gone, `none` if it does not end. -/
def firstEnd? : List PipeAnswer → Option String
  | [] => none
  | .pending :: answers => firstEnd? answers
  | .ended text :: _ => some text
  | .lost :: _ => some ""

namespace Drain

/-- A reading end that has ended keeps its text, and stays so. -/
theorem foldl_poll_of_hasEnded {d : Drain} (h : d.hasEnded = true) (answers : List PipeAnswer) :
    answers.foldl poll d = d := by
  induction answers with
  | nil => rfl
  | cons answer answers ih =>
      have hstep : d.poll answer = d := if_pos h
      rw [List.foldl_cons, hstep, ih]

/-- What a reading end holds is what the pipe has told when it ended. -/
theorem foldl_poll_start (answers : List PipeAnswer) :
    answers.foldl poll start = (firstEnd? answers).elim start fun text => ⟨true, text⟩ := by
  induction answers with
  | nil => rfl
  | cons answer answers ih =>
      cases answer with
      | pending => exact ih
      | ended text => exact foldl_poll_of_hasEnded rfl answers
      | lost => exact foldl_poll_of_hasEnded rfl answers

theorem firstEnd?_of_hasEnded {answers : List PipeAnswer}
    (h : (answers.foldl poll start).hasEnded = true) :
    firstEnd? answers = some (answers.foldl poll start).text := by
  rw [foldl_poll_start] at h ⊢
  cases hend : firstEnd? answers with
  | none =>
      rw [hend] at h
      exact nomatch h
  | some text => rfl

end Drain

namespace Drains

/-- Whether both pipes have ended. -/
def haveEnded (d : Drains) : Bool :=
  d.stdout.hasEnded && d.stderr.hasEnded

theorem stdout_foldl_poll (d : Drains) (rounds : List DrainRound) :
    (rounds.foldl poll d).stdout = (rounds.map DrainRound.stdout).foldl Drain.poll d.stdout := by
  rw [List.foldl_map]
  exact (List.foldl_hom Drains.stdout fun _ _ => rfl).symm

theorem stderr_foldl_poll (d : Drains) (rounds : List DrainRound) :
    (rounds.foldl poll d).stderr = (rounds.map DrainRound.stderr).foldl Drain.poll d.stderr := by
  rw [List.foldl_map]
  exact (List.foldl_hom Drains.stderr fun _ _ => rfl).symm

end Drains

/-- Why the pipes are not asked any further. -/
def Drained.IsJustified (l : Limits) (d : Drains) (polled rest : List DrainRound) :
    Drained → Prop
  | .ended => d.haveEnded = true
  | .stopped check => check.stops l = true ∧ ∃ round ∈ polled, round.check = check
  | .pending => rest = []

section

variable {l : Limits} {d : Drains} {round : DrainRound}

theorem drainPipes_cons_of_haveEnded (h : (d.poll round).haveEnded = true)
    (rounds : List DrainRound) : drainPipes l d (round :: rounds) = (d.poll round, .ended) :=
  if_pos h

theorem drainPipes_cons_of_stops (h : (d.poll round).haveEnded = false)
    (hstops : round.check.stops l = true) (rounds : List DrainRound) :
    drainPipes l d (round :: rounds) = (d.poll round, .stopped round.check) :=
  (if_neg (ne_true_of_eq_false h)).trans (if_pos hstops)

theorem drainPipes_cons_of_goesOn (h : (d.poll round).haveEnded = false)
    (hstops : round.check.stops l = false) (rounds : List DrainRound) :
    drainPipes l d (round :: rounds) = drainPipes l (d.poll round) rounds :=
  (if_neg (ne_true_of_eq_false h)).trans (if_neg (ne_true_of_eq_false hstops))

theorem Drained.IsJustified.cons {polled rest : List DrainRound} {drained : Drained}
    (h : drained.IsJustified l d polled rest) (round : DrainRound) :
    drained.IsJustified l d (round :: polled) rest := by
  cases drained with
  | ended => exact h
  | pending => exact h
  | stopped check =>
      obtain ⟨hstops, r, hr, hcheck⟩ := h
      exact ⟨hstops, r, List.mem_cons_of_mem _ hr, hcheck⟩

end

/-- The pipes are asked up to some round, and why no further. -/
theorem drainPipes_spec (l : Limits) (rounds : List DrainRound) (d : Drains) :
    ∃ polled rest, rounds = polled ++ rest ∧
      (drainPipes l d rounds).1 = polled.foldl Drains.poll d ∧
      (drainPipes l d rounds).2.IsJustified l (polled.foldl Drains.poll d) polled rest := by
  induction rounds generalizing d with
  | nil => exact ⟨[], [], rfl, rfl, rfl⟩
  | cons round rounds ih =>
      cases hended : (d.poll round).haveEnded with
      | true =>
          rw [drainPipes_cons_of_haveEnded hended]
          exact ⟨[round], rounds, rfl, rfl, hended⟩
      | false =>
          cases hstops : round.check.stops l with
          | true =>
              rw [drainPipes_cons_of_stops hended hstops]
              exact ⟨[round], rounds, rfl, rfl, hstops, round, List.mem_singleton_self _, rfl⟩
          | false =>
              rw [drainPipes_cons_of_goesOn hended hstops]
              -- This round was one more of those in which the pipes were asked.
              obtain ⟨polled, rest, hrounds, hdrains, hwhy⟩ := ih (d.poll round)
              refine ⟨round :: polled, rest, congrArg _ hrounds, hdrains, ?_⟩
              exact hwhy.cons round

/-! ### Whole calls -/

/-- How a child is reaped: by asking whether it has ended when it has, or by killing it. -/
inductive ReapedBy (endings : List EndingRound) : Guard → Prop
  | asking {round : EndingRound} {e : Ending} (mem : round ∈ endings)
      (answer : round.answer = .ended e) :
      ReapedBy endings (Guard.start.ask (.ended e)).1.release
  | killing : ReapedBy endings Guard.start.kill

namespace Supervised

/-- What it takes for a call to be told to have ended by itself with an exit code. -/
structure HasCompleted (s : Supervised) (endings : List EndingRound)
    (drainings : List DrainRound) (code : Int32) : Prop where
  /-- The program has ended with the code, and before it was running. -/
  ended : ∃ before round after, endings = before ++ round :: after ∧
    (∀ r ∈ before, r.answer = .running) ∧ round.answer = .ended (.exited code)
  /-- Both pipes have ended, and what they told is the output and the error output, of which
      only so much is kept. -/
  drained : ∃ polled rest errors, drainings = polled ++ rest ∧
    firstEnd? (polled.map DrainRound.stdout) = some s.outcome.stdout ∧
    firstEnd? (polled.map DrainRound.stderr) = some errors ∧
    s.outcome.stderr = String.ofList (Text.truncate stderrLimit errors.toList)

/-- What is left of a call when it returns. -/
structure IsAccountedFor (s : Supervised) (endings : List EndingRound)
    (drainings : List DrainRound) : Prop where
  /-- There is no child any more, so that nothing is done about one after the call. -/
  ownsChild : s.guard.ownsChild = false
  guardAfter : s.guardAfter = s.guard
  reaps : s.guard.reaps = 1
  /-- The child was reaped in one way, and nothing but its group was killed after that. -/
  reaped : ∃ g, ReapedBy endings g ∧ (s.guard = g ∨ s.guard = g.kill)
  timeout : s.outcome.status = .timeout → 0 < s.guard.groupKills
  cancelled : s.outcome.status = .cancelled → 0 < s.guard.groupKills
  ok : s.outcome.status = .ok → s.HasCompleted endings drainings 0
  exited : ∀ code, s.outcome.status = .exited code →
    code ≠ 0 ∧ s.HasCompleted endings drainings code

end Supervised

namespace ReapedBy

variable {endings : List EndingRound} {g : Guard}

theorem ownsChild (h : ReapedBy endings g) : g.ownsChild = false := by
  cases h <;> rfl

theorem reaps (h : ReapedBy endings g) : g.reaps = 1 := by
  cases h <;> rfl

theorem reaps_kill (h : ReapedBy endings g) : g.kill.reaps = 1 := by
  rw [Guard.kill_of_not_ownsChild h.ownsChild]
  exact h.reaps

end ReapedBy

namespace Status

variable {ending? : Option Ending}

theorem eq_of_ofEnding?_ok (h : ofEnding? ending? = .ok) : ending? = some (.exited 0) := by
  unfold ofEnding? at h
  split at h
  · rfl
  all_goals exact nomatch h

theorem eq_of_ofEnding?_exited {code : Int32} (h : ofEnding? ending? = .exited code) :
    code ≠ 0 ∧ ending? = some (.exited code) := by
  unfold ofEnding? at h
  split at h
  · exact nomatch h
  · rename_i other hother
    cases h
    exact ⟨hother, rfl⟩
  all_goals exact nomatch h

theorem ofEnding?_ne_timeout : ofEnding? ending? ≠ .timeout := by
  unfold ofEnding?
  split <;> exact nofun

theorem ofEnding?_ne_cancelled : ofEnding? ending? ≠ .cancelled := by
  unfold ofEnding?
  split <;> exact nofun

end Status

section

variable {index : Nat} {l : Limits} {endings : List EndingRound} {drainings : List DrainRound}

/-- A wait for the child that was stopped leaves the child as it was. -/
theorem stopped_of_awaitEnding {g : Guard} {check : StopCheck}
    (h : awaitEnding l .start endings = (g, .stopped check)) :
    g = .start ∧ check.stops l = true ∧ ∃ round ∈ endings, round.check = check := by
  obtain hpending | ⟨before, round, after, rfl, -, hidle, hwait⟩ := awaitEnding_cases l endings
  · exact nomatch hpending.symm.trans h
  · rw [hwait, EndingRound.conclusion] at h
    cases hanswer : round.answer with
    | ended e =>
        rw [hanswer] at h
        exact nomatch h
    | failed =>
        rw [hanswer] at h
        exact nomatch h
    | running =>
        rw [hanswer] at h
        cases h
        exact ⟨rfl, round.stops_of_running l hidle hanswer, round,
          List.mem_append_right _ List.mem_cons_self, rfl⟩

/-- A wait for the child that has ended has reaped it, and an ending is what the child has
    answered after it was running. -/
theorem ended_of_awaitEnding {g : Guard} {ending? : Option Ending}
    (h : awaitEnding l .start endings = (g, .ended ending?)) :
    ReapedBy endings g ∧ ∀ e, ending? = some e → ∃ before round after,
      endings = before ++ round :: after ∧ (∀ r ∈ before, r.answer = .running) ∧
        round.answer = .ended e := by
  obtain hpending | ⟨before, round, after, rfl, hbefore, -, hwait⟩ := awaitEnding_cases l endings
  · exact nomatch hpending.symm.trans h
  · rw [hwait, EndingRound.conclusion] at h
    cases hanswer : round.answer with
    | running =>
        rw [hanswer] at h
        exact nomatch h
    | failed =>
        rw [hanswer] at h
        cases h
        exact ⟨.killing, nofun⟩
    | ended e =>
        rw [hanswer] at h
        cases h
        refine ⟨.asking (List.mem_append_right _ List.mem_cons_self) hanswer, ?_⟩
        intro ending hending
        obtain rfl := Option.some.inj hending
        exact ⟨before, round, after, rfl, fun r hr => ((r.isIdle_iff l).mp (hbefore r hr)).1,
          hanswer⟩

/-- A call is stopped in one of the waits, or both have ended. -/
theorem supervise_cases {s : Supervised} (h : supervise index l endings drainings = some s) :
    (∃ check, awaitEnding l .start endings = (.start, .stopped check) ∧
      s = ⟨stoppedOutcome index l check, Guard.start.kill, ⟨.start, .start⟩⟩) ∨
    ∃ g ending?, awaitEnding l .start endings = (g, .ended ending?) ∧
      ((∃ d check, drainPipes l ⟨.start, .start⟩ drainings = (d, .stopped check) ∧
          s = ⟨stoppedOutcome index l check, g.kill, d⟩) ∨
        ∃ d, drainPipes l ⟨.start, .start⟩ drainings = (d, .ended) ∧
          s = ⟨endedOutcome index ending? d, g, d⟩) := by
  unfold supervise at h
  dsimp only at h
  split at h
  · exact nomatch h
  · rename_i g check hwait
    obtain ⟨rfl, -, -⟩ := stopped_of_awaitEnding hwait
    exact .inl ⟨check, hwait, (Option.some.inj h).symm⟩
  · rename_i g ending? hwait
    refine .inr ⟨g, ending?, hwait, ?_⟩
    split at h
    · exact nomatch h
    · rename_i d check hdrain
      exact .inl ⟨d, check, hdrain, (Option.some.inj h).symm⟩
    · rename_i d hdrain
      exact .inr ⟨d, hdrain, (Option.some.inj h).symm⟩

/-- A call that was stopped is told to have taken too long, or else to be stopped. -/
theorem status_stoppedOutcome (index : Nat) (l : Limits) (check : StopCheck) :
    (stoppedOutcome index l check).status = .cancelled ∨
      (stoppedOutcome index l check).status = .timeout := by
  unfold stoppedOutcome
  split
  · exact .inl rfl
  · exact .inr rfl

/-- A call that was stopped is accounted for once everything is killed. -/
theorem Supervised.isAccountedFor_of_stopped {s : Supervised} {g : Guard}
    (hg : ReapedBy endings g) (hs : s.guard = g ∨ s.guard = g.kill)
    (hkills : 0 < s.guard.groupKills)
    (hstatus : s.outcome.status = .cancelled ∨ s.outcome.status = .timeout) :
    s.IsAccountedFor endings drainings := by
  have howns : s.guard.ownsChild = false := by
    obtain hs | hs := hs <;> rw [hs]
    · exact hg.ownsChild
    · exact Guard.ownsChild_kill
  refine ⟨howns, Guard.drop_of_not_ownsChild howns, ?_, ⟨g, hg, hs⟩, fun _ => hkills,
    fun _ => hkills, fun hok => ?_, fun code hcode => ?_⟩
  · obtain hs | hs := hs <;> rw [hs]
    · exact hg.reaps
    · exact hg.reaps_kill
  · rw [hok] at hstatus
    exact hstatus.elim nofun nofun
  · rw [hcode] at hstatus
    exact hstatus.elim nofun nofun

/-- What it takes to be told an exit code, once both waits have ended. -/
theorem hasCompleted_of_ended {g : Guard} {code : Int32} {d : Drains}
    (hwait : awaitEnding l .start endings = (g, .ended (some (.exited code))))
    (hdrain : drainPipes l ⟨.start, .start⟩ drainings = (d, .ended)) :
    Supervised.HasCompleted ⟨endedOutcome index (some (.exited code)) d, g, d⟩ endings drainings
      code := by
  obtain ⟨polled, rest, hsplit, hdrains, hended⟩ := drainPipes_spec l drainings ⟨.start, .start⟩
  rw [hdrain] at hdrains hended
  cases hdrains
  -- Each pipe on its own has ended within the rounds in which both were asked.
  obtain ⟨hout, herr⟩ := Bool.and_eq_true_iff.mp hended
  rw [Drains.stdout_foldl_poll] at hout
  rw [Drains.stderr_foldl_poll] at herr
  refine ⟨(ended_of_awaitEnding hwait).2 _ rfl, polled, rest, _, hsplit, ?_,
    Drain.firstEnd?_of_hasEnded herr, ?_⟩
  · rw [Drain.firstEnd?_of_hasEnded hout, endedOutcome, Drains.stdout_foldl_poll]
  · rw [endedOutcome, Drains.stderr_foldl_poll]

/-- A call for which both waits have ended is accounted for. -/
theorem isAccountedFor_of_ended {g : Guard} {ending? : Option Ending} {d : Drains}
    (hwait : awaitEnding l .start endings = (g, .ended ending?))
    (hdrain : drainPipes l ⟨.start, .start⟩ drainings = (d, .ended)) :
    Supervised.IsAccountedFor ⟨endedOutcome index ending? d, g, d⟩ endings drainings := by
  have hg := (ended_of_awaitEnding hwait).1
  refine ⟨hg.ownsChild, Guard.drop_of_not_ownsChild hg.ownsChild, hg.reaps, ⟨g, hg, .inl rfl⟩,
    fun h => absurd h Status.ofEnding?_ne_timeout, fun h => absurd h Status.ofEnding?_ne_cancelled,
    fun hok => ?_, fun code hcode => ?_⟩
  · obtain rfl := Status.eq_of_ofEnding?_ok hok
    exact hasCompleted_of_ended hwait hdrain
  · obtain ⟨hne, rfl⟩ := Status.eq_of_ofEnding?_exited hcode
    exact ⟨hne, hasCompleted_of_ended hwait hdrain⟩

/-- No call leaves its child behind.

    Whatever the child and its pipes answer, however the clock goes and whenever the run is to be
    stopped: when the call returns, the child has been reaped once, and there is none any more
    that could be reaped again. A call that was stopped has killed the whole group. An exit code
    is told only if the child has ended with it and both pipes have ended as well, and the output
    is all that came out of the pipe, since a reading end that has ended never changes. -/
theorem supervise_isAccountedFor {s : Supervised}
    (h : supervise index l endings drainings = some s) :
    s.IsAccountedFor endings drainings ∧
      ∀ (d : Drain) (answers : List PipeAnswer), d.hasEnded = true →
        answers.foldl Drain.poll d = d := by
  refine ⟨?_, fun d answers hd => Drain.foldl_poll_of_hasEnded hd answers⟩
  obtain ⟨check, -, rfl⟩ | ⟨g, ending?, hwait, ⟨d, check, -, rfl⟩ | ⟨d, hdrain, rfl⟩⟩ :=
    supervise_cases h
  -- Stopped with the child still there, which is what is killed.
  · exact Supervised.isAccountedFor_of_stopped .killing (.inl rfl) Nat.one_pos
      (status_stoppedOutcome index l check)
  -- Stopped while others held the pipes: the child is gone, and the rest of its group is killed.
  · refine Supervised.isAccountedFor_of_stopped (ended_of_awaitEnding hwait).1 (.inr rfl) ?_
      (status_stoppedOutcome index l check)
    exact Guard.groupKills_kill ▸ Nat.succ_pos g.groupKills
  · exact isAccountedFor_of_ended hwait hdrain

/-- A program that ends while a process that it has started holds its output, until the call is
    stopped: the child was reaped before, by asking, and the group is killed without it. -/
theorem supervise_isAccountedFor_held :
    let endings : List EndingRound :=
      [⟨.running, ⟨2000, false, 4000⟩⟩, ⟨.ended (.exited 0), ⟨4000, false, 6000⟩⟩]
    let drainings : List DrainRound := [⟨.pending, .ended "", ⟨10000, false, 12000⟩⟩]
    ∃ s, supervise 4 ⟨10, .none⟩ endings drainings = some s ∧ s.outcome.status = .timeout ∧
      s.guard.ownsChild = false ∧ s.guard.reaps = 1 ∧ 0 < s.guard.groupKills := by
  intro endings drainings
  have hs : supervise 4 ⟨10, .none⟩ endings drainings =
      some ⟨timedOut 4 ⟨10, .none⟩, ⟨none, 1, 1⟩, ⟨.start, ⟨true, ""⟩⟩⟩ := by cbv
  obtain ⟨haccounted, -⟩ := supervise_isAccountedFor hs
  exact ⟨_, hs, rfl, haccounted.ownsChild, haccounted.reaps, haccounted.timeout rfl⟩

end

/-! ### Calls on a clock of their own -/

/-- A wait for the child ends once there is a round that is not idle. -/
theorem awaitEnding_ne_pending {l : Limits} {round : EndingRound} {rounds : List EndingRound}
    (hmem : round ∈ rounds) (h : round.isIdle l = false) :
    (awaitEnding l .start rounds).2 ≠ .pending := by
  obtain ⟨first, hfirst⟩ := Option.isSome_iff_exists.mp
    (List.find?_isSome.mpr ⟨round, hmem, by rw [h]; rfl⟩ :
      (rounds.find? fun round => !round.isIdle l).isSome = true)
  rw [awaitEnding_eq, hfirst, Option.map_some, Option.getD_some, EndingRound.conclusion]
  split <;> exact nofun

/-- Whether the wait for the pipes is over after a round, whatever they have told before. -/
def DrainRound.isLast (l : Limits) (round : DrainRound) : Prop :=
  round.check.stops l = true ∨ ∀ d : Drains, (d.poll round).haveEnded = true

/-- A wait for the pipes ends once there is a round after which it is over. -/
theorem drainPipes_ne_pending {l : Limits} {last : DrainRound} (h : last.isLast l)
    {rounds : List DrainRound} (hmem : last ∈ rounds) (d : Drains) :
    (drainPipes l d rounds).2 ≠ .pending := by
  induction rounds generalizing d with
  | nil => exact nomatch hmem
  | cons round rounds ih =>
      cases hended : (d.poll round).haveEnded with
      | true =>
          rw [drainPipes_cons_of_haveEnded hended]
          exact nofun
      | false =>
          cases hstops : round.check.stops l with
          | true =>
              rw [drainPipes_cons_of_stops hended hstops]
              exact nofun
          | false =>
              rw [drainPipes_cons_of_goesOn hended hstops]
              obtain rfl | hlater := List.mem_cons.mp hmem
              · obtain hlast | hlast := h
                · exact absurd (hlast.symm.trans hstops) Bool.noConfusion
                · exact absurd ((hlast d).symm.trans hended) Bool.noConfusion
              · exact ih hlater _

namespace Execution

variable {l : Limits} {m : Moment}

theorem hasHappened_of_le {time t : Nat} (h : t ≤ time) : hasHappened (some t) time = true :=
  decide_eq_true h

/-- A call is stopped at the latest when it was said to be. -/
theorem stops_check_of_le {time : Nat} (h : stopsAt l m ≤ time) :
    (check l m time).stops l = true := by
  unfold check StopCheck.stops
  rw [Bool.or_eq_true, decide_eq_true_eq]
  by_cases hallowance : l.allowance ≤ time
  · exact .inl hallowance
  · refine .inr ?_
    unfold Moment.isInterrupted Deadline.isExpired
    rw [Bool.or_eq_true]
    have hearlier (a b : Nat) (hmin : min a b ≤ time) : a ≤ time ∨ b ≤ time := by omega
    obtain hcancel | hdeadline := hearlier _ _ h
    · cases hat : m.cancelAt with
      | none =>
          rw [hat] at hcancel
          exact absurd hcancel hallowance
      | some t =>
          rw [hat] at hcancel
          have ht : t ≤ m.time + time := by
            dsimp only [Option.elim_some] at hcancel
            omega
          refine .inl (Bool.or_eq_true_iff.mpr (.inr ?_))
          rw [hat]
          exact decide_eq_true ht
    · cases hinstant : l.deadline.instant? with
      | none =>
          rw [hinstant] at hdeadline
          exact absurd hdeadline hallowance
      | some t =>
          rw [hinstant] at hdeadline
          have ht : t ≤ m.time + time := by
            dsimp only [Option.elim_some] at hdeadline
            omega
          exact .inr (decide_eq_true ht)

theorem exists_mem_roundTimes (l : Limits) (m : Moment) (event : Option Nat) :
    ∃ t ∈ roundTimes l m event, stopsAt l m ≤ t ∨ hasHappened event t = true := by
  let last := min (event.getD (stopsAt l m)) (stopsAt l m)
  refine ⟨(last / pollInterval + 1) * pollInterval,
    List.mem_map_of_mem (List.mem_range.mpr (Nat.lt_succ_self _)), ?_⟩
  have hlast : last ≤ (last / pollInterval + 1) * pollInterval := by
    unfold pollInterval
    omega
  generalize (last / pollInterval + 1) * pollInterval = t at hlast ⊢
  by_cases hstops : stopsAt l m ≤ t
  · exact .inl hstops
  · refine .inr ?_
    cases event with
    | none => exact absurd (Nat.min_self (stopsAt l m) ▸ hlast) hstops
    | some e =>
        refine hasHappened_of_le ?_
        dsimp only [last, Option.getD_some] at hlast
        omega

theorem hasHappened_mono {event : Option Nat} {time later : Nat} (hle : time ≤ later)
    (h : hasHappened event time = true) : hasHappened event later = true := by
  cases event with
  | none => exact h
  | some t => exact hasHappened_of_le (Nat.le_trans (of_decide_eq_true h) hle)

theorem pipes_of_last? {e : Execution} {time : Nat} (h : hasHappened e.last? time = true) :
    hasHappened e.stdout.endsAt time = true ∧ hasHappened e.stderr.endsAt time = true := by
  obtain ⟨ending, endsAt, ⟨out, outEndsAt⟩, ⟨err, errEndsAt⟩⟩ := e
  cases endsAt with
  | none => exact nomatch h
  | some t =>
      cases outEndsAt with
      | none => exact nomatch h
      | some o =>
          cases errEndsAt with
          | none => exact nomatch h
          | some r =>
              have hmax : max t (max o r) ≤ time := of_decide_eq_true h
              exact ⟨hasHappened_of_le (by omega), hasHappened_of_le (by omega)⟩

/-- A pipe that has ended by some time is known to have when it is asked later. -/
theorem hasEnded_poll_answer {p : PipeHistory} {time later : Nat} (hle : time ≤ later)
    (h : hasHappened p.endsAt time = true) (d : Drain) :
    (d.poll (p.answer later)).hasEnded = true := by
  rw [PipeHistory.answer, if_pos (hasHappened_mono hle h), Drain.poll]
  split
  · assumption
  · rfl

/-- A call on a clock of its own returns: the program ends or is stopped, and so do its pipes. -/
theorem supervise_isSome (e : Execution) (index : Nat) (l : Limits) (m : Moment) :
    (supervise index l (e.endingRounds l m) (e.drainRounds l m)).isSome = true := by
  have hending : (awaitEnding l .start (e.endingRounds l m)).2 ≠ .pending := by
    obtain ⟨t, ht, hwhy⟩ := exists_mem_roundTimes l m e.endsAt
    refine awaitEnding_ne_pending (List.mem_map_of_mem ht) ?_
    unfold EndingRound.isIdle
    obtain hstops | hhappened := hwhy
    · rw [stops_check_of_le hstops]
      exact Bool.and_false _
    · rw [answer, if_pos hhappened]
      rfl
  have hdrain : (drainPipes l ⟨.start, .start⟩ (e.drainRounds l m)).2 ≠ .pending := by
    obtain ⟨t, ht, hwhy⟩ := exists_mem_roundTimes l m e.last?
    refine drainPipes_ne_pending ?_ (List.mem_map_of_mem ht) _
    obtain hstops | hhappened := hwhy
    · exact .inl (stops_check_of_le (by omega))
    · refine .inr fun d => ?_
      obtain ⟨hout, herr⟩ := pipes_of_last? hhappened
      exact Bool.and_eq_true_iff.mpr ⟨hasEnded_poll_answer (Nat.le_add_left t _) hout d.stdout,
        hasEnded_poll_answer (Nat.le_add_left t _) herr d.stderr⟩
  unfold supervise
  dsimp only
  split
  · exact absurd (congrArg Prod.snd ‹_›) hending
  · rfl
  · split
    · exact absurd (congrArg Prod.snd ‹_›) hdrain
    · rfl
    · rfl

end Execution

end Concordance
