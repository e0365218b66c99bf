import Concordance.Run.Token

/-!
# Limits

How long a call may take, and what cuts it short.

## Main definitions

* `Limits`: What limits every call of a run.
* `Moment`: The clock and the token of a run at one moment.
* `Moment.isInterrupted`: Whether a run is to be stopped.
* `Moment.Precedes`: Whether one moment can come after another.
-/

namespace Concordance

/-- What limits every call of a run. -/
structure Limits where
  /-- How long a call may take, in milliseconds. -/
  timeout : UInt64
  /-- When the run has to be over. -/
  deadline : Deadline

namespace Limits

/-- How long a call may take, in microseconds. -/
def allowance (l : Limits) : Nat :=
  microseconds l.timeout

/-- What is said of a call that took too long. -/
def excess (l : Limits) : String :=
  s!"exceeded {l.timeout.toNat}ms"

end Limits

/-- The clock and the token of a run at one moment. -/
structure Moment where
  time : Nat
  isCancelled : Bool
  /-- When the caller is going to cancel the token, if ever. -/
  cancelAt : Option Nat := none

namespace Moment

/-- The moment at which a run begins. -/
def start : Moment :=
  { time := 0, isCancelled := false }

/-- A later moment. -/
def advance (m : Moment) (duration : Nat) : Moment :=
  let time := m.time + duration
  { m with
    time
    isCancelled := m.isCancelled || m.cancelAt.any fun t => decide (t ≤ time) }

/-- The same moment with the token cancelled. -/
def cancel (m : Moment) : Moment :=
  { m with isCancelled := true }

/-- Whether the run is to be stopped. -/
def isInterrupted (m : Moment) (l : Limits) : Bool :=
  m.isCancelled || l.deadline.isExpired m.time

/-- Whether a moment comes no later than another: the clock is not turned back,
    and a cancelled token stays cancelled. -/
structure Precedes (m m' : Moment) : Prop where
  time_le : m.time ≤ m'.time
  isCancelled_of : m.isCancelled = true → m'.isCancelled = true

theorem Precedes.refl (m : Moment) : m.Precedes m :=
  ⟨Nat.le_refl _, id⟩

theorem Precedes.trans {a b c : Moment} (h : a.Precedes b) (h' : b.Precedes c) : a.Precedes c :=
  ⟨Nat.le_trans h.time_le h'.time_le, fun ha => h'.isCancelled_of (h.isCancelled_of ha)⟩

theorem precedes_advance (m : Moment) (duration : Nat) : m.Precedes (m.advance duration) := by
  refine ⟨Nat.le_add_right _ _, fun h => ?_⟩
  simp only [advance, h, Bool.true_or]

theorem precedes_cancel (m : Moment) : m.Precedes m.cancel :=
  ⟨Nat.le_refl _, fun _ => rfl⟩

end Moment

end Concordance
