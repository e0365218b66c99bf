/-!
# Cancellation Tokens and Deadlines

The two ways in which a run is stopped from outside.

A token belongs to a family: those that were copied from one another. Cancelling
any of them cancels the family, for good, and no other. A deadline is a moment
of a clock, and none at all never passes.

Times and durations are counted in microseconds.

## Main definitions

* `Tokens`: The tokens that were made so far, by number.
* `Tokens.make`, `Tokens.copy`, `Tokens.cancel`: What can be done with tokens.
* `Tokens.isCancelled`: Whether a token is cancelled.
* `Deadline`: When a run has to be over.
-/

namespace Concordance

/-- The tokens that were made so far, by number, and which of their families
    are cancelled. -/
structure Tokens where
  /-- The family of each token. -/
  families : List Nat
  /-- Whether each family is cancelled. -/
  flags : List Bool

namespace Tokens

/-- No tokens. -/
def empty : Tokens :=
  ⟨[], []⟩

/-- How many tokens there are, which is the number of the next one. -/
def size (ts : Tokens) : Nat :=
  ts.families.length

/-- Whether a token is cancelled. -/
def isCancelled (ts : Tokens) (token : Nat) : Bool :=
  match ts.families[token]? with
  | some family => ts.flags.getD family false
  | none => false

/-- Make a token that starts a family of its own. -/
def make (ts : Tokens) : Tokens :=
  ⟨ts.families ++ [ts.flags.length], ts.flags ++ [false]⟩

/-- Copy a token. -/
def copy (ts : Tokens) (token : Nat) : Tokens :=
  match ts.families[token]? with
  | some family => { ts with families := ts.families ++ [family] }
  | none => ts

/-- Cancel a token. -/
def cancel (ts : Tokens) (token : Nat) : Tokens :=
  match ts.families[token]? with
  | some family => { ts with flags := ts.flags.set family true }
  | none => ts

/-- Whether each token is cancelled. -/
def states (ts : Tokens) : List Bool :=
  (List.range ts.size).map ts.isCancelled

end Tokens

/-- The microseconds in some milliseconds. -/
def microseconds (milliseconds : UInt64) : Nat :=
  milliseconds.toNat * 1000

/-- The milliseconds that have passed within some microseconds. -/
def milliseconds (microseconds : Nat) : UInt64 :=
  UInt64.ofNat (microseconds / 1000)

/-- The moment at which a run has to be over, if there is one. -/
structure Deadline where
  instant? : Option Nat
deriving DecidableEq

namespace Deadline

/-- No deadline. -/
def none : Deadline :=
  ⟨.none⟩

/-- The deadline some milliseconds after a moment, or none. -/
def after (now : Nat) (allowance : Option UInt64) : Deadline :=
  ⟨allowance.map fun ms => now + microseconds ms⟩

/-- Whether a deadline has passed. -/
def isExpired (d : Deadline) (now : Nat) : Bool :=
  match d.instant? with
  | some instant => decide (instant ≤ now)
  | .none => false

/-- A deadline that has passed stays so. -/
theorem isExpired_mono (d : Deadline) {now later : Nat} (h : now ≤ later)
    (hd : d.isExpired now = true) : d.isExpired later = true := by
  unfold isExpired at *
  cases hi : d.instant? with
  | none => rw [hi] at hd; exact absurd hd Bool.false_ne_true
  | some instant =>
      rw [hi] at hd
      exact decide_eq_true (Nat.le_trans (of_decide_eq_true hd) h)

/-- The time that is left, `none` if it is not limited. -/
def remaining? (d : Deadline) (now : Nat) : Option Nat :=
  d.instant?.map (· - now)

end Deadline

end Concordance
