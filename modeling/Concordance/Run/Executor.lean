import Concordance.Compare.Comparator
import Concordance.Run.Error
import Concordance.Run.Pair

/-!
# Runs

From cases to their records.

Every case is looked at on its own: it gives a record, or shows that the
reference is of no use, or was cut short. Only when all of them are through is
it decided what the run comes to. A useless reference counts most, since it is
the likely cause of everything else; of several failures the first case's is
told. Whoever cut the run short comes next, and only a run without any of this
has records.

## Main definitions

* `CaseResult`: What one case comes to.
* `CaseResult.ofOutcomes`: The result of a case from its outcomes.
* `settle`: What a run comes to, from the results of its cases.
* `Executor.execute`: A run in which one worker takes the cases in turn.
-/

namespace Concordance

/-- What one case comes to. -/
inductive CaseResult where
  | record (c : Comparison)
  /-- The reference put out nothing usable. -/
  | referenceFailed (index : Nat) (status : Status) (detail : String)
  /-- The run was stopped before or during the case. -/
  | interrupted

namespace CaseResult

/-- The result of a case from its outcomes, and whether it cancels the run. -/
def ofOutcomes (comparator : Comparator) (index : Nat) (o : Outcomes) : CaseResult × Bool :=
  if o.reference.status = .cancelled then (.interrupted, false)
  else if o.reference.status ≠ .ok then
    (.referenceFailed index o.reference.status (excerpt o.reference.stderr), false)
  else if o.candidate.status = .cancelled then (.interrupted, false)
  else
    let record := comparator.compare o.reference o.candidate
    if record.discrepancy.any Discrepancy.blamesReference then
      (.referenceFailed index o.reference.status
        ("unparseable output: " ++ excerpt o.reference.stdout), true)
    else (.record record, false)

/-- The record, if there is one. -/
def record? : CaseResult → Option Comparison
  | .record c => some c
  | _ => none

/-- The reference's failure, if there is one. -/
def referenceFailure? : CaseResult → Option (Nat × Status × String)
  | .referenceFailed index status detail => some (index, status, detail)
  | _ => none

/-- Whether a case was cut short. -/
def isInterrupted : CaseResult → Bool
  | .interrupted => true
  | _ => false

end CaseResult

/-- The failure of the lowest case, and of two on one case the first. -/
def lowest (failures : List (Nat × Status × String)) : Option (Nat × Status × String) :=
  failures.foldl (fun best f =>
    match best with
    | none => some f
    | some b => if f.1 < b.1 then some f else some b) none

/-- What a run comes to, from the results of its cases and the moment at which
    they are all there. -/
def settle (results : List CaseResult) (runTimeout : Option UInt64) (isOver : Bool) :
    Except RunError (List Comparison) :=
  let records := results.filterMap CaseResult.record?
  match lowest (results.filterMap CaseResult.referenceFailure?) with
  | some (index, status, detail) => .error (.referenceUnavailable index status detail)
  | none =>
    if results.any CaseResult.isInterrupted then
      if isOver then .error (.timedOut (runTimeout.getD 0) records.length results.length)
      else .error (.cancelled records.length results.length)
    else .ok (records.mergeSort fun a b => decide (a.index ≤ b.index))

/-- What limits the runs of an executor. -/
structure Executor where
  workers : Nat
  /-- How long a call may take, in milliseconds. -/
  timeout : UInt64
  /-- How long a run may take, in milliseconds. -/
  runTimeout : Option UInt64

namespace Executor

/-- The limits of the calls of a run that begins at some moment. -/
def limits (e : Executor) (m : Moment) : Limits :=
  { timeout := e.timeout, deadline := .after m.time e.runTimeout }

/-- A run whose time is not limited is never over. -/
theorem isExpired_limits_of_none {e : Executor} (h : e.runTimeout = none) (m : Moment) (now : Nat) :
    (e.limits m).deadline.isExpired now = false := by
  unfold limits
  rw [h]
  rfl

/-- One case of a run. -/
def runCase (pair : Pair) (comparator : Comparator) (l : Limits) (case : Case) (m : Moment) :
    CaseResult × Moment :=
  if m.isInterrupted l then (.interrupted, m)
  else
    let (outcomes, m) := pair.call case l m
    let (result, cancels) := CaseResult.ofOutcomes comparator case.index outcomes
    (result, if cancels then m.cancel else m)

/-- The results of some cases, one after the other. -/
def runCases (pair : Pair) (comparator : Comparator) (l : Limits) (cases : List Case)
    (m : Moment) : List CaseResult × Moment :=
  let (results, m) := cases.foldl (fun (results, m) case =>
    let (result, m) := runCase pair comparator l case m
    (result :: results, m)) ([], m)
  (results.reverse, m)

/-- A run in which one worker takes the cases in turn. -/
def execute (e : Executor) (pair : Pair) (comparator : Comparator) (cases : List Case)
    (m : Moment) : Except RunError (List Comparison) × Moment :=
  let l := e.limits m
  let (results, m) := runCases pair comparator l cases m
  (settle results e.runTimeout (l.deadline.isExpired m.time), m)

end Executor

end Concordance
