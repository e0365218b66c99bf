import Concordance.Compare.Extractor
import Concordance.Run.Outcome

/-!
# Run Errors

Why a run ended without a record of every case.

Whatever a candidate does is part of the result, so every error here is either
the reference's, the caller's, or due to the limits of the run.

## Main definitions

* `RunError`: Why there are no records.
* `RunError.blamesReference`: Whether the reference is to blame.
-/

namespace Concordance

/-- Why a run ended without a record of every case. -/
inductive RunError where
  /-- The reference put out nothing usable on a case. -/
  | referenceUnavailable (index : Nat) (status : Status) (detail : String)
  /-- The time allowed for the whole run was over. -/
  | timedOut (timeout : UInt64) (completed total : Nat)
  /-- The caller cancelled the run. -/
  | cancelled (completed total : Nat)
  | pattern (error : PatternError)
  /-- There were no workers to run the cases. -/
  | noWorkers (reason : String)

namespace RunError

/-- How many of the cases were completed, in words. -/
def progress (completed total : Nat) : String :=
  s!"({completed}/{total} test cases completed)"

/-- The error in words. -/
def message : RunError → String
  | .referenceUnavailable index status detail =>
    s!"Reference unavailable at test case {index}: " ++ status.text ++ " (" ++ detail ++ ")"
  | .timedOut timeout completed total =>
    s!"Run timed out after {timeout.toNat}ms " ++ progress completed total
  | .cancelled completed total => "Run cancelled " ++ progress completed total
  | .pattern error => error.message
  | .noWorkers reason => "Worker pool error: " ++ reason

/-- Whether the reference is to blame. -/
def blamesReference : RunError → Bool
  | .referenceUnavailable .. => true
  | _ => false

end RunError

end Concordance
