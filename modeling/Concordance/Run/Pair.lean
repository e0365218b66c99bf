import Concordance.Run.Artifact
import Concordance.Text.Quoted

/-!
# Pairs of Artifacts

The reference and the candidate, called on one case.

A reference that does not succeed takes the ground from under the comparison, so
it cancels the run.

## Main definitions

* `Pair`: The two artifacts.
* `Pair.call`: Calls both on a case.
-/

namespace Concordance

/-- The two artifacts that are compared. -/
structure Pair where
  reference : Artifact
  candidate : Artifact

/-- The outcomes of both artifacts on one case. -/
structure Outcomes where
  reference : Outcome
  candidate : Outcome

namespace Pair

/-- The token after the reference has answered. -/
def afterReference (o : Outcome) (m : Moment) : Moment :=
  if o.status = .ok then m else m.cancel

/-- Call both artifacts on a case, the reference first. -/
def call (p : Pair) (case : Case) (l : Limits) (m : Moment) : Outcomes × Moment :=
  let (reference, m) := p.reference.call case l m
  let (candidate, m) := p.candidate.call case l (afterReference reference m)
  (⟨reference, candidate⟩, m)

/-- A description of a pair. -/
def description (p : Pair) : String :=
  "DualHarness \x7b reference: " ++ Text.quoted p.reference.name ++ ", candidate: "
    ++ Text.quoted p.candidate.name ++ " \x7d"

end Pair

end Concordance
