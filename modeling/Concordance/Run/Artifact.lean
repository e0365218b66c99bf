import Concordance.Case.Generator
import Concordance.Run.Call
import Concordance.Shell.Launch

/-!
# Artifacts

The implementations that are compared.

An artifact turns the inputs of a case into an outcome, within limits. It may
take time and may cancel the run, but it cannot turn back the clock or take back
a cancellation, and it keeps nothing from one call to the next.

## Main definitions

* `Artifact`: An implementation.
* `Artifact.ofFunction`: A function within this program.
* `Artifact.ofCommand`: A program that is started for each call.
-/

namespace Concordance

/-- An implementation that can be called. -/
structure Artifact where
  name : String
  /-- The outcome of a call at some moment, and the moment after it. -/
  call : Case → Limits → Moment → Outcome × Moment
  precedes_call : ∀ (case : Case) (l : Limits) (m : Moment), m.Precedes (call case l m).2

theorem precedes_callFunction (f : TimedFunction) (index : Nat) (inputs : Inputs) (l : Limits)
    (m : Moment) : m.Precedes (callFunction f index inputs l m).2 := by
  unfold callFunction
  split
  · exact .refl m
  · dsimp only
    split
    · exact m.precedes_advance _
    · exact .refl m

theorem Execution.precedes_supervised (e : Execution) (index : Nat) (l : Limits) (m : Moment) :
    m.Precedes (e.supervised index l m).2 := by
  unfold supervised
  split
  · exact m.precedes_advance _
  · exact .refl m

namespace Artifact

/-- A function within this program. -/
def ofFunction (name : String) (f : TimedFunction) : Artifact where
  name
  call case := callFunction f case.index case.inputs
  precedes_call case := precedes_callFunction f case.index case.inputs

/-- A program that is started for each call. -/
def ofCommand (name : String) (line : CommandLine) (mode : InputMode) : Artifact where
  name
  call case l m :=
    if m.isInterrupted l then (interrupted case.index, m)
    else
      match Shell.launch (line.forInputs mode case.inputs) (mode.payload case.inputs) with
      | .ok e => e.supervised case.index l m
      | .error e =>
        (.failed case.index .crashed ("failed to spawn " ++ line.program ++ ": " ++ e.message), m)
  precedes_call case l m := by
    split
    · exact .refl m
    · split
      · exact Execution.precedes_supervised _ _ l m
      · exact .refl m

end Artifact

end Concordance
