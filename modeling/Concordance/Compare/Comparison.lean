import Concordance.Run.Outcome

/-!
# Comparisons

What is recorded about one case: whether the outputs agree, how far they are
apart, and why they do not match.

A failure that has no measure of its own counts as a deviation of one.

## Main definitions

* `Discrepancy`: Why outputs do not match.
* `Excerpts`: What is kept of outputs that do not match.
* `Comparison`: The record of one case.
-/

namespace Concordance

/-- Why outputs do not match. -/
inductive Discrepancy where
  | candidateTimeout
  | candidateCrashed
  | candidateExited (code : Int32)
  | candidateUnreadable
  | referenceFailed (status : Status)
  | referenceUnreadable
  | lengths (reference candidate : Nat)
  | outOfTolerance
  | different
  | cancelled
deriving DecidableEq

namespace Discrepancy

/-- Whether the reference is to blame and not the candidate. -/
def blamesReference : Discrepancy → Bool
  | .referenceFailed _ | .referenceUnreadable => true
  | _ => false

/-- What is held against a candidate whose call ended this way. -/
def ofCandidate? : Status → Option Discrepancy
  | .ok => none
  | .timeout => some .candidateTimeout
  | .crashed => some .candidateCrashed
  | .exited code => some (.candidateExited code)
  | .cancelled => some .cancelled

/-- A discrepancy in words. -/
def text : Discrepancy → String
  | .candidateTimeout => "candidate timeout"
  | .candidateCrashed => "candidate crashed"
  | .candidateExited code => s!"candidate exited with {code.toInt}"
  | .candidateUnreadable => "candidate output unparseable"
  | .referenceFailed status => "reference " ++ status.text
  | .referenceUnreadable => "reference output unparseable"
  | .lengths reference candidate =>
    s!"shape mismatch: reference {reference} values, candidate {candidate}"
  | .outOfTolerance => "deviation out of tolerance"
  | .different => "outputs differ"
  | .cancelled => "cancelled"

/-- The names of the discrepancies, in the order of the constructors. -/
def names : List String :=
  ["candidate-timeout", "candidate-crashed", "candidate-non-zero-exit", "candidate-unparseable",
    "reference-failed", "reference-unparseable", "shape-mismatch", "out-of-tolerance",
    "mismatch", "cancelled"]

/-- The name of a discrepancy. -/
def name : Discrepancy → String
  | .candidateTimeout => "candidate-timeout"
  | .candidateCrashed => "candidate-crashed"
  | .candidateExited _ => "candidate-non-zero-exit"
  | .candidateUnreadable => "candidate-unparseable"
  | .referenceFailed _ => "reference-failed"
  | .referenceUnreadable => "reference-unparseable"
  | .lengths .. => "shape-mismatch"
  | .outOfTolerance => "out-of-tolerance"
  | .different => "mismatch"
  | .cancelled => "cancelled"

/-- The fields of a discrepancy beside its name. -/
def details : Discrepancy → List (String × Datum)
  | .candidateExited code => [("code", .int code.toInt)]
  | .referenceFailed status => [("status", status.toDatum)]
  | .lengths reference candidate =>
    [("reference_len", .nat reference), ("candidate_len", .nat candidate)]
  | _ => []

/-- A discrepancy as data. -/
def toDatum (d : Discrepancy) : Datum :=
  .object (("kind", .text d.name) :: d.details)

/-- The discrepancy without details at a position among the names. -/
def plain? : Nat → Option Discrepancy
  | 0 => some .candidateTimeout
  | 1 => some .candidateCrashed
  | 3 => some .candidateUnreadable
  | 5 => some .referenceUnreadable
  | 7 => some .outOfTolerance
  | 8 => some .different
  | 9 => some .cancelled
  | _ => none

/-- Read the details of the discrepancy at a position among the names. -/
def ofDetails? (s : Source) : Nat → Option Discrepancy
  | 2 => do
    let f ← s.record? ["code"]
    return .candidateExited (← f.required? 0 Source.int32?)
  | 4 => do
    let f ← s.record? ["status"]
    return .referenceFailed (← f.required? 0 Status.ofSource?)
  | 6 => do
    let f ← s.record? ["reference_len", "candidate_len"]
    return .lengths (← f.required? 0 Source.nat?) (← f.required? 1 Source.nat?)
  | n => if s.holdsNoItems then plain? n else none

/-- Read a discrepancy. -/
def ofSource? (s : Source) : Option Discrepancy := do
  let (label, rest) ← s.tagged? "kind"
  ofDetails? rest (← label.index? names)

end Discrepancy

/-- What is kept of outputs that do not match: the beginning of each and, for
    hashes, the digests of all of it. -/
structure Excerpts where
  reference : String
  candidate : String
  referenceDigest : Option String
  candidateDigest : Option String
deriving DecidableEq

/-- A field that is left out if there is nothing in it. -/
def presentField {α : Type} (name : String) (f : α → Datum) (x : Option α) :
    List (String × Datum) :=
  x.toList.map fun v => (name, f v)

namespace Excerpts

/-- Excerpts as data. -/
def toDatum (e : Excerpts) : Datum :=
  .object ([("reference", .text e.reference), ("candidate", .text e.candidate)]
    ++ presentField "reference_digest" Datum.text e.referenceDigest
    ++ presentField "candidate_digest" Datum.text e.candidateDigest)

/-- Read excerpts. -/
def ofSource? (s : Source) : Option Excerpts := do
  let f ← s.record? ["reference", "candidate", "reference_digest", "candidate_digest"]
  return {
    reference := ← f.required? 0 Source.text?
    candidate := ← f.required? 1 Source.text?
    referenceDigest := ← f.optional? 2 Source.text?
    candidateDigest := ← f.optional? 3 Source.text? }

end Excerpts

/-- The record of one case. -/
structure Comparison where
  index : Nat
  absolute : Float
  relative : Float
  /-- The deviation that counts for the kind of output. -/
  deviation : Float
  isMatch : Bool
  discrepancy : Option Discrepancy
  /-- The numbers that were compared, if the outputs are numbers. -/
  referenceValues : List Float
  candidateValues : List Float
  excerpts : Option Excerpts

namespace Comparison

/-- Outputs that agree exactly. -/
def agreement (index : Nat) : Comparison :=
  { index, absolute := 0, relative := 0, deviation := 0, isMatch := true, discrepancy := none
    referenceValues := [], candidateValues := [], excerpts := none }

/-- Outputs that do not match for a reason without a measure. -/
def failure (index : Nat) (d : Discrepancy) : Comparison :=
  { index, absolute := 1, relative := 1, deviation := 1, isMatch := false, discrepancy := some d
    referenceValues := [], candidateValues := [], excerpts := none }

/-- A list of numbers that is left out if it is empty. -/
def valuesField (name : String) (xs : List Float) : List (String × Datum) :=
  if xs.isEmpty then [] else [(name, .floats xs)]

/-- A record as data. -/
def toDatum (c : Comparison) : Datum :=
  .object ([("index", .nat c.index), ("absolute_deviation", .float c.absolute),
      ("relative_deviation", .float c.relative), ("deviation", .float c.deviation),
      ("matched", .bool c.isMatch)]
    ++ presentField "reason" Discrepancy.toDatum c.discrepancy
    ++ valuesField "reference_values" c.referenceValues
    ++ valuesField "candidate_values" c.candidateValues
    ++ presentField "detail" Excerpts.toDatum c.excerpts)

/-- Read a list of numbers. -/
def valuesOfSource? (s : Source) : Option (List Float) := do
  (← s.list?).mapM Source.float?

/-- Read a record. -/
def ofSource? (s : Source) : Option Comparison := do
  let f ← s.record? ["index", "absolute_deviation", "relative_deviation", "deviation", "matched",
    "reason", "reference_values", "candidate_values", "detail"]
  return {
    index := ← f.required? 0 Source.nat?
    absolute := ← f.required? 1 Source.float?
    relative := ← f.required? 2 Source.float?
    deviation := ← f.required? 3 Source.float?
    isMatch := ← f.required? 4 Source.bool?
    discrepancy := ← f.optional? 5 Discrepancy.ofSource?
    referenceValues := ← f.orDefault? 6 valuesOfSource? []
    candidateValues := ← f.orDefault? 7 valuesOfSource? []
    excerpts := ← f.optional? 8 Excerpts.ofSource? }

end Comparison

end Concordance
