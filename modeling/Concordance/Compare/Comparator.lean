import Concordance.Compare.Comparison
import Concordance.Compare.Deviation
import Concordance.Compare.Extractor
import Concordance.Compare.Numbers
import Concordance.Digest.Sha256
import Concordance.Tolerance.Profile

/-!
# Comparing Outcomes

How the outcomes of the two implementations on one case are compared.

The reference is looked at first. If its call failed nothing else matters, and
a failed candidate is never blamed for what the reference put out. Only then
are the compared parts extracted, reference first, and compared as the kind of
output demands.

## Main definitions

* `Comparator`: What outcomes are compared by.
* `Comparator.compare`: The record of one case.
* `excerpt`: The beginning of an output.
-/

namespace Concordance

/-- The number of characters that an excerpt keeps. -/
def excerptLength : Nat := 120

/-- The beginning of an output, without outer blanks. A cut is marked. -/
def excerptList (output : List Char) : List Char :=
  let trimmed := Text.trimList output
  if trimmed.length ≤ excerptLength then trimmed else trimmed.take excerptLength ++ ['…']

/-- The beginning of an output, without outer blanks. -/
def excerpt (output : String) : String :=
  String.ofList (excerptList output.toList)

/-- The digest of a text. -/
def textDigest (s : String) : String :=
  Digest.hex (Digest.sha256 s.toUTF8.toList)

namespace Excerpts

/-- Excerpts of two outputs. -/
def ofOutputs (reference candidate : String) : Excerpts :=
  { reference := excerpt reference, candidate := excerpt candidate
    referenceDigest := none, candidateDigest := none }

/-- Excerpts of two outputs, with their digests. -/
def withDigests (reference candidate : String) : Excerpts :=
  { reference := excerpt reference, candidate := excerpt candidate
    referenceDigest := some (textDigest reference), candidateDigest := some (textDigest candidate) }

end Excerpts

/-- What outcomes are compared by. -/
structure Comparator where
  kind : OutputKind
  /-- The largest deviation that still matches. -/
  epsilon : Float
  extractor : Extractor

namespace Comparator

/-- A comparator for a kind of output under a profile. -/
def ofProfile (kind : OutputKind) (profile : Profile) (extractor : Extractor) : Comparator :=
  { kind, epsilon := profile.epsilon kind, extractor }

/-- The deviation that counts for the kind of output. -/
def governing (c : Comparator) (d : Deviation) : Float :=
  match c.kind with
  | .absolute => d.absolute
  | _ => d.relative

/-- A failure with excerpts of two texts. -/
def failure (index : Nat) (d : Discrepancy) (reference candidate : String) : Comparison :=
  { Comparison.failure index d with excerpts := some (.ofOutputs reference candidate) }

/-- The record of a deviation that was measured. -/
def measured (c : Comparator) (index : Nat) (d : Deviation) : Comparison :=
  let deviation := c.governing d
  let isMatch := decide (deviation ≤ c.epsilon)
  { index, absolute := d.absolute, relative := d.relative, deviation, isMatch
    discrepancy := if isMatch then none else some .outOfTolerance
    referenceValues := [], candidateValues := [], excerpts := none }

/-- Compare two lists of numbers of one length, read from the given texts. -/
def compareValues (c : Comparator) (index : Nat) (reference candidate : String)
    (rs cs : List Float) : Comparison :=
  let record :=
    match Deviation.ofLists? rs cs with
    | some d => c.measured index d
    | none => .failure index .outOfTolerance
  { record with
    excerpts := if record.isMatch then none else some (.ofOutputs reference candidate)
    referenceValues := rs
    candidateValues := cs }

/-- Compare two texts that should hold numbers. A text that holds none is a
    failure for which the whole outputs are quoted. -/
def compareNumbers (c : Comparator) (reference candidate : Outcome)
    (referenceText candidateText : String) : Comparison :=
  let index := reference.index
  match numbers? referenceText with
  | none => failure index .referenceUnreadable reference.stdout candidate.stdout
  | some rs =>
    match numbers? candidateText with
    | none => failure index .candidateUnreadable reference.stdout candidate.stdout
    | some cs =>
      if rs.length ≠ cs.length then
        failure index (.lengths rs.length cs.length) referenceText candidateText
      else c.compareValues index referenceText candidateText rs cs

/-- Compare two extracted texts. -/
def compareTexts (c : Comparator) (reference candidate : Outcome)
    (referenceText candidateText : String) : Comparison :=
  let index := reference.index
  match c.kind with
  | .relative | .absolute => c.compareNumbers reference candidate referenceText candidateText
  | .hash =>
    if referenceText = candidateText then .agreement index
    else
      { Comparison.failure index .different with
        excerpts := some (.withDigests referenceText candidateText) }
  | .label | .text =>
    if referenceText = candidateText then .agreement index
    else failure index .different referenceText candidateText

/-- The record of one case. -/
def compare (c : Comparator) (reference candidate : Outcome) : Comparison :=
  let index := reference.index
  if reference.status ≠ .ok then
    failure index (.referenceFailed reference.status) reference.stderr candidate.stdout
  else match Discrepancy.ofCandidate? candidate.status with
    | some d => failure index d reference.stdout candidate.stderr
    | none =>
      match c.extractor.extract? reference.stdout with
      | none => failure index .referenceUnreadable reference.stdout candidate.stdout
      | some referenceText =>
        match c.extractor.extract? candidate.stdout with
        | none => failure index .candidateUnreadable reference.stdout candidate.stdout
        | some candidateText => c.compareTexts reference candidate referenceText candidateText

end Comparator

end Concordance
