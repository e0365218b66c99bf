import Concordance.Pattern.Dialect
import Concordance.Text.Blank

/-!
# Extraction

Which part of an output is compared.

Either the whole output counts, or what the first group of a pattern matched
the last time that it took part in a match. In both cases outer blanks do not
count. Which texts are patterns is up to a dialect, the standard one unless
another is given.

## Main definitions

* `PatternError`: Why a text cannot be used as a pattern.
* `Extractor`: Which part of an output is compared.
* `Extractor.ofPattern?`: An extractor from an optional pattern.
* `Extractor.extract?`: The compared part.
-/

namespace Concordance

/-- Why a text cannot be used as a pattern. -/
inductive PatternError where
  | malformed
  | noGroup (pattern : String)
  /-- A fault found by other means than reading, in words. -/
  | other (reason : String)

/-- The error in words. -/
def PatternError.message : PatternError → String
  | .malformed => "Invalid output pattern"
  | .noGroup pattern => "Invalid output pattern: '" ++ pattern ++ "' has no capture group"
  | .other reason => "Invalid output pattern: " ++ reason

/-- Which part of an output is compared. -/
inductive Extractor where
  | whole
  | lastGroup (e : Pattern.Expression)

namespace Extractor

/-- An extractor that uses the first group of a pattern. -/
def ofPattern (text : String) (dialect : Pattern.Dialect := .standard) :
    Except PatternError Extractor :=
  match dialect.read? text with
  | none => .error .malformed
  | some e => if e.groupCount < 2 then .error (.noGroup text) else .ok (.lastGroup e)

/-- An extractor from an optional pattern. Without one the whole output
    counts. -/
def ofPattern? (pattern : Option String) (dialect : Pattern.Dialect := .standard) :
    Except PatternError Extractor :=
  match pattern with
  | none => .ok .whole
  | some text => ofPattern text dialect

/-- The characters between two places. -/
def slice (text : Array Char) (range : Nat × Nat) : List Char :=
  (text.extract range.1 range.2).toList

/-- The compared part of an output, without outer blanks. -/
def extractList? (e : Extractor) (output : List Char) : Option (List Char) :=
  match e with
  | .whole => some (Text.trimList output)
  | .lastGroup e =>
    let text := output.toArray
    (e.firstGroups text).getLast?.map fun range => Text.trimList (slice text range)

/-- The compared part of an output, without outer blanks. -/
def extract? (e : Extractor) (output : String) : Option String :=
  (e.extractList? output.toList).map String.ofList

end Extractor

end Concordance
