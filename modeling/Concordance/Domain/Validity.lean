import Concordance.Decimal.Layout
import Concordance.Domain.Parameter
import Concordance.Text.Blank

/-!
# Which Domains Can Be Drawn From

A domain can be drawn from if its names are told apart and every range has a
value in it.

The check goes through the parameters in order and stops at the first fault. A
repeated name is a fault of the later parameter, and a fault of the name comes
before any fault of the range. Among the faults of one range, a length beyond
the limit comes first.

## Main definitions

* `maxCollectionLength`: The longest text or list that may be declared.
* `Parameter.Fault`: What is wrong with a range.
* `Domain.Fault`: What is wrong with a domain.
* `Domain.check`: The first fault, if there is one.
-/

namespace Concordance

/-- The longest text or list that a parameter may declare. -/
def maxCollectionLength : Nat :=
  2 ^ 20

/-- What is wrong with the range of a parameter. -/
inductive Parameter.Fault where
  | tooLong (length : Nat)
  | emptyInts (min max : Int64)
  | emptyFloats (min max : Float)
  | notFinite (min max : Float)
  | emptyLengths (minLength maxLength : Nat)
  | noOptions

/-- The fault in words. -/
def Parameter.Fault.message : Parameter.Fault → String
  | .tooLong length => s!"max_len {length} exceeds {maxCollectionLength}"
  | .emptyInts min max => s!"empty range [{min.toInt}, {max.toInt}]"
  | .emptyFloats min max =>
    "empty range [" ++ Decimal.plainly.write min ++ ", " ++ Decimal.plainly.write max ++ "]"
  | .notFinite min max =>
    "non-finite bounds [" ++ Decimal.plainly.write min ++ ", " ++
      Decimal.plainly.write max ++ "]"
  | .emptyLengths minLength maxLength => s!"max_len {maxLength} < min_len {minLength}"
  | .noOptions => "no options"

/-- Fail with the fault if a condition holds. -/
def refuseIf {ε : Type} (condition : Bool) (fault : ε) : Except ε Unit :=
  if condition then .error fault else .ok ()

namespace Parameter.Kind

/-- Check that no length beyond the limit is declared. -/
def checkLength (kind : Kind) : Except Fault Unit :=
  match kind.maxLength? with
  | some n => refuseIf (maxCollectionLength < n) (.tooLong n)
  | none => .ok ()

/-- Check that two doubles bound a range that is not empty. -/
def checkInterval (min max : Float) : Except Fault Unit := do
  refuseIf (!min.isFinite || !max.isFinite) (.notFinite min max)
  refuseIf (max < min) (.emptyFloats min max)

/-- Check that a range is not empty. -/
def checkRange : Kind → Except Fault Unit
  | .int min max => refuseIf (max < min) (.emptyInts min max)
  | .ints min max _ => refuseIf (max < min) (.emptyInts min max)
  | .float min max => checkInterval min max
  | .floats min max _ => checkInterval min max
  | .text minLength maxLength =>
    refuseIf (maxLength < minLength) (.emptyLengths minLength maxLength)
  | .choice options => refuseIf options.isEmpty .noOptions
  | .bool => .ok ()

/-- Check that there is a value to draw. -/
def check (kind : Kind) : Except Fault Unit := do
  kind.checkLength
  kind.checkRange

end Parameter.Kind

namespace Domain

/-- What is wrong with a domain. -/
inductive Fault where
  | blankName
  | repeatedName (name : String)
  | unsampleable (name : String) (fault : Parameter.Fault)
  /-- A fault found by other means than the check, in words. -/
  | other (reason : String)

/-- The fault in words. -/
def Fault.message : Fault → String
  | .blankName => "parameter with empty name"
  | .repeatedName name => "duplicate parameter '" ++ name ++ "'"
  | .unsampleable name fault => "'" ++ name ++ "': " ++ fault.message
  | .other reason => reason

/-- Check a parameter that stands behind others of the given names. -/
def checkParameter (before : List String) (p : Parameter) : Except Fault Unit := do
  refuseIf (Text.trim p.name).isEmpty .blankName
  refuseIf (before.contains p.name) (.repeatedName p.name)
  p.kind.check.mapError (.unsampleable p.name)

/-- Check parameters that stand behind others of the given names. -/
def checkFrom (before : List String) : List Parameter → Except Fault Unit
  | [] => .ok ()
  | p :: rest => do
    checkParameter before p
    checkFrom (p.name :: before) rest

/-- The first fault of a domain, if it has one. -/
def check (domain : Domain) : Except Fault Unit :=
  checkFrom [] domain.parameters

end Domain

end Concordance
