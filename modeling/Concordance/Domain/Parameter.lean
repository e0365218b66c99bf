/-!
# Input Domains

What the function under test takes: its parameters, in order, each with a kind
and a declared range.

A domain is data as somebody wrote it down. It may declare an empty range or
repeat a name; which domains can be drawn from is decided elsewhere.

## Main definitions

* `Parameter.Kind`: What values a parameter takes, and from which range.
* `Parameter`: A name with a kind.
* `Domain`: The parameters of one function.
-/

namespace Concordance

/-- What values a parameter takes, and from which range. All bounds are
    inclusive. -/
inductive Parameter.Kind where
  | int (min max : Int64)
  | float (min max : Float)
  | bool
  | text (minLength maxLength : Nat)
  | choice (options : List String)
  | ints (min max : Int64) (maxLength : Nat)
  | floats (min max : Float) (maxLength : Nat)

/-- A parameter of the function under test. -/
structure Parameter where
  name : String
  kind : Parameter.Kind

/-- The parameters of one function, in the order of its declaration. -/
structure Domain where
  parameters : List Parameter

namespace Parameter.Kind

/-- The names of the kinds, in the order of the constructors. -/
def names : List String :=
  ["int", "float", "bool", "text", "choice", "int-list", "float-list"]

/-- The name of a kind. -/
def name : Kind → String
  | .int .. => "int"
  | .float .. => "float"
  | .bool => "bool"
  | .text .. => "text"
  | .choice _ => "choice"
  | .ints .. => "int-list"
  | .floats .. => "float-list"

/-- The longest text or list that a parameter may take, where that is
    declared. -/
def maxLength? : Kind → Option Nat
  | .text _ n => some n
  | .ints _ _ n => some n
  | .floats _ _ n => some n
  | _ => none

end Parameter.Kind

end Concordance
