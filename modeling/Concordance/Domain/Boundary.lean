import Concordance.Domain.Parameter
import Concordance.Domain.Value

/-!
# Boundary Values

The values of a kind that are always tried: the ends of its range, its middle,
and zero where the range contains it.

Each list names a value only once, at its first place. For a domain that can
be drawn from, no list is empty.

## Main definitions

* `Parameter.Kind.boundaryValues`: The values that are always tried.
* `Parameter.Kind.typical`: One value from the middle of the range.
-/

namespace Concordance

/-- The middle of two integers, rounded toward zero. -/
def middleInt (min max : Int64) : Int64 :=
  Int64.ofInt ((min.toInt + max.toInt).tdiv 2)

/-- The middle of two doubles. Halving before adding keeps it finite. -/
def middleFloat (min max : Float) : Float :=
  min / 2 + max / 2

/-- The text of a given length that stands at a boundary of lengths. -/
def boundaryText (length : Nat) : String :=
  String.ofList (List.replicate length 'a')

namespace Parameter.Kind

/-- The values worth trying, some of them perhaps more than once. -/
def boundaryCandidates : Kind → List Value
  | .int min max =>
    (if min ≤ 0 ∧ 0 ≤ max then [.int 0] else []) ++
      [.int min, .int max, .int (middleInt min max)]
  | .float min max =>
    (if min ≤ 0 && 0 ≤ max then [.float 0] else []) ++
      [.float min, .float max, .float (middleFloat min max)]
  | .bool => [.bool false, .bool true]
  | .text minLength maxLength =>
    [minLength, Nat.min (Nat.max minLength 1) maxLength, maxLength].map fun n =>
      .text (boundaryText n)
  | .choice options => options.map .text
  | .ints min max maxLength =>
    if maxLength = 0 then [.ints []]
    else [.ints [], .ints [min], .ints [max],
      .ints (List.replicate maxLength (middleInt min max))]
  | .floats min max maxLength =>
    if maxLength = 0 then [.floats []]
    else [.floats [], .floats [min], .floats [max],
      .floats (List.replicate maxLength (middleFloat min max))]

/-- The values that are always tried, each of them once. -/
def boundaryValues (kind : Kind) : List Value :=
  kind.boundaryCandidates.eraseDups

/-- One value from the middle of the range. -/
def typical : Kind → Value
  | .int min max => .int (middleInt min max)
  | .float min max => .float (middleFloat min max)
  | .bool => .bool false
  | .text minLength _ => .text (boundaryText minLength)
  | .choice options => .text (options.headD "")
  | .ints .. => .ints []
  | .floats .. => .floats []

end Parameter.Kind

end Concordance
