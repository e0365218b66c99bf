import Concordance.Digest.Sha256
import Concordance.Domain.Parameter
import Concordance.Domain.Value
import Concordance.Random.Interval

/-!
# Sampling

Inputs drawn at random from a domain.

Every case has a stream of its own, keyed by the digest of the seed and the
case's index, so a case can be drawn again without drawing those before it.
Within a case the parameters are drawn in order from the one stream.

## Main definitions

* `Parameter.Kind.draw`: A value of a kind.
* `Domain.draw`: A value for every parameter.
* `Domain.sample`: The inputs of a case.
-/

namespace Concordance

open Concordance.Random (Draw)

/-- The characters that texts are drawn from. -/
def sampleAlphabet : List Char :=
  "abcdefghijklmnopqrstuvwxyzABCXYZ01279 -_.".toList

/-- The integer that lies so far above a bound. -/
def offsetBy (min : Int64) (distance : Nat) : Int64 :=
  min + Int64.ofNat distance

/-- How many integers lie between two bounds, both of them counted. -/
def countBetween (min max : Int64) : Nat :=
  (max.toInt - min.toInt + 1).toNat

/-- An integer between two bounds. Where the bounds leave out no integer, it
    has the bits of the draw, and otherwise the draw is counted from `min`. -/
def drawInt (min max : Int64) : Draw Int64 := do
  let count := countBetween min max
  let n ← Random.below .double count
  return offsetBy (if count = 2 ^ 64 then 0 else min) n

/-- An element of a list, or the default if it has none. -/
def drawFrom {α : Type} (items : List α) (default : α) : Draw α := do
  return items.getD (← Random.below .double items.length) default

/-- So many draws, the number of them drawn first. -/
def drawList {α : Type} (minLength maxLength : Nat) (draw : Draw α) : Draw (List α) := do
  let extra ← Random.below .single (maxLength - minLength + 1)
  Random.several draw (minLength + extra)

namespace Parameter.Kind

/-- A value of a kind, every one in its range equally likely. -/
def draw : Kind → Draw Value
  | .int min max => do return .int (← drawInt min max)
  | .float min max => do return .float (← Random.between min max)
  | .bool => do return .bool (← Random.coin)
  | .text minLength maxLength => do
    return .text (String.ofList (← drawList minLength maxLength (drawFrom sampleAlphabet 'a')))
  | .choice options => do return .text (← drawFrom options "")
  | .ints min max maxLength => do return .ints (← drawList 0 maxLength (drawInt min max))
  | .floats min max maxLength => do
    return .floats (← drawList 0 maxLength (Random.between min max))

end Parameter.Kind

/-- The bytes of a word, the least significant first. -/
def wordBytes (n : Nat) : List UInt8 :=
  (List.range 8).map fun i => UInt8.ofNat (n / 2 ^ (8 * i))

/-- The stream of a case. -/
def caseStream (seed : UInt64) (index : Nat) : Random.Stream :=
  .ofKey (Digest.sha256 (wordBytes seed.toNat ++ wordBytes index))

namespace Domain

/-- A value for every parameter. -/
def draw (domain : Domain) : Draw Inputs := do
  let entries ← domain.parameters.mapM fun p => do return (p.name, ← p.kind.draw)
  return ⟨entries⟩

/-- The inputs of a case. -/
def sample (domain : Domain) (seed : UInt64) (index : Nat) : Inputs :=
  (domain.draw (caseStream seed index)).1

end Domain

end Concordance
