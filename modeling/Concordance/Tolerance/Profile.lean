import Concordance.Data.Source
import Concordance.Tolerance.OutputKind

/-!
# Tolerance Profiles

How far a candidate may deviate and still match, and what a certificate asks
for.

A rule has an epsilon for each measure of deviation, and the kind of output
decides which of the two governs. A profile overrides the default rule for
some kinds; a kind that is compared for equality has the epsilon zero under
every rule.

## Main definitions

* `Tolerance`: The two epsilons of a rule.
* `Overrides`: Rules for some kinds of output.
* `Profile`: The rules and thresholds of a run.
* `Profile.epsilon`: The epsilon that governs a kind.
-/

namespace Concordance

/-- The largest deviations that still match. -/
structure Tolerance where
  relative : Float
  absolute : Float

namespace Tolerance

/-- The rule unless stated otherwise. -/
def standard : Tolerance :=
  ⟨1e-6, 1e-9⟩

/-- The epsilon that governs a kind, zero where only equality counts. -/
def epsilon (t : Tolerance) : OutputKind → Float
  | .relative => t.relative
  | .absolute => t.absolute
  | .hash | .label | .text => 0

/-- A rule as data. -/
def toDatum (t : Tolerance) : Datum :=
  .object [("relative_epsilon", .float t.relative), ("absolute_epsilon", .float t.absolute)]

/-- Read a rule. What is left out is as in the standard rule. -/
def ofSource? (s : Source) : Option Tolerance := do
  let f ← s.record? ["relative_epsilon", "absolute_epsilon"]
  return ⟨← f.orDefault? 0 Source.float? standard.relative,
    ← f.orDefault? 1 Source.float? standard.absolute⟩

end Tolerance

namespace OutputKind

/-- A kind as data. -/
def toDatum (kind : OutputKind) : Datum :=
  .text kind.tag

/-- Read a kind. -/
def ofSource? (s : Source) : Option OutputKind := do
  all[← s.unitVariant? tags]?

end OutputKind

/-- Rules for some kinds of output. -/
def Overrides : Type :=
  OutputKind → Option Tolerance

namespace Overrides

/-- No rules. -/
def none : Overrides :=
  fun _ => Option.none

/-- Give a kind a rule in place of the one it has. -/
def insert (rules : Overrides) (kind : OutputKind) (t : Tolerance) : Overrides :=
  fun k => if k = kind then some t else rules k

/-- The rules in the order of the kinds. -/
def toList (rules : Overrides) : List (OutputKind × Tolerance) :=
  OutputKind.all.filterMap fun k => (rules k).map fun t => (k, t)

/-- The rules in a list, the last one for each kind. -/
def ofList (entries : List (OutputKind × Tolerance)) : Overrides :=
  entries.foldl (fun rules e => rules.insert e.1 e.2) none

/-- Rules as a map from kinds. -/
def toDatum (rules : Overrides) : Datum :=
  .object (rules.toList.map fun e => (e.1.tag, e.2.toDatum))

/-- Read rules. -/
def ofSource? (s : Source) : Option Overrides := do
  let entries ← (← s.entries?).mapM fun e => do
    return (← OutputKind.ofSource? e.1, ← Tolerance.ofSource? e.2)
  return ofList entries

end Overrides

/-- The rules and thresholds of a run. -/
structure Profile where
  rules : Overrides
  /-- The largest deviation that a certified candidate may show. -/
  maxDeviation : Float
  /-- The least confidence that is certified. -/
  minConfidence : Float
  /-- How long one call may take, in milliseconds. -/
  timeout : UInt64

namespace Profile

/-- The profile unless stated otherwise. -/
def standard : Profile :=
  { rules := Overrides.none, maxDeviation := 1e-6, minConfidence := 0.999, timeout := 5000 }

/-- The rule for a kind. -/
def rule (p : Profile) (kind : OutputKind) : Tolerance :=
  (p.rules kind).getD .standard

/-- The epsilon that governs a kind. -/
def epsilon (p : Profile) (kind : OutputKind) : Float :=
  (p.rule kind).epsilon kind

/-- A profile as data. -/
def toDatum (p : Profile) : Datum :=
  .object [("rules", p.rules.toDatum), ("max_allowed_deviation", .float p.maxDeviation),
    ("min_confidence", .float p.minConfidence), ("timeout_ms", .nat p.timeout.toNat)]

/-- Read a profile. -/
def ofSource? (s : Source) : Option Profile := do
  let f ← s.record? ["rules", "max_allowed_deviation", "min_confidence", "timeout_ms"]
  return {
    rules := ← f.required? 0 Overrides.ofSource?
    maxDeviation := ← f.required? 1 Source.float?
    minConfidence := ← f.required? 2 Source.float?
    timeout := ← f.required? 3 Source.word? }

end Profile

end Concordance
