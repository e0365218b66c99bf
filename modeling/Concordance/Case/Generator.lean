import Concordance.Case.Sampling
import Concordance.Domain.Boundary
import Concordance.Domain.Validity

/-!
# Cases

The inputs that both implementations are run on.

The first cases walk the boundary values of all parameters side by side, a
shorter list starting over while a longer one goes on. All cases after them
are drawn at random. Every case depends only on the domain, the seed and its
own index.

## Main definitions

* `Case`: Numbered inputs.
* `Generator`: A domain that can be drawn from, with a seed and a number of
  cases.
* `Generator.ofDomain`: Checks a domain.
* `Generator.case?`: The case at an index.
* `Generator.cases`: All cases.
-/

namespace Concordance

/-- Where the inputs of a case come from. -/
inductive Origin where
  | boundary
  | random
deriving DecidableEq

/-- The name of an origin. -/
def Origin.name : Origin → String
  | .boundary => "boundary"
  | .random => "random"

/-- Numbered inputs. -/
structure Case where
  index : Nat
  inputs : Inputs
  origin : Origin

/-- A domain that can be drawn from, with a seed and a number of cases. -/
structure Generator where
  domain : Domain
  size : Nat
  seed : UInt64
  /-- The length of the longest list of boundary values. -/
  longest : Nat

namespace Domain

/-- The length of the longest list of boundary values. -/
def longestBoundary (domain : Domain) : Nat :=
  (domain.parameters.map fun p => p.kind.boundaryValues.length).foldl Nat.max 0

/-- The boundary values of all parameters at one place of their lists. -/
def boundaryInputs (domain : Domain) (index : Nat) : Inputs :=
  ⟨domain.parameters.map fun p =>
    let values := p.kind.boundaryValues
    (p.name, values.getD (index % Nat.max values.length 1) p.kind.typical)⟩

end Domain

namespace Generator

/-- The number of cases unless stated otherwise. -/
def defaultSize : Nat := 100

/-- The number of cases when many are wanted. -/
def fuzzSize : Nat := 10000

/-- The seed unless stated otherwise. -/
def defaultSeed : UInt64 := 42

/-- A generator for a domain that can be drawn from. -/
def ofDomain (domain : Domain) (size : Nat) (seed : UInt64) : Except Domain.Fault Generator := do
  domain.check
  return { domain, size, seed, longest := domain.longestBoundary }

/-- How many cases hold boundary values. -/
def boundaryCount (g : Generator) : Nat :=
  Nat.min g.longest g.size

/-- The case at an index, `none` past the end. -/
def case? (g : Generator) (index : Nat) : Option Case :=
  if g.size ≤ index then none
  else if index < g.longest then some ⟨index, g.domain.boundaryInputs index, .boundary⟩
  else some ⟨index, g.domain.sample g.seed index, .random⟩

/-- All cases, in order. -/
def cases (g : Generator) : List Case :=
  (List.range g.size).filterMap g.case?

end Generator

end Concordance
