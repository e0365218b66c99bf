/-!
# Kinds of Output

How the outputs of the two implementations are compared.

Hashes, labels and texts are equal or not. Numbers may deviate, measured
relative to the reference or in absolute terms.

## Main definitions

* `OutputKind`: The kinds, in their order.
* `OutputKind.tag`: The name of a kind.
* `OutputKind.ofTag?`: The kind of a name.
-/

namespace Concordance

/-- How outputs are compared. -/
inductive OutputKind where
  | hash
  | relative
  | absolute
  | label
  | text
deriving DecidableEq

namespace OutputKind

/-- All kinds, in their order. -/
def all : List OutputKind :=
  [.hash, .relative, .absolute, .label, .text]

/-- The name of a kind. -/
def tag : OutputKind → String
  | .hash => "exact-hash"
  | .relative => "float-relative"
  | .absolute => "float-absolute"
  | .label => "categorical"
  | .text => "string"

/-- The names of all kinds, in their order. -/
def tags : List String :=
  all.map tag

/-- Whether outputs of a kind are lists of numbers. -/
def isNumeric : OutputKind → Bool
  | .relative | .absolute => true
  | .hash | .label | .text => false

/-- The kind of a name. -/
def ofTag? (s : String) : Option OutputKind :=
  all.find? fun k => k.tag = s

/-- What is said about a name that no kind has. -/
def unknownMessage (s : String) : String :=
  "Unknown output kind: " ++ s

end OutputKind

end Concordance
