import Concordance.Json.Token

/-!
# Reading JSON

From the tokens of a JSON text to the tree they spell.

A text holds one value and nothing else. Within a map every key is a string;
keys may repeat, and all entries are kept in order.

## Main definitions

* `value?`: Reads one value from the front of some tokens.
* `read?`: The tree of a text.
-/

namespace Concordance

namespace Json

mutual

/-- One value and the tokens behind it. -/
def value? : Nat → List Token → Option (Datum × List Token)
  | _ + 1, .scalar d :: rest => some (d, rest)
  | _ + 1, .string d :: rest => some (d, rest)
  | _ + 1, .openList :: .closeList :: rest => some (.list [], rest)
  | fuel + 1, .openList :: rest => do
    let (items, rest) ← items? fuel rest
    return (.list items, rest)
  | _ + 1, .openMap :: .closeMap :: rest => some (.map [], rest)
  | fuel + 1, .openMap :: rest => do
    let (entries, rest) ← entries? fuel rest
    return (.map entries, rest)
  | _, _ => none

/-- The items of a list up to its closing bracket. -/
def items? : Nat → List Token → Option (List Datum × List Token)
  | 0, _ => none
  | fuel + 1, tokens => do
    let (d, rest) ← value? fuel tokens
    match rest with
    | .comma :: rest =>
      let (more, rest) ← items? fuel rest
      return (d :: more, rest)
    | .closeList :: rest => return ([d], rest)
    | _ => none

/-- The entries of a map up to its closing brace. -/
def entries? : Nat → List Token → Option (List (Datum × Datum) × List Token)
  | 0, _ => none
  | fuel + 1, tokens => do
    let (key, rest) ← key? tokens
    let (d, rest) ← value? fuel rest
    match rest with
    | .comma :: rest =>
      let (more, rest) ← entries? fuel rest
      return ((key, d) :: more, rest)
    | .closeMap :: rest => return ([(key, d)], rest)
    | _ => none

/-- A key and its colon. -/
def key? : List Token → Option (Datum × List Token)
  | .string d :: .colon :: rest => some (d, rest)
  | _ => none

end

/-- The tree of a text. Reading a value or an entry uses up a token, and no
    call nests deeper than two levels between tokens. -/
def read? (text : String) : Option Datum := do
  let tokens ← tokens? text
  match ← value? (2 * tokens.length + 2) tokens with
  | (d, []) => some d
  | _ => none

end Json

end Concordance
