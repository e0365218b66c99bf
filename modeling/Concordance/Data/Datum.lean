/-!
# Plain Data

The tree that documents are read into and written from.

Both document formats describe the same trees: nothing, truth values, numbers,
texts, lists and maps. Two constructors serve only one direction. `variant` is
a tagged value on its way out, which JSON writes as a map of one entry and
YAML as a local tag. `unreadable` is a piece of a document that is spelled
correctly but denotes no value, such as a number beyond every double; it does
no harm where nobody looks at it, and no reader accepts it.

Entries keep their order, and a map may hold a key more than once: what that
means is up to the reader.

## Main definitions

* `Datum`: The tree.
* `Datum.object`: A map whose keys are texts.
* `Datum.get?`: The value of a key.
* `Datum.isReadable`: Whether no piece of the tree is unreadable.
-/

namespace Concordance

/-- A document as a tree. -/
inductive Datum where
  | null
  | bool (b : Bool)
  | int (n : Int)
  | float (x : Float)
  | text (s : String)
  | list (items : List Datum)
  | map (entries : List (Datum × Datum))
  | variant (name : String) (payload : Datum)
  | unreadable

namespace Datum

/-- A map whose keys are texts. -/
def object (fields : List (String × Datum)) : Datum :=
  .map (fields.map fun f => (.text f.1, f.2))

/-- A natural number. -/
def nat (n : Nat) : Datum :=
  .int n

/-- A list of doubles. -/
def floats (xs : List Float) : Datum :=
  .list (xs.map .float)

/-- A value that may be absent, as `null` when it is. -/
def option {α : Type} (f : α → Datum) (x : Option α) : Datum :=
  (x.map f).getD .null

/-- The value of a key that is a text, unless it is `null`. -/
def get? (d : Datum) (key : String) : Option Datum :=
  match d with
  | .map entries =>
    let found := entries.findSome? fun e =>
      match e.1 with
      | .text k => if k = key then some e.2 else none
      | _ => none
    found.filter fun
      | .null => false
      | _ => true
  | _ => none

mutual

/-- Whether no piece of the tree is unreadable. -/
def isReadable : Datum → Bool
  | .list items => areReadable items
  | .map entries => entriesReadable entries
  | .variant _ payload => payload.isReadable
  | .unreadable => false
  | _ => true

/-- Whether all trees of a list are readable. -/
def areReadable : List Datum → Bool
  | [] => true
  | d :: rest => d.isReadable && areReadable rest

/-- Whether all keys and values of some entries are readable. -/
def entriesReadable : List (Datum × Datum) → Bool
  | [] => true
  | (k, v) :: rest => k.isReadable && v.isReadable && entriesReadable rest

end

end Datum

end Concordance
