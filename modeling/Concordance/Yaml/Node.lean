import Concordance.Yaml.Scalar

/-!
# YAML Nodes

A YAML document as its writer laid it out: scalars with their style, and
sequences and mappings of nodes, each with the tag it carries.

What a scalar stands for depends on who asks. A reader that expects a text
takes any scalar's text as it is written; a reader that takes whatever comes
asks for the plain data of a node, where plain scalars are resolved and the
core tags apply. A local tag names a variant of a type, and such a node is not
plain data.

## Main definitions

* `Node`: The tree.
* `Node.isLocalTag`: Whether a tag is local to the document.
* `Scalar.datum?`: The plain data of a scalar.
* `Node.datum?`: The plain data of a node.
-/

namespace Concordance

namespace Yaml

/-- A node of a document. A stream without a document holds `missing`. -/
inductive Node where
  | missing
  | scalar (s : Scalar)
  | sequence (tag : Option String) (items : List Node)
  | mapping (tag : Option String) (entries : List (Node × Node))

/-- The scalar that stands where a document has nothing. -/
def Node.empty : Node :=
  .scalar ⟨"", .plain, none⟩

/-- The name that a local tag gives, without its mark unless that is all. -/
def localName? (tag : Option String) : Option String := do
  match (← tag).toList with
  | ['!'] => some "!"
  | '!' :: name => some (String.ofList name)
  | _ => none

/-- A tag of the core schema. -/
def coreTag (name : String) : String :=
  "tag:yaml.org,2002:" ++ name

/-- The plain data of a scalar. A core tag makes its type binding, and any
    other tag that is not local makes the scalar a text. -/
def Scalar.datum? (s : Scalar) : Option Datum :=
  let cs := s.text.toList
  match s.tag with
  | none => some (if s.style = .plain then resolve s.text else .text s.text)
  | some tag =>
    if (localName? (some tag)).isSome then none
    else if tag = coreTag "bool" then (bool? s.text).map .bool
    else if tag = coreTag "int" then (signed? cs).map resolveInt
    else if tag = coreTag "float" then (float? cs).map .float
    else if tag = coreTag "null" then if isNull s.text then some .null else none
    else some (.text s.text)

namespace Node

mutual

/-- The plain data of a node. -/
def datum? : Node → Option Datum
  | .missing => some .null
  | .scalar s => s.datum?
  | .sequence tag items =>
    if (localName? tag).isSome then none else (data? items).map .list
  | .mapping tag entries =>
    if (localName? tag).isSome then none else (entryData? entries).map .map

/-- The plain data of some nodes. -/
def data? : List Node → Option (List Datum)
  | [] => some []
  | n :: rest => do
    let d ← n.datum?
    let ds ← data? rest
    return d :: ds

/-- The plain data of some entries. -/
def entryData? : List (Node × Node) → Option (List (Datum × Datum))
  | [] => some []
  | (k, v) :: rest => do
    let key ← k.datum?
    let value ← v.datum?
    let more ← entryData? rest
    return (key, value) :: more

end

/-- Whether a node is a plain scalar without any text, which is what a key
    with nothing behind it has for a value. -/
def isNothing : Node → Bool
  | .missing => true
  | .scalar s => s.text.isEmpty && s.style = .plain
  | _ => false

end Node

end Yaml

end Concordance
