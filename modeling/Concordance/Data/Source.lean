import Concordance.Data.Datum
import Concordance.Yaml.Node

/-!
# Reading Values from Documents

How the values of this library are picked out of a document, whichever format
it is in.

The formats agree on trees but not on what a piece of a tree may be read as.
JSON keeps texts and numbers apart. YAML lets any scalar be read as a text and
a missing value as an empty collection, and it names variants by local tags.
A third kind of source is plain data, which a reader falls back on where it
must see all of a value before it knows its type; there the scalars are
resolved for good, and a name may also be given by its position.

Every operation here answers one question about a source and fails where the
source cannot answer it. The readers of the types are built from these
questions and do not know which format they read.

## Main definitions

* `Source`: A piece of a document.
* `Source.int?`, `float?`, `bool?`, `text?`, `list?`: What a source can be.
* `Source.option?`: Whether a value is present.
* `Source.record?`: The fields of a structure.
* `Source.variant?`: The name and payload of a variant.
* `Source.tagged?`: The name of a variant held among its fields.
* `Source.flattened?`: Some fields, and all other entries as plain data.
-/

namespace Concordance

open Yaml (Node Scalar)

/-- A piece of a document. -/
inductive Source where
  /-- A piece of a JSON text. -/
  | json (d : Datum)
  /-- A node of a YAML text. -/
  | yaml (n : Node)
  /-- Plain data taken from either. -/
  | plain (d : Datum)

/-- A name, or a position in a list of names. -/
inductive Label where
  | name (s : String)
  | position (n : Nat)

/-- The position that a label means among some names. -/
def Label.index? (names : List String) : Label → Option Nat
  | .name s => names.idxOf? s
  | .position n => if n < names.length then some n else none

/-- The fields of a structure in their order. A structure written as a list
    gives its fields by position, and then no field may be left out just
    because it is optional. -/
structure Fields where
  values : List (Option Source)
  positional : Bool

namespace Source

/-- Whether a scalar may be read as a value of a core type: any plain one, and
    a literal block whose tag says so. -/
def isTyped (s : Scalar) (type : String) : Bool :=
  s.style = .plain || (s.style = .literal && s.tag = some (Yaml.coreTag type))

/-- An integer between two bounds. -/
def int? (lo hi : Int) : Source → Option Int
  | .json (.int n) => if lo ≤ n && n ≤ hi then some n else none
  | .plain (.int n) => if lo ≤ n && n ≤ hi then some n else none
  | .yaml (.scalar s) =>
    if isTyped s "int" then
      let cs := s.text.toList
      let n := if 0 ≤ lo then (Yaml.unsigned? cs).map fun n => (n : Int) else Yaml.signed? cs
      n.filter fun n => lo ≤ n && n ≤ hi
    else none
  | _ => none

/-- An integer of sixty-four bits without sign. -/
def word? (s : Source) : Option UInt64 :=
  (s.int? 0 (2 ^ 64 - 1)).map fun n => UInt64.ofNat n.toNat

/-- A count, which has to fit into sixty-four bits. -/
def nat? (s : Source) : Option Nat :=
  (s.int? 0 (2 ^ 64 - 1)).map Int.toNat

/-- An integer of sixty-four bits with a sign. -/
def int64? (s : Source) : Option Int64 :=
  (s.int? (-2 ^ 63) (2 ^ 63 - 1)).map Int64.ofInt

/-- An integer of thirty-two bits with a sign. -/
def int32? (s : Source) : Option Int32 :=
  (s.int? (-2 ^ 31) (2 ^ 31 - 1)).map Int32.ofInt

/-- A double. Integers count as doubles, except in a YAML scalar that is not
    spelled like one. -/
def float? : Source → Option Float
  | .json (.float x) => some x
  | .json (.int n) => some (Float.ofInt n)
  | .plain (.float x) => some x
  | .plain (.int n) => some (Float.ofInt n)
  | .yaml (.scalar s) => if isTyped s "float" then Yaml.float? s.text.toList else none
  | _ => none

/-- A truth value. -/
def bool? : Source → Option Bool
  | .json (.bool b) => some b
  | .plain (.bool b) => some b
  | .yaml (.scalar s) => if isTyped s "bool" then Yaml.bool? s.text else none
  | _ => none

/-- A text. In YAML every scalar has one. -/
def text? : Source → Option String
  | .json (.text s) => some s
  | .plain (.text s) => some s
  | .yaml (.scalar s) => some s.text
  | _ => none

/-- The items of a list. -/
def list? : Source → Option (List Source)
  | .json (.list items) => some (items.map .json)
  | .plain (.list items) => some (items.map .plain)
  | .yaml (.sequence _ items) => some (items.map .yaml)
  | .yaml n => if n.isNothing then some [] else none
  | _ => none

/-- The entries of a map. -/
def entries? : Source → Option (List (Source × Source))
  | .json (.map entries) => some (entries.map fun e => (.json e.1, .json e.2))
  | .plain (.map entries) => some (entries.map fun e => (.plain e.1, .plain e.2))
  | .yaml (.mapping _ entries) => some (entries.map fun e => (.yaml e.1, .yaml e.2))
  | .yaml n => if n.isNothing then some [] else none
  | _ => none

/-- Whether a value is present: the outer option is for sources that cannot
    say, the inner one for absent values. -/
def option? : Source → Option (Option Source)
  | .json .null => some none
  | .plain .null => some none
  | .yaml .missing => some none
  | .yaml (.scalar s) =>
    let present : Source := .yaml (.scalar s)
    if s.style ≠ .plain then some (some present)
    else match s.tag with
      | none => some (if s.text.isEmpty || Yaml.isNull s.text then none else some present)
      | some tag =>
        if tag ≠ Yaml.coreTag "null" then some (some present)
        else if Yaml.isNull s.text then some none else none
  | s => some (some s)

/-- Whether a source stands for nothing at all. -/
def isUnit : Source → Bool
  | .json .null => true
  | .plain .null => true
  | .plain (.map []) => true
  | .yaml .missing => true
  | .yaml (.scalar s) => isTyped s "null" && (s.text.isEmpty || Yaml.isNull s.text)
  | _ => false

/-- A label. -/
def label? : Source → Option Label
  | .plain (.int n) => if 0 ≤ n then some (.position n.toNat) else none
  | s => s.text?.map .name

/-- The plain data of a source. -/
def datum? : Source → Option Datum
  | .json d => if d.isReadable then some d else none
  | .plain d => some d
  | .yaml n => n.datum?.filter Datum.isReadable

/-- Put an entry in its place among the fields that have these names. An
    unknown field is passed over, a repeated one refused. -/
def placeField? (names : List String) (values : List (Option Source))
    (entry : Source × Source) : Option (List (Option Source)) := do
  match (← entry.1.label?).index? names with
  | none => return values
  | some i =>
    match values[i]? with
    | some none => return values.set i (some entry.2)
    | _ => none

/-- The fields of a structure that is written as a list. -/
def positionalFields? (names : List String) (items : List Source) : Option Fields :=
  if names.length < items.length then none
  else
    let missing := List.replicate (names.length - items.length) none
    some ⟨items.map some ++ missing, true⟩

/-- The fields of a structure, which is a map or, outside of YAML, a list. -/
def record? (names : List String) (s : Source) : Option Fields :=
  match s with
  | .json (.list items) => positionalFields? names (items.map .json)
  | .plain (.list items) => positionalFields? names (items.map .plain)
  | _ => do
    let entries ← s.entries?
    let values ← entries.foldlM (placeField? names) (names.map fun _ => none)
    return ⟨values, false⟩

/-- The label and the payload of a variant. A variant without payload is its
    name; one with a payload is a map of one entry, and in YAML a node with a
    local tag. -/
def variant? : Source → Option (Label × Option Source)
  | .json (.text s) => some (.name s, none)
  | .plain (.text s) => some (.name s, none)
  | .json (.map [(k, v)]) => do return (← label? (.json k), some (.json v))
  | .plain (.map [(k, v)]) => do return (← label? (.plain k), some (.plain v))
  | .yaml (.scalar s) =>
    match Yaml.localName? s.tag with
    | some name => some (.name name, some (.yaml (.scalar { s with tag := none })))
    | none => some (.name s.text, none)
  | .yaml (.sequence tag items) => do
    return (.name (← Yaml.localName? tag), some (.yaml (.sequence none items)))
  | .yaml (.mapping tag entries) => do
    return (.name (← Yaml.localName? tag), some (.yaml (.mapping none entries)))
  | _ => none

/-- The position of a variant that has no payload. -/
def unitVariant? (names : List String) (s : Source) : Option Nat := do
  let (label, payload) ← s.variant?
  match payload with
  | none => label.index? names
  | some p => if p.isUnit then label.index? names else none

/-- The items of a list or the entries of a map, keys and values apart from
    each other, as a variant held among its fields needs them. -/
def parts? : Source → Option (List Source ⊕ List (Source × Source))
  | .yaml (.sequence tag items) =>
    if (Yaml.localName? tag).isSome then none else some (.inl (items.map .yaml))
  | .yaml (.mapping tag entries) =>
    if (Yaml.localName? tag).isSome then none
    else some (.inr (entries.map fun e => (.yaml e.1, .yaml e.2)))
  | .yaml _ => none
  | .json (.list items) => some (.inl (items.map .json))
  | .plain (.list items) => some (.inl (items.map .plain))
  | s => s.entries?.map .inr

/-- Split the entry that holds a variant's name off the others. -/
def takeTag? (field : String) (state : Option Label × List (Datum × Datum))
    (entry : Source × Source) : Option (Option Label × List (Datum × Datum)) := do
  let key ← entry.1.datum?
  match key with
  | .text s =>
    if s = field then
      if state.1.isSome then none else return (some (← entry.2.label?), state.2)
    else return (state.1, state.2 ++ [(key, ← entry.2.datum?)])
  | _ => return (state.1, state.2 ++ [(key, ← entry.2.datum?)])

/-- The label of a variant that is held in a field beside those of its
    payload, and the other fields as plain data. In a list it comes first. -/
def tagged? (field : String) (s : Source) : Option (Label × Source) := do
  match ← s.parts? with
  | .inl [] => none
  | .inl (first :: rest) =>
    let label ← first.label?
    let items ← rest.mapM datum?
    return (label, .plain (.list items))
  | .inr entries =>
    let (label, rest) ← entries.foldlM (takeTag? field) (none, [])
    return (← label, .plain (.map rest))

/-- Put an entry among the fields with these names or, if it is none of them,
    among the other entries. -/
def placeOrKeep? (names : List String) (state : List (Option Source) × List (Datum × Datum))
    (entry : Source × Source) : Option (List (Option Source) × List (Datum × Datum)) := do
  let name ← entry.1.text?
  if names.contains name then return (← placeField? names state.1 entry, state.2)
  else return (state.1, state.2 ++ [(.text name, ← entry.2.datum?)])

/-- The fields with these names, and all other entries as plain data. -/
def flattened? (names : List String) (s : Source) : Option (Fields × Source) := do
  let (values, rest) ← (← s.entries?).foldlM (placeOrKeep? names) (names.map fun _ => none, [])
  return (⟨values, false⟩, .plain (.map rest))

/-- Whether a variant without payload accepts what stands beside its name:
    any fields, but no further items. -/
def holdsNoItems : Source → Bool
  | .plain (.list items) => items.isEmpty
  | _ => true

end Source

namespace Fields

/-- The source of a field. -/
def at? (f : Fields) (i : Nat) : Option Source :=
  f.values[i]?.join

/-- A field that has to be present. -/
def required? {α : Type} (f : Fields) (i : Nat) (read : Source → Option α) : Option α :=
  (f.at? i).bind read

/-- A field with a default. -/
def orDefault? {α : Type} (f : Fields) (i : Nat) (read : Source → Option α) (default : α) :
    Option α :=
  match f.at? i with
  | none => some default
  | some s => read s

/-- A field that holds a value or nothing. -/
def nullable? {α : Type} (read : Source → Option α) (s : Source) : Option (Option α) := do
  match ← s.option? with
  | none => return none
  | some present => return some (← read present)

/-- A field that may be left out and then holds nothing. -/
def optional? {α : Type} (f : Fields) (i : Nat) (read : Source → Option α) : Option (Option α) :=
  match f.at? i with
  | none => if f.positional then none else some none
  | some s => nullable? read s

end Fields

/-- The two document formats. -/
inductive DocumentFormat where
  | json
  | yaml
deriving DecidableEq

end Concordance
