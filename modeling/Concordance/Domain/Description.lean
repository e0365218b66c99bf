import Concordance.Data.Document
import Concordance.Domain.Validity
import Concordance.Domain.Value

/-!
# Domain Descriptions

Domains as documents.

A parameter is written as one flat map: its name, the name of its kind, and
the bounds that the kind has. Reading a description also checks it, so what
comes out can be drawn from.

## Main definitions

* `Parameter.Kind.toDatum`, `Parameter.toDatum`, `Domain.toDatum`: As data.
* `Domain.ofSource?`: Read a domain, without checking it.
* `Domain.parse`: Read and check a description.
* `Domain.load`: Read and check the description in a file.
-/

namespace Concordance

namespace Parameter.Kind

/-- The fields of a kind, its name first. -/
def fields (kind : Kind) : List (String × Datum) :=
  ("type", .text kind.name) :: match kind with
    | .int min max => [("min", .int min.toInt), ("max", .int max.toInt)]
    | .float min max => [("min", .float min), ("max", .float max)]
    | .bool => []
    | .text minLength maxLength => [("min_len", .nat minLength), ("max_len", .nat maxLength)]
    | .choice options => [("options", .list (options.map .text))]
    | .ints min max maxLength =>
      [("min", .int min.toInt), ("max", .int max.toInt), ("max_len", .nat maxLength)]
    | .floats min max maxLength =>
      [("min", .float min), ("max", .float max), ("max_len", .nat maxLength)]

/-- A kind as data. -/
def toDatum (kind : Kind) : Datum :=
  .object kind.fields

/-- Read the bounds of the kind at a position among the names. -/
def ofFields? (s : Source) : Nat → Option Kind
  | 0 => do
    let f ← s.record? ["min", "max"]
    return .int (← f.required? 0 Source.int64?) (← f.required? 1 Source.int64?)
  | 1 => do
    let f ← s.record? ["min", "max"]
    return .float (← f.required? 0 Source.float?) (← f.required? 1 Source.float?)
  | 2 => if s.holdsNoItems then some .bool else none
  | 3 => do
    let f ← s.record? ["min_len", "max_len"]
    return .text (← f.orDefault? 0 Source.nat? 0) (← f.required? 1 Source.nat?)
  | 4 => do
    let f ← s.record? ["options"]
    return .choice (← f.required? 0 fun o => do (← o.list?).mapM Source.text?)
  | 5 => do
    let f ← s.record? ["min", "max", "max_len"]
    return .ints (← f.required? 0 Source.int64?) (← f.required? 1 Source.int64?)
      (← f.required? 2 Source.nat?)
  | 6 => do
    let f ← s.record? ["min", "max", "max_len"]
    return .floats (← f.required? 0 Source.float?) (← f.required? 1 Source.float?)
      (← f.required? 2 Source.nat?)
  | _ => none

/-- Read a kind. -/
def ofSource? (s : Source) : Option Kind := do
  let (label, rest) ← s.tagged? "type"
  ofFields? rest (← label.index? names)

end Parameter.Kind

namespace Parameter

/-- A parameter as data. -/
def toDatum (p : Parameter) : Datum :=
  .object (("name", .text p.name) :: p.kind.fields)

/-- Read a parameter. -/
def ofSource? (s : Source) : Option Parameter := do
  let (f, rest) ← s.flattened? ["name"]
  return ⟨← f.required? 0 Source.text?, ← Kind.ofSource? rest⟩

end Parameter

/-- Why there is no domain to draw from. -/
inductive DomainError where
  | malformed
  | refused (fault : Domain.Fault)
  | file (error : FileError)

/-- The error in words. -/
def DomainError.message : DomainError → String
  | .malformed => "Invalid domain: malformed domain description"
  | .refused fault => "Invalid domain: " ++ fault.message
  | .file error => "IO error: " ++ error.message

namespace Domain

/-- A domain as data. -/
def toDatum (domain : Domain) : Datum :=
  .object [("parameters", .list (domain.parameters.map Parameter.toDatum))]

/-- Read a domain. -/
def ofSource? (s : Source) : Option Domain := do
  let f ← s.record? ["parameters"]
  return ⟨← f.orDefault? 0 (fun p => do (← p.list?).mapM Parameter.ofSource?) []⟩

/-- Check a domain and return it. -/
def checked (domain : Domain) : Except DomainError Domain :=
  match domain.check with
  | .ok _ => .ok domain
  | .error fault => .error (.refused fault)

/-- Read and check a description. -/
def parse (format : DocumentFormat) (text : String) : Except DomainError Domain :=
  match format.source? text >>= ofSource? with
  | some domain => domain.checked
  | none => .error .malformed

/-- Read and check the description in a file. -/
def load (path : String) (contents : FileContents) : Except DomainError Domain := do
  let text ← contents.text.mapError .file
  parse (DocumentFormat.ofPath path) text

end Domain

end Concordance
