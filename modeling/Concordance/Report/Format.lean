import Concordance.Data.Document
import Concordance.Report.Markdown

/-!
# Report Formats

The formats that reports are written in, and the files they are written to.

Format names are read without regard to ASCII case.

## Main definitions

* `ReportFormat`: The formats, in their order.
* `ReportFormat.ofName`: The format of a name.
* `Report.render`: A report as text.
* `Report.file`: The file that a report is written to.
* `ReportError`: What can go wrong.
-/

namespace Concordance

/-- A format of reports. -/
inductive ReportFormat where
  | json
  | yaml
  | markdown
deriving DecidableEq

/-- Why a report could not be written. -/
inductive ReportError where
  | unknownFormat (name : String)
  | file (error : FileError)

/-- The error in words. -/
def ReportError.message : ReportError → String
  | .unknownFormat name => "Unknown report format: " ++ name
  | .file error => "IO error: " ++ error.message

namespace ReportFormat

/-- All formats, in their order. -/
def all : List ReportFormat :=
  [.json, .yaml, .markdown]

/-- The extension of files in a format. -/
def extension : ReportFormat → String
  | .json => "json"
  | .yaml => "yaml"
  | .markdown => "md"

/-- The format of a name. -/
def ofName (name : String) : Except ReportError ReportFormat :=
  match String.ofList (name.toList.map Char.toLower) with
  | "json" => .ok .json
  | "yaml" | "yml" => .ok .yaml
  | "markdown" | "md" => .ok .markdown
  | _ => .error (.unknownFormat name)

end ReportFormat

namespace Report

/-- A report as text, with at most so many failures. -/
def render (r : Report) (cap : Nat) : ReportFormat → String
  | .json => Json.pretty (r.document cap).toDatum
  | .yaml => Yaml.document (r.document cap).toDatum
  | .markdown => (r.document cap).markdown

/-- The name of the file that a report is written to. -/
def fileName (format : ReportFormat) : String :=
  "parity-report." ++ format.extension

/-- The path of a file in a directory, without steps that lead nowhere. -/
def filePath (directory name : String) : String :=
  let steps := (directory.splitOn "/").filter fun s => s ≠ "" && s ≠ "."
  "/".intercalate (steps ++ [name])

/-- The file that a report is written to, with its text. A directory cannot be
    made where something else has its name. -/
def file (r : Report) (cap : Nat) (directory : String) (isTaken : Bool) (format : ReportFormat) :
    Except ReportError (String × String) :=
  if isTaken then .error (.file .alreadyExists)
  else .ok (filePath directory (fileName format), r.render cap format)

end Report

end Concordance
