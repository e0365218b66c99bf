import Concordance.Data.Source
import Concordance.Json.Reader
import Concordance.Json.Printer
import Concordance.Yaml.Reader
import Concordance.Yaml.Printer
import Concordance.Text.Utf8

/-!
# Documents

Texts in one of the two document formats, and the files that hold them.

A file name decides the format of its contents: the extension `json` selects
JSON, and everything else is read as YAML. The extension is what follows the
last point of the file's own name, and a name that begins with its only point
has none.

## Main definitions

* `DocumentFormat.source?`: The source that a text is.
* `DocumentFormat.ofPath`: The format that a file name selects.
* `FileContents`: What is found under a file name.
* `FileContents.text`: The text in a file.
-/

namespace Concordance

namespace DocumentFormat

/-- The source that a text is. -/
def source? : DocumentFormat → String → Option Source
  | .json, text => (Json.read? text).map .json
  | .yaml, text => (Yaml.read? text).map .yaml

/-- A tree as a document. -/
def write : DocumentFormat → Datum → String
  | .json, d => Json.compact d
  | .yaml, d => Yaml.document d

/-- The own name of a file, without the directories before it. -/
def fileName (path : String) : List Char :=
  (path.toList.reverse.dropWhile (· = '/')).takeWhile (· ≠ '/') |>.reverse

/-- The extension of a file name. -/
def extension? (name : List Char) : Option (List Char) :=
  let last := name.reverse.takeWhile (· ≠ '.')
  let before := name.reverse.dropWhile (· ≠ '.')
  if name = ['.', '.'] then none
  else if before.length ≤ 1 then none else some last.reverse

/-- The format that a file name selects. -/
def ofPath (path : String) : DocumentFormat :=
  if extension? (fileName path) = some "json".toList then .json else .yaml

end DocumentFormat

/-- What is found under a file name: nothing, or some bytes. -/
inductive FileContents where
  | absent
  | bytes (content : List UInt8)

/-- Why a file could not be used. -/
inductive FileError where
  | absent
  | alreadyExists
  | notText
  | other (reason : String)

/-- The error in words. -/
def FileError.message : FileError → String
  | .absent => "No such file or directory (os error 2)"
  | .alreadyExists => "File exists (os error 17)"
  | .notText => "stream did not contain valid UTF-8"
  | .other reason => reason

/-- The text in a file. -/
def FileContents.text : FileContents → Except FileError String
  | .absent => .error .absent
  | .bytes content =>
    match Text.validUtf8? content with
    | some text => .ok text
    | none => .error .notText

end Concordance
