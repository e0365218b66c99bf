import Concordance.Domain.Description
import Concordance.Report.Format
import Concordance.Run.Error
import Concordance.Validation.Config

/-!
# Validation Errors

Everything that can keep a validation from a verdict, and the names under
which callers tell the causes apart.

## Main definitions

* `ValidationError`: Why there is no verdict.
* `ValidationError.kind`: The name of a cause.
-/

namespace Concordance

/-- Why there is no verdict. -/
inductive ValidationError where
  | config (error : ConfigError)
  | domain (error : DomainError)
  /-- An output kind was asked for that does not exist. -/
  | unknownKind (name : String)
  | run (error : RunError)
  | report (error : ReportError)
  | file (error : FileError)

namespace ValidationError

/-- The error in words. -/
def message : ValidationError → String
  | .config error => error.message
  | .domain error => error.message
  | .unknownKind name => OutputKind.unknownMessage name
  | .run error => error.message
  | .report error => error.message
  | .file error => "IO error: " ++ error.message

/-- The name of a cause. -/
def kind : ValidationError → String
  | .config (.invalid _) => "InvalidConfig"
  | .config (.file _) => "Io"
  | .domain .malformed | .domain (.refused _) => "InvalidDomain"
  | .domain (.file _) | .unknownKind _ => "Generator"
  | .run (.referenceUnavailable ..) => "ReferenceUnavailable"
  | .run (.timedOut ..) => "RunTimedOut"
  | .run (.cancelled ..) => "Cancelled"
  | .run (.pattern _) | .run (.noWorkers _) => "Runner"
  | .report _ => "Report"
  | .file _ => "Io"

/-- Whether the reference is to blame. -/
def blamesReference : ValidationError → Bool
  | .run error => error.blamesReference
  | _ => false

end ValidationError

end Concordance
