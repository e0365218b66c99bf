import Concordance.Data.Source
import Concordance.Domain.Value

/-!
# Command Lines

What a process is started from, and how it gets its inputs: as a line of JSON
on its standard input, or as words behind its other arguments.

## Main definitions

* `InputMode`: How a process gets its inputs.
* `CommandLine`: What a process is started from.
* `CommandLine.forInputs`: The command line of a call.
* `InputMode.payload`: What a process reads.
-/

namespace Concordance

/-- How a process gets its inputs. -/
inductive InputMode where
  /-- As a line of JSON on its standard input. -/
  | line
  /-- As further arguments. -/
  | arguments
deriving DecidableEq

namespace InputMode

/-- The modes by name. -/
def names : List String :=
  ["stdin-json", "args"]

/-- The name of a mode. -/
def name : InputMode → String
  | .line => "stdin-json"
  | .arguments => "args"

/-- A mode as data. -/
def toDatum (m : InputMode) : Datum :=
  .text m.name

/-- Read a mode. -/
def ofSource? (s : Source) : Option InputMode := do
  [line, arguments][← s.unitVariant? names]?

/-- What a process reads. -/
def payload (m : InputMode) (inputs : Inputs) : List UInt8 :=
  match m with
  | .line => (inputs.json ++ "\n").toUTF8.toList
  | .arguments => []

end InputMode

/-- What a process is started from. -/
structure CommandLine where
  program : String
  arguments : List String := []
  /-- Variables that are set beside those of this process. The last of a name
      counts. -/
  environment : List (String × String) := []
  /-- The directory to start in, if it is not that of this process. -/
  directory : Option String := none

/-- The command line of a call with some inputs. -/
def CommandLine.forInputs (line : CommandLine) (mode : InputMode) (inputs : Inputs) :
    CommandLine :=
  match mode with
  | .line => line
  | .arguments => { line with arguments := line.arguments ++ inputs.arguments }

end Concordance
