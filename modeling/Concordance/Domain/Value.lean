import Concordance.Data.Source
import Concordance.Decimal.Layout
import Concordance.Json.Printer

/-!
# Values and Inputs

What is handed to the function under test: one value for each parameter.

A value has two written forms. As an argument of a command it is a bare word,
lists with commas between their elements. As data it is the number, text or
list itself, with nothing beside it that says which kind of value it is; the
reader takes the first kind that fits, so an integer is never read as a double
and the empty list is always a list of integers.

Inputs keep the order in which they were named, and a name may occur again.
Asking for a name finds its first value.

## Main definitions

* `Value`: One argument.
* `Value.argument`: A value as a word of a command.
* `Value.toDatum`, `Value.ofSource?`: A value as data.
* `Inputs`: The values of one call, by name.
* `Inputs.json`: Inputs on one line of JSON.
-/

namespace Concordance

/-- One argument of the function under test. Comparing values compares their
    doubles as numbers, so a NaN differs from itself and both zeros agree. -/
inductive Value where
  | int (n : Int64)
  | float (x : Float)
  | bool (b : Bool)
  | text (s : String)
  | ints (ns : List Int64)
  | floats (xs : List Float)
deriving BEq

namespace Value

/-- A double as the word of a command. -/
def spellFloat (x : Float) : String :=
  Decimal.exactly.write x

/-- An integer as the word of a command. -/
def spellInt (n : Int64) : String :=
  toString n.toInt

/-- A truth value as the word of a command. -/
def spellBool : Bool → String
  | true => "true"
  | false => "false"

/-- A value as one word of a command. -/
def argument : Value → String
  | .int n => spellInt n
  | .float x => spellFloat x
  | .bool b => spellBool b
  | .text s => s
  | .ints ns => ",".intercalate (ns.map spellInt)
  | .floats xs => ",".intercalate (xs.map spellFloat)

/-- A value as data. -/
def toDatum : Value → Datum
  | .int n => .int n.toInt
  | .float x => .float x
  | .bool b => .bool b
  | .text s => .text s
  | .ints ns => .list (ns.map fun n => .int n.toInt)
  | .floats xs => .floats xs

/-- The first kind of value that plain data fits. -/
def ofDatum? (d : Datum) : Option Value :=
  let s := Source.plain d
  (s.int64?.map Value.int)
    <|> (s.float?.map Value.float)
    <|> (s.bool?.map Value.bool)
    <|> (s.text?.map Value.text)
    <|> ((do (← s.list?).mapM Source.int64?).map Value.ints)
    <|> ((do (← s.list?).mapM Source.float?).map Value.floats)

/-- Read a value. -/
def ofSource? (s : Source) : Option Value :=
  s.datum?.bind ofDatum?

end Value

/-- The values of one call, by name and in the order of the parameters. -/
structure Inputs where
  entries : List (String × Value)
deriving BEq

namespace Inputs

/-- No inputs. -/
def empty : Inputs :=
  ⟨[]⟩

/-- Name one more value. -/
def push (inputs : Inputs) (name : String) (value : Value) : Inputs :=
  ⟨inputs.entries ++ [(name, value)]⟩

/-- The first value of a name. -/
def get? (inputs : Inputs) (name : String) : Option Value :=
  inputs.entries.lookup name

/-- How many values there are. -/
def size (inputs : Inputs) : Nat :=
  inputs.entries.length

/-- The values as the words of a command. -/
def arguments (inputs : Inputs) : List String :=
  inputs.entries.map fun e => e.2.argument

/-- Inputs as a map from names to values. -/
def toDatum (inputs : Inputs) : Datum :=
  .object (inputs.entries.map fun e => (e.1, e.2.toDatum))

/-- Inputs on one line of JSON. -/
def json (inputs : Inputs) : String :=
  Json.compact inputs.toDatum

end Inputs

end Concordance
