import Concordance.Case.Generator
import Concordance.Compare.Extractor
import Concordance.Data.Document
import Concordance.Report.Document
import Concordance.Tolerance.Profile

/-!
# Configuration

The options of a validation.

Every option has a default, and a document states only those that differ. What
a document says is checked before it is used, option by option, and the first
unusable one is named. Whether a pattern can be used is a matter of the
dialect that it is read in.

## Main definitions

* `Config`: The options.
* `Config.standard`: The defaults.
* `Config.check`: The first unusable option, if there is one.
* `Config.profile`: The tolerance profile that the options ask for.
* `Config.parse`, `Config.load`: Options from a document.
-/

namespace Concordance

/-- The options of a validation. -/
structure Config where
  sampleSize : Nat
  seed : UInt64
  /-- How long one call may take, in milliseconds. -/
  timeout : UInt64
  /-- How long the whole run may take, in milliseconds. -/
  runTimeout : Option UInt64
  maxDeviation : Float
  minConfidence : Float
  workers : Nat
  kind : OutputKind
  /-- The pattern whose first group is compared. -/
  pattern : Option String
  tolerances : Overrides
  /-- How many failures a report spells out. -/
  failureCap : Nat

/-- The largest number of cases that may be asked for. -/
def maxSampleSize : Nat := 1000000

/-- What is wrong with a configuration. -/
inductive ConfigFault where
  | malformed (format : DocumentFormat)
  | confidence (given : Float)
  | deviation (given : Float)
  | noTimeout
  | noRunTimeout
  | noWorkers
  | sampleSize (given : Nat)
  | tolerance (kind : OutputKind)
  | pattern (error : PatternError)
  /-- A fault found by other means than the check, in words. -/
  | other (reason : String)

/-- The fault in words. -/
def ConfigFault.message : ConfigFault → String
  | .malformed .json => "malformed JSON"
  | .malformed .yaml => "malformed YAML"
  | .confidence given =>
    "min_confidence must be within [0, 1], got " ++ Decimal.plainly.write given
  | .deviation given =>
    "max_allowed_deviation must be a non-negative number, got " ++ Decimal.plainly.write given
  | .noTimeout => "timeout_ms must be positive"
  | .noRunTimeout => "run_timeout_ms must be positive"
  | .noWorkers => "workers must be at least 1"
  | .sampleSize given => s!"sample_size must be at most {maxSampleSize}, got {given}"
  | .tolerance kind => "tolerances for " ++ kind.tag ++ " must be non-negative numbers"
  | .pattern error => "output_pattern: " ++ error.message
  | .other reason => reason

/-- Why there is no configuration to use. -/
inductive ConfigError where
  | invalid (fault : ConfigFault)
  | file (error : FileError)

/-- The error in words. -/
def ConfigError.message : ConfigError → String
  | .invalid fault => "Invalid configuration: " ++ fault.message
  | .file error => "IO error: " ++ error.message

namespace Config

/-- The options unless stated otherwise. -/
def standard : Config :=
  { sampleSize := Generator.defaultSize, seed := Generator.defaultSeed
    timeout := Profile.standard.timeout, runTimeout := none
    maxDeviation := Profile.standard.maxDeviation
    minConfidence := Profile.standard.minConfidence, workers := 1, kind := .relative
    pattern := none, tolerances := Overrides.none, failureCap := defaultFailureCap }

/-- The options for a run over many cases. -/
def fuzz : Config :=
  { standard with sampleSize := Generator.fuzzSize }

/-- Whether a double is a number that is not negative. -/
def isNonNegative (x : Float) : Bool :=
  x.isFinite && 0 ≤ x

/-- Whether both epsilons of a rule are usable. -/
def isUsable (t : Tolerance) : Bool :=
  isNonNegative t.relative && isNonNegative t.absolute

/-- The extractor that the options ask for. -/
def extractor (c : Config) (dialect : Pattern.Dialect := .standard) :
    Except ConfigFault Extractor :=
  (Extractor.ofPattern? c.pattern dialect).mapError .pattern

/-- Check that every option can be used. -/
def check (c : Config) (dialect : Pattern.Dialect := .standard) : Except ConfigFault Unit := do
  if !(0 ≤ c.minConfidence && c.minConfidence ≤ 1) then throw (.confidence c.minConfidence)
  if !isNonNegative c.maxDeviation then throw (.deviation c.maxDeviation)
  if c.timeout = 0 then throw .noTimeout
  if c.runTimeout = some 0 then throw .noRunTimeout
  if c.workers = 0 then throw .noWorkers
  if maxSampleSize < c.sampleSize then throw (.sampleSize c.sampleSize)
  match c.tolerances.toList.find? fun e => !isUsable e.2 with
  | some (kind, _) => throw (.tolerance kind)
  | none =>
    let _ ← c.extractor dialect
    return

/-- The tolerance profile that the options ask for. -/
def profile (c : Config) : Profile :=
  { rules := c.tolerances, maxDeviation := c.maxDeviation, minConfidence := c.minConfidence
    timeout := c.timeout }

/-- Options as data. -/
def toDatum (c : Config) : Datum :=
  .object [("sample_size", .nat c.sampleSize), ("seed", .nat c.seed.toNat),
    ("timeout_ms", .nat c.timeout.toNat),
    ("run_timeout_ms", .option (fun t => .nat t.toNat) c.runTimeout),
    ("max_allowed_deviation", .float c.maxDeviation),
    ("min_confidence", .float c.minConfidence), ("workers", .nat c.workers),
    ("output_kind", c.kind.toDatum), ("output_pattern", .option .text c.pattern),
    ("tolerances", c.tolerances.toDatum), ("max_failure_details", .nat c.failureCap)]

/-- Read options. -/
def ofSource? (s : Source) : Option Config := do
  let f ← s.record? ["sample_size", "seed", "timeout_ms", "run_timeout_ms",
    "max_allowed_deviation", "min_confidence", "workers", "output_kind", "output_pattern",
    "tolerances", "max_failure_details"]
  return {
    sampleSize := ← f.orDefault? 0 Source.nat? standard.sampleSize
    seed := ← f.orDefault? 1 Source.word? standard.seed
    timeout := ← f.orDefault? 2 Source.word? standard.timeout
    runTimeout := ← f.orDefault? 3 (Fields.nullable? Source.word?) standard.runTimeout
    maxDeviation := ← f.orDefault? 4 Source.float? standard.maxDeviation
    minConfidence := ← f.orDefault? 5 Source.float? standard.minConfidence
    workers := ← f.orDefault? 6 Source.nat? standard.workers
    kind := ← f.orDefault? 7 OutputKind.ofSource? standard.kind
    pattern := ← f.orDefault? 8 (Fields.nullable? Source.text?) standard.pattern
    tolerances := ← f.orDefault? 9 Overrides.ofSource? standard.tolerances
    failureCap := ← f.orDefault? 10 Source.nat? standard.failureCap }

/-- Check options and return them. -/
def checked (c : Config) (dialect : Pattern.Dialect := .standard) : Except ConfigError Config :=
  match c.check dialect with
  | .ok _ => .ok c
  | .error fault => .error (.invalid fault)

/-- Options from a document. -/
def parse (format : DocumentFormat) (text : String) (dialect : Pattern.Dialect := .standard) :
    Except ConfigError Config :=
  match format.source? text >>= ofSource? with
  | some c => c.checked dialect
  | none => .error (.invalid (.malformed format))

/-- Options from a file. -/
def load (path : String) (contents : FileContents) (dialect : Pattern.Dialect := .standard) :
    Except ConfigError Config := do
  let text ← contents.text.mapError .file
  parse (DocumentFormat.ofPath path) text dialect

end Config

end Concordance
