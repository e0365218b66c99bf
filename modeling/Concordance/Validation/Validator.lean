import Concordance.Report.Certify
import Concordance.Report.Format
import Concordance.Run.Executor
import Concordance.Validation.Error

/-!
# Validation

From a domain and two artifacts to the verdict about the candidate.

A domain that cannot be drawn from is refused before anything is called. Without
cases nothing is called either, and there is no verdict to speak of.

A validator may listen to a token of its caller, which stays cancelled once it
is. Without one, every validation begins afresh.

## Main definitions

* `Validator`: The options of validations, checked.
* `Validator.ofConfig`: Checks the options.
* `Validator.cases`: The cases of a domain.
* `Validator.validate`: The report about a candidate.
* `Session`: A validator with the token of its caller.
-/

namespace Concordance

/-- The options of validations. -/
structure Validator where
  config : Config
  extractor : Extractor

namespace Validator

/-- A validator for options that can be used. -/
def ofConfig (c : Config) (dialect : Pattern.Dialect := .standard) :
    Except ValidationError Validator := do
  let config ← (c.checked dialect).mapError .config
  let extractor ← (config.extractor dialect).mapError fun fault => .config (.invalid fault)
  return { config, extractor }

/-- The cases of a domain. -/
def cases (v : Validator) (domain : Domain) : Except ValidationError (List Case) :=
  match Generator.ofDomain domain v.config.sampleSize v.config.seed with
  | .ok g => .ok g.cases
  | .error fault => .error (.domain (.refused fault))

/-- What outcomes are compared by. -/
def comparator (v : Validator) : Comparator :=
  .ofProfile v.config.kind v.config.profile v.extractor

/-- What limits the runs. -/
def executor (v : Validator) : Executor :=
  { workers := v.config.workers, timeout := v.config.timeout, runTimeout := v.config.runTimeout }

/-- The report of the records of a run. -/
def report (v : Validator) (records : List Comparison) : Report :=
  (Policy.ofProfile v.config.profile).certify v.config.kind records

/-- The report about a candidate, and the moment at which it is there. -/
def validate (v : Validator) (pair : Pair) (domain : Domain) (m : Moment) :
    Except ValidationError Report × Moment :=
  match v.cases domain with
  | .error e => (.error e, m)
  | .ok [] => (.ok (.inconclusive v.config.kind), m)
  | .ok cases =>
    match v.executor.execute pair v.comparator cases m with
    | (.ok records, m) => (.ok (v.report records), m)
    | (.error e, m) => (.error (.run e), m)

end Validator

/-- A validator, and the token of its caller. -/
structure Session where
  validator : Validator
  /-- Whether the token is cancelled, if there is one. -/
  token? : Option Bool

namespace Session

/-- Whether there is a token, and it is cancelled. -/
def isCancelled (s : Session) : Bool :=
  s.token?.getD false

/-- Cancel the token, if there is one. -/
def cancel (s : Session) : Session :=
  { s with token? := s.token?.map fun _ => true }

/-- The report about a candidate, and the token after it. -/
def validate (s : Session) (pair : Pair) (domain : Domain) :
    Except ValidationError Report × Session :=
  let (result, m) := s.validator.validate pair domain
    { Moment.start with isCancelled := s.isCancelled }
  (result, { s with token? := s.token?.map fun _ => m.isCancelled })

end Session

end Concordance
