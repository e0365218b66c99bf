import Concordance.Run.Artifact

/-!
# Stubs

Artifacts that stand in for real ones when a validation is tried out.

A table gives its outcomes in turn, whatever the inputs are. A rule book looks
at the inputs and fills them into a text: between braces stand the name of a
parameter, the name of one with a factor behind an asterisk, or one of the words
`json` and `len` for all inputs and for their number.

## Main definitions

* `Table`: Outcomes that are given in advance.
* `RuleBook`: What to do with which inputs.
* `fillIn`: A text with inputs filled in.
-/

namespace Concordance

namespace Stub

/-- An outcome that is given in advance, and what happens along with it. -/
structure Entry where
  status : Status
  stdout : String
  stderr : String
  /-- Whether the run is cancelled. -/
  cancels : Bool
  /-- Whether the deadline of the run, if there is one, is waited for. -/
  awaitsDeadline : Bool

/-- The moment after an entry was answered. -/
def Entry.after (e : Entry) (l : Limits) (m : Moment) : Moment :=
  let m := if e.cancels then m.cancel else m
  if e.awaitsDeadline then m.advance ((l.deadline.remaining? m.time).getD 0) else m

theorem Entry.precedes_after (e : Entry) (l : Limits) (m : Moment) : m.Precedes (e.after l m) := by
  have h : m.Precedes (if e.cancels then m.cancel else m) := by
    split
    · exact m.precedes_cancel
    · exact .refl m
  unfold Entry.after
  dsimp only
  split
  · exact h.trans (Moment.precedes_advance _ _)
  · exact h

/-- Outcomes that are given in advance, to be used over and over. -/
structure Table where
  name : String
  entries : List Entry

/-- A table as an artifact. -/
def Table.artifact (t : Table) : Artifact where
  name := t.name
  call case l m :=
    if m.isInterrupted l then (interrupted case.index, m)
    else match t.entries[case.index % t.entries.length]? with
      | some e =>
        ({ index := case.index, status := e.status, stdout := e.stdout, stderr := e.stderr },
          e.after l m)
      | none => (interrupted case.index, m)
  precedes_call case l m := by
    split
    · exact .refl m
    · split
      · exact Entry.precedes_after _ l m
      · exact .refl m

/-- The double that a value is multiplied as. -/
def factor? : Value → Option Float
  | .int n => some (Float.ofInt n.toInt)
  | .float x => some x
  | _ => none

/-- What stands for some text between braces. -/
def replacement (inputs : Inputs) (hole : String) : String :=
  match hole, hole.splitOn "*" with
  | "json", _ => inputs.json
  | "len", _ => toString inputs.size
  | _, [name, scale] =>
    match (inputs.get? name).bind factor?, Decimal.read? scale.toList with
    | some x, some y => Decimal.exactly.write (x * y)
    | _, _ => Decimal.exactly.write (0 / 0)
  | _, _ => ((inputs.get? hole).map Value.argument).getD "?"

/-- A text with inputs filled in. A brace that is not closed stands for
    itself. -/
def fillIn (inputs : Inputs) (text : List Char) : List Char :=
  match text with
  | [] => []
  | '\x7b' :: rest =>
    match rest.dropWhile (· ≠ '\x7d') with
    | [] => '\x7b' :: fillIn inputs rest
    | _ :: after =>
      let hole := String.ofList (rest.takeWhile (· ≠ '\x7d'))
      (replacement inputs hole).toList ++ fillIn inputs (rest.drop (rest.length - after.length))
  | c :: rest => c :: fillIn inputs rest
termination_by text.length
decreasing_by
  all_goals simp only [List.length_cons, List.length_drop]
  all_goals omega

/-- What is done with inputs. -/
inductive Action where
  | giveBack (text : String)
  | refuse (text : String)
  | abort (text : String)
  /-- Break off with a message that the inputs are not filled into. -/
  | abortPlainly (message? : Option String)

/-- The reply that an action amounts to. -/
def Action.reply (inputs : Inputs) : Action → Reply
  | .giveBack text => .returned (fill text)
  | .refuse text => .refused (fill text)
  | .abort text => .aborted (.composed (fill text))
  | .abortPlainly message? => .aborted (message?.elim .other .literal)
where
  /-- A text with the inputs filled in. -/
  fill (text : String) : String :=
    String.ofList (fillIn inputs text.toList)

/-- What is done with inputs in which a parameter has a value. -/
structure Rule where
  parameter : String
  /-- The value, as it is written as an argument. -/
  argument : String
  action : Action
  delay : Nat

/-- What to do with which inputs: the first rule that applies counts. -/
structure RuleBook where
  rules : List Rule
  /-- What to do when no rule applies. -/
  otherwise : Action
  delay : Nat

/-- Whether a rule applies to inputs. -/
def Rule.applies (r : Rule) (inputs : Inputs) : Bool :=
  (inputs.get? r.parameter).any fun v => v.argument == r.argument

/-- A rule book as a function. -/
def RuleBook.reply (b : RuleBook) : TimedFunction := fun inputs =>
  match b.rules.find? fun r => r.applies inputs with
  | some r => (r.action.reply inputs, r.delay)
  | none => (b.otherwise.reply inputs, b.delay)

end Stub

end Concordance
