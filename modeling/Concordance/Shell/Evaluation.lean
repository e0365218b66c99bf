import Concordance.Shell.Arithmetic
import Concordance.Shell.Builtin
import Concordance.Shell.Reader

/-!
# Evaluating Commands

What a command does to the state of a shell.

Every definition here counts down, and a script for which the count runs out is
taken to go on forever. The count is far above what a script that ends within
the time limits of a run can use up.

## Main definitions

* `evaluate`: What a command does.
-/

namespace Concordance

namespace Shell

/-- A part of the words that an expansion makes. -/
inductive Mark where
  | char (c : Char)
  /-- Quotes, which make a word even if they hold nothing. -/
  | quotes
  /-- The end of a word. -/
  | cut

/-- The marks of a text: within quotes as it is, else cut at its blanks. -/
def marksOf (isQuoted : Bool) (s : String) : List Mark :=
  if isQuoted then .quotes :: s.toList.map .char
  else s.toList.map fun c => if isSeparator c then .cut else .char c

/-- The words that marks make. -/
def wordsOf (marks : List Mark) : List String :=
  let step (mark : Mark) : List (Option (List Char)) → List (Option (List Char))
    | [] => []
    | word :: words =>
      match mark with
      | .char c => some (c :: word.getD []) :: words
      | .quotes => some (word.getD []) :: words
      | .cut => none :: word :: words
  (marks.foldr step [none]).filterMap (·.map String.ofList)

/-- The text that marks make where words are not split. -/
def textOf (marks : List Mark) : String :=
  String.ofList (marks.filterMap fun
    | .char c => some c
    | .quotes => none
    | .cut => some ' ')

/-- Texts as separate words, or within quotes with a text between each two. -/
def marksBetween (isQuoted : Bool) (between : List Mark) : List String → List Mark
  | [] => []
  | [s] => marksOf isQuoted s
  | s :: rest => marksOf isQuoted s ++ between ++ marksBetween isQuoted between rest

/-- The marks of a parameter, if it has a value. -/
def State.parameter? (s : State) (name : String) (isQuoted : Bool) : Option (List Mark) :=
  match name with
  | "#" => some (marksOf isQuoted (toString s.arguments.length))
  | "?" => some (marksOf isQuoted (toString s.status))
  | "$" => some (marksOf isQuoted signal.programNumber)
  | "@" => some (marksBetween isQuoted [.cut] s.arguments)
  | "*" => some (marksBetween isQuoted (if isQuoted then [.char ' '] else [.cut]) s.arguments)
  | "0" => some (marksOf isQuoted s.name)
  | _ =>
    let value? := match name.toNat? with
      | some n => s.arguments[n - 1]?
      | none => s.bindings.lookup name
    value?.map (marksOf isQuoted)

/-- A text without the line ends at its end. -/
def withoutFinalLines (s : String) : String :=
  String.ofList (s.toList.reverse.dropWhile (· = '\n')).reverse

/-- The value of a variable as a number, zero if it is none. -/
def State.number (s : State) (name : String) : Int :=
  ((s.value name).trimAscii.toString.toInt?).getD 0

/-- Lead a descriptor to where another leads, or nowhere. -/
def duplicate (descriptor : Nat) (other : String) : Act Unit :=
  modify fun s =>
    let rest := s.sinks.filter (·.1 ≠ descriptor)
    match other.toNat?.bind (List.lookup · s.sinks) with
    | some sink => { s with sinks := (descriptor, sink) :: rest }
    | none => { s with sinks := rest }

/-- Lead a descriptor to a file. Files keep nothing. -/
def leadTo (descriptor : Nat) (path : String) : Act Unit :=
  match path with
  | "/dev/stdout" => duplicate descriptor "1"
  | "/dev/stderr" => duplicate descriptor "2"
  | _ => modify fun s =>
    { s with sinks := (descriptor, .nowhere) :: s.sinks.filter (·.1 ≠ descriptor) }

/-- The status of a loop's round, and whether the loop ends with it. -/
def endsRound : Act Bool := do
  match (← get).leaving with
  | none => return false
  | some (.broken depth) =>
    modify ({ · with leaving := if depth ≤ 1 then none else some (.broken (depth - 1)) })
    return true
  | some (.continued depth) =>
    modify ({ · with leaving := if depth ≤ 1 then none else some (.continued (depth - 1)) })
    return decide (depth > 1)
  | some _ => return true

mutual

/-- The marks that a piece of a word makes. -/
def expandPiece : Nat → Piece → Act (List Mark)
  | 0, _ => do leave .never; return []
  | n + 1, piece => do
    match piece with
    | .text cs isQuoted =>
      return (if isQuoted then [.quotes] else []) ++ cs.map .char
    | .parameter name fallback isQuoted =>
      let marks? := (← get).parameter? name isQuoted
      match marks?, fallback with
      | some marks, none => return marks
      | none, none => return if isQuoted then [.quotes] else []
      | _, some pieces =>
        let marks := marks?.getD []
        if (textOf marks).isEmpty then
          return marksOf isQuoted (textOf (← expand n pieces))
        else return marks
    | .arithmetic expression isQuoted =>
      let text := textOf (← expand n expression)
      match arithmetic (← get).number text.toList with
      | .ok value => return marksOf isQuoted (toString value)
      | .error fault =>
        complain ("arithmetic expression: " ++ fault.message ++ ": \"" ++ text ++ "\"") 2
        leave .exit
        return []
    | .output c isQuoted =>
      let bytes ← captured (apart (evaluate n c))
      return marksOf isQuoted (withoutFinalLines (decode bytes))

/-- The marks that the pieces of a word make. -/
def expand : Nat → List Piece → Act (List Mark)
  | 0, _ => do leave .never; return []
  | _ + 1, [] => return []
  | n + 1, piece :: pieces => do
    let marks ← expandPiece n piece
    return marks ++ (← expand n pieces)

/-- The words that some words make. -/
def expandAll : Nat → List (List Piece) → Act (List String)
  | 0, _ => do leave .never; return []
  | _ + 1, [] => return []
  | n + 1, word :: words => do
    let first := wordsOf (← expand n word)
    return first ++ (← expandAll n words)

/-- Lead descriptors elsewhere. Gives whether all of them could be. -/
def redirect : Nat → List Redirection → Act Bool
  | 0, _ => do leave .never; return false
  | _ + 1, [] => return true
  | n + 1, r :: rs => do
    match r with
    | .toFile descriptor path => leadTo descriptor (textOf (← expand n path))
    | .same descriptor other => duplicate descriptor (textOf (← expand n other))
    | .fromFile _ path =>
      let path := textOf (← expand n path)
      if path = "/dev/null" then modify ({ · with input := [] })
      else
        complain s!"cannot open {path}: No such file" 2
        return false
    redirect n rs

/-- Give variables the values that words make. -/
def assignAll : Nat → List (String × List Piece) → Act Unit
  | 0, _ => leave .never
  | _ + 1, [] => return
  | n + 1, (name, pieces) :: rest => do
    assign name (textOf (← expand n pieces))
    assignAll n rest

/-- What a command does. -/
def evaluate : Nat → Command → Act Unit
  | 0, _ => leave .never
  | n + 1, c => do
    if (← get).leaving.isSome then return
    match c with
    | .nothing => return
    | .simple assignments words redirections =>
      let words ← expandAll n words
      if (← get).leaving.isSome then return
      match words with
      | [] =>
        finish 0
        assignAll n assignments
        if !redirections.isEmpty then
          let sinks := (← get).sinks
          let _ ← redirect n redirections
          modify ({ · with sinks })
      | "exec" :: words =>
        if ← redirect n redirections then
          match words with
          | [] => finish 0
          | command :: words =>
            match builtin? command words with
            | some act => act
            | none => complain s!"exec: {command}: not found" 127
            if (← get).leaving.isNone then leave .exit
        else leave .exit
      | command :: words =>
        let before ← get
        assignAll n assignments
        if ← redirect n redirections then
          match builtin? command words with
          | some act => act
          | none => complain s!"{command}: not found" 127
        modify fun s =>
          { s with
            sinks := before.sinks
            bindings := if assignments.isEmpty then s.bindings else before.bindings }
    | .pipeline c d =>
      let before ← get
      let bytes ← captured (apart (evaluate n c))
      let middle ← get
      set { middle with time := before.time, input := bytes, inputAt := middle.time }
      apart (evaluate n d)
      modify fun s =>
        { s with time := max s.time middle.time, input := middle.input, inputAt := middle.inputAt }
    | .negated c =>
      evaluate n c
      modify fun s => { s with status := if s.status = 0 then 1 else 0 }
    | .sequence c d =>
      evaluate n c
      evaluate n d
    | .both c d =>
      evaluate n c
      if (← get).status = 0 then evaluate n d
    | .either c d =>
      evaluate n c
      if (← get).status ≠ 0 then evaluate n d
    | .background c =>
      let (c, redirections) := match c with
        | .simple assignments words redirections => (.simple assignments words [], redirections)
        | .redirected c redirections => (c, redirections)
        | c => (c, [])
      aside do
        if ← redirect n redirections then evaluate n c
    | .conditional condition yes no =>
      evaluate n condition
      if (← get).leaving.isSome then return
      let holds := (← get).status = 0
      finish 0
      if holds then evaluate n yes else evaluate n no
    | .repetition untilHolds condition body => repeatWhile n untilHolds condition body 0
    | .iteration name words body =>
      let words ← expandAll n words
      finish 0
      iterate n name words body
    | .subshell c => apart (evaluate n c)
    | .redirected c redirections =>
      let sinks := (← get).sinks
      let input := (← get).input
      if ← redirect n redirections then evaluate n c
      let isRead := redirections.any fun
        | .fromFile .. => true
        | _ => false
      modify fun s => { s with sinks, input := if isRead then input else s.input }

/-- Repeat a command as long as a condition holds, or until it does. -/
def repeatWhile : Nat → Bool → Command → Command → Nat → Act Unit
  | 0, _, _, _, _ => leave .never
  | n + 1, untilHolds, condition, body, status => do
    evaluate n condition
    if ← endsRound then return
    if decide ((← get).status = 0) = untilHolds then finish status
    else
      evaluate n body
      if ← endsRound then return
      repeatWhile n untilHolds condition body (← get).status

/-- Carry out a command for each of some words. -/
def iterate : Nat → String → List String → Command → Act Unit
  | 0, _, _, _ => leave .never
  | _ + 1, _, [], _ => return
  | n + 1, name, word :: words, body => do
    assign name word
    evaluate n body
    if ← endsRound then return
    iterate n name words body

end

end Shell

end Concordance
