import Concordance.Shell.Syntax

/-!
# Reading Shell Scripts

Scripts from their text.

Words end at blanks and operators unless those are quoted. Reserved words
count only where a command may begin and only without quotes.

## Main definitions

* `readScript?`: The command that a script spells.
-/

namespace Concordance

namespace Shell

/-- A reader of a part of a script. -/
abbrev Read := StateT (List Char) Option

/-- Whether a character separates words on a line. -/
def isGap (c : Char) : Bool :=
  c = ' ' || c = '\t'

/-- Whether a character ends a word. -/
def endsWord (c : Char) : Bool :=
  isGap c || c = '\n' || c = ';' || c = '&' || c = '|' || c = '<' || c = '>' || c = '('
    || c = ')'

/-- Whether a character may stand in the name of a variable. -/
def isNameChar (c : Char) : Bool :=
  c.isAlphanum || c = '_'

/-- Whether a text is the name of a variable. -/
def isName : List Char → Bool
  | [] => false
  | c :: cs => isNameChar c && !c.isDigit && cs.all isNameChar

/-- Take some characters if they come next. -/
def skip? (cs : List Char) : Read Bool := do
  let rest ← get
  if cs.isPrefixOf rest then
    set (rest.drop cs.length)
    return true
  else return false

/-- Take some characters, which have to come next. -/
def expect (cs : List Char) : Read Unit := do
  unless ← skip? cs do failure

/-- The characters up to the first one that fails a test. -/
def takeWhile (p : Char → Bool) : Read (List Char) := do
  let rest ← get
  set (rest.dropWhile p)
  return rest.takeWhile p

/-- Pass over blanks, joined lines and a comment. -/
def skipGaps : Read Unit := do
  let _ ← takeWhile isGap
  let joined ← skip? ['\\', '\n']
  if joined then let _ ← takeWhile isGap
  if (← get).head? = some '#' then let _ ← takeWhile (· ≠ '\n')

/-- Pass over blanks, comments and the ends of lines. -/
def skipLines : Nat → Read Unit
  | 0 => skipGaps
  | n + 1 => do
    skipGaps
    if ← skip? ['\n'] then skipLines n

/-- The text up to the brackets that close an arithmetic expansion. -/
def readExpression : Nat → Nat → Read (List Char)
  | 0, _ => failure
  | n + 1, depth => do
    match ← get with
    | ')' :: ')' :: rest =>
      if depth = 0 then
        set rest
        return []
      else
        set (')' :: rest)
        return ')' :: (← readExpression n (depth - 1))
    | c :: rest =>
      set rest
      let depth := if c = '(' then depth + 1 else if c = ')' then depth - 1 else depth
      return c :: (← readExpression n depth)
    | [] => failure

/-- The name of a parameter behind a dollar sign, if one stands there. -/
def readParameterName? : Read (Option String) := do
  match ← get with
  | c :: rest =>
    if c.isDigit || "#$?@*!-".toList.contains c then
      set rest
      return some (String.singleton c)
    else if isNameChar c then return some (String.ofList (← takeWhile isNameChar))
    else return none
  | [] => return none

/-- Put a literal piece in front of others. -/
def pushText (cs : List Char) (isQuoted : Bool) (pieces : List Piece) : List Piece :=
  match pieces with
  | .text ds q :: rest =>
    if q = isQuoted then .text (cs ++ ds) q :: rest else .text cs isQuoted :: pieces
  | _ => .text cs isQuoted :: pieces

/-- The words that end a list of commands. -/
def isCloser (cs : List Char) : Bool :=
  ["do", "done", "then", "else", "elif", "fi", "\x7d"].contains (String.ofList cs)

/-- Split an assignment into its name and its value. -/
def assignment? : List Piece → Option (String × List Piece)
  | .text cs false :: rest =>
    let name := cs.takeWhile (· ≠ '=')
    match cs.dropWhile (· ≠ '=') with
    | '=' :: value =>
      if isName name then
        some (String.ofList name, if value.isEmpty then rest else .text value false :: rest)
      else none
    | _ => none
  | _ => none

/-- Take a reserved word, which has to come next. -/
def expectWord (word : String) : Read Unit := do
  skipLines (← get).length
  expect word.toList
  match (← get).head? with
  | some c => unless endsWord c do failure
  | none => return

mutual

/-- The rest of an expansion, its dollar sign taken. -/
def readExpansion : Nat → Bool → Read Piece
  | 0, _ => failure
  | n + 1, isQuoted => do
    if ← skip? ['(', '('] then
      let expression ← readExpression (← get).length.succ 0
      let rest ← get
      set expression
      let pieces ← readQuoted n (fun _ => false)
      set rest
      return .arithmetic pieces isQuoted
    else if ← skip? ['('] then
      let c ← readList n
      skipLines (← get).length
      expect [')']
      return .output c isQuoted
    else if ← skip? ['\x7b'] then
      let some name ← readParameterName? | failure
      let more ← if name.toList.all Char.isDigit then takeWhile Char.isDigit else pure []
      let name := name ++ String.ofList more
      if (← skip? [':', '-']) || (← skip? ['-']) then
        let fallback ← readQuoted n (· = '\x7d')
        expect ['\x7d']
        return .parameter name (some fallback) isQuoted
      expect ['\x7d']
      return .parameter name none isQuoted
    else match ← readParameterName? with
      | some name => return .parameter name none isQuoted
      | none => return .text ['$'] isQuoted

/-- Pieces within double quotes, up to a character that ends them. -/
def readQuoted : Nat → (Char → Bool) → Read (List Piece)
  | 0, _ => failure
  | n + 1, ends => do
    match ← get with
    | [] => return []
    | c :: rest =>
      if ends c then return []
      set rest
      match c, rest with
      | '$', _ =>
        let piece ← readExpansion n true
        return piece :: (← readQuoted n ends)
      | '\\', d :: rest' =>
        if d = '\n' then
          set rest'
          readQuoted n ends
        else if "$\x60\"\\".toList.contains d then
          set rest'
          return pushText [d] true (← readQuoted n ends)
        else return pushText ['\\'] true (← readQuoted n ends)
      | _, _ => return pushText [c] true (← readQuoted n ends)

/-- The pieces of a word. -/
def readPieces : Nat → Read (List Piece)
  | 0 => failure
  | n + 1 => do
    match ← get with
    | [] => return []
    | c :: rest =>
      if endsWord c then return []
      set rest
      match c with
      | '\'' =>
        let cs ← takeWhile (· ≠ '\'')
        expect ['\'']
        return pushText cs true (← readPieces n)
      | '"' =>
        let quoted ← readQuoted n (· = '"')
        expect ['"']
        let quoted := if quoted.isEmpty then [.text [] true] else quoted
        return quoted ++ (← readPieces n)
      | '\\' =>
        match rest with
        | '\n' :: rest' =>
          set rest'
          readPieces n
        | d :: rest' =>
          set rest'
          return pushText [d] true (← readPieces n)
        | [] => return [.text ['\\'] true]
      | '$' =>
        let piece ← readExpansion n false
        return piece :: (← readPieces n)
      | _ => return pushText [c] false (← readPieces n)

/-- A redirection, if one comes next. -/
def readRedirection? : Nat → Read (Option Redirection)
  | 0 => failure
  | n + 1 => do
    skipGaps
    let start ← get
    let digits ← takeWhile Char.isDigit
    let given? := (String.ofList digits).toNat?
    let target : Read (List Piece) := do
      skipGaps
      let pieces ← readPieces n
      if pieces.isEmpty then failure
      return pieces
    if ← skip? ['>', '&'] then return some (.same (given?.getD 1) (← target))
    else if ← skip? ['<', '&'] then return some (.same (given?.getD 0) (← target))
    else if (← skip? ['>', '>']) || (← skip? ['>', '|']) || (← skip? ['>']) then
      return some (.toFile (given?.getD 1) (← target))
    else if ← skip? ['<'] then return some (.fromFile (given?.getD 0) (← target))
    else
      set start
      return none

/-- Any number of redirections. -/
def readRedirections : Nat → Read (List Redirection)
  | 0 => failure
  | n + 1 => do
    match ← readRedirection? n with
    | some r => return r :: (← readRedirections n)
    | none => return []

/-- The words of a simple command that are still to come. -/
def readSimple : Nat → List (String × List Piece) → List (List Piece) → List Redirection →
    Read Command
  | 0, _, _, _ => failure
  | n + 1, assignments, words, redirections => do
    match ← readRedirection? n with
    | some r => readSimple n assignments words (redirections ++ [r])
    | none =>
      let pieces ← readPieces n
      if pieces.isEmpty then
        if assignments.isEmpty && words.isEmpty && redirections.isEmpty then failure
        else return .simple assignments words redirections
      else match assignment? pieces, words with
        | some a, [] => readSimple n (assignments ++ [a]) words redirections
        | _, _ => readSimple n assignments (words ++ [pieces]) redirections

/-- What follows the condition of a conditional. -/
def readBranches : Nat → Read Command
  | 0 => failure
  | n + 1 => do
    let condition ← readList n
    expectWord "then"
    let yes ← readList n
    skipLines (← get).length
    if ← skip? "elif".toList then return .conditional condition yes (← readBranches n)
    else if ← skip? "else".toList then
      let no ← readList n
      expectWord "fi"
      return .conditional condition yes no
    else
      expectWord "fi"
      return .conditional condition yes .nothing

/-- The words that a loop goes through, if they are given. -/
def readWords : Nat → Read (List (List Piece))
  | 0 => failure
  | n + 1 => do
    skipGaps
    let pieces ← readPieces n
    if pieces.isEmpty then return [] else return pieces :: (← readWords n)

/-- One command of a pipeline. -/
def readCommand : Nat → Read Command
  | 0 => failure
  | n + 1 => do
    skipGaps
    let start ← get
    if ← skip? ['('] then
      let c ← readList n
      skipLines (← get).length
      expect [')']
      return .redirected (.subshell c) (← readRedirections n)
    let first := String.ofList (← takeWhile fun c => !endsWord c)
    match first with
    | "while" | "until" =>
      let condition ← readList n
      expectWord "do"
      let body ← readList n
      expectWord "done"
      return .redirected (.repetition (first = "until") condition body) (← readRedirections n)
    | "if" => do
      let c ← readBranches n
      return .redirected c (← readRedirections n)
    | "for" =>
      skipGaps
      let name ← takeWhile isNameChar
      skipLines (← get).length
      let words ←
        if ← skip? "in".toList then readWords n
        else pure [[Piece.parameter "@" none true]]
      let _ ← skip? [';']
      expectWord "do"
      let body ← readList n
      expectWord "done"
      return .redirected (.iteration (String.ofList name) words body) (← readRedirections n)
    | "\x7b" =>
      let c ← readList n
      expectWord "\x7d"
      return .redirected c (← readRedirections n)
    | _ =>
      if isCloser first.toList then failure
      set start
      readSimple n [] [] []

/-- Commands with bars between them. -/
def readPipeline : Nat → Read Command
  | 0 => failure
  | n + 1 => do
    skipGaps
    if ← skip? ['!', ' '] then return .negated (← readPipeline n)
    let c ← readCommand n
    skipGaps
    match ← get with
    | '|' :: '|' :: _ => return c
    | '|' :: rest =>
      set rest
      skipLines rest.length
      return .pipeline c (← readPipeline n)
    | _ => return c

/-- Pipelines behind one that is read, each of which depends on those before
    it. -/
def readDependent : Nat → Command → Read Command
  | 0, _ => failure
  | n + 1, before => do
    skipGaps
    if ← skip? ['&', '&'] then
      skipLines (← get).length
      readDependent n (.both before (← readPipeline n))
    else if ← skip? ['|', '|'] then
      skipLines (← get).length
      readDependent n (.either before (← readPipeline n))
    else return before

/-- A list of commands, up to something that cannot begin one. -/
def readList : Nat → Read Command
  | 0 => failure
  | n + 1 => do
    skipLines (← get).length
    let rest ← get
    let word := rest.takeWhile fun c => !endsWord c
    if rest.isEmpty || rest.head? = some ')' || isCloser word then return .nothing
    let first ← readDependent n (← readPipeline n)
    skipGaps
    match ← get with
    | ';' :: rest =>
      set rest
      return .sequence first (← readList n)
    | '&' :: rest =>
      set rest
      return .sequence (.background first) (← readList n)
    | '\n' :: _ => return .sequence first (← readList n)
    | _ => return first

end

/-- The command that a script spells. -/
def readScript? (script : String) : Option Command := do
  let (c, rest) ← (readList (4 * script.length + 8)).run script.toList
  if rest.isEmpty then some c else none

end Shell

end Concordance
