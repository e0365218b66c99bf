import Concordance.Decimal.Reading
import Concordance.Shell.Printf
import Concordance.Shell.State
import Concordance.Text.Utf8

/-!
# Commands

The commands that a shell carries out itself, and the few programs that it can
start.

## Main definitions

* `builtin?`: What a command does.
-/

namespace Concordance

namespace Shell

/-- The text that bytes encode. -/
def decode (bytes : List UInt8) : String :=
  Text.decodeUtf8 bytes

/-- The microseconds that a word asks to sleep. -/
def duration? (word : String) : Option Nat := do
  let cs := word.toList
  let (digits, unit) := match cs.getLast? with
    | some 's' => (cs.dropLast, 1)
    | some 'm' => (cs.dropLast, 60)
    | some 'h' => (cs.dropLast, 3600)
    | some 'd' => (cs.dropLast, 86400)
    | _ => (cs, 1)
  let seconds ← Decimal.read? digits
  if seconds < 0 then none else some ((seconds * 1000000).toUInt64.toNat * unit)

/-- Sleep for the sum of some words. -/
def sleep (words : List String) : Act Unit := do
  match words.mapM duration? with
  | some [] => put 2 "sleep: missing operand\n".toUTF8.toList; finish 1
  | some ds => pass (ds.foldl (· + ·) 0); finish 0
  | none =>
    let word := (words.find? (duration? · |>.isNone)).getD ""
    put 2 s!"sleep: invalid time interval ‘{word}’\n".toUTF8.toList
    finish 1

/-- All of the input that is left. -/
def takeInput : Act (List UInt8) :=
  modifyGet fun s => (s.input, { s with input := [], time := max s.time s.inputAt })

/-- Copy files, and the input for each dash. -/
def copy (paths : List String) : Act Unit := do
  finish 0
  for path in paths do
    if path = "-" then put 1 (← takeInput)
    else if path ≠ "/dev/null" then
      put 2 s!"cat: {path}: No such file or directory\n".toUTF8.toList
      finish 1

/-- Whether a character separates fields. -/
def isSeparator (c : Char) : Bool :=
  c = ' ' || c = '\t' || c = '\n'

/-- A line with its backslashes taken away, except doubled ones. -/
def unescaped : List Char → List Char
  | '\\' :: c :: cs => c :: unescaped cs
  | c :: cs => c :: unescaped cs
  | [] => []

/-- Share the fields of a line out to variables. The last takes what is left. -/
def shareOut : List String → List Char → Act Unit
  | [], _ => return
  | [name], cs =>
    assign name (String.ofList ((cs.dropWhile isSeparator).reverse.dropWhile isSeparator).reverse)
  | name :: names, cs => do
    let cs := cs.dropWhile isSeparator
    assign name (String.ofList (cs.takeWhile (!isSeparator ·)))
    shareOut names (cs.dropWhile (!isSeparator ·))

/-- Read a line into variables. -/
def readLine (words : List String) : Act Unit := do
  let (isRaw, names) := match words with
    | "-r" :: names => (true, names)
    | names => (false, names)
  let input ← takeInput
  let line := input.takeWhile (· ≠ 0x0A)
  let rest := input.dropWhile (· ≠ 0x0A)
  modify ({ · with input := rest.drop 1 })
  let cs := (decode line).toList
  shareOut names (if isRaw then cs else unescaped cs)
  finish (if rest.isEmpty then 1 else 0)

/-- Whether something exists at a path. -/
def isDirectory (path : String) : Bool :=
  path.endsWith "/" || ["/", "/tmp", "/dev", "/bin", "/usr", "/etc", ".", ".."].contains path

/-- Whether a condition on words holds: `none` if it is not one. -/
def holds? : List String → Option Bool
  | "!" :: words => (holds? words).map (!·)
  | [] => some false
  | [a] => some (a ≠ "")
  | ["-n", a] => some (a ≠ "")
  | ["-z", a] => some (a = "")
  | ["-e", a] => some (isDirectory a || a = "/dev/null")
  | ["-d", a] => some (isDirectory a)
  | ["-f", _] => some false
  | [a, "=", b] | [a, "==", b] => some (a = b)
  | [a, "!=", b] => some (a ≠ b)
  | [a, operator, b] => do
    let m ← a.trimAscii.toString.toInt?
    let n ← b.trimAscii.toString.toInt?
    match operator with
    | "-eq" => return m = n
    | "-ne" => return m ≠ n
    | "-lt" => return m < n
    | "-le" => return m ≤ n
    | "-gt" => return m > n
    | "-ge" => return m ≥ n
    | _ => none
  | _ => none

/-- Test a condition. -/
def testCondition (command : String) (words : List String) : Act Unit :=
  match holds? words with
  | some b => finish (if b then 0 else 1)
  | none => do
    let number := words.find? fun w => w.trimAscii.toString.toInt?.isNone && !w.startsWith "-"
    complain (command ++ ": Illegal number: " ++ number.getD "") 2

/-- The signals that do not end a program. -/
def harmless : List String :=
  ["0", "CHLD", "17", "CONT", "18", "URG", "23", "WINCH", "28"]

/-- Send a signal. Only one to the program itself has an effect. -/
def signal (words : List String) : Act Unit := do
  let (name, targets) := match words with
    | "-s" :: name :: targets => (name, targets)
    | word :: targets =>
      if word.startsWith "-" && word ≠ "--" then ((word.drop 1).toString, targets)
      else ("TERM", words)
    | [] => ("TERM", [])
  finish 0
  if targets.contains "0" || targets.contains programNumber then
    unless harmless.contains (if name.startsWith "SIG" then (name.drop 3).toString else name) do
      leave .killed
where
  /-- The number that stands for the program. -/
  programNumber : String := "1000"

/-- A word that has to be a number, from some command. -/
def number? (command word : String) : Act (Option Nat) := do
  match word.toNat? with
  | some n => return some n
  | none =>
    complain s!"{command}: Illegal number: {word}" 2
    leave .exit
    return none

/-- Exit with a status, by default that of the last command. -/
def exit : List String → Act Unit
  | [] => leave .exit
  | word :: _ => do
    if let some n ← number? "exit" word then
      finish (n % 256)
      leave .exit

/-- Leave loops. -/
def leaveLoops (leaving : Nat → Leaving) (words : List String) : Act Unit := do
  finish 0
  leave (leaving ((words.head?.bind String.toNat?).getD 1))

/-- Give variables their values, where words set any. -/
def exportAll : List String → Act Unit
  | [] => finish 0
  | word :: words => do
    let cs := word.toList
    match cs.dropWhile (· ≠ '=') with
    | _ :: value => assign (String.ofList (cs.takeWhile (· ≠ '='))) (String.ofList value)
    | [] => pure ()
    exportAll words

/-- Go to a directory. -/
def enter : List String → Act Unit
  | path :: _ =>
    if isDirectory path then modify ({ · with directory := path, status := 0 })
    else complain ("cd: can't cd to " ++ path) 2
  | [] => finish 0

/-- Wait for every command in the background. -/
def wait : Act Unit :=
  modify fun s =>
    let (time, leaving) := s.jobs.foldl (fun (t, l) job =>
      match job with
      | some e => (max t e, l)
      | none => (t, some .never)) (s.time, s.leaving)
    { s with time, leaving, jobs := [], status := 0 }

/-- The name of a program without the directories that hold programs. -/
def baseName (program : String) : String :=
  let base := ((program.splitOn "/").getLast?).getD ""
  if ["/bin/" ++ base, "/usr/bin/" ++ base].contains program then base else program

/-- What a command does, if there is such a command. -/
def builtin? (command : String) (words : List String) : Option (Act Unit) :=
  match baseName command with
  | ":" | "true" => some (finish 0)
  | "false" => some (finish 1)
  | "echo" => some do put 1 (echoed words); finish 0
  | "printf" => some do
    match words with
    | format :: rest => put 1 (formatted format rest); finish 0
    | [] => complain "printf: usage: printf format [arg ...]" 2
  | "cat" => some (copy (if words.isEmpty then ["-"] else words))
  | "pwd" => some do put 1 ((← get).directory ++ "\n").toUTF8.toList; finish 0
  | "read" => some (readLine words)
  | "sleep" => some (sleep words)
  | "test" => some (testCondition "test" words)
  | "[" => some (testCondition "[" words.dropLast)
  | "kill" => some (signal words)
  | "exit" => some (exit words)
  | "break" => some (leaveLoops .broken words)
  | "continue" => some (leaveLoops .continued words)
  | "shift" => some do
    let count := (words.head?.bind String.toNat?).getD 1
    modify fun s => { s with arguments := s.arguments.drop count, status := 0 }
  | "set" => some do
    match words with
    | "--" :: arguments => modify ({ · with arguments, status := 0 })
    | _ => finish 0
  | "export" | "readonly" | "local" => some (exportAll words)
  | "unset" => some (modify fun s =>
    { s with bindings := s.bindings.filter (!words.contains ·.1), status := 0 })
  | "cd" => some (enter words)
  | "wait" => some wait
  | "trap" | "umask" | "ulimit" => some (finish 0)
  | _ => none

end Shell

end Concordance
