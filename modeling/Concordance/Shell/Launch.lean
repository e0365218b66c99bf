import Concordance.Run.CommandLine
import Concordance.Run.Execution
import Concordance.Shell.Evaluation

/-!
# Starting Programs

What a command line does, on a clock that starts with the program.

The programs at hand are the shell and those that it can start. Everything else
fails to start for the reason that the system would give.

## Main definitions

* `SpawnError`: Why a program does not start.
* `launch`: What a program does with some input.
-/

namespace Concordance

/-- Why a program does not start. -/
inductive SpawnError where
  /-- The program or the directory does not exist. -/
  | absent
  /-- What stands in the place of the program cannot be started. -/
  | notExecutable
  /-- What stands in the place of the directory is none. -/
  | notADirectory
  /-- A text holds the character that ends texts. -/
  | endMark

/-- The error in words. -/
def SpawnError.message : SpawnError → String
  | .absent => "No such file or directory (os error 2)"
  | .notExecutable => "Permission denied (os error 13)"
  | .notADirectory => "Not a directory (os error 20)"
  | .endMark => "nul byte found in provided data"

namespace Shell

/-- The programs that can be started. -/
def programs : List String :=
  ["sh", "dash", "cat", "echo", "printf", "pwd", "sleep", "true", "false", "test", "["]

/-- The files that stand in the place of no program or directory. -/
def plainFiles : List String :=
  ["/dev/null", "/etc/passwd", "/etc/hosts", "/etc/hostname"]

/-- Check that a program can be started in some directory. -/
def checkStart (line : CommandLine) : Except SpawnError Unit := do
  let texts := line.program :: line.arguments ++ line.directory.toList
    ++ line.environment.flatMap fun e => [e.1, e.2]
  if texts.any fun s => s.toList.contains '\x00' then throw .endMark
  match line.directory with
  | none => pure ()
  | some directory =>
    if plainFiles.contains directory then throw .notADirectory
    if !isDirectory directory then throw .absent
  if isDirectory line.program || plainFiles.contains line.program then throw .notExecutable
  unless programs.contains (baseName line.program) do throw .absent

/-- The time that it takes to start a program. -/
def startingTime : Nat := 1000

/-- How many steps of a script are carried out before it is taken to go on
    forever. -/
def patience : Nat := 200000

/-- The state that a program starts in. -/
def initialState (line : CommandLine) (input : List UInt8) (name : String)
    (arguments : List String) : State :=
  { time := startingTime
    name
    arguments
    bindings := line.environment.reverse
    directory := line.directory.getD "/"
    status := 0
    sinks := [(1, .pipe 0), (2, .pipe 1)]
    input
    inputAt := 0
    writes := []
    holds := []
    jobs := []
    fresh := 2
    leaving := none }

/-- What a program has done, from the state that it ends in. -/
def executionOf (s : State) : Execution :=
  let (ending, endsAt) : Ending × Option Nat := match s.leaving with
    | some .killed => (.killed, some s.time)
    | some .never => (.killed, none)
    | _ => (.exited (Int32.ofNat s.status), some s.time)
  let history (pipe : Nat) : PipeHistory :=
    ⟨s.written pipe, endsAt.bind (s.closesAt pipe)⟩
  { ending, endsAt, stdout := history 0, stderr := history 1 }

/-- Run a script. -/
def runScript (script : String) : Act Unit :=
  match readScript? script with
  | some c => evaluate patience c
  | none => complain "Syntax error: end of file unexpected" 2

/-- What the shell does with some arguments. -/
def runShell (line : CommandLine) (input : List UInt8) : State :=
  match line.arguments with
  | "-c" :: script :: rest =>
    let state := initialState line input (rest.headD line.program) rest.tail
    (runScript script |>.run state).2
  | [] =>
    let state := initialState line [] line.program []
    (runScript (decode input) |>.run state).2
  | file :: _ =>
    let state := { initialState line input line.program [] with name := line.program }
    let fault := line.program ++ ": 0: cannot open " ++ file ++ ": No such file\n"
    ((do put 2 fault.toUTF8.toList; finish 2 : Act Unit).run state).2

/-- What `echo` writes as a program of its own, which knows no escapes. -/
def plainlyEchoed : List String → String
  | "-n" :: words => " ".intercalate words
  | words => " ".intercalate words ++ "\n"

/-- What a program does with some input. -/
def launch (line : CommandLine) (input : List UInt8) : Except SpawnError Execution := do
  checkStart line
  let state := initialState line input line.program []
  let act : Act Unit := match baseName line.program with
    | "sh" | "dash" => set (runShell line input)
    | "echo" => put 1 (plainlyEchoed line.arguments).toUTF8.toList
    | name => (builtin? name line.arguments).getD (finish 127)
  return executionOf (act.run state).2

end Shell

end Concordance
