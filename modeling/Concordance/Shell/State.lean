/-!
# Shell State

What a running shell knows, and what it has done so far.

Time is that of the program: a count of microseconds since it began, which only
sleeping and waiting advance. What is written is kept with its time, since
commands in the background write between those in the foreground. The pipes
numbered `0` and `1` are the output and the error output of the program; others
carry the output of one command to another or into a word.

## Main definitions

* `State`: What a shell knows.
* `Act`: A step of a shell.
* `apart`: A step taken in a shell of its own.
-/

namespace Concordance

namespace Shell

/-- Where writing leads. -/
inductive Sink where
  | pipe (number : Nat)
  | nowhere

/-- Bytes that were written. -/
structure Write where
  time : Nat
  pipe : Nat
  bytes : List UInt8

/-- Why the commands that follow are passed over. -/
inductive Leaving where
  /-- The shell exits. -/
  | exit
  /-- A signal ended the program. -/
  | killed
  /-- The program goes on without end. -/
  | never
  /-- That many loops end. -/
  | broken (depth : Nat)
  /-- That many loops but one end, and the last goes on to its next round. -/
  | continued (depth : Nat)

/-- What a running shell knows, and what it has done. -/
structure State where
  /-- The microseconds that have passed. -/
  time : Nat
  /-- The name that the script was called by. -/
  name : String
  arguments : List String
  /-- What the variables stand for. -/
  bindings : List (String × String)
  directory : String
  /-- How the last command ended, zero meaning well. -/
  status : Nat
  /-- Where each open descriptor leads. -/
  sinks : List (Nat × Sink)
  /-- The input that is left. -/
  input : List UInt8
  /-- When all of the input is there. -/
  inputAt : Nat
  /-- What was written, latest first. -/
  writes : List Write
  /-- The pipes that commands in the background keep open, and for how long:
      `none` if forever. -/
  holds : List (Nat × Option Nat)
  /-- When the commands in the background end. -/
  jobs : List (Option Nat)
  /-- The number of the next pipe. -/
  fresh : Nat
  leaving : Option Leaving

/-- A step of a shell. -/
abbrev Act := StateM State

/-- Write to a descriptor. What is written to a closed one is lost. -/
def put (descriptor : Nat) (bytes : List UInt8) : Act Unit :=
  modify fun s =>
    match s.sinks.lookup descriptor with
    | some (.pipe p) => { s with writes := ⟨s.time, p, bytes⟩ :: s.writes }
    | _ => s

/-- Set how the last command ended. -/
def finish (status : Nat) : Act Unit :=
  modify ({ · with status })

/-- Pass over the commands that follow. -/
def leave (leaving : Leaving) : Act Unit :=
  modify ({ · with leaving := some leaving })

/-- Let time pass. -/
def pass (duration : Nat) : Act Unit :=
  modify fun s => { s with time := s.time + duration }

/-- Report a fault on the error output. -/
def complain (fault : String) (status : Nat) : Act Unit := do
  put 2 ((← get).name ++ ": 1: " ++ fault ++ "\n").toUTF8.toList
  finish status

/-- The value of a variable, empty if it has none. -/
def State.value (s : State) (name : String) : String :=
  (s.bindings.lookup name).getD ""

/-- Give a variable a value. -/
def assign (name value : String) : Act Unit :=
  modify fun s =>
    { s with bindings := (name, value) :: s.bindings.filter (·.1 ≠ name) }

/-- The bytes written to a pipe, in the order of their times. -/
def State.written (s : State) (pipe : Nat) : List UInt8 :=
  let writes := (s.writes.filter (·.pipe = pipe)).reverse
  (writes.mergeSort fun a b => a.time ≤ b.time).flatMap (·.bytes)

/-- When a pipe that is open now and closed at a time is closed by every
    process: `none` if never. -/
def State.closesAt (s : State) (pipe time : Nat) : Option Nat :=
  s.holds.foldl (fun latest hold =>
      if hold.1 = pipe then latest.bind fun t => hold.2.map (max t) else latest)
    (some time)

/-- Take a step in a shell of its own: what it sets is forgotten, while what it
    writes, reads and waits for remains. -/
def apart (act : Act Unit) : Act Unit := do
  let before ← get
  act
  modify fun after =>
    { before with
      time := after.time
      status := after.status
      input := after.input
      inputAt := after.inputAt
      writes := after.writes
      holds := after.holds
      fresh := after.fresh
      leaving := match after.leaving with
        | some .killed => some .killed
        | some .never => some .never
        | _ => none }

/-- Take a step in the background. It starts now and reads nothing; the pipes
    that are open to it when it ends stay open until then. -/
def aside (act : Act Unit) : Act Unit := do
  let before ← get
  set { before with input := [] }
  act
  let after ← get
  let endsAt := match after.leaving with
    | some .never => none
    | _ => some after.time
  let held := after.sinks.filterMap fun
    | (_, .pipe p) => some (p, endsAt)
    | _ => none
  set { before with
    status := 0
    writes := after.writes
    holds := held ++ after.holds
    jobs := endsAt :: before.jobs
    fresh := after.fresh }

/-- Take a step with the output of a descriptor led into a pipe of its own, and
    give what came out of it. -/
def captured (act : Act Unit) : Act (List UInt8) := do
  let before ← get
  let p := before.fresh
  set { before with fresh := p + 1, sinks := (1, .pipe p) :: before.sinks.filter (·.1 ≠ 1) }
  act
  let after ← get
  set { after with
    sinks := before.sinks
    writes := after.writes.filter (·.pipe ≠ p) }
  return after.written p

end Shell

end Concordance
