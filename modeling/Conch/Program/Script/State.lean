import Conch.Process.Pool
import Conch.Process.Task
import Conch.Program.Script.Pattern
import Conch.Program.Script.Shorthand
import Conch.Program.Script.Tree
import Conch.Text.Numeral

/-!
What a script knows while it runs: its descriptors, its parameters and variables, its
functions and settings, and how its last command ended. A step of a script changes
this state, and may end the script.
-/

namespace Conch.Program.Script

open Process

/-- A variable. -/
structure Variable where
  /-- Its value, if it was given one. -/
  value : Option Text := none
  /-- Whether programs inherit it. -/
  exported : Bool := false
  readonly : Bool := false
  deriving DecidableEq, Repr

/-- What a script is told to do all the time. -/
structure Settings where
  /-- End when a command fails. -/
  exitOnError : Bool := false
  /-- Do not put anything in for patterns. -/
  noPatterns : Bool := false
  /-- Do not put in variables that are not set. -/
  noUnset : Bool := false
  /-- Show each command before it runs. -/
  trace : Bool := false
  /-- Show what is read. -/
  verbose : Bool := false
  /-- Do not cut files that exist. -/
  noOverwrite : Bool := false
  /-- Export all variables that are set. -/
  exportAll : Bool := false
  /-- Read commands without running them. -/
  noRun : Bool := false
  /-- Read commands from the input. -/
  readInput : Bool := false
  /-- The names of those that are on and change nothing. -/
  others : List Text := []
  deriving DecidableEq, Repr

namespace Settings

/-- The names of settings, with the letters of those that have one. -/
def names : List (Text × Option Char) :=
  [("errexit", some 'e'), ("noglob", some 'f'), ("ignoreeof", some 'I'),
    ("interactive", some 'i'), ("monitor", some 'm'), ("noexec", some 'n'), ("stdin", some 's'),
    ("xtrace", some 'x'), ("verbose", some 'v'), ("vi", some 'V'), ("emacs", some 'E'),
    ("noclobber", some 'C'), ("allexport", some 'a'), ("notify", some 'b'),
    ("nounset", some 'u'), ("privileged", some 'p'), ("nolog", none), ("debug", none)]

/-- The name of the job control, which no script has. -/
def monitor : Text := "monitor"

/-- The name of a setting that has a letter. -/
def nameOf? (letter : Char) : Option Text :=
  (names.find? (·.2 == some letter)).map (·.1)

/-- Whether a setting is on. -/
def isOn (settings : Settings) (name : Text) : Bool :=
  match String.ofList name with
  | "errexit" => settings.exitOnError
  | "noglob" => settings.noPatterns
  | "noexec" => settings.noRun
  | "stdin" => settings.readInput
  | "xtrace" => settings.trace
  | "verbose" => settings.verbose
  | "noclobber" => settings.noOverwrite
  | "allexport" => settings.exportAll
  | "nounset" => settings.noUnset
  | _ => settings.others.contains name

/-- Turns a setting on or off. Of the two ways to edit lines only one can be on. -/
def turn (settings : Settings) (on : Bool) (name : Text) : Settings :=
  match String.ofList name with
  | "errexit" => { settings with exitOnError := on }
  | "noglob" => { settings with noPatterns := on }
  | "noexec" => { settings with noRun := on }
  | "stdin" => { settings with readInput := on }
  | "xtrace" => { settings with trace := on }
  | "verbose" => { settings with verbose := on }
  | "noclobber" => { settings with noOverwrite := on }
  | "allexport" => { settings with exportAll := on }
  | "nounset" => { settings with noUnset := on }
  | "monitor" => settings
  | _ =>
    let editors : List Text := ["vi", "emacs"]
    let excluded : List Text := if editors.contains name then editors else [name]
    let others := settings.others.filter (!excluded.contains ·)
    { settings with others := if on then name :: others else others }

/-- The letters of the settings that are on. -/
def letters (settings : Settings) : Text :=
  names.reverse.filterMap fun (name, letter) => if settings.isOn name then letter else none

end Settings

/-- Commands that are passed over. -/
inductive Skip where
  /-- The rest of so many loops. -/
  | leave (loops : Nat)
  /-- The rest of this round of so many loops. -/
  | again (loops : Nat)
  /-- The rest of a function or a file. -/
  | back
  deriving DecidableEq, Repr

/-- A command that runs at the side. -/
structure Job where
  /-- Its place among such commands. -/
  place : Nat
  /-- The number of its process. -/
  number : Nat
  /-- The number of commands in its pipeline. -/
  parts : Nat := 1
  /-- How it has ended, if the script knows. -/
  status : Option Status := none
  /-- Whether the script has waited for it. -/
  isAwaited : Bool := false
  deriving DecidableEq, Repr

/-- What a function has hidden. -/
structure Hidden where
  /-- The variables as they were. -/
  vars : List (Text × Option Variable) := []
  /-- The settings as they were. -/
  settings : Option Settings := none
  deriving DecidableEq, Repr

/-- All that a script knows. -/
structure State where
  task : Task
  /-- The name of the script. -/
  name : Text
  /-- The number of the process of the whole script. -/
  number : Nat
  /-- The parameters that have numbers. -/
  args : List Text := []
  vars : Table Variable := .empty
  functions : Table Command := .empty
  settings : Settings := {}
  /-- How the last command ended. -/
  status : Nat := 0
  /-- The line of the command that runs. -/
  line : Nat := 0
  /-- The built-in command that runs. -/
  running : Option Text := none
  skip : Option Skip := none
  loops : Nat := 0
  /-- What the functions that run have hidden, the last one first. -/
  hidden : List Hidden := []
  /-- What is run when a signal arrives; signal zero is the end of the script. -/
  traps : List (Nat × Text) := []
  /-- The lines of documents, by number. -/
  documents : List (Nat × Word) := []
  nextDocument : Nat := 0
  /-- The commands that run at the side, or ran there, the last one first. -/
  jobs : List Job := []
  /-- The number of the process of the last of them. -/
  lastJob : Option Nat := none
  /-- The signals that have arrived and whose commands are still to run. -/
  arrived : List Nat := []
  /-- The rights that new files do not get. -/
  mask : Nat := 0o022
  shorthands : Shorthands := {}
  /-- The rounds of loops that were run. -/
  rounds : Nat := 0
  /-- How the last command whose output was put in ended. -/
  outputStatus : Option Nat := none
  /-- The next parameter whose options are read, and the place in it. -/
  optionPlace : Nat × Nat := (1, 0)

/-- What ends a script. -/
inductive Halt where
  /-- The script ends, and what is to be run at its end is run. -/
  | exit (code : Nat)
  /-- The process is over. -/
  | ended (status : Status)
  /-- Something is wrong, and a message about it was written. -/
  | failed
  deriving DecidableEq, Repr

/-- The task of a script as it is at this moment. -/
def State.current (state : State) : Task :=
  let caught := state.traps.filter fun (signal, action) => signal ≠ 0 && !action.isEmpty
  let ignored := state.traps.filter (·.2.isEmpty)
  { state.task with
    caught := caught.map (·.1)
    ignored := ignored.map (·.1) ++ state.task.ignored }

/-- A step of a script. -/
abbrev Step := ExceptT Halt (StateT State Course)

namespace Step

variable {α : Type}

/-- A course as a step. -/
def act (course : Course α) : Step α := fun state => do
  return (.ok (← course), state)

/-- The state at this moment. -/
def state : Step State := get

/-- Changes the state. -/
def change (f : State → State) : Step Unit := modify f

/-- Stops with a request. Signals that arrive meanwhile are kept. -/
def ask (request : Request) : Step Answer := do
  let reply ← act (Course.ask (← state).current.stance request)
  change fun state => { state with arrived := state.arrived ++ reply.signals }
  return reply.answer

/-- Writes on a descriptor of a task. -/
def put (task : Task) (fd : Nat) (bytes : Bytes) : Step (Except OsError Unit) := do
  match task.handle? fd with
  | some (.writing pipe) =>
    if bytes.isEmpty then return .ok ()
    match ← ask (.write pipe bytes) with
    | .refused => return .error .brokenPipe
    | _ => return .ok ()
  | _ => act (task.write fd bytes)

/-- Writes a line on the error output of a task. -/
def reportOn (task : Task) (line : Text) : Step Unit := do
  let _ ← put task 2 (Octets.toBytes line ++ [10])

/-- Writes a message for the user to read. -/
def report (line : Text) : Step Unit := do
  reportOn (← state).task line

/-- Writes a message about the command that runs. -/
def complain (message : Text) : Step Unit := do
  let state ← state
  let command : Text := match state.running with
    | some command => command ++ ": "
    | none => []
  report (state.name ++ ": " ++ Text.ofNat state.line ++ ": " ++ command ++ message)

/-- Ends the script with a message. -/
def fail (message : Text) : Step α := do
  complain message
  throw .failed

/-- The status of a command that failed with a message. -/
def failedStatus : Nat := 2

/-- The same step, whose end is a value. -/
def caught (step : Step α) : Step (Except Halt α) := fun state => do
  let (result, state) ← step.run state
  return (.ok result, state)

/-- The same step with another command for messages. -/
def under (command : Option Text) (step : Step α) : Step α := do
  let outer := (← state).running
  change fun state => { state with running := command }
  let result ← caught step
  change fun state => { state with running := outer }
  match result with
  | .ok value => return value
  | .error halt => throw halt

end Step

namespace State

/-- The value of a variable. -/
def value? (state : State) (name : Text) : Option Text :=
  (state.vars.get? name).bind (·.value)

/-- The separators of fields. -/
def separators (state : State) : Text :=
  (state.value? "IFS").getD [' ', '\t', '\n']

/-- The variables that programs inherit. -/
def exported (state : State) : Table Text :=
  state.vars.entries.foldl
    (fun table (name, entry) =>
      match entry.exported, entry.value with
      | true, some value => table.insert name value
      | _, _ => table)
    .empty

end State

namespace Step

/-- Waits for a process. -/
def await (number : Nat) : Step Status := do
  match ← ask (.await number false) with
  | .ended status => return status
  | _ => return .failure

/-- Gives a variable a value. -/
def assign (name value : Text) : Step Unit := do
  let state ← state
  let entry := (state.vars.get? name).getD {}
  if entry.readonly then fail (name ++ ": is read only")
  let exported := entry.exported || state.settings.exportAll
  change fun state =>
    { state with
      vars := state.vars.insert name { entry with value := some value, exported } }
  if name = ("OPTIND" : Text) then
    change fun state => { state with optionPlace := ((Text.toNat? value).getD 1, 0) }

/-- Gives a variable a value that programs inherit. -/
def assignExported (name value : Text) : Step Unit := do
  assign name value
  change fun state =>
    { state with
      vars := state.vars.insert name
        { ((state.vars.get? name).getD {}) with exported := true } }

/-- Takes a variable away. -/
def unset (name : Text) : Step Unit := do
  if (((← state).vars.get? name).map (·.readonly)).getD false then
    fail (name ++ ": is read only")
  change fun state => { state with vars := state.vars.erase name }

/-- Keeps the number of the status of the last command. -/
def setStatus (status : Nat) : Step Unit := change fun state => { state with status := status }

/-- Where commands go on. -/
def isSkipping : Step Bool := return (← state).skip.isSome

end Step

/-- The number that a status has in a script. -/
def statusNumber : Status → Nat
  | .exited code => code % 256
  | .killed signal => 128 + signal

end Conch.Program.Script
