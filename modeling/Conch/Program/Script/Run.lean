import Conch.Program.Script.Builtin
import Conch.Program.Script.Parser

/-!
Running a script. Commands are run one after another; each leaves a status and may
change the state, pass over other commands, or end the script. The parts of a
pipeline, commands whose output is put in, and commands in parentheses run in
processes of their own, so what they change is lost.

Commands nest without bound and loops may never end, so a run is given fuel. The
programs that a script starts are found and run by whoever runs the script.
-/

namespace Conch.Program.Script

open Process
open Step

/-- How a program is found by name; it is run with the number of its process. A program
that cannot be started is a failure. -/
abbrev Starter := World → Task → Text → List Text → Except OsError (Nat → Course Status)

/-- How a command is run. -/
structure Manner where
  /-- Its failure is looked at, and does not end the script. -/
  tested : Bool := false
  /-- Nothing is left for the process to do after it. -/
  last : Bool := false

/-- The manner of a part of a command whose failure matters as that of the whole
does. -/
def Manner.inside (manner : Manner) : Manner := { tested := manner.tested }

/-- How commands are run. -/
abbrev Runner := Manner → Command → Step Nat

namespace Step

variable {α β : Type}

/-- Rounds of a step, each of which goes on from what the one before yields, until one
yields the value. -/
def iterate (round : β → Step (β ⊕ α)) (fuel : Nat) (start : β) : Step α := fun state =>
  Course.iterate
    (fun (value, state) => do
      let (result, state) ← (round value).run state
      match result with
      | .ok (.inl next) => return .inl (next, state)
      | .ok (.inr value) => return .inr (.ok value, state)
      | .error halt => return .inr (.error halt, state))
    fuel (start, state)

/-- A step whose end is known. -/
def ofResult : Except Halt α → Step α
  | .ok value => pure value
  | .error halt => throw halt

end Step

/-! ### Redirections -/

/-- A redirection whose word is expanded. -/
structure Target where
  fd : Nat
  kind : RedirectionKind
  text : Text

/-- What the user is told about a file that cannot be opened. -/
def openFault (verb : Text) (missing : Text) (path : Text) (error : OsError) : Text :=
  "cannot " ++ verb ++ " " ++ path ++ ": " ++
    match error with
    | .noSuchFile | .notADirectory => missing
    | error => error.name

/-- Expands the words of redirections. -/
def targets (captured : Command → Step Text) : List Redirection → Step (List Target)
  | [] => return []
  | .mk fd kind word :: rest => do
    let text ← expandText captured word
    if kind = .duplicate then
      let isTarget := match text with
        | ['-'] => true
        | [c] => c.isDigit
        | _ => false
      if !isTarget then fail "Syntax error: Bad fd number"
    return ⟨fd, kind, text⟩ :: (← targets captured rest)

/-- Binds a descriptor to what was opened. -/
def bindOpened (fd : Nat) (fault : OsError → Text)
    (opened : Action (Except OsError Handle)) : Step Unit := do
  match ← act opened with
  | .ok handle => change fun state => { state with task := state.task.bind fd handle }
  | .error error => fail (fault error)

/-- Whether files are to be kept and a path leads to one. -/
def isKept (path : Text) : Step Bool := do
  if !(← state).settings.noOverwrite then return false
  match Builtin.entryAt? (← act Action.world) path with
  | some (_, .file _) => return true
  | _ => return false

/-- Makes a file if there is none, and opens it without a change. -/
def openUpdate (task : Task) (fd : Nat) (path : Text) : Action (Except OsError Handle) := do
  match ← task.openWrite path .append with
  | .error error => return .error error
  | .ok (.shared (.channel number)) =>
    let w ← Action.world
    if let .file path _ _ := w.channels number then
      Action.setWorld (w.setChannel number (.file path 0 (if fd = 0 then .read else .write)))
    return .ok (.shared (.channel number))
  | .ok opened => return .ok opened

/-- Binds a descriptor to what another one leads to; nothing has to be done for a
descriptor and itself. If the other one leads nowhere and `isVacated` says so, the
descriptor itself is already closed when that is reported. -/
def bindSame (fd source : Nat) (isVacated : Bool) : Step Unit := do
  if fd = source then return ()
  match (← state).task.handle? source with
  | some handle => change fun state => { state with task := state.task.bind fd handle }
  | none =>
    if isVacated then change fun state => { state with task := state.task.close fd }
    fail (Text.ofNat source ++ ": " ++ OsError.badDescriptor.name)

/-- Binds a descriptor as a redirection says. -/
def bindTarget (captured : Command → Step Text) (isVacated : Bool) (target : Target) :
    Step Unit := do
  let task := (← state).task
  let path := target.text
  let create := openFault "create" "Directory nonexistent" path
  match target.kind with
  | .read => bindOpened target.fd (openFault "open" "No such file" path) (task.openRead path)
  | .write =>
    if ← isKept path then fail ("cannot create " ++ path ++ ": File exists")
    bindOpened target.fd create (task.openWrite path .write)
  | .overwrite => bindOpened target.fd create (task.openWrite path .write)
  | .append => bindOpened target.fd create (task.openWrite path .append)
  | .update => bindOpened target.fd create (openUpdate task target.fd path)
  | .duplicate =>
    if path = ['-'] then
      change fun state => { state with task := state.task.close target.fd }
    else bindSame target.fd ((Text.digitsValue? path).getD 0) isVacated
  | .document number =>
    let text ← expandDocument captured (((← state).documents.lookup number).getD [])
    let handle ← act (Task.newChannel (.pipe (Octets.toBytes text)))
    change fun state => { state with task := state.task.bind target.fd handle }

/-- Binds descriptors one after another. If `kept?` lists descriptors, every other one is
put aside, to be restored later, just before it is bound. -/
def bindTargets (captured : Command → Step Text) (kept? : Option (List Nat)) :
    List Target → Step Unit
  | [] => return ()
  | target :: rest => do
    bindTarget captured (kept?.any fun kept => !kept.contains target.fd) target
    bindTargets captured (kept?.map (target.fd :: ·)) rest

/-- The task with some descriptors bound as in another one, and all others as they
are. -/
def restored (outer task : Task) (fds : List Nat) : Task :=
  let inner := task.handles.filter fun binding => !fds.contains binding.1
  { task with handles := outer.handles.filter (fun binding => fds.contains binding.1) ++ inner }

/-- Runs a step with descriptors bound for it, or else fails with a message. If `keep`
says so, they stay as they are. -/
def redirected (captured : Command → Step Text) (redirections : List Redirection) (keep : Bool)
    (body : Step Nat) : Step (Option Nat) := do
  if redirections.isEmpty then return some (← body)
  let targets ← targets captured redirections
  let outer := (← state).task
  let restore : Step Unit :=
    change fun state => { state with task := restored outer state.task (targets.map (·.fd)) }
  match ← caught (bindTargets captured (some []) targets) with
  | .ok () =>
    let result ← caught body
    if !keep then restore
    return some (← ofResult result)
  | .error .failed =>
    restore
    return none
  | .error halt => throw halt

/-! ### Text -/

/-- The largest number of rounds of a loop. -/
def roundLimit : Nat := 1000000000

/-- Shows the lines of a script as they are read. -/
def showRead (before after : Source) : Step Unit := do
  if (← state).settings.verbose then
    let read := before.rest.take (before.rest.length - after.rest.length)
    let _ ← put (← state).task 2 (Octets.toBytes read)

/-- Runs the commands of a text, line by line, and yields the status of the last one. -/
def runText (run : Runner) (manner : Manner) (isFile : Bool) (text : Text) : Step Nat := do
  let outer := (← state).line
  let round (progress : Source × Nat) : Step ((Source × Nat) ⊕ Nat) := do
    let (source, status) := progress
    let current ← state
    let source :=
      { source with nextDocument := current.nextDocument, shorthands := current.shorthands }
    match Reader.readLine.run source with
    | .error malformed =>
      change fun state => { state with line := malformed.line }
      fail ("Syntax error: " ++ malformed.message)
    | .ok (none, _) => return .inr status
    | .ok (some commands, after) =>
      if isFile then showRead source after
      change fun state =>
        { state with
          documents := after.documents ++ state.documents
          nextDocument := after.nextDocument }
      let next := { after with documents := [] }
      match commands with
      | [] => return .inl (next, status)
      | commands =>
        let whole := match commands with
          | [command] => command
          | commands => .sequence commands
        let status ← run manner.inside whole
        if ← isSkipping then return .inr status else return .inl (next, status)
  let status ← iterate round roundLimit ({ rest := text }, 0)
  change fun state => { state with line := outer }
  return status

/-- Goes on behind a text from which commands may return. -/
def afterReturn : Step Unit :=
  change fun state =>
    { state with skip := if state.skip = some .back then none else state.skip }

/-! ### Processes -/

/-- Runs what is to be run at the end of a process, and yields its status. -/
def atExit (run : Runner) (result : Except Halt Nat) : Step Status := do
  let finish (code : Nat) : Step Status := do
    match (← state).traps.lookup 0 with
    | none | some [] => return .exited code
    | some action =>
      change fun state =>
        { state with traps := state.traps.filter (·.1 ≠ 0), skip := none, status := code }
      match ← caught (runText run {} false action) with
      | .ok _ => return .exited code
      | .error (.exit code) => return .exited code
      | .error (.ended status) => return status
      | .error .failed => return .exited failedStatus
  match result with
  | .ok status => finish status
  | .error (.exit code) => finish code
  | .error (.ended status) => return status
  | .error .failed => finish failedStatus

/-- Whether something is to be run when a signal arrives. -/
def hasTraps (state : State) : Bool := state.traps.any (!·.2.isEmpty)

/-- Takes the place of a new command among those that run at the side. A command there
that has ended and for which the script has waited may have to give up its own. -/
def takePlace : Step Nat := do
  let jobs := (← state).jobs
  let isFree (place : Nat) : Bool :=
    match jobs.find? (·.place == place) with
    | some job => job.status.isSome && job.isAwaited
    | none => true
  let place := ((List.range (jobs.length + 1)).find? fun n => isFree (n + 1)).getD jobs.length + 1
  change fun state => { state with jobs := state.jobs.filter (·.place ≠ place) }
  return place

/-- The state of a part of the script in a process of its own, with other descriptors. -/
def partOf (bindings : Task → Task) (number : Nat) (state : State) : State :=
  { state with
    task := { bindings state.task with number := number }
    jobs := []
    arrived := []
    traps := state.traps.filter (·.2.isEmpty) }

/-- The course of a process that runs a part of the script. -/
def partCourse (run : Runner) (part : Step Nat) (state : State) : Course Status := do
  let step : Step Status := do atExit run (← caught part)
  let (result, _) ← step.run state
  match result with
  | .ok status => return status
  | .error _ => return .exited failedStatus

/-- Starts a part of the script in a process of its own, with other descriptors, and
yields the number of the process. -/
def spawn (run : Runner) (bindings : Task → Task) (part : Step Nat) : Step Nat := do
  let state ← state
  act (Course.fork (partOf bindings 0 state).current.stance fun number =>
    partCourse run part (partOf bindings number state))

/-- Whether a command can be run in the process itself, because nothing is left for the
process to do. -/
def isInPlace (manner : Manner) : Step Bool := return manner.last && !hasTraps (← state)

/-- Runs a part of the script in a process of its own. -/
def subshell (run : Runner) (manner : Manner) (part : Step Nat) : Step Nat := do
  if ← isInPlace manner then
    change fun state => partOf id state.task.number state
    throw (.ended (← atExit run (← caught part)))
  else
    let _ ← takePlace
    Builtin.settled (← await (← spawn run id part))

/-- The output of a command, without the newlines at its end. -/
def captured (run : Runner) (command : Command) : Step Text := do
  let _ ← takePlace
  let pipe ← act Task.newPipe
  let number ← spawn run (·.bind 1 (.writing pipe)) (run { last := true } command)
  let written ← act ((← state).current.drain pipe)
  let status ← Builtin.settled (← await number)
  change fun state => { state with outputStatus := some status }
  let octets := Octets.ofBytes (written.filter (· != 0))
  return Text.dropEndWhile (· == '\n') octets

/-- Starts the commands of a pipeline, the first one on the given input, and yields the
numbers of their processes. -/
def startAll (run : Runner) (manner : Manner) (input : Option Handle) :
    List Command → Step (List Nat)
  | [] => return []
  | command :: rest => do
    let withInput (task : Task) : Task :=
      match input with
      | some handle => task.bind 0 handle
      | none => task
    let step := run { manner with last := true } command
    match rest with
    | [] => return [← spawn run withInput step]
    | rest =>
      let pipe ← act Task.newPipe
      let number ← spawn run (fun task => (withInput task).bind 1 (.writing pipe)) step
      return number :: (← startAll run manner (some (.reading pipe)) rest)

/-- Waits for processes one after another, and yields the status of the last one. -/
def awaitAll (status : Nat) : List Nat → Step Nat
  | [] => return status
  | number :: rest => do awaitAll (← Builtin.settled (← await number)) rest

/-- Runs the commands of a pipeline side by side. -/
def pipeline (run : Runner) (manner : Manner) (commands : List Command) : Step Nat := do
  let _ ← takePlace
  awaitAll 0 (← startAll run manner none commands)

/-- Runs a command at the side. It has no input, and nothing waits for it. -/
def background (run : Runner) (command : Command) : Step Nat := do
  let input ← act (Task.newChannel (.pipe []))
  let place ← takePlace
  let part : Step Nat :=
    match command with
    | .pipeline commands => do
      let numbers ← startAll run {} none commands
      change fun state => { state with task := { state.task with handles := [] } }
      awaitAll 0 numbers
    | command => run { last := true } command
  let parts := match command with
    | .pipeline commands => commands.length
    | _ => 1
  let number ← spawn run (·.bind 0 input) part
  change fun state =>
    { state with jobs := { place, number, parts } :: state.jobs, lastJob := some number }
  return 0

/-! ### Commands by name -/

/-- What a name stands for. -/
inductive Meaning where
  | special
  | function (body : Command)
  | builtin
  | program

/-- The commands that a script runs itself and that are not in the table. -/
def moreNames : List Text :=
  [".", "break", "command", "continue", "eval", "exec", "exit", "hash", "return", "type"]

/-- What a name stands for; functions may be passed over. -/
def meaning (state : State) (functions : Bool) (name : Text) : Meaning :=
  if Reader.Around.specialNames.contains name then .special
  else
    match (if functions then state.functions.get? name else none) with
    | some body => .function body
    | none =>
      if moreNames.contains name || Builtin.table.any (·.1.toList == name) then .builtin
      else .program

/-- The directories in which a script looks for programs. -/
def searchPath (state : State) : List Text :=
  ((state.value? "PATH").getD []).splitOnP (· == ':')

/-- The path of the first file in the directories that a name leads to. Something that is
no file is passed over, but it is what is reported in the end. -/
def fileIn (w : World) (name : Text) (found : OsError) : List Text → Except OsError Text
  | [] => .error found
  | directory :: rest =>
    let path := if directory.isEmpty then name else directory ++ "/" ++ name
    match w.volume.locate w.directory (Octets.toText path) with
    | .ok (.existing _ .directory) => fileIn w name .permissionDenied rest
    | .ok (.existing ..) => .ok path
    | .ok (.free _) | .error .noSuchFile | .error .notADirectory => fileIn w name found rest
    | .error error => fileIn w name error rest

/-- The path that a name of a program leads to. A path is taken as it is. -/
def lookFor (w : World) (state : State) (name : Text) : Except OsError Text :=
  if name.contains '/' then .ok name else fileIn w name .noSuchFile (searchPath state)

/-- The status of a program that is not there. -/
def missingCode : Nat := 127

/-- The status of a program that cannot be run. -/
def refusedCode : Nat := 126

/-- Runs a program and yields how it ended, or else the status of its failure. It may run
in the process of the script itself. -/
def runProgram (start : Starter) (inPlace : Bool) (name : Text) (args : List Text) :
    Step (Except Nat Status) := do
  let state ← state
  let task := { state.current with environment := state.exported, caught := [] }
  let refused (error : OsError) (code : Nat) : Step (Except Nat Status) := do
    let reason : Text :=
      if error = .noSuchFile || error = .notADirectory then "not found" else error.name
    complain (name ++ ": " ++ reason)
    return .error code
  let w ← act Action.world
  match lookFor w state name with
  | .error error => refused error missingCode
  | .ok _ =>
    match start w task name args with
    | .ok program =>
      if inPlace then return .ok (← act (program task.number))
      else
        let _ ← takePlace
        return .ok (← await (← act (Course.fork task.stance program)))
    | .error error =>
      let isMissing := [.noSuchFile, .notADirectory, .nameTooLong].contains error
      refused error (if isMissing then missingCode else refusedCode)

/-- Calls a function. -/
def call (run : Runner) (manner : Manner) (body : Command) (args : List Text) : Step Nat := do
  let outer ← state
  change fun state =>
    { state with args := args, optionPlace := (1, 0), loops := 0, hidden := {} :: state.hidden }
  let result ← caught (run manner.inside body)
  change fun state =>
    { state with
      vars := (state.hidden.headD {}).vars.foldl
        (fun table (name, entry) =>
          match entry with
          | some entry => table.insert name entry
          | none => table.erase name)
        state.vars
      settings := (state.hidden.headD {}).settings.getD state.settings
      hidden := state.hidden.drop 1
      args := outer.args
      optionPlace := outer.optionPlace
      loops := outer.loops }
  afterReturn
  ofResult result

/-- Passes over the rest of loops. -/
def skipLoops (skip : Nat → Skip) (args : List Text) : Step Nat := do
  let count ← match args with
    | [] => pure 1
    | arg :: _ =>
      let count ← Builtin.numberOf arg
      if count = 0 then fail ("Illegal number: " ++ arg)
      pure count
  change fun state =>
    let count := min count state.loops
    if count = 0 then state else { state with skip := some (skip count) }
  return 0

/-- Describes what a name stands for, in words or only by the name or path that
leads to it. -/
def describe (inWords : Bool) (name : Text) : Step Nat := do
  let state ← state
  let tell (words : Text) : Step Nat :=
    Builtin.writeLines [if inWords then name ++ words else name]
  if (Sign.reserved.lookup name).isSome then tell " is a shell keyword"
  else
    match state.shorthands.get? name with
    | some value =>
      Builtin.writeLines
        [if inWords then name ++ " is an alias for " ++ value
          else "alias " ++ name ++ "=" ++ Builtin.quoted value]
    | none =>
      match meaning state true name with
      | .special => tell " is a special shell builtin"
      | .function _ => tell " is a shell function"
      | .builtin => tell " is a shell builtin"
      | .program =>
        let w ← act Action.world
        let found := (lookFor w state name).toOption.filter fun path =>
          (Builtin.entryAt? w path).isSome
        match found with
        | some path =>
          Builtin.writeLines [if inWords then name ++ " is " ++ path else path]
        | none =>
          if inWords then
            let _ ← Builtin.writeLines [name ++ ": not found"]
          return missingCode

/-- Describes names. -/
def describeAll (args : List Text) : Step Nat := do
  let statuses ← args.mapM (describe true)
  return statuses.foldl max 0

/-- Describes the first of the names behind options. -/
def command (args : List Text) : Step Nat := do
  let (options, names) ← Builtin.options "pvV" "" args
  match names with
  | [] => return 0
  | name :: _ => describe (options.any (·.1 == 'V')) name

/-- Looks for programs. -/
def hash (args : List Text) : Step Nat := do
  let (_, names) ← Builtin.options "rv" "" args
  let statuses ← names.mapM fun name => do
    let state ← state
    match meaning state true name, lookFor (← act Action.world) state name with
    | .program, .error _ =>
      complain (name ++ ": not found")
      return 1
    | _, _ => return 0
  return statuses.foldl max 0

/-- Runs the commands of a file. -/
def source (run : Runner) (args : List Text) : Step Nat := do
  let (_, args) ← Builtin.options "" "" args
  match args with
  | [] => return 0
  | name :: _ =>
    let w ← act Action.world
    let isFile (path : Text) : Bool :=
      match Builtin.entryAt? w path with
      | some (_, .file _) => true
      | _ => false
    let candidates := (searchPath (← state)).map fun directory =>
      if directory.isEmpty then name else directory ++ "/" ++ name
    let path := if name.contains '/' then some name else candidates.find? isFile
    match path with
    | none => fail (name ++ ": not found")
    | some path =>
      let task := (← state).task
      match ← act (task.openRead path) with
      | .error error => fail (openFault "open" "No such file" path error)
      | .ok handle =>
        let octets ← match ← act ((task.bind 0 handle).readAll 0) with
          | .ok bytes => pure (Octets.ofBytes bytes)
          | .error _ => pure []
        let status ← under (some path) (runText run {} true octets)
        afterReturn
        return status

/-- Ends the script. -/
def exit (args : List Text) : Step Nat := do
  match args with
  | [] => throw (.exit (← state).status)
  | arg :: _ => throw (.exit ((← Builtin.numberOf arg) % 256))

/-- Returns from a function or a file. -/
def «return» (args : List Text) : Step Nat := do
  let status ← match args with
    | [] => pure (← state).status
    | arg :: _ => Builtin.numberOf arg
  change fun state => { state with skip := some .back }
  return status

/-- Goes on as another program. -/
def exec (start : Starter) (args : List Text) : Step Nat := do
  match args with
  | [] => return 0
  | name :: args =>
    match ← runProgram start true name args with
    | .ok status => throw (.ended status)
    | .error code => throw (.exit code)

/-- Runs a built-in command. -/
def builtin (start : Starter) (run : Runner) (manner : Manner) (name : Text) (args : List Text) :
    Step Nat :=
  match String.ofList name with
  | "." => source run args
  | "break" => skipLoops .leave args
  | "command" => command args
  | "continue" => skipLoops .again args
  | "eval" =>
    if args.isEmpty then pure 0 else runText run manner.inside false (Text.join [' '] args)
  | "exec" => exec start args
  | "exit" => exit args
  | "hash" => hash args
  | "return" => «return» args
  | "type" => describeAll args
  | name =>
    match Builtin.table.lookup name with
    | some builtin => builtin args
    | none => pure 0

/-! ### Simple commands -/

/-- What stands behind the command that runs another one: nothing yet, a question about
names, or a command. -/
inductive Behind where
  | nothing
  | question
  | command (fields : List Text)

/-- What the arguments of the command that runs another one mean. -/
def behind : List Text → Behind
  | [] => .nothing
  | ['-', '-'] :: [] => .nothing
  | ['-', '-'] :: fields => .command fields
  | ['-'] :: rest => .command (['-'] :: rest)
  | ('-' :: letters) :: rest => if letters.all (· == 'p') then behind rest else .question
  | fields => .command fields

/-- The fields of a command. -/
structure Gathered where
  fields : List Text := []
  /-- The fields before those, which only say how it is run. -/
  before : List Text := []
  /-- The words that are not expanded yet. -/
  words : List Word
  /-- Whether another command runs it, which passes over functions. -/
  direct : Bool := false

/-- Expands words up to one that says which command is run. -/
def gather (captured : Command → Step Text) : Nat → Gathered → Step Gathered
  | 0, found => return found
  | fuel + 1, found => do
    let more : Step Gathered :=
      match found.words with
      | [] => return found
      | word :: words => do
        let fields ← expandWord captured word
        gather captured fuel { found with fields := found.fields ++ fields, words := words }
    match found.fields with
    | [] => more
    | name :: args =>
      let isCommand := name == ("command" : Text) &&
        (found.direct || !(← state).functions.contains name)
      if !isCommand then return found
      match behind args with
      | .nothing => more
      | .question => return found
      | .command fields =>
        let before := found.fields.take (found.fields.length - fields.length)
        gather captured fuel
          { found with fields := fields, before := found.before ++ before, direct := true }

/-- The commands whose arguments may set variables. -/
def declarations : List Text := ["alias", "export", "readonly", "local"]

/-- The fields of an argument; one that sets a variable may not be split. -/
def argument (captured : Command → Step Text) (declares : Bool) (word : Word) :
    Step (List Text) := do
  match (if declares then Reader.Around.setting? word else none) with
  | some (name, value) => return [name ++ ['='] ++ (← expandSetting captured value)]
  | none => expandWord captured word

/-- The fields of arguments. -/
def arguments (captured : Command → Step Text) (declares : Bool) (words : List Word) :
    Step (List Text) :=
  iterate
    (fun (words, found) => do
      match words with
      | [] => return .inr found.reverse.flatten
      | word :: words => return .inl (words, (← argument captured declares word) :: found))
    (words.length + 1) (words, ([] : List (List Text)))

/-- Shows a command before it runs. -/
def showTrace (task : Task) (settings : List (Text × Text)) (fields : List Text) : Step Unit := do
  let state ← state
  if state.settings.trace then
    let shown := settings.map (fun (name, value) => name ++ ['='] ++ value) ++ fields
    let start := (state.value? "PS4").getD []
    reportOn task (start ++ Text.join [' '] shown)

/-- Sets variables one after another, and yields what they are set to. -/
def setAll (captured : Command → Step Text) (exported : Bool) :
    List (Text × Word) → Step (List (Text × Text))
  | [] => return []
  | (name, word) :: rest => do
    let value ← expandSetting captured word
    if exported then assignExported name value else assign name value
    return (name, value) :: (← setAll captured exported rest)

/-- The same step, after which variables are as they were before. -/
def restoring {α : Type} (names : List Text) (step : Step α) : Step α := do
  if names.isEmpty then return ← step
  let before := (← state).vars
  let result ← caught step
  change fun state =>
    { state with
      vars := names.foldl
        (fun table name =>
          match before.get? name with
          | some entry => table.insert name entry
          | none => table.erase name)
        state.vars }
  ofResult result

/-- Runs a command by its fields. -/
def runFields (start : Starter) (run : Runner) (manner : Manner) (direct : Bool) (name : Text)
    (args : List Text) : Step Nat := do
  let regular (mayEnd : Bool) : Step Nat := do
    match ← caught (under (some name) (builtin start run manner name args)) with
    | .ok status => return status
    | .error .failed => if mayEnd then throw .failed else return failedStatus
    | .error halt => throw halt
  match meaning (← state) (!direct) name with
  | .special => regular (!direct)
  | .builtin => regular false
  | .function body => call run manner body args
  | .program =>
    let inPlace ← isInPlace manner
    match ← runProgram start inPlace name args with
    | .ok status => if inPlace then throw (.ended status) else Builtin.settled status
    | .error code => return code

/-- Runs a simple command. -/
def simple (start : Starter) (run : Runner) (manner : Manner) (settings : List (Text × Word))
    (words : List Word) (redirections : List Redirection) : Step Nat := do
  let captured := captured run
  change fun state => { state with outputStatus := none }
  let found ← gather captured (2 * words.length + 1) { words := words }
  let outer := (← state).task
  match found.fields with
  | [] =>
    let status ← redirected captured redirections false do
      let set ← setAll captured false settings
      if !set.isEmpty then showTrace outer set []
      return (← state).outputStatus.getD 0
    return status.getD failedStatus
  | name :: first =>
    let declares := declarations.contains name
    let args := first ++ (← arguments captured declares found.words)
    let isSpecial := !found.direct && Reader.Around.specialNames.contains name
    let persists := isSpecial
    let body : Step Nat := do
      let set ← setAll captured (!persists || (name = ("exec" : Text) && !args.isEmpty)) settings
      showTrace outer set (found.before ++ name :: args)
      runFields start run manner found.direct name args
    let keep := name = ("exec" : Text)
    let names := if persists then [] else settings.map (·.1)
    match ← restoring names (redirected captured redirections keep body) with
    | some status => return status
    | none => if isSpecial then throw .failed else return failedStatus

/-! ### All commands -/

/-- Where a loop goes on behind a round: it may go on with the next one. -/
def goesOn : Step Bool := do
  match (← state).skip with
  | none => return true
  | some .back => return false
  | some (.leave count) =>
    change fun state => { state with skip := if count ≤ 1 then none else some (.leave (count - 1)) }
    return false
  | some (.again count) =>
    change fun state => { state with skip := if count ≤ 1 then none else some (.again (count - 1)) }
    return count ≤ 1

/-- Runs a body inside of one more loop. -/
def inLoop (step : Step Nat) : Step Nat := do
  change fun state => { state with loops := state.loops + 1 }
  let status ← step
  change fun state => { state with loops := state.loops - 1 }
  return status

/-- The rounds of loops for which it takes a millisecond to run them. -/
def roundsPerMillisecond : Nat := 500

/-- Lets the time pass that a round of a loop takes. -/
def passRound : Step Unit := do
  change fun state => { state with rounds := state.rounds + 1 }
  if (← state).rounds % roundsPerMillisecond = 0 then
    let _ ← ask (.pause 1)

/-- Runs a body as long as a condition ends as it has to. -/
def loop (run : Runner) (manner : Manner) (onSuccess : Bool) (condition body : Command) :
    Step Nat :=
  inLoop (iterate
    (fun status => do
      passRound
      let answer ← run { tested := true } condition
      if ← isSkipping then
        let status := if (← state).skip = some .back then answer else status
        if ← goesOn then return .inl status else return .inr status
      else if (answer == 0) != onSuccess then return .inr status
      else
        let status ← run manner.inside body
        if ← goesOn then return .inl status else return .inr status)
    roundLimit 0)

/-- Runs a body for each of some values. -/
def forEach (run : Runner) (manner : Manner) (name : Text) (values : List Text)
    (body : Command) : Step Nat :=
  inLoop (iterate
    (fun (values, status) => do
      match values with
      | [] => return .inr status
      | value :: rest =>
        assign name value
        let status ← run manner.inside body
        if ← goesOn then return .inl (rest, status) else return .inr status)
    (values.length + 1) (values, 0))

/-- Whether a text is matched by one of some patterns. -/
def anyMatches (captured : Command → Step Text) (text : Text) : List Word → Step Bool
  | [] => return false
  | pattern :: rest => do
    if Pattern.isMatch (Part.glyphs (← expand captured false pattern)) text then return true
    else anyMatches captured text rest

/-- Runs the body of the first case that matches a text. -/
def choice (run : Runner) (manner : Manner) (text : Text) :
    List (List Word × Option Command) → Step Nat
  | [] => return 0
  | (patterns, body) :: rest => do
    if ← anyMatches (captured run) text patterns then
      match body with
      | some body => run manner body
      | none => return 0
    else choice run manner text rest

/-- Runs commands one after another. -/
def sequence (run : Runner) (manner : Manner) (commands : List Command) : Step Nat :=
  iterate
    (fun (commands, status) => do
      match commands with
      | [] => return .inr status
      | command :: rest =>
        let status ← run (if rest.isEmpty then manner else manner.inside) command
        if ← isSkipping then return .inr status else return .inl (rest, status))
    (commands.length + 1) (commands, 0)

/-- Runs what is to be run for the signals that have arrived. -/
def runTraps (run : Runner) : Step Unit := do
  if (← state).arrived.isEmpty || (← isSkipping) then return ()
  let arrived := (← state).arrived.mergeSort fun a b => decide (a ≤ b)
  change fun state => { state with arrived := [] }
  for signal in arrived do
    let status := (← state).status
    if let some action := (← state).traps.lookup signal then
      let returned ← runText run {} false action
      setStatus (if (← state).skip = some .back then returned else status)

/-- The status that a process has if commands nest too deep for it. -/
def tooDeep : Status := .killed 11

/-- Runs one command, given how the commands inside of it are run. -/
def runOne (start : Starter) (run : Runner) (manner : Manner) (command : Command) : Step Nat := do
  match command with
  | .simple line settings words redirections =>
    change fun state => { state with line := line }
    simple start run manner settings words redirections
  | .pipeline commands => pipeline run manner commands
  | .andThen first second =>
    let status ← run { tested := true } first
    if status = 0 && !(← isSkipping) then run manner second else return status
  | .orElse first second =>
    let status ← run { tested := true } first
    if status ≠ 0 && !(← isSkipping) then run manner second else return status
  | .sequence commands => sequence run manner commands
  | .background line command =>
    change fun state => { state with line := line }
    background run command
  | .not command =>
    let status ← run { tested := true } command
    if ← isSkipping then return status else return if status = 0 then 1 else 0
  | .subshell line body redirections =>
    change fun state => { state with line := line }
    let targets ← targets (captured run) redirections
    subshell run manner do
      bindTargets (captured run) none targets
      run { manner with last := true } body
  | .redirected line body redirections =>
    change fun state => { state with line := line }
    let status ← redirected (captured run) redirections false (run manner.inside body)
    return status.getD failedStatus
  | .conditional condition body otherwise =>
    let status ← run { tested := true } condition
    if ← isSkipping then return status
    else if status = 0 then run manner body
    else
      match otherwise with
      | some command => run manner command
      | none => return 0
  | .loop onSuccess condition body => loop run manner onSuccess condition body
  | .forEach line name words body =>
    change fun state => { state with line := line }
    let values ← arguments (captured run) false words
    forEach run manner name values body
  | .choice line word cases =>
    change fun state => { state with line := line }
    choice run manner (← expandText (captured run) word) cases
  | .define _ name body =>
    change fun state => { state with functions := state.functions.insert name body }
    return 0

/-- Whether the failure of a command may end a script by itself. -/
def isChecked : Command → Bool
  | .simple .. | .pipeline _ | .subshell .. | .background .. => true
  | _ => false

/-- Runs commands that nest to a depth. -/
def runCommand (start : Starter) : Nat → Runner
  | 0 => fun _ _ => throw (.ended tooDeep)
  | depth + 1 => fun manner command => do
    let run := runCommand start depth
    if (← state).settings.noRun then return 0
    runTraps run
    let status ← runOne start run manner command
    setStatus status
    runTraps run
    let status ← if ← isSkipping then pure (← state).status else pure status
    if isChecked command && (← state).settings.exitOnError && !manner.tested && status ≠ 0 then
      throw (.exit status)
    return status

/-- The depth to which commands nest. -/
def nestingLimit : Nat := 3000

/-! ### Scripts -/

/-- The directories in which a script looks for programs if nothing says where. -/
def usualPath : Text := "/usr/local/sbin:/usr/local/bin:/usr/sbin:/usr/bin:/sbin:/bin"

/-- The state in which a script starts. -/
def State.start (task : Task) (directory : Text) : State :=
  let inherited := task.environment.entries.foldl
    (fun table (name, value) =>
      if isName name then table.insert name { value := some value, exported := true } else table)
    (Table.empty : Table Variable)
  let fixed : List (Text × Text) :=
    [("IFS", [' ', '\t', '\n']), ("OPTIND", ['1']), ("PS1", ['#', ' ']), ("PS2", ['>', ' ']),
      ("PS4", ['+', ' '])]
  let usual : List (Text × Text) := [("PATH", usualPath), ("PWD", directory)]
  let withFixed := fixed.foldl
    (fun table (name, value) =>
      table.insert name { ((table.get? name).getD {}) with value := some value })
    inherited
  let all := usual.foldl
    (fun table (name, value) =>
      if table.contains name then table
      else table.insert name { value := some value, exported := name = ("PWD" : Text) })
    withFixed
  { task := task, name := task.name, number := task.number, vars := all }

/-- The text of a script that is read from a descriptor. -/
def scriptText (task : Task) (fd : Nat) : Course Text := do
  match ← task.readAll fd with
  | .ok bytes => return Octets.ofBytes bytes
  | .error _ => return []

/-- Reads the settings and runs the script. -/
def runScript (run : Runner) (args : List Text) : Step Nat := do
  let given ← Builtin.readSettings true (args.length + 1) { rest := args }
  let readsInput : Step Unit :=
    change fun state => { state with settings := { state.settings with readInput := true } }
  let fromInput : Step Nat := do runText run {} true (← act (scriptText (← state).task 0))
  match given.rest with
  | [] =>
    if given.command then fail "-c requires an argument"
    Builtin.refuseJobControl given
    readsInput
    fromInput
  | first :: rest =>
    let input := (← state).settings.readInput
    if given.command then
      change fun state =>
        match rest with
        | [] => state
        | name :: args => { state with name := name, args := args }
      Builtin.refuseJobControl given
      let status ← runText run {} false first
      if input && !(← isSkipping) then fromInput else return status
    else if input then
      change fun state => { state with args := given.rest }
      Builtin.refuseJobControl given
      fromInput
    else
      match ← act ((← state).task.openRead first) with
      | .error error => fail (openFault "open" "No such file" first error)
      | .ok handle =>
        change fun state => { state with name := first, args := rest }
        Builtin.refuseJobControl given
        runText run {} true (← act (scriptText ((← state).task.bind 0 handle) 0))

/-- The program that runs scripts. -/
def interpreter (start : Starter) : Program := fun task args => do
  let run := runCommand start nestingLimit
  let directory := Builtin.pathText (← Action.world).directory
  let step : Step Status := do atExit run (← caught (runScript run args))
  let (result, _) ← step.run (State.start task directory)
  match result with
  | .ok status => return status
  | .error _ => return .exited failedStatus

end Conch.Program.Script
