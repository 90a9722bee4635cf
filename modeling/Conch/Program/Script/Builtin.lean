import Conch.Program.Script.Expansion
import Conch.Program.Script.Formatted
import Conch.Program.Script.Test

/-!
The commands that a script runs itself and that need nothing else to be run: output,
questions, input, variables, parameters and settings.
-/

namespace Conch.Program.Script

open Process

/-- A built-in command, which is run with its arguments and yields its status. -/
abbrev Builtin := List Text → Step Nat

namespace Builtin

open Step

/-! ### Arguments -/

/-- The options at the start of arguments, each with its value, and the other
arguments. -/
def optionsFrom (plain valued : Text) : Nat → List Text → Step (List (Char × Text) × List Text)
  | 0, args => return ([], args)
  | fuel + 1, args => do
    match args with
    | ['-', '-'] :: rest => return ([], rest)
    | ('-' :: letter :: letters) :: rest =>
      if plain.contains letter then
        let (options, args) ← optionsFrom plain valued fuel
          (if letters.isEmpty then rest else ('-' :: letters) :: rest)
        return ((letter, []) :: options, args)
      else if valued.contains letter then
        match letters, rest with
        | [], [] => fail ("No arg for -" ++ [letter] ++ " option")
        | [], value :: rest =>
          let (options, args) ← optionsFrom plain valued fuel rest
          return ((letter, value) :: options, args)
        | value, rest =>
          let (options, args) ← optionsFrom plain valued fuel rest
          return ((letter, value) :: options, args)
      else fail ("Illegal option -" ++ [letter])
    | args => return ([], args)

/-- The options at the start of arguments. -/
def options (plain valued : String) (args : List Text) : Step (List (Char × Text) × List Text) :=
  optionsFrom plain.toList valued.toList (total (args.map (·.length)) + 1) args

/-- The largest number that an argument can mean. -/
def largestArgument : Nat := 2147483647

/-- The number that an argument means. -/
def numberOf (arg : Text) : Step Nat := do
  match (Text.digitsValue? arg).filter (· ≤ largestArgument) with
  | some n => return n
  | none => fail ("Illegal number: " ++ arg)

/-! ### Output -/

/-- Writes the result of a built-in command; one without a result never fails. -/
def write (octets : Text) : Step Nat := do
  if octets.isEmpty then return 0
  let state ← state
  match ← put state.task 1 (Octets.toBytes octets) with
  | .ok () => return 0
  | .error _ =>
    complain ((state.running.getD []) ++ ": I/O error")
    return 1

/-- Writes lines. -/
def writeLines (lines : List Text) : Step Nat :=
  write (lines.flatMap (· ++ ['\n']))

/-- Writes its arguments with blanks between them; escapes count. -/
def echo : Builtin := fun args =>
  let (newline, args) :=
    if args.head? = some ['-', 'n'] then ([], args.drop 1) else (['\n'], args)
  let (text, ended) := Formatted.unescaped [] 0 (Text.join [' '] args)
  write (if ended then text else text ++ newline)

/-- Writes formatted output. -/
def printf : Builtin := fun args => do
  let (_, args) ← options "" "" args
  match args with
  | [] => fail "usage: printf format [arg ...]"
  | format :: args =>
    let result := Formatted.run format args
    for warning in result.warnings.reverse do
      complain warning
    if let some fault := result.fault then complain fault
    let status ← write result.written.reverse.flatten
    if result.fault.isSome then return failedStatus
    return if result.warnings.isEmpty then status else 1

/-- A text as a script would have to write it. -/
def quoted (text : Text) : Text :=
  let parts := text.splitOnP (· == '\'')
  if parts.length = 1 then ['\''] ++ text ++ ['\'']
  else
    Text.join ['"', '\'', '"'] (parts.map fun part =>
      if part.isEmpty then [] else ['\''] ++ part ++ ['\''])

/-! ### Questions -/

/-- What a path leads to. -/
def entryAt? (w : World) (path : Text) : Option (Path × Entry) :=
  match w.volume.locate w.directory (Octets.toText path) with
  | .ok (.existing path entry) => some (path, entry)
  | _ => none

/-- Whether what a letter asks holds of an entry. -/
def holdsOf (letter : Char) (entry : Entry) : Bool :=
  if ['e', 'r', 'w', 'O', 'G'].contains letter then true
  else
    match entry with
    | .directory => ['d', 'x', 's'].contains letter
    | .program _ => ['f', 'x', 's'].contains letter
    | .file bytes => letter == 'f' || (letter == 's' && !bytes.isEmpty)
    | .nullDevice | .zeroDevice | .fullDevice => letter == 'c'

/-- What is known about files. -/
def filesOf (w : World) : Question.Files where
  about letter path :=
    match entryAt? w path with
    | some (_, entry) => holdsOf letter entry
    | none => false
  same first second :=
    match entryAt? w first, entryAt? w second with
    | some (path, _), some (path', _) => path == path'
    | _, _ => false

/-- Answers a question by its status. -/
def test : Builtin := fun args => do
  match Question.answer (filesOf (← act Action.world)) args with
  | .ok answer => return if answer then 0 else 1
  | .error fault => fail fault.message

/-- Answers a question between brackets. -/
def bracket : Builtin := fun args =>
  if args.getLast? = some [']'] then test args.dropLast else fail "missing ]"

/-! ### Input -/

/-- The fields of a line while they are read. -/
structure LineFields where
  /-- The complete fields, latest first. -/
  done : List Text := []
  /-- The field being read, latest octet first. -/
  field : Text := []
  /-- How many more fields there may be. -/
  left : Nat
  /-- Whether the octets before were blanks that separate fields. -/
  afterBlank : Bool := false
  /-- The field up to where it may end. -/
  cut : Option Text := none

/-- The fields with one more glyph of the line. -/
def LineFields.add (separators : Text) (fields : LineFields) (glyph : Glyph) : LineFields :=
  let c := glyph.octet
  let separates := !glyph.quoted && separators.contains c
  let blank := separates && Fields.isBlank c
  let longer := { fields with field := c :: fields.field }
  if glyph.quoted then { longer with afterBlank := false }
  else if fields.left = 0 then
    if blank then { longer with cut := some (fields.cut.getD fields.field) }
    else
      { longer with
        cut := if separates && fields.afterBlank then fields.cut else none
        afterBlank := false }
  else if fields.afterBlank && blank then { fields with field := [] }
  else if fields.afterBlank then
    { fields with field := if separates then [] else [c], afterBlank := false }
  else if !separates then longer
  else if blank && fields.field.isEmpty then fields
  else if fields.left = 1 then
    { longer with left := 0, cut := some fields.field, afterBlank := blank }
  else
    { fields with
      done := fields.field.reverse :: fields.done
      field := []
      left := fields.left - 1
      afterBlank := blank }

/-- A line cut into at most `count` fields, of which the last holds all that is left. -/
def lineFields (separators : Text) (count : Nat) (line : List Glyph) : List Text :=
  let fields := line.foldl (LineFields.add separators) { left := count }
  let last := (fields.cut.getD fields.field).reverse
  (if last.isEmpty then fields.done else last :: fields.done).reverse

/-- Octets in which a backslash protects the one behind it, behind glyphs that were
read before, latest first; nothing if the last one protects what follows. -/
def unprotected (found : List Glyph) (protects : Bool) : Text → List Glyph × Bool
  | [] => (found, protects)
  | c :: rest =>
    if protects then unprotected (⟨c, true⟩ :: found) false rest
    else if c = '\\' then unprotected found true rest
    else unprotected (⟨c, false⟩ :: found) false rest

/-- Reads lines that backslashes join, behind glyphs that were read before, latest
first, and says whether the last one had an end. -/
def readGlyphs (verbatim : Bool) : Nat → List Glyph → Step (List Glyph × Bool)
  | 0, found => return (found.reverse, false)
  | fuel + 1, found => do
    match ← act ((← state).current.readLine 0) with
    | .error _ => return (found.reverse, false)
    | .ok (bytes, ended) =>
      let octets := Octets.ofBytes (bytes.filter (· != 0))
      if verbatim then return (found.reverse ++ octets.map (⟨·, false⟩), ended)
      let (found, joins) := unprotected found false octets
      if joins && ended then readGlyphs verbatim fuel found
      else return (found.reverse, ended)

/-- The largest number of lines that are read as one. -/
def lineLimit : Nat := 100000

/-- Gives variables their values, and those for which there is none an empty one. -/
def assignAll (values : List Text) : List Text → Step Unit
  | [] => return ()
  | name :: names => do
    if !isName name then fail (name ++ ": bad variable name")
    assign name (values.headD [])
    assignAll (values.drop 1) names

/-- Reads a line into variables. -/
def read : Builtin := fun args => do
  let (options, names) ← options "r" "p" args
  if names.isEmpty then fail "arg count"
  let (line, ended) ← readGlyphs (options.any (·.1 == 'r')) lineLimit []
  assignAll (lineFields (← state).separators names.length line) names
  return if ended then 0 else 1

/-! ### Variables and parameters -/

/-- A name and the value behind it. -/
def nameAndValue (arg : Text) : Text × Option Text :=
  match Text.cut? '=' arg with
  | some (name, value) => (name, some value)
  | none => (arg, none)

/-- Gives variables a mark, and values if there are any. -/
def markAll (mark : Variable → Variable) : List Text → Step Unit
  | [] => return ()
  | arg :: args => do
    let (name, value) := nameAndValue arg
    if !isName name then fail (name ++ ": bad variable name")
    if let some value := value then assign name value
    change fun state =>
      { state with
        vars := state.vars.insert name (mark ((state.vars.get? name).getD {})) }
    markAll mark args

/-- The variables with a mark, as commands that give it. -/
def marked (command : Text) (isMarked : Variable → Bool) : Step Nat := do
  let entries := (← state).vars.entries.filter fun (_, entry) => isMarked entry
  writeLines (entries.map fun (name, entry) =>
    command ++ [' '] ++ name ++
      match entry.value with
      | some value => ['='] ++ quoted value
      | none => [])

/-- Exports variables. -/
def «export» : Builtin := fun args => do
  let (_, args) ← options "p" "" args
  if args.isEmpty then marked "export" (·.exported)
  else
    markAll (fun entry => { entry with exported := true }) args
    return 0

/-- Makes variables keep their values. -/
def readonly : Builtin := fun args => do
  let (_, args) ← options "p" "" args
  if args.isEmpty then marked "readonly" (·.readonly)
  else
    markAll (fun entry => { entry with readonly := true }) args
    return 0

/-- Takes variables or functions away. -/
def unsetAll (functions : Bool) : List Text → Step Unit
  | [] => return ()
  | name :: names => do
    if functions then
      change fun state => { state with functions := state.functions.erase name }
    else
      if !isName name then fail (name ++ ": bad variable name")
      Step.unset name
    unsetAll functions names

/-- Takes variables or functions away. -/
def «unset» : Builtin := fun args => do
  let (options, names) ← options "vf" "" args
  unsetAll ((options.getLast?.map (·.1 == 'f')).getD false) names
  return 0

/-- Hides variables until the function ends. -/
def hideAll : List Text → Step Unit
  | [] => return ()
  | ['-'] :: args => do
    change fun state =>
      match state.hidden with
      | [] => state
      | first :: rest =>
        let settings := first.settings.getD state.settings
        { state with hidden := { first with settings := some settings } :: rest }
    hideAll args
  | arg :: args => do
    let (name, value) := nameAndValue arg
    if !isName name then fail (name ++ ": bad variable name")
    change fun state =>
      match state.hidden with
      | [] => state
      | first :: rest =>
        if first.vars.any (·.1 == name) then state
        else
          let vars := (name, state.vars.get? name) :: first.vars
          { state with hidden := { first with vars := vars } :: rest }
    if let some value := value then assign name value
    hideAll args

/-- Hides variables until the function ends. -/
def «local» : Builtin := fun args => do
  if (← state).hidden.isEmpty then fail "not in a function"
  hideAll args
  return 0

/-- Takes parameters away from the front. -/
def shift : Builtin := fun args => do
  let count ← match args with
    | [] => pure 1
    | arg :: _ => numberOf arg
  if (← state).args.length < count then fail "can't shift that many"
  change fun state => { state with args := state.args.drop count }
  return 0

/-! ### Settings -/

/-- Turns a setting on or off. -/
def turn (on : Bool) (name : Text) : Step Unit :=
  change fun state => { state with settings := state.settings.turn on name }

/-- All settings for the user to read, or as commands. -/
def listSettings (asCommands : Bool) : Step Nat := do
  let settings := (← state).settings
  let lines := Settings.names.map fun (name, _) =>
    let on := settings.isOn name
    if asCommands then (if on then "set -o ".toList else "set +o ".toList) ++ name
    else
      name ++ List.replicate (16 - name.length) ' ' ++ (if on then "on".toList else "off".toList)
  writeLines (if asCommands then lines else "Current option settings".toList :: lines)

/-- What settings at the start of arguments leave. -/
structure GivenSettings where
  rest : List Text
  /-- Whether a sign ends the settings. -/
  ended : Bool := false
  /-- Whether the first argument is a script. -/
  command : Bool := false
  /-- Whether job control is wanted. -/
  jobControl : Bool := false

/-- Reads letters of settings; the arguments behind them hold names of settings. Some
letters have a meaning only when a script is started. -/
def readLetters (starting on : Bool) (given : GivenSettings) : Text → Step GivenSettings
  | [] => return given
  | letter :: letters => do
    if starting && letter == 'c' then
      readLetters starting on { given with command := true } letters
    else if starting && letter == 'l' then readLetters starting on given letters
    else if letter == 'o' then
      match given.rest with
      | [] =>
        let _ ← listSettings (!on)
        readLetters starting on given letters
      | name :: rest =>
        if (Settings.names.lookup name).isNone then fail ("Illegal option -o " ++ name)
        turn on name
        let wanted := given.jobControl || (on && name == Settings.monitor)
        readLetters starting on { given with rest := rest, jobControl := wanted } letters
    else
      match Settings.nameOf? letter with
      | none => fail ("Illegal option -" ++ [letter])
      | some name =>
        turn on name
        let wanted := given.jobControl ||
          (on && (letter == 'm' || (starting && letter == 'i')))
        readLetters starting on { given with jobControl := wanted } letters

/-- Reads the settings at the start of arguments. -/
def readSettings (starting : Bool) : Nat → GivenSettings → Step GivenSettings
  | 0, given => return given
  | fuel + 1, given => do
    match given.rest with
    | ['-', '-'] :: rest => return { given with rest := rest, ended := true }
    | ['-'] :: rest =>
      if !starting then
        change fun state =>
          { state with settings := { state.settings with trace := false, verbose := false } }
      return { given with rest := rest }
    | ('-' :: letters) :: rest =>
      readSettings starting fuel (← readLetters starting true { given with rest := rest } letters)
    | ('+' :: letters) :: rest =>
      readSettings starting fuel (← readLetters starting false { given with rest := rest } letters)
    | _ => return given

/-- Refuses job control if it is wanted. -/
def refuseJobControl (given : GivenSettings) : Step Unit := do
  if given.jobControl then complain "can't access tty; job control turned off"

/-- Turns settings on and off, and sets the parameters that have numbers. -/
def «set» : Builtin := fun args => do
  if args.isEmpty then
    let entries := (← state).vars.entries
    return ← writeLines (entries.filterMap fun (name, entry) =>
      entry.value.map fun value => name ++ ['='] ++ quoted value)
  let given ← readSettings false (args.length + 1) { rest := args }
  refuseJobControl given
  if given.ended || !given.rest.isEmpty then
    change fun state => { state with args := given.rest }
  return 0

/-! ### The working directory -/

/-- A path as it is written. -/
def pathText (path : Path) : Text := Octets.ofText ('/' :: Text.join ['/'] path)

/-- Shows the working directory. -/
def pwd : Builtin := fun args => do
  let _ ← options "LP" "" args
  writeLines [pathText (← act Action.world).directory]

/-- Changes the working directory. -/
def cd : Builtin := fun args => do
  let (_, args) ← options "LP" "" args
  let state ← state
  let back := args.head? = some ['-']
  let target := match args with
    | [] => (state.value? "HOME").getD []
    | ['-'] :: _ => (state.value? "OLDPWD").getD []
    | target :: _ => target
  let w ← act Action.world
  if !target.isEmpty then
    match w.changeDirectory (Octets.toText target) with
    | .error _ => fail ("can't cd to " ++ target)
    | .ok after =>
      act (Action.setWorld after)
      assignExported "OLDPWD" (pathText w.directory)
      assignExported "PWD" (pathText after.directory)
  if back then writeLines [pathText (← act Action.world).directory] else return 0

/-! ### Signals and other processes -/

/-- The names of the signals from one on; some have none. -/
def signalNames : List Text :=
  ["HUP", "INT", "QUIT", "ILL", "TRAP", "ABRT", "BUS", "FPE", "KILL", "USR1", "SEGV", "USR2",
    "PIPE", "ALRM", "TERM", "16", "CHLD", "CONT", "STOP", "TSTP", "TTIN", "TTOU", "URG",
    "XCPU", "XFSZ", "VTALRM", "PROF", "WINCH", "IO", "PWR", "SYS"]

/-- The number of signals. -/
def signalCount : Nat := 65

/-- The first of the signals that have no meaning of their own. -/
def firstFreeSignal : Nat := 34

/-- The name of a signal. -/
def signalName (signal : Nat) : Text :=
  let last := signalCount - 1
  if signal = 0 then "EXIT"
  else if signal < firstFreeSignal then (signalNames[signal - 1]?).getD (Text.ofNat signal)
  else if signal = firstFreeSignal then "RTMIN"
  else if signal = last then "RTMAX"
  else if signal - firstFreeSignal < 16 then "RTMIN+" ++ Text.ofNat (signal - firstFreeSignal)
  else "RTMAX-" ++ Text.ofNat (last - signal)

/-- The number of a signal that is written as a number or by its name. -/
def signalOf? (written : Text) (least : Nat) : Option Nat :=
  match Text.digitsValue? written with
  | some n => if n < signalCount then some n else none
  | none =>
    let name := written.map Char.toUpper
    if name = ("EXIT" : Text) && least = 0 then some 0
    else (List.range' 1 (signalCount - 1)).find? (signalName · == name)

/-- Sets what is run when signals arrive. -/
def trapAll (action : Option Text) : List Text → Step Nat
  | [] => return 0
  | written :: rest => do
    match signalOf? written 0 with
    | none =>
      report ("trap: " ++ written ++ ": bad trap")
      return 1
    | some signal =>
      change fun state =>
        { state with
          traps := (state.traps.filter (·.1 ≠ signal)) ++ (action.map (signal, ·)).toList }
      trapAll action rest

/-- Sets or shows what is run when signals arrive. -/
def trap : Builtin := fun args => do
  let (_, args) ← options "" "" args
  match args with
  | [] =>
    let traps := (← state).traps.mergeSort fun a b => decide (a.1 ≤ b.1)
    writeLines (traps.map fun (signal, action) =>
      "trap -- ".toList ++ quoted action ++ [' '] ++ signalName signal)
  | [signal] => trapAll none [signal]
  | action :: signals => trapAll (if action = ['-'] then none else some action) signals

/-- A signal that the script has sent to itself arrives. -/
def arrive (signal : Nat) : Step Unit := do
  match (← state).current.stance.effect signal with
  | .nothing => return ()
  | .tells => change fun state => { state with arrived := state.arrived ++ [signal] }
  | .ends => throw (.ended (.killed signal))

/-- The command at the side that a text names. -/
def jobOf (written : Text) : Step Job := do
  let jobs := (← state).jobs
  let orFail (job : Option Job) (message : Text) : Step Job :=
    match job with
    | some job => return job
    | none => fail message
  let missing : Text := "No such job: " ++ written
  match written with
  | ['%'] | ['%', '%'] | ['%', '+'] => orFail jobs.head? "No current job"
  | ['%', '-'] => orFail jobs[1]? "No previous job"
  | '%' :: place =>
    orFail ((Text.digitsValue? place).bind fun n => jobs.find? (·.place == n)) missing
  | _ => fail missing

/-- What the user is told about the use of the command that sends signals. -/
def killUsage : Text :=
  "Usage: kill [-s sigspec | -signum | -sigspec] [pid | job]... or\nkill -l [exitstatus]"

/-- The process that a text names, if there can be one. Groups of processes have no
members. -/
def processOf? (written : Text) : Step (Option Nat) := do
  match written with
  | '%' :: _ =>
    let _ ← jobOf written
    return none
  | '-' :: group =>
    let _ ← numberOf group
    return none
  | written => return some (← numberOf written)

/-- Sends a signal to a process, and says whether it is there. -/
def sendTo (signal number : Nat) : Step Bool := do
  if number = (← state).task.number then
    arrive signal
    return true
  else return (← ask (.send number signal)) == .done

/-- Sends a signal to processes; the status says whether all of them are there. -/
def sendAll (signal : Nat) (status : Nat) : List Text → Step Nat
  | [] => return status
  | written :: rest => do
    let isThere ← match ← processOf? written with
      | some number => sendTo signal number
      | none => pure false
    if isThere then sendAll signal status rest
    else
      complain "No such process\n"
      sendAll signal 1 rest

/-- Shows the names of signals. -/
def listSignals (args : List Text) : Step Nat := do
  match args with
  | [] =>
    writeLines (['0'] :: (List.range (signalCount - 1)).map fun n => signalName (n + 1))
  | arg :: _ =>
    let n ← numberOf arg
    let signal := if 128 < n then n - 128 else n
    if 0 < signal && signal < signalCount then writeLines [signalName signal]
    else fail ("invalid signal number or exit status: " ++ arg)

/-- Sends signals. -/
def kill : Builtin := fun args => do
  let direct := match args with
    | ('-' :: written) :: _ => signalOf? written 1
    | _ => none
  match direct with
  | some signal =>
    let targets := args.drop 1
    if targets.isEmpty then fail killUsage else sendAll signal 0 targets
  | none =>
    let (options, targets) ← options "l" "s" args
    let isList := options.any (·.1 == 'l')
    let signals ← options.filterMapM fun (letter, value) => do
      if letter ≠ 's' then return none
      match signalOf? value 1 with
      | some signal => return some signal
      | none => fail ("invalid signal number or name: " ++ value)
    if isList then listSignals targets
    else if targets.isEmpty then fail killUsage
    else sendAll (signals.getLast?.getD 15) 0 targets

/-- What the user is told about a process that a signal ended. -/
def signalText? : Nat → Option Text
  | 1 => some "Hangup"
  | 3 => some "Quit"
  | 4 => some "Illegal instruction"
  | 5 => some "Trace/breakpoint trap"
  | 6 => some "Aborted"
  | 7 => some "Bus error"
  | 8 => some "Floating point exception"
  | 9 => some "Killed"
  | 10 => some "User defined signal 1"
  | 11 => some "Segmentation fault"
  | 12 => some "User defined signal 2"
  | 14 => some "Alarm clock"
  | 15 => some "Terminated"
  | 16 => some "Stack fault"
  | 24 => some "CPU time limit exceeded"
  | 25 => some "File size limit exceeded"
  | 26 => some "Virtual timer expired"
  | 27 => some "Profiling timer expired"
  | 29 => some "I/O possible"
  | 30 => some "Power failure"
  | 31 => some "Bad system call"
  | _ => none

/-- The status of a command that is not at the side. -/
def missingJob : Nat := 127

/-- The number of the status of a process that the script waited for. The user is told
about a signal. -/
def settled (status : Status) : Step Nat := do
  if let .killed signal := status then
    if let some text := signalText? signal then report text
  return statusNumber status

/-- Changes what is known about a command at the side. -/
def changeJob (number : Nat) (f : Job → Job) : Step Unit :=
  change fun state =>
    { state with jobs := state.jobs.map fun job => if job.number = number then f job else job }

/-- Waits for a command at the side, unless a signal comes first. -/
def awaitJob (job : Job) : Step (Option Status) := do
  let status ← match job.status with
    | some status => pure (some status)
    | none =>
      match ← ask (.await job.number true) with
      | .ended status => pure (some status)
      | _ => pure none
  if let some status := status then
    changeJob job.number fun job => { job with status := some status, isAwaited := true }
  return status

/-- The status of a command that a signal has interrupted. -/
def interrupted : Step Nat := return 128 + (← state).arrived.getLast?.getD 0

/-- Waits for the commands at the side that texts name. -/
def waitFor (status : Nat) : List Text → Step Nat
  | [] => return status
  | written :: rest => do
    let job ← match written with
      | '%' :: _ => pure (some (← jobOf written))
      | written =>
        let number ← numberOf written
        pure ((← state).jobs.find? (·.number == number))
    match job with
    | none => waitFor status rest
    | some job =>
      match ← awaitJob job with
      | some ended => waitFor (← settled ended) rest
      | none => interrupted

/-- Waits for commands at the side. -/
def waitAll : List Job → Step Nat
  | [] => return 0
  | job :: rest => do
    match ← awaitJob job with
    | some _ => waitAll rest
    | none => interrupted

/-- Waits for commands that run at the side. -/
def wait : Builtin := fun args => do
  let (_, args) ← options "" "" args
  if args.isEmpty then waitAll (← state).jobs else waitFor missingJob args

/-- The letters of the rights in a mask. -/
def rights (mask : Nat) : Text :=
  let three (n : Nat) : Text :=
    (if n / 4 % 2 = 0 then ['r'] else []) ++ (if n / 2 % 2 = 0 then ['w'] else []) ++
      (if n % 2 = 0 then ['x'] else [])
  "u=".toList ++ three (mask / 64) ++ ",g=".toList ++ three (mask / 8) ++ ",o=".toList ++ three mask

/-- The places that letters name, with a bit for each; no letters name them all. -/
def placesOf (letters : Text) : Nat :=
  let has (c : Char) : Bool := letters.contains c
  if letters.isEmpty || has 'a' then 0o111
  else (if has 'u' then 0o100 else 0) + (if has 'g' then 0o010 else 0) +
    (if has 'o' then 0o001 else 0)

/-- The rights in one place that letters name, given those that there are. -/
def namedRights? (mode : Nat) (letters : Text) : Option Nat :=
  match letters with
  | ['u'] => some (mode / 64 % 8)
  | ['g'] => some (mode / 8 % 8)
  | ['o'] => some (mode % 8)
  | letters =>
    letters.foldl
      (fun rights c =>
        match rights, c with
        | some rights, 'r' => some (rights ||| 4)
        | some rights, 'w' => some (rights ||| 2)
        | some rights, 'x' => some (rights ||| 1)
        | some rights, 'X' | some rights, 's' | some rights, 't' => some rights
        | _, _ => none)
      (some 0)

/-- The rights after a change that is written with letters. -/
def changedRights? (mode : Nat) (clause : Text) : Option Nat := do
  let who := clause.takeWhile fun c => ['u', 'g', 'o', 'a'].contains c
  let places := placesOf who
  match clause.drop who.length with
  | [] => none
  | operator :: letters =>
    let bits := places * (← namedRights? mode letters)
    match operator with
    | '+' => return mode ||| bits
    | '-' => return mode &&& (0o777 - bits)
    | '=' => return (mode &&& (0o777 - places * 7)) ||| bits
    | _ => none

/-- Shows or sets the rights that new files do not get. -/
def umask : Builtin := fun args => do
  let (options, args) ← options "S" "" args
  let mask := (← state).mask
  match args with
  | [] =>
    let digits := [mask / 512 % 8, mask / 64 % 8, mask / 8 % 8, mask % 8].map Nat.digitChar
    writeLines [if options.isEmpty then digits else rights mask]
  | arg :: _ =>
    if (arg.head?.map Char.isDigit).getD false then
      if !arg.all Format.isOctal then fail ("Illegal number: " ++ arg)
      change fun state => { state with mask := Format.digitsValue 8 arg % 512 }
    else
      let mode := (arg.splitOnP (· == ',')).foldl
        (fun mode clause => mode.bind fun mode => changedRights? mode clause) (some (0o777 - mask))
      match mode with
      | some mode => change fun state => { state with mask := 0o777 - mode }
      | none => fail ("Illegal mode: " ++ arg)
    return 0

/-! ### Options of scripts -/

/-- The option of a parameter that begins at a place, if there is one: its letter, its
value if it takes one, and the next place. -/
def nextOption (rules : Text) (args : List Text) (place : Nat × Nat) :
    Option (Char × Option (Option Text) × (Nat × Nat)) := do
  let (index, offset) := place
  let arg ← args[index - 1]?
  let offset ←
    if offset = 0 then
      if arg.head? = some '-' && arg ≠ ['-'] then
        if arg = ['-', '-'] then none else some 1
      else none
    else some offset
  let letter ← arg[offset]?
  let isLast := arg.length ≤ offset + 1
  let after := if isLast then (index + 1, 0) else (index, offset + 1)
  let rule := rules.dropWhile (· != letter)
  if letter = ':' || rule.isEmpty then return (letter, none, after)
  else if rule[1]? ≠ some ':' then return (letter, some none, after)
  else if !isLast then return (letter, some (some (arg.drop (offset + 1))), (index + 1, 0))
  else
    match args[index]? with
    | some value => return (letter, some (some value), (index + 2, 0))
    | none => return (letter, some none, (index + 1, 0))

/-- Reads the next option of the parameters into a variable. -/
def getopts : Builtin := fun args => do
  match args with
  | rules :: name :: given =>
    let state ← state
    let args := if given.isEmpty then state.args else given
    let (silent, rules) := match rules with
      | ':' :: rest => (true, rest)
      | rules => (false, rules)
    match nextOption rules args state.optionPlace with
    | none =>
      let (index, _) := state.optionPlace
      let index := if args[index - 1]? = some ['-', '-'] then index + 1 else index
      assign "OPTIND" (Text.ofNat index)
      Step.unset "OPTARG"
      assign name ['?']
      return 1
    | some (letter, found, place) =>
      assign "OPTIND" (Text.ofNat (if place.2 = 0 then place.1 else place.1 + 1))
      change fun state => { state with optionPlace := place }
      let wantsValue := (rules.dropWhile (· != letter))[1]? = some ':'
      match found with
      | none =>
        if silent then assign "OPTARG" [letter]
        else
          report ("Illegal option -" ++ [letter])
          Step.unset "OPTARG"
        assign name ['?']
        return 0
      | some none =>
        if wantsValue then
          if silent then
            assign "OPTARG" [letter]
            assign name [':']
          else
            report ("No arg for -" ++ [letter] ++ " option")
            Step.unset "OPTARG"
            assign name ['?']
        else
          Step.unset "OPTARG"
          assign name [letter]
        return 0
      | some (some value) =>
        assign "OPTARG" value
        assign name [letter]
        return 0
  | _ => fail "Usage: getopts optstring var [arg...]"

/-- Defines or lists shorthands. The first octet of a word is part of it, whatever it
is. -/
def «alias» : Builtin := fun args => do
  let shown (name value : Text) : Text := name ++ ['='] ++ quoted value
  match args with
  | [] => writeLines ((← state).shorthands.entries.map fun (name, value) => shown name value)
  | _ =>
    let statuses ← args.mapM fun arg => do
      match nameAndValue (arg.drop 1) with
      | (rest, some value) =>
        let name := arg.take 1 ++ rest
        change fun state => { state with shorthands := state.shorthands.insert name value }
        return 0
      | (_, none) =>
        match (← state).shorthands.get? arg with
        | some value => writeLines [shown arg value]
        | none =>
          report ("alias: " ++ arg ++ " not found")
          return 1
    return statuses.foldl max 0

/-- Forgets shorthands. -/
def unalias : Builtin := fun args => do
  let (options, names) ← options "a" "" args
  if !options.isEmpty then
    change fun state => { state with shorthands := {} }
    return 0
  let statuses ← names.mapM fun name => do
    if ((← state).shorthands.get? name).isSome then
      change fun state => { state with shorthands := state.shorthands.erase name }
      return 0
    else
      report ("unalias: " ++ name ++ " not found")
      return 1
  return statuses.foldl max 0

/-- Does nothing, with a status. -/
def constant (status : Nat) : Builtin := fun _ => return status

/-- Goes on with a command at the side, which no script can. -/
def goOn : Builtin := fun args => do
  let (_, args) ← options "" "" args
  let written := args.headD ['%']
  let _ ← jobOf written
  fail ("job " ++ written ++ " not created under job control")

/-- How a command at the side is doing. -/
def jobState (job : Job) : Text :=
  match job.status with
  | none => "Running"
  | some (.exited 0) => "Done"
  | some (.exited code) => "Done(" ++ Text.ofNat code ++ ")"
  | some (.killed 2) => "Interrupt"
  | some (.killed 13) => "Broken pipe"
  | some (.killed signal) => (signalText? signal).getD ("Signal " ++ Text.ofNat signal)

/-- The column in which the text of a command at the side stands. -/
def jobColumn : Nat := 33

/-- The line about a command at the side, of which `rank` are newer. -/
def jobLine (withNumber : Bool) (rank : Nat) (job : Job) : Text :=
  let sign : Char := match rank with
    | 0 => '+'
    | 1 => '-'
    | _ => ' '
  let number : Text := if withNumber then Text.ofNat job.number ++ [' '] else []
  let start := ['['] ++ Text.ofNat job.place ++ [']', ' ', sign, ' '] ++ number ++ jobState job
  let texts : List Text := List.replicate job.parts []
  start ++ List.replicate (max 1 (jobColumn - start.length)) ' ' ++ Text.join " | " texts

/-- Shows commands at the side. What has ended is then forgotten. -/
def jobs : Builtin := fun args => do
  let (options, args) ← options "lp" "" args
  for job in (← state).jobs do
    if job.status.isNone then
      if let .ended status ← ask (.poll job.number) then
        changeJob job.number fun job => { job with status := some status }
  let named ← args.mapM fun arg => return (← jobOf arg).place
  let all := (← state).jobs
  let shown := if args.isEmpty then all.map (·.place) else named
  let rest := all.filter fun job => !(shown.contains job.place && job.status.isSome)
  change fun state => { state with jobs := rest }
  writeLines (shown.filterMap fun place =>
    (all.findIdx? (·.place == place)).bind fun rank => (all[rank]?).map fun job =>
      if options.any (·.1 == 'p') then Text.ofNat job.number
      else jobLine (options.any (·.1 == 'l')) rank job)

/-- Shows the time that was used, which is none. -/
def times : Builtin := fun _ =>
  writeLines ["0m0.000000s 0m0.000000s", "0m0.000000s 0m0.000000s"]

/-- The commands that a script runs itself. -/
def table : List (String × Builtin) :=
  [("echo", echo), ("printf", printf), ("test", test), ("[", bracket), ("read", read),
    ("export", «export»), ("readonly", readonly), ("unset", «unset»), ("local", «local»),
    ("shift", shift), ("set", «set»), ("pwd", pwd), ("cd", cd), ("chdir", cd), ("trap", trap),
    ("kill", kill), ("wait", wait), ("umask", umask), ("getopts", getopts), ("alias", «alias»),
    ("unalias", unalias), (":", constant 0), ("true", constant 0), ("false", constant 1),
    ("jobs", jobs), ("ulimit", constant 0), ("bg", goOn), ("fg", goOn), ("times", times)]

end Builtin

end Conch.Program.Script
