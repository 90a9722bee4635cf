import Conch.Config
import Conch.Eval
import Conch.Front.Arguments
import Conch.Front.History
import Conch.Front.Typed

/-!
The shell as the user starts it: with one expression, with a script, or to read
lines until the input ends. Each line is evaluated with a cancel token of its own,
which is in the foreground for as long as the line is.
-/

namespace Conch.Front

/-- The name and the version of the shell. -/
def title : Text := "lalash 0.1.0"

/-- What the shell prints about its use. -/
def helpText : Text :=
  Text.join "\n" [
    title ++ " - a small interactive shell",
    "",
    "USAGE:",
    "    lalash                  Start interactive REPL",
    "    lalash -c <expr>        Evaluate one expression",
    "    lalash -s <file>        Run a script, one expression per line",
    "    lalash <file>           Same as -s <file>",
    "    lalash --help           Show this help message",
    "    lalash --version        Show version",
    "",
    "SYNTAX:",
    "    a b; c d                Two statements",
    "    \x7b ... \x7d                 Raw text, never expanded",
    "    ( ... )                 Substitution: output becomes one argument",
    "    \"...\"                   Quoted text",
    "    # ...                   Comment to end of line",
    "",
    "ENVIRONMENT:",
    "    LALASH_HISTORY          History file (default: $TMPDIR/.lalash_history)",
    "    LALASH_RC               Startup script (default: ~/.lalashrc)",
    "    LALASH_PROMPT           Prompt (default: \"$ \")",
    "    LALASH_LOG              Log filter (default: warn)",
    "    LALASH_ALIAS_DEPTH      Longest alias chain followed (default: 64)",
    "",
    "Type `l-help` in the shell for the list of built-ins."]

/-- Prints a line for the user to read. -/
def print (line : Text) : Action Unit := Action.writeLine (.standard 1) line

/-- Prints a line about something that went wrong. -/
def complain (line : Text) : Action Unit := Action.writeLine (.standard 2) line

/-- Evaluates a line in the foreground. -/
def evaluateLine (line : Text) : Action (Except ShellError Flow) := do
  let w ← Action.world
  let (token, tokens) := w.tokens.make
  Action.setWorld { w with tokens := tokens.setForeground token }
  let result ← Action.attempt (Eval.eval (.ofShell token) line)
  let w ← Action.world
  Action.setWorld { w with tokens := w.tokens.clearForeground }
  return result

/-- The status with which the shell ends. -/
inductive ExitCode where
  | success
  | failure
  /-- The arguments of the shell make no sense. -/
  | misuse
  deriving DecidableEq, Repr

/-- The number that the system is given for a status. -/
def ExitCode.number : ExitCode → Nat
  | .success => 0
  | .failure => 1
  | .misuse => 2

/-- Evaluates one expression. -/
def runCommand (expr : Text) : Action ExitCode := do
  match ← evaluateLine expr with
  | .ok _ => return .success
  | .error error =>
    complain ("Error: " ++ error.message)
    return .failure

/-- The lines of a script that are neither blank nor comments, trimmed, with their
numbers counted from one. -/
def scriptLines (content : Text) : List (Nat × Text) :=
  let numbered := (Text.lines content).mapIdx fun index line => (index + 1, Text.trim line)
  numbered.filter fun (_, line) => !line.isEmpty && line.head? != some '#'

/-- The content of a file that has to be a text. -/
def readText (w : World) (path : Text) : Except IoError Text := do
  let bytes ← w.readFile path
  match Bytes.toText? bytes with
  | some content => return content
  | none => throw .notText

/-- Evaluates the lines of a script until one fails or ends the shell. -/
def runScriptLines (path : Text) : List (Nat × Text) → Action ExitCode
  | [] => pure .success
  | (number, line) :: rest => do
    match ← evaluateLine line with
    | .ok .proceed => runScriptLines path rest
    | .ok .exit => return .success
    | .error error =>
      complain ("Error: " ++ path ++ " line " ++ Text.ofNat number ++ ": " ++ error.message)
      return .failure

/-- Evaluates a script. -/
def runScript (path : Text) : Action ExitCode := do
  match readText (← Action.world) path with
  | .ok content => runScriptLines path (scriptLines content)
  | .error error =>
    complain ("Error: " ++ path ++ ": " ++ error.message)
    return .failure

/-- Evaluates the lines of a startup file until one ends the shell. A line that fails
is reported and passed over. -/
def runStartupLines (path : Text) : List (Nat × Text) → Action Flow
  | [] => pure .proceed
  | (number, line) :: rest => do
    match ← evaluateLine line with
    | .ok .proceed => runStartupLines path rest
    | .ok .exit => return .exit
    | .error error =>
      complain ("Warning: " ++ path ++ " line " ++ Text.ofNat number ++ ": " ++ error.message)
      runStartupLines path rest

/-- Evaluates the startup file, if there is one that can be read. -/
def runStartup (config : Config) : Action Flow := do
  match config.startupPath with
  | none => return .proceed
  | some path =>
    match readText (← Action.world) path with
    | .ok content => runStartupLines path (scriptLines content)
    | .error _ => return .proceed

/-- A line of input as it was typed. -/
inductive InputLine where
  | line (text : Text)
  /-- The input has ended. -/
  | endOfInput
  /-- The line is not a text. -/
  | notText
  deriving DecidableEq, Repr

/-- A line without its line end. -/
def withoutLineEnd (line : Text) : Text :=
  match Text.beforeEnd? ['\n'] line with
  | some line => (Text.beforeEnd? ['\r'] line).getD line
  | none => line

/-- Reads a line of input, after the prompt if the terminal cannot edit lines. -/
def readInputLine (config : Config) (plainTerminal : Bool) : Action InputLine := do
  if plainTerminal then Action.write (.standard 1) config.prompt.utf8
  let w ← Action.world
  let (bytes, terminal) := w.terminal.readLine
  Action.setWorld { w with terminal := terminal }
  if bytes.isEmpty then return .endOfInput
  match Bytes.toText? bytes with
  | some line => return .line (withBackspaces (withoutLineEnd line))
  | none => return .notText

/-- Reads and evaluates at most `fuel` lines, and yields the lines typed. -/
def readLoop (config : Config) (plainTerminal : Bool) : Nat → History → Action History
  | 0, history => pure history
  | fuel + 1, history => do
    match ← readInputLine config plainTerminal with
    | .endOfInput => return history
    | .notText =>
      complain ("REPL error: " ++ IoError.notText.message)
      return history
    | .line line =>
      let line := Text.trim line
      if line.isEmpty then readLoop config plainTerminal fuel history
      else
        let history := history.add line
        match ← evaluateLine line with
        | .ok .exit => return history
        | .ok .proceed => readLoop config plainTerminal fuel history
        | .error error =>
          complain ("Error: " ++ error.message)
          readLoop config plainTerminal fuel history

/-- Writes the history to its file, if there is something new in it. A file that
cannot be written is left alone. -/
def saveHistory (config : Config) (history : History) : Action Unit := do
  if history.entries.isEmpty ∨ history.unsaved = 0 then return ()
  match (← Action.world).openWrite config.historyPath .write with
  | .error _ => return ()
  | .ok (w, channel) =>
    match w.volume.write channel history.file with
    | .ok (volume, _) => Action.setWorld { w with volume := volume }
    | .error _ => return ()

/-- Reads lines until the input or the shell ends. Each line has at least one byte,
which bounds their number. -/
def runInteractive (config : Config) (plainTerminal : Bool) : Action Unit := do
  let w ← Action.world
  let history :=
    match w.readFile config.historyPath with
    | .ok bytes => History.load {} bytes
    | .error _ => {}
  let bound := w.terminal.buffered.length + w.terminal.waiting.length + 1
  let history ← readLoop config plainTerminal bound history
  saveHistory config history

/-- The terminals that cannot edit lines. -/
def plainTerminals : List Text := ["dumb", "cons25", "emacs"]

/-- The settings that the environment of the shell asks for. -/
def configOf (environment : Table Text) : Config :=
  Config.ofVariables ((environment.get? "TMPDIR").getD Config.temporaryDirectory) environment.get?

/-- Does what the arguments of the shell ask for, in a fresh scope. -/
def runArguments (args : List Text) : Action ExitCode := do
  let environment := (← Action.world).environment
  let config := configOf environment
  Action.setScope { aliasDepth := config.aliasDepth }
  match Arguments.read args with
  | .error error =>
    complain ("lalash: " ++ error.message)
    complain "Try 'lalash --help' for more information."
    return .misuse
  | .ok arguments =>
    if arguments.help then
      print helpText
      return .success
    else if arguments.version then
      print title
      return .success
    else
      match arguments.command, arguments.script with
      | some expr, _ => runCommand expr
      | none, some path => runScript path
      | none, none =>
        match ← runStartup config with
        | .exit => return .success
        | .proceed =>
          let terminal := ((environment.get? "TERM").getD []).map Char.toLower
          runInteractive config (plainTerminals.contains terminal)
          return .success

/-- Runs the shell with its arguments, and waits until nobody else holds its outputs. -/
def run (args : List Text) : Action ExitCode := do
  let code ← runArguments args
  Action.arrive (← Action.world).heldUntil
  return code

end Conch.Front
