import Conch.Error.Io
import Conch.Error.Usage
import Conch.Scope.Variables
import Conch.Token.Group

/-!
Why an evaluation fails. A failure inside a built-in command or a substitution is
wrapped, once for each that it passes on its way out; a cancellation never is.
-/

namespace Conch

/-- Why a process did not do its work. -/
inductive ProcessFault where
  /-- It could not be started. -/
  | os (error : OsError)
  /-- Its name or one of its arguments holds the character with code zero. -/
  | nulInArgument
  /-- It ended with a status other than zero. -/
  | status (code : Nat)
  /-- It was ended by a signal. -/
  | signal
  deriving DecidableEq, Repr

/-- What the user is told. -/
def ProcessFault.message : ProcessFault → Text
  | .os error => error.message
  | .nulInArgument => "nul byte found in provided data"
  | .status code => "exit status " ++ Text.ofNat code
  | .signal => "terminated by signal"

/-- Why an evaluation fails. -/
inductive ShellError where
  | lex (error : LexError)
  | unterminated (opener closer : Char)
  /-- A failure inside the substitution with the given body. -/
  | substitution (body : Text) (source : ShellError)
  /-- A chain of aliases that is refused. -/
  | aliasCycle (chain : List Text)
  | commandNotFound (name : Text)
  /-- A failure inside the built-in command that was called by the given name. -/
  | builtin (name : Text) (source : ShellError)
  | process (name : Text) (fault : ProcessFault)
  | variable (error : VariableError)
  | usage (error : UsageError)
  /-- A descriptor that is not bound, and the number of places for extra ones. -/
  | notBound (fd places : Nat)
  | io (error : IoError)
  | cancelled
  deriving DecidableEq, Repr

namespace ShellError

/-- What the user is told. -/
def message : ShellError → Text
  | .lex error => "lex error: " ++ error.text
  | .unterminated opener closer =>
    "'" ++ [opener] ++ "' not terminated: missing '" ++ [closer] ++ "'"
  | .substitution body source => "substitution (" ++ body ++ ") failed: " ++ source.message
  | .aliasCycle chain => "alias cycle: " ++ Text.join " -> " chain
  | .commandNotFound name => "command not found: " ++ name
  | .builtin name source => "internal exec error: " ++ name ++ ": " ++ source.message
  | .process name fault => "exec error: " ++ name ++ ": " ++ fault.message
  | .variable error => error.message
  | .usage error => error.message
  | .notBound fd places =>
    "descriptor " ++ Text.ofNat fd ++ " is not bound (" ++ Text.ofNat places ++
      " extra descriptors available)"
  | .io error => "io error: " ++ error.message
  | .cancelled => "cancelled"

/-- The failure that an expression which cannot be parsed leads to. -/
def ofParse : ParseError → ShellError
  | .lex error => .lex error
  | .unterminated opener closer => .unterminated opener closer

/-- The failure as seen outside the built-in command `name`. -/
def inBuiltin (name : Text) : ShellError → ShellError
  | .cancelled => .cancelled
  | error => .builtin name error

/-- The failure as seen outside the substitution with the given body. -/
def inSubstitution (body : Text) : ShellError → ShellError
  | .cancelled => .cancelled
  | error => .substitution body error

/-- The failure and those inside it, the outermost first. -/
def chain : ShellError → List ShellError
  | .substitution body source => .substitution body source :: source.chain
  | .builtin name source => .builtin name source :: source.chain
  | error => [error]

end ShellError

end Conch
