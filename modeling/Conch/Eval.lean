import Conch.Builtin.Control
import Conch.Builtin.Names
import Conch.Builtin.Output
import Conch.Process.Launch
import Conch.Scope.Alias
import Conch.Text.Captured
import Conch.Token.Parser

/-!
Evaluation of expressions. The statements of an expression are evaluated one after
another until one fails or ends the shell. The tokens of a statement become its
arguments, substitutions by what they write. The first argument names an alias,
which is expanded with the other arguments behind it, or else a built-in command
or a program.

Evaluations nest without bound, so an evaluation is given the depth to which it
may nest; all of them are built from one step, which is given how to evaluate what
is nested in it.
-/

namespace Conch

/-- How tokens are evaluated in a context. -/
abbrev TokenEvaluator := Context → List Token → Action Flow

/-- How a command is run in a context, by its name and its arguments. -/
abbrev Runner := Context → Text → List Text → Action Flow

namespace Eval

/-- The tokens of an expression, or a failure. -/
def parse (expr : Text) : Action (List Token) :=
  match Token.parse expr with
  | .ok tokens => Action.pure tokens
  | .error error => Action.fail (.ofParse error)

/-- Evaluates an expression, given how to evaluate its tokens. -/
def text (nested : TokenEvaluator) (ctx : Context) (expr : Text) : Action Flow := do
  let tokens ← parse expr
  nested ctx tokens

/-- Evaluates the body of a substitution and makes what it writes one argument. -/
def substitution (nested : TokenEvaluator) (ctx : Context) (body : Text) :
    Action (Text × Flow) := do
  let inside := { ctx with stdout := .outlet 1 }
  let (flow, written) ←
    Action.mapError (.inSubstitution body) (Action.capture 1 (text nested inside body))
  return (written.asArgument, flow)

/-- The arguments of a statement; nothing if a substitution ends the shell. -/
def arguments (nested : TokenEvaluator) (ctx : Context) :
    List Token → Action (Option (List Text))
  | [] => pure (some [])
  | token :: rest => do
    if token.kind = .substitution then
      match ← substitution nested ctx token.value with
      | (_, .exit) => return none
      | (value, .proceed) => return (← arguments nested ctx rest).map (value :: ·)
    else return (← arguments nested ctx rest).map (token.value :: ·)

/-- What the name of a command stands for in a context. An alias that is being
expanded stands for itself. -/
def expansion? (ctx : Context) (scope : Scope) (name : Text) : Except ShellError (Option Text) :=
  if ctx.isExpanding name then .ok none else (scope.resolve? name).mapError .aliasCycle

/-- Evaluates the command that the arguments of a statement name. -/
def command (nested : TokenEvaluator) (run : Runner) (ctx : Context) (name : Text)
    (args : List Text) : Action Flow := do
  if name.isEmpty then return .proceed
  match ← expansion? ctx (← Action.scope) name with
  | some target =>
    let tokens ← parse target
    nested (ctx.expand name) (tokens ++ args.map .literal)
  | none => run ctx name args

/-- Evaluates one statement. -/
def statement (nested : TokenEvaluator) (run : Runner) (ctx : Context) (tokens : List Token) :
    Action Flow := do
  match ← arguments nested ctx tokens with
  | none => return .exit
  | some [] => return .proceed
  | some (name :: args) => command nested run ctx name args

/-- Evaluates statements in order. -/
def statements (nested : TokenEvaluator) (run : Runner) (ctx : Context) :
    List (List Token) → Action Flow
  | [] => pure .proceed
  | first :: rest => do
    Action.checkCancelled ctx
    match ← statement nested run ctx first with
    | .exit => return .exit
    | .proceed => statements nested run ctx rest

/-- Evaluates tokens to a depth, given how commands are run. A command that evaluates
expressions is given the evaluator of the depth below. -/
def tokens (run : Builtin.Evaluator → Runner) : Nat → TokenEvaluator
  | 0 => fun _ _ => Action.unfinished
  | depth + 1 =>
    let nested := tokens run depth
    fun ctx list => statements nested (run (text nested)) ctx (Token.statements list)

end Eval

/-- Runs a built-in command that was called by `name`. -/
def Builtin.run (evaluate : Builtin.Evaluator) (ctx : Context) (name : Text) (args : List Text) :
    Builtin → Action Flow
  | .help => runHelp ctx args
  | .echo => runEcho ctx name args
  | .cat => runCat ctx name args
  | .cd => runCd args
  | .exit => runExit args
  | .alias => runAlias ctx name args
  | .var => runVar ctx name args
  | .fn => runFn args
  | .arg => runArg ctx name args
  | .return => runReturn ctx name args
  | .eval => runEval evaluate ctx name args
  | .pipe => runPipe evaluate ctx name args
  | .utility u => runUtility u ctx args
  | .join => runJoin ctx name args
  | .repeat => runRepeat ctx args
  | .replace => runReplace ctx name args

namespace Eval

/-- Runs a command: the built-in one of that name, or else a program, which the launcher starts. -/
def dispatch (launcher : Process.Launcher) (evaluate : Builtin.Evaluator) : Runner :=
  fun ctx name args => do
    Action.emit (.started name args)
    match Builtin.ofName? name with
    | some builtin => Action.mapError (.inBuiltin name) (builtin.run evaluate ctx name args)
    | none =>
      Process.launch launcher ctx name args
      return .proceed

/-- The depth to which the shell nests evaluations. -/
def depthLimit : Nat := 10000

/-- Evaluates tokens. -/
def evalTokens (ctx : Context) (list : List Token) : Action Flow :=
  tokens (dispatch Process.start) depthLimit ctx list

/-- Evaluates an expression. -/
def eval (ctx : Context) (expr : Text) : Action Flow :=
  text (tokens (dispatch Process.start) depthLimit) ctx expr

/-- Evaluates an expression and makes what it writes one argument. -/
def substitute (ctx : Context) (expr : Text) : Action (Text × Flow) :=
  substitution (tokens (dispatch Process.start) depthLimit) ctx expr

end Eval

end Conch
