import Conch.Action
import Conch.Builtin.Basic
import Conch.Flags
import Conch.Route

/-!
The built-in commands that evaluate expressions or change where and how the shell
goes on: evaluation, pipes, the working directory, and the end of the shell.

A command that evaluates is given the evaluator, which takes a context and an
expression.
-/

namespace Conch.Builtin

/-- How an expression is evaluated in a context. -/
abbrev Evaluator := Context → Text → Action Flow

/-- Makes a directory the working directory. -/
def enterDirectory (w : World) (directory : Text) : Action Flow := do
  Action.emit (.sought w.directory directory)
  match w.changeDirectory directory with
  | .ok w =>
    Action.setWorld w
    return .proceed
  | .error error => Action.fail (.io (.at directory error))

/-- Changes the working directory; without an argument, to the home directory. -/
def runCd (args : List Text) : Action Flow := do
  let w ← Action.world
  match args, w.home with
  | [], some home => enterDirectory w home
  | [], none => Action.fail (.usage .homeNotSet)
  | [directory], _ => enterDirectory w directory
  | _, _ => Action.fail (.usage (.argumentCount 1 args.length cd.usage))

/-- Ends the shell. -/
def runExit (args : List Text) : Action Flow := do
  checkArguments exit.usage args 0
  Action.emit .exited
  return .exit

/-- Evaluates an expression; with arguments, or when asked to, as a function call. -/
def runEval (evaluate : Evaluator) (ctx : Context) (name : Text) (args : List Text) :
    Action Flow := do
  let flags ← Flags.parse name eval.usage [("fn", .switch)] args
  match flags.rest with
  | [] => Action.fail (.usage (.nothingToEvaluate eval.usage))
  | expr :: callArgs =>
    if !flags.isOn "fn" && callArgs.isEmpty then evaluate ctx expr
    else Action.call callArgs (evaluate ctx expr)

/-- The context of the right side of a route, which reads the channel with the number
of the descriptor. -/
def rightContext (ctx : Context) (fd : Nat) : Context :=
  if fd = 0 then { ctx with stdin := .channel 0 } else ctx.bind fd (.channel fd)

/-- Runs the left side, and then the right side on what the left side wrote. -/
def runRoute (evaluate : Evaluator) (ctx : Context) (left right : Text) (route : Route) :
    Action Flow := do
  let leftContext ← ctx.redirect route.source (.outlet route.source)
  let (flow, written) ← Action.capture route.source (evaluate leftContext left)
  match flow with
  | .exit => return .exit
  | .proceed =>
    Action.withChannel route.target (.pipe written)
      (evaluate (rightContext ctx route.target) right)

/-- Runs both sides for each route in order, until one of them ends the shell. -/
def runRoutes (evaluate : Evaluator) (ctx : Context) (left right : Text) :
    List Route → Action Flow
  | [] => pure .proceed
  | route :: routes => do
    match ← runRoute evaluate ctx left right route with
    | .exit => return .exit
    | .proceed => runRoutes evaluate ctx left right routes

/-- Evaluates an expression that reads a file. -/
def runFrom (evaluate : Evaluator) (ctx : Context) (path expr : Text) : Action Flow := do
  let w ← Action.world
  Action.emit (.sought w.directory path)
  match w.openRead path with
  | .error error => Action.fail (.io (.at path error))
  | .ok channel => Action.withChannel 0 channel (evaluate { ctx with stdin := .channel 0 } expr)

/-- Evaluates an expression that writes a file, which is emptied first. -/
def runInto (evaluate : Evaluator) (ctx : Context) (path expr : Text) : Action Flow := do
  let w ← Action.world
  Action.emit (.sought w.directory path)
  match w.openWrite path .write with
  | .error error => Action.fail (.io (.at path error))
  | .ok (w, channel) =>
    Action.setWorld w
    Action.withChannel 1 channel (evaluate { ctx with stdout := .channel 1 } expr)

/-- Connects two expressions, or an expression and a file. -/
def runPipe (evaluate : Evaluator) (ctx : Context) (name : Text) (args : List Text) :
    Action Flow := do
  let flags ←
    Flags.parse name pipe.usage [("p", .valued), ("in", .valued), ("out", .valued)] args
  let first := flags.rest.getD 0 []
  match flags.value? "in", flags.value? "out" with
  | some _, some _ => Action.fail (.usage .pipeInAndOut)
  | none, none =>
    checkArguments pipe.usage flags.rest 2
    let routes ←
      match flags.value? "p" with
      | some spec => Action.ofExcept (Route.parse spec)
      | none => Action.pure Route.standard
    runRoutes evaluate ctx first (flags.rest.getD 1 []) routes
  | input, output =>
    if (flags.value? "p").isSome then Action.fail (.usage .pipeRouteAndFile)
    else
      checkArguments pipe.usage flags.rest 1
      match input, output with
      | some path, _ => runFrom evaluate ctx path first
      | none, some path => runInto evaluate ctx path first
      | none, none => evaluate ctx first

end Conch.Builtin
