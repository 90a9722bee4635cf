import Conch.Action
import Conch.Builtin.Basic
import Conch.Builtin.Output
import Conch.Flags

/-!
The built-in commands that define names: aliases, functions, variables, and the
arguments and results of function calls.
-/

namespace Conch.Builtin

/-- A name and what it stands for, as lists show it. -/
def entryLine (entry : Text × Text) : Text := entry.1 ++ " : " ++ entry.2

/-- Defines, removes or lists aliases. -/
def runAlias (ctx : Context) (name : Text) (args : List Text) : Action Flow := do
  let flags ← Flags.parse name alias.usage [("unset", .switch), ("show", .switch)] args
  match flags.isOn "unset", flags.isOn "show" with
  | true, true => Action.fail (.usage .aliasUnsetAndShow)
  | true, false =>
    checkArguments alias.usage flags.rest 1
    Action.setScope ((← Action.scope).removeAlias (flags.rest.getD 0 []))
    return .proceed
  | false, true =>
    checkArguments alias.usage flags.rest 0
    writeLines ctx.stdout ((← Action.scope).aliases.entries.map entryLine)
    return .proceed
  | false, false =>
    checkArguments alias.usage flags.rest 2
    Action.setScope ((← Action.scope).setAlias (flags.rest.getD 0 []) (flags.rest.getD 1 []))
    return .proceed

/-- The expression that a function with the given body stands for. -/
def functionTarget (body : Text) : Text := "l-eval --fn \x7b" ++ body ++ "\x7d"

/-- Defines a function. -/
def runFn (args : List Text) : Action Flow := do
  checkArguments fn.usage args 2
  Action.setScope
    ((← Action.scope).setAlias (args.getD 0 []) (functionTarget (args.getD 1 [])))
  return .proceed

/-- What a command on variables is asked to do. -/
inductive VariableOperation where
  | defineMutable
  | ref
  | change
  | delete
  | list
  | check
  deriving DecidableEq, Repr

/-- The operations in the order in which a clash of two of them is reported. -/
def VariableOperation.all : List VariableOperation :=
  [.defineMutable, .ref, .change, .delete, .list, .check]

/-- The flag that asks for an operation. -/
def VariableOperation.flag : VariableOperation → Text
  | .defineMutable => "mut"
  | .ref => "ref"
  | .change => "ch"
  | .delete => "del"
  | .list => "show"
  | .check => "check"

/-- Whether an operation looks at the frame and the shell alike. -/
def VariableOperation.isLevelless : VariableOperation → Bool
  | .ref | .check | .list => true
  | _ => false

/-- One section of a list of variables. -/
def variableSection (title : Text) (entries : List (Text × Text)) : Text :=
  ("[" : Text) ++ title ++ "]\n" ++ entries.flatMap fun entry => entryLine entry ++ ['\n']

/-- All variables, one section for each table, with an empty line between sections. -/
def variableListing (scope : Scope) : Text :=
  Text.join "\n" (scope.sections.map fun (title, entries) => variableSection title entries)

/-- Goes on with a new scope, or fails. -/
def keepScope : Except VariableError Scope → Action Unit
  | .ok scope => Action.setScope scope
  | .error error => Action.fail (.variable error)

/-- Defines a variable of the chosen kind. -/
def runDefine (level : Level) (isMutable : Bool) (args : List Text) : Action Unit := do
  checkArguments var.usage args 2
  keepScope ((← Action.scope).define level (args.getD 0 []) (args.getD 1 []) isMutable)

/-- Does one operation on variables; without an operation it defines an immutable
variable. -/
def runVariableOperation (ctx : Context) (level : Level) (args : List Text) :
    Option VariableOperation → Action Unit
  | none => runDefine level false args
  | some .defineMutable => runDefine level true args
  | some .ref => do
    checkArguments var.usage args 1
    match (← Action.scope).lookup? (args.getD 0 []) with
    | some value => Action.writeLine ctx.stdout value
    | none => Action.fail (.variable (.notDefined (args.getD 0 [])))
  | some .change => do
    checkArguments var.usage args 2
    keepScope ((← Action.scope).change level (args.getD 0 []) (args.getD 1 []))
  | some .delete => do
    checkArguments var.usage args 1
    Action.setScope ((← Action.scope).delete level (args.getD 0 []))
  | some .check => do
    checkArguments var.usage args 1
    writeLines ctx.stdout (Utility.truth ((← Action.scope).isDefined (args.getD 0 [])))
  | some .list => do
    checkArguments var.usage args 0
    Action.write ctx.stdout (variableListing (← Action.scope)).utf8

/-- The flags of the command on variables. -/
def variableFlags : List (Text × Flags.Kind) :=
  ("global", .switch) :: VariableOperation.all.map fun op => (op.flag, .switch)

/-- Defines, reads, changes, removes or lists variables. -/
def runVar (ctx : Context) (name : Text) (args : List Text) : Action Flow := do
  let flags ← Flags.parse name var.usage variableFlags args
  let global := flags.isOn "global"
  let level := if global then Level.shell else Level.frame
  match VariableOperation.all.filter fun op => flags.isOn op.flag with
  | [] => runVariableOperation ctx level flags.rest none
  | [op] =>
    if global && op.isLevelless then Action.fail (.usage (.variableGlobal op.flag))
    else runVariableOperation ctx level flags.rest (some op)
  | ops => Action.fail (.usage (.variableOperations (ops.map (·.flag))))
  return .proceed

/-- Writes an argument of the current call, or their number. -/
def runArg (ctx : Context) (name : Text) (args : List Text) : Action Flow := do
  let flags ← Flags.parse name arg.usage [("len", .switch)] args
  let positional := (← Action.scope).frame.args
  if flags.isOn "len" then
    checkArguments arg.usage flags.rest 0
    Action.writeLine ctx.stdout (Text.ofNat positional.length)
    return .proceed
  else
    checkArguments arg.usage flags.rest 1
    let written := flags.rest.getD 0 []
    match Text.toNat? written with
    | none => Action.fail (.usage (.argumentNotANumber written))
    | some index =>
      match positional[index]? with
      | none => Action.fail (.usage (.argumentOutOfRange index positional.length))
      | some value =>
        Action.writeLine ctx.stdout value
        return .proceed

/-- Returns a value from the current call, or reads what calls returned to it. -/
def runReturn (ctx : Context) (name : Text) (args : List Text) : Action Flow := do
  let flags ← Flags.parse name return.usage [("ref", .switch), ("show", .switch)] args
  match flags.isOn "ref", flags.isOn "show" with
  | true, true => Action.fail (.usage .returnRefAndShow)
  | true, false =>
    checkArguments return.usage flags.rest 1
    let key := flags.rest.getD 0 []
    match (← Action.scope).frame.returns.get? key with
    | none => Action.fail (.usage (.nothingReturned key))
    | some value =>
      Action.writeLine ctx.stdout value
      return .proceed
  | false, true =>
    checkArguments return.usage flags.rest 0
    writeLines ctx.stdout ((← Action.scope).frame.returns.entries.map entryLine)
    return .proceed
  | false, false =>
    checkArguments return.usage flags.rest 2
    Action.setScope ((← Action.scope).setReturn (flags.rest.getD 0 []) (flags.rest.getD 1 []))
    return .proceed

end Conch.Builtin
