import Conch.Action
import Conch.Builtin.Utility
import Conch.Flags

/-!
The built-in commands that only read and write: help, echo, cat and the utilities
on texts.
-/

namespace Conch.Builtin

/-- Writes lines to an endpoint, one after another. -/
def writeLines (endpoint : Endpoint) : List Text → Action Unit
  | [] => pure ()
  | line :: rest => do
    Action.writeLine endpoint line
    writeLines endpoint rest

/-- The lines of the list of commands: each name with its usage, in order. -/
def helpLines : List Text :=
  (table.entries.filter fun (name, builtin) => name = builtin.name).map fun (name, builtin) =>
    name ++ " : " ++ builtin.usage

/-- Lists the commands. -/
def runHelp (ctx : Context) (args : List Text) : Action Flow := do
  checkArguments help.usage args 0
  writeLines ctx.stdout helpLines
  return .proceed

/-- Writes its arguments on a descriptor, with one space between them. -/
def runEcho (ctx : Context) (name : Text) (args : List Text) : Action Flow := do
  let flags ← Flags.parse name echo.usage [("fd", .valued)] args
  let fd ← flags.number Text.toNat? "fd" 1
  let endpoint ← ctx.writer fd
  Action.writeLine endpoint (Text.join " " flags.rest)
  return .proceed

/-- Copies all that is left on a descriptor. -/
def runCat (ctx : Context) (name : Text) (args : List Text) : Action Flow := do
  let flags ← Flags.parse name cat.usage [("fd", .valued)] args
  checkArguments cat.usage flags.rest 0
  let fd ← flags.number Text.toNat? "fd" 0
  let endpoint ← ctx.reader fd
  let bytes ← Action.read endpoint
  Action.write ctx.stdout bytes
  return .proceed

/-- Writes the lines that a utility makes of its arguments. -/
def runUtility (u : Utility) (ctx : Context) (args : List Text) : Action Flow := do
  checkArguments u.usage args u.arity
  writeLines ctx.stdout (u.apply args)
  return .proceed

/-- Joins its arguments. -/
def runJoin (ctx : Context) (name : Text) (args : List Text) : Action Flow := do
  let flags ← Flags.parse name join.usage [("sep", .valued)] args
  Action.writeLine ctx.stdout (Text.join ((flags.value? "sep").getD []) flags.rest)
  return .proceed

/-- The longest text that a repetition may make, in bytes. -/
def longestRepeat : Nat := 67108864

/-- Repeats a text. -/
def runRepeat (ctx : Context) (args : List Text) : Action Flow := do
  checkArguments repeat.usage args 2
  let text := args.getD 0 []
  let written := args.getD 1 []
  match Text.toNat? written with
  | none => Action.fail (.usage (.repeatNotANumber written))
  | some count =>
    if longestRepeat < Text.byteLength text * count then
      Action.fail (.usage (.repeatTooLong longestRepeat))
    else
      let copies := if text.isEmpty then 0 else count
      Action.writeLine ctx.stdout (Text.times copies text)
      return .proceed

/-- Replaces the first occurrences of a text, or all of them if the number is
negative or missing. -/
def runReplace (ctx : Context) (name : Text) (args : List Text) : Action Flow := do
  let flags ← Flags.parse name replace.usage [("n", .valued)] args
  checkArguments replace.usage flags.rest 3
  let count ← flags.number Text.toInt? "n" (-1)
  let text := flags.rest.getD 0 []
  let old := flags.rest.getD 1 []
  let new := flags.rest.getD 2 []
  Action.writeLine ctx.stdout
    (match count with
    | .ofNat n => Text.replaceFirst n old new text
    | .negSucc _ => Text.replaceAll old new text)
  return .proceed

end Conch.Builtin
