import Conch.Text.Basic

/-!
The arguments with which the shell itself is started.
-/

namespace Conch.Front

/-- What the shell is asked to do. -/
structure Arguments where
  /-- An expression to evaluate. -/
  command : Option Text := none
  /-- A file to evaluate line by line. -/
  script : Option Text := none
  help : Bool := false
  version : Bool := false
  deriving DecidableEq, Repr

/-- Why the arguments make no sense. -/
inductive ArgumentError where
  | noExpression
  | noScript
  | unknownOption (option : Text)
  | commandAndScript
  deriving DecidableEq, Repr

/-- What the user is told. -/
def ArgumentError.message : ArgumentError → Text
  | .noExpression => "-c needs an expression"
  | .noScript => "-s needs a script path"
  | .unknownOption option => "unknown option: " ++ option
  | .commandAndScript => "-c and a script cannot be used together"

namespace Arguments

/-- Reads arguments on top of those already read. -/
def readFrom (before : Arguments) : List Text → Except ArgumentError Arguments
  | [] => .ok before
  | arg :: rest =>
    if arg = ("-c" : Text) then
      if rest.isEmpty then .error .noExpression
      else .ok { before with command := some (Text.join " " rest) }
    else if arg = ("-s" : Text) then
      match rest with
      | [] => .error .noScript
      | path :: rest => readFrom { before with script := some path } rest
    else if arg = ("--help" : Text) ∨ arg = ("-h" : Text) then
      readFrom { before with help := true } rest
    else if arg = ("--version" : Text) ∨ arg = ("-V" : Text) then
      readFrom { before with version := true } rest
    else if arg.head? = some '-' then .error (.unknownOption arg)
    else readFrom { before with script := some arg } rest

/-- Reads the arguments of the shell. -/
def read (args : List Text) : Except ArgumentError Arguments := do
  let arguments ← readFrom {} args
  if arguments.command.isSome && arguments.script.isSome then throw .commandAndScript
  return arguments

end Arguments

end Conch.Front
