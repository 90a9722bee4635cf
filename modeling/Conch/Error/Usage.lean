import Conch.Text.Numeral
import Conch.Text.Quoted

/-!
Commands used in a way that they do not allow.
-/

namespace Conch

/-- Why the flags in front of the arguments of a command cannot be read. -/
inductive FlagFault where
  /-- The argument begins like a flag and names none. -/
  | badSyntax (arg : Text)
  /-- The command has no such flag. -/
  | notDefined (flag : Text)
  /-- A switch is given something that is neither true nor false. -/
  | notBoolean (flag value : Text)
  /-- The value of a flag is missing. -/
  | noValue (flag : Text)
  deriving DecidableEq, Repr

/-- What the user is told. -/
def FlagFault.message : FlagFault → Text
  | .badSyntax arg => "bad flag syntax: " ++ arg
  | .notDefined flag => "flag provided but not defined: -" ++ flag
  | .notBoolean flag value =>
    "invalid boolean value " ++ Text.quoted value ++ " for -" ++ flag
  | .noValue flag => "flag needs an argument: -" ++ flag

/-- Why a routing of descriptors is refused. -/
inductive RouteFault where
  /-- A part of the routing is not a number. -/
  | notADescriptor (part : Text)
  /-- The left side would have to write descriptor 0. -/
  | fromInput
  /-- The right side would have to read descriptor 1 or 2. -/
  | toOutput
  deriving DecidableEq, Repr

/-- What the user is told. -/
def RouteFault.message : RouteFault → Text
  | .notADescriptor part => Text.quoted part ++ " is not a descriptor"
  | .fromInput => "descriptor 0 cannot be piped from"
  | .toOutput => "the right side reads descriptor 0 or 3 and up"

/-- A use that a command does not allow. -/
inductive UsageError where
  /-- A number of arguments other than the command takes. -/
  | argumentCount (want got : Nat) (usage : Text)
  | badFlag (command : Text) (fault : FlagFault) (usage : Text)
  /-- The value of a flag is not a number in range. -/
  | flagValue (flag value : Text)
  | writeToInput
  | readFromOutput (fd : Nat)
  | pipeFromInput
  | homeNotSet
  | aliasUnsetAndShow
  | variableOperations (flags : List Text)
  | variableGlobal (flag : Text)
  | argumentNotANumber (index : Text)
  | argumentOutOfRange (index count : Nat)
  | returnRefAndShow
  | nothingReturned (key : Text)
  | nothingToEvaluate (usage : Text)
  | repeatNotANumber (count : Text)
  | repeatTooLong (limit : Nat)
  | pipeInAndOut
  | pipeRouteAndFile
  | badRoute (spec : Text) (fault : RouteFault)
  deriving DecidableEq, Repr

/-- What the user is told. -/
def UsageError.message : UsageError → Text
  | .argumentCount want got usage =>
    "expected " ++ Text.ofNat want ++ " argument(s), got " ++ Text.ofNat got ++ "; usage: " ++ usage
  | .badFlag command fault usage => command ++ ": " ++ fault.message ++ "; usage: " ++ usage
  | .flagValue flag value => "invalid value " ++ Text.quoted value ++ " for flag -" ++ flag
  | .writeToInput => "descriptor 0 is an input and cannot be written"
  | .readFromOutput fd =>
    "descriptor " ++ Text.ofNat fd ++ " is an output and cannot be read"
  | .pipeFromInput => "descriptor 0 is an input and cannot be piped from"
  | .homeNotSet => "l-cd: HOME is not set"
  | .aliasUnsetAndShow => "l-alias: cannot set both --unset and --show"
  | .variableOperations flags =>
    "l-var: only one of --" ++ Text.join ", --" flags ++ " may be set"
  | .variableGlobal flag => "l-var: --global cannot be combined with --" ++ flag
  | .argumentNotANumber index => "l-arg: invalid index " ++ Text.quoted index
  | .argumentOutOfRange index count =>
    "l-arg: index " ++ Text.ofNat index ++ " out of range (" ++ Text.ofNat count ++ " arguments)"
  | .returnRefAndShow => "l-return: cannot set both --ref and --show"
  | .nothingReturned key => "l-return: no value returned for " ++ key
  | .nothingToEvaluate usage => "l-eval: missing expression; usage: " ++ usage
  | .repeatNotANumber count => "s-repeat: invalid count " ++ Text.quoted count
  | .repeatTooLong limit => "s-repeat: result longer than " ++ Text.ofNat limit ++ " bytes"
  | .pipeInAndOut => "l-pipe: cannot set both --in and --out"
  | .pipeRouteAndFile => "l-pipe: -p cannot be combined with --in or --out"
  | .badRoute spec fault => "invalid pipe spec " ++ Text.quoted spec ++ ": " ++ fault.message

end Conch
