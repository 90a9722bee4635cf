import Conch.Error.Basic

/-!
Flags in front of the arguments of a built-in command. `-x` and `--x` are the same
flag. A switch stands alone or has an explicit `=true` or `=false`; any other flag
has a value behind `=` or in the next argument, whatever that looks like. Flags
end at the first argument that is not one, or behind `--`.
-/

namespace Conch

/-- What a flag takes. -/
inductive Flags.Kind where
  /-- Nothing, or an explicit truth value. -/
  | switch
  /-- A value. -/
  | valued
  deriving DecidableEq, Repr

/-- What one flag was set to. -/
inductive Flags.Setting where
  | switch (on : Bool)
  | value (text : Text)
  deriving DecidableEq, Repr

/-- The flags that a command was given, and the arguments behind them. -/
structure Flags where
  /-- The settings in the order in which they were written. -/
  settings : List (Text × Flags.Setting) := []
  /-- The arguments behind the flags. -/
  rest : List Text := []
  deriving DecidableEq, Repr

namespace Flags

/-- The flags with one more setting in front. -/
def prepend (name : Text) (setting : Setting) (flags : Flags) : Flags :=
  { flags with settings := (name, setting) :: flags.settings }

/-- What follows the dashes of an argument that begins with one or two. -/
def body? (arg : Text) : Option Text :=
  (Text.afterStart? "--" arg).or (Text.afterStart? "-" arg)

/-- The truth value that a switch is given. -/
def switchValue? : Option Text → Option Bool
  | none => some true
  | some value =>
    if value = ("true" : Text) ∨ value = ("1" : Text) then some true
    else if value = ("false" : Text) ∨ value = ("0" : Text) then some false
    else none

/-- Whether nothing that names a flag follows the dashes. -/
def namesNoFlag (body : Text) : Bool :=
  body.isEmpty || body.head? == some '-' || body.head? == some '='

/-- The name of a flag and the value that is written behind it. -/
def nameAndValue (body : Text) : Text × Option Text :=
  match Text.cut? '=' body with
  | some (name, value) => (name, some value)
  | none => (body, none)

/-- Reads the flags of a command that has the flags `known`. -/
def read (known : List (Text × Kind)) : List Text → Except FlagFault Flags
  | [] => .ok {}
  | arg :: args =>
    if arg = ("--" : Text) then .ok { rest := args }
    else
      match body? arg with
      | none => .ok { rest := arg :: args }
      | some body =>
        if namesNoFlag body then
          if arg = ("-" : Text) then .ok { rest := arg :: args } else .error (.badSyntax arg)
        else
          let (name, inline) := nameAndValue body
          match known.lookup name with
          | none => .error (.notDefined name)
          | some .switch =>
            match switchValue? inline with
            | some on => (read known args).map (prepend name (.switch on))
            | none => .error (.notBoolean name (inline.getD []))
          | some .valued =>
            match inline with
            | some value => (read known args).map (prepend name (.value value))
            | none =>
              match args with
              | [] => .error (.noValue name)
              | value :: args => (read known args).map (prepend name (.value value))

/-- The last setting of a flag. -/
def setting? (flags : Flags) (name : Text) : Option Setting := flags.settings.reverse.lookup name

/-- Whether a switch is on. -/
def isOn (flags : Flags) (name : Text) : Bool :=
  match flags.setting? name with
  | some (.switch on) => on
  | _ => false

/-- The value of a flag. -/
def value? (flags : Flags) (name : Text) : Option Text :=
  match flags.setting? name with
  | some (.value text) => some text
  | _ => none

/-- The value of a flag as a number, or `default` if the flag is not set. -/
def number {α : Type} (flags : Flags) (parse? : Text → Option α) (name : Text) (default : α) :
    Except ShellError α :=
  match flags.value? name with
  | none => .ok default
  | some text =>
    match parse? text with
    | some n => .ok n
    | none => .error (.usage (.flagValue name text))

/-- Reads the flags of the command that was called `command` and has the given usage. -/
def parse (command usage : Text) (known : List (Text × Kind)) (args : List Text) :
    Except ShellError Flags :=
  (read known args).mapError fun fault => .usage (.badFlag command fault usage)

end Flags

/-- Fails unless there are exactly `want` arguments. -/
def checkArguments (usage : Text) (args : List Text) (want : Nat) : Except ShellError Unit :=
  if args.length = want then .ok () else .error (.usage (.argumentCount want args.length usage))

end Conch
