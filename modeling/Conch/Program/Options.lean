import Conch.Text.Basic

/-!
Options of programs. An argument that begins with a hyphen holds option letters, of
which the last may take a value, from the rest of the argument or from the next one;
an argument that begins with two dashes names an option in full or by a beginning
that only one of them has. Two dashes alone end the options.

A program acts on its options one after another, so what was read before a fault is
kept beside it.
-/

namespace Conch.Program

/-- An option with a name of its own, and the letter that it stands for. -/
structure LongOption where
  name : Text
  letter : Char
  takesValue : Bool := false
  deriving DecidableEq, Repr

/-- The options of a program. -/
structure OptionRules where
  /-- The letters that take no value. -/
  plain : Text := []
  /-- The letters that take a value. -/
  valued : Text := []
  long : List LongOption := []
  /-- Whether options may stand behind other arguments. -/
  anywhere : Bool := true
  deriving DecidableEq, Repr

/-- Why options make no sense. -/
inductive OptionFault where
  | badLetter (letter : Char)
  | noValue (letter : Char)
  | unknown (written : Text)
  | ambiguous (written : Text) (names : List Text)
  | noLongValue (name : Text)
  | unwantedValue (name : Text)
  deriving DecidableEq, Repr

/-- The name of an option in a list of names. -/
def quotedName (name : Text) : Text := " '--" ++ name ++ "'"

/-- What the user is told. -/
def OptionFault.message : OptionFault → Text
  | .badLetter letter => "invalid option -- '" ++ [letter] ++ "'"
  | .noValue letter => "option requires an argument -- '" ++ [letter] ++ "'"
  | .unknown written => "unrecognized option '--" ++ written ++ "'"
  | .ambiguous written names =>
    "option '--" ++ written ++ "' is ambiguous; possibilities:" ++
      names.flatMap quotedName
  | .noLongValue name => "option '--" ++ name ++ "' requires an argument"
  | .unwantedValue name => "option '--" ++ name ++ "' doesn't allow an argument"

/-- The options of a call in order, and its other arguments. -/
structure ReadOptions where
  /-- The letters, each with its value. -/
  options : List (Char × Text) := []
  operands : List Text := []
  fault : Option OptionFault := none
  deriving DecidableEq, Repr

namespace ReadOptions

/-- One more option. -/
def add (read : ReadOptions) (letter : Char) (value : Text) : ReadOptions :=
  { read with options := read.options ++ [(letter, value)] }

/-- More arguments that are no options. -/
def addOperands (read : ReadOptions) (args : List Text) : ReadOptions :=
  { read with operands := read.operands ++ args }

end ReadOptions

namespace OptionRules

/-- The names that every program knows. -/
def usualNames : List LongOption := [⟨"help", 'H', false⟩, ⟨"version", 'V', false⟩]

/-- The option that is named in full or by a beginning. -/
def find (rules : OptionRules) (written : Text) : Except OptionFault LongOption :=
  let name := written.takeWhile (· != '=')
  let candidates := (rules.long ++ usualNames).filter fun option => name.isPrefixOf option.name
  match candidates.find? (·.name == name), candidates with
  | some option, _ => .ok option
  | none, [] => .error (.unknown written)
  | none, option :: others =>
    if others.all (·.letter == option.letter) then .ok option
    else .error (.ambiguous written (candidates.map (·.name)))


/-- Reads the letters of one argument; the letter that wants the next argument as its
value comes with them. -/
def readLetters (rules : OptionRules) (read : ReadOptions) :
    Text → ReadOptions × Option Char
  | [] => (read, none)
  | letter :: rest =>
    if rules.plain.contains letter then readLetters rules (read.add letter []) rest
    else if rules.valued.contains letter then
      if rest.isEmpty then (read, some letter) else (read.add letter rest, none)
    else ({ read with fault := some (.badLetter letter) }, none)

/-- Reads the arguments of a call behind what was read before. -/
def readFrom (rules : OptionRules) (read : ReadOptions) : List Text → ReadOptions
  | [] => read
  | ['-', '-'] :: rest => read.addOperands rest
  | ('-' :: '-' :: written) :: rest =>
    match rules.find written with
    | .error fault => { read with fault := some fault }
    | .ok option =>
      let value := (Text.cut? '=' written).map (·.2)
      match option.takesValue, value, rest with
      | false, none, rest => readFrom rules (read.add option.letter []) rest
      | false, some _, _ => { read with fault := some (.unwantedValue option.name) }
      | true, some value, rest => readFrom rules (read.add option.letter value) rest
      | true, none, value :: rest => readFrom rules (read.add option.letter value) rest
      | true, none, [] => { read with fault := some (.noLongValue option.name) }
  | ('-' :: first :: letters) :: rest =>
    match rules.readLetters read (first :: letters), rest with
    | (read, none), rest => if read.fault.isSome then read else readFrom rules read rest
    | (read, some letter), value :: rest => readFrom rules (read.add letter value) rest
    | (read, some letter), [] => { read with fault := some (.noValue letter) }
  | arg :: rest =>
    if rules.anywhere then readFrom rules (read.addOperands [arg]) rest
    else read.addOperands (arg :: rest)

/-- Reads the arguments of a call. -/
def read (rules : OptionRules) (args : List Text) : ReadOptions := rules.readFrom {} args

end OptionRules

end Conch.Program
