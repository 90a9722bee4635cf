import Conch.Text.Basic

/-!
Scripts as trees. A command is made of words, and a word of pieces: octets, some of
them protected by quotes, and places where the value of a parameter, the output of a
command or the value of an expression is put in.
-/

namespace Conch.Program.Script

/-- What is done with the value of a parameter before it is put in. -/
inductive ParameterUse where
  | plain
  /-- Its length is put in instead. -/
  | length
  /-- If there is no value, a word is put in. -/
  | orWord
  /-- If there is no value, it becomes that of a word. -/
  | orAssign
  /-- If there is no value, the script ends with a word as its message. -/
  | orFail
  /-- If there is a value, a word is put in. -/
  | andWord
  /-- What a pattern matches at the start is left out: as much as possible, or as
  little. -/
  | withoutStart (longest : Bool)
  /-- What a pattern matches at the end is left out. -/
  | withoutEnd (longest : Bool)
  /-- It was not written as it has to be. -/
  | bad
  deriving DecidableEq, Repr

/-- What a descriptor is bound to for a command. -/
inductive RedirectionKind where
  | read
  | write
  /-- A file that is cut even if files are to be kept. -/
  | overwrite
  | append
  /-- A file that is neither made anew nor cut. -/
  | update
  /-- What another descriptor is bound to. -/
  | duplicate
  /-- Lines of the script, known by their number. -/
  | document (number : Nat)
  deriving DecidableEq, Repr

mutual

/-- A piece of a word. -/
inductive Piece where
  | octet (c : Char) (quoted : Bool)
  /-- A quote, which makes a word even if there is nothing in it. -/
  | quote
  /-- The value of a parameter; `orEmpty` says whether an empty value counts as none. -/
  | parameter (name : Text) (use : ParameterUse) (orEmpty : Bool) (word : List Piece)
      (quoted : Bool)
  /-- The output of a command. -/
  | output (command : Command) (quoted : Bool)
  /-- The value of an expression. -/
  | value (expression : List Piece) (quoted : Bool)

/-- What a descriptor is bound to while a command runs. -/
inductive Redirection where
  | mk (fd : Nat) (kind : RedirectionKind) (word : List Piece)

/-- A command. -/
inductive Command where
  /-- Variables that are set, and the words of a command. -/
  | simple (line : Nat) (settings : List (Text × List Piece)) (words : List (List Piece))
      (redirections : List Redirection)
  /-- Commands of which each reads what the one before it writes. -/
  | pipeline (commands : List Command)
  /-- The first command, and the second one if the first succeeds. -/
  | andThen (first second : Command)
  /-- The first command, and the second one if the first fails. -/
  | orElse (first second : Command)
  | sequence (commands : List Command)
  | background (line : Nat) (command : Command)
  | not (command : Command)
  | subshell (line : Nat) (command : Command) (redirections : List Redirection)
  | redirected (line : Nat) (command : Command) (redirections : List Redirection)
  | conditional (condition body : Command) (otherwise : Option Command)
  /-- Goes on as long as the condition ends as it says: with success, or without. -/
  | loop (onSuccess : Bool) (condition body : Command)
  | forEach (line : Nat) (name : Text) (words : List (List Piece)) (body : Command)
  | choice (line : Nat) (word : List Piece) (cases : List (List (List Piece) × Option Command))
  | define (line : Nat) (name : Text) (body : Command)

end

/-- The pieces of a word. -/
abbrev Word := List Piece

namespace Word

/-- A text that stands for itself. -/
def ofText (text : Text) : Word := text.map fun c => .octet c true

/-- The text of a word that is nothing but plain octets. -/
def plain? : Word → Option Text
  | [] => some []
  | .octet c false :: rest => (plain? rest).map (c :: ·)
  | _ :: _ => none

/-- The plain octets that a word begins with, and the pieces behind them. -/
def splitPlain : Word → Text × Word
  | .octet c false :: rest =>
    let (text, behind) := splitPlain rest
    (c :: text, behind)
  | rest => ([], rest)

end Word

/-- The characters that a name may begin with. -/
def isNameStart (c : Char) : Bool := c.isAlpha || c == '_'

/-- The characters of a name. -/
def isNameChar (c : Char) : Bool := c.isAlphanum || c == '_'

/-- Whether a text is a name. -/
def isName : Text → Bool
  | [] => false
  | c :: rest => isNameStart c && rest.all isNameChar

/-- The parameters that are not variables, digits apart. -/
def isSpecial (c : Char) : Bool := ['!', '#', '$', '*', '-', '?', '@'].contains c || c.isDigit

end Conch.Program.Script
