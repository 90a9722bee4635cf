import Conch.Text.Basic

/-!
Tokens, the parts of an expression. The lexer makes words and statement marks out
of a text; grouping then joins words into raw groups and substitutions. A token
can always be written back as the text that it stands for.
-/

namespace Conch

/-- What a token is. -/
inductive Token.Kind where
  /-- A plain word: the name of a command or an argument. -/
  | word
  /-- A value that is taken as it stands: output of a substitution, or an
  argument handed on. -/
  | literal
  /-- A group in braces, never expanded. -/
  | raw
  /-- A group in parentheses, evaluated and replaced by its output. -/
  | substitution
  /-- The mark between two statements. -/
  | split
  deriving DecidableEq, Repr

/-- A part of an expression. -/
structure Token where
  kind : Token.Kind
  value : Text
  deriving DecidableEq, Repr

namespace Token

/-- A plain word. -/
def word (value : Text) : Token := ⟨.word, value⟩

/-- A value that is taken as it stands. -/
def literal (value : Text) : Token := ⟨.literal, value⟩

/-- A group in braces with the given body. -/
def raw (value : Text) : Token := ⟨.raw, value⟩

/-- A group in parentheses with the given body. -/
def substitution (value : Text) : Token := ⟨.substitution, value⟩

/-- The mark between two statements. -/
def split : Token := ⟨.split, []⟩

/-- Whether a text begins and ends with two different double quotes. -/
def isFullyQuoted (s : Text) : Bool :=
  2 ≤ s.length && s.head? == some '"' && s.getLast? == some '"'

/-- A text without one layer of surrounding double quotes. -/
def stripQuotes (s : Text) : Text := if isFullyQuoted s then s.tail.dropLast else s

/-- Whether a token ends a statement. -/
def isSplit (token : Token) : Bool := token.kind == .split

/-- Whether a token is a word in double quotes. -/
def isQuoted (token : Token) : Bool := token.kind == .word && isFullyQuoted token.value

/-- A token as it is written in an expression. -/
def source (token : Token) : Text :=
  match token.kind with
  | .word | .literal => token.value
  | .raw => '{' :: token.value ++ ['}']
  | .substitution => '(' :: token.value ++ [')']
  | .split => [';']

/-- A word without its double quotes; any other token as it is. -/
def unquote (token : Token) : Token :=
  if token.isQuoted then word (stripQuotes token.value) else token

end Token

end Conch
