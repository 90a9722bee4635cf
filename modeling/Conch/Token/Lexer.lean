import Conch.Token.Basic

/-!
The lexer cuts an expression into words and statement marks. Words stand between
separators; a double-quoted span belongs to the word it appears in, separators
and all, and keeps its quotes. A word that begins with `#` ends the expression,
and semicolons at the end of a word end the statement.

A quote that is never closed ends the last word before it; the lexer then fails
at the place of that quote.
-/

namespace Conch

/-- Something wrong in an expression, at a line and a column counted from one. -/
structure LexFault where
  line : Nat
  column : Nat
  message : Text
  deriving DecidableEq, Repr

/-- Why an expression cannot be cut into tokens. -/
structure LexError where
  faults : List LexFault
  deriving DecidableEq, Repr

/-- A fault with its place in front. -/
def LexFault.text (fault : LexFault) : Text :=
  Nat.toDigits 10 fault.line ++ ":" ++ Nat.toDigits 10 fault.column ++ " " ++ fault.message

/-- The faults, one to a line. -/
def LexError.text (error : LexError) : Text :=
  Text.join ['\n'] (error.faults.map LexFault.text)

namespace Token

/-- Whether a character separates words. -/
def isSeparator (c : Char) : Bool := c == ' ' || c == '\t' || c == '\n' || c == '\r'

mutual

/-- The longest word at the front of a text, and what follows it. -/
def takeWord : Text → Text × Text
  | [] => ([], [])
  | c :: rest =>
    if isSeparator c then ([], c :: rest)
    else if c = '"' then
      match takeQuoted rest with
      | some (inner, after) => ('"' :: inner, after)
      | none => ([], c :: rest)
    else
      let (more, after) := takeWord rest
      (c :: more, after)

/-- The rest of a word behind an opening quote, and what follows the word; nothing
if the quote is not closed. A backslash protects the character behind it. -/
def takeQuoted : Text → Option (Text × Text)
  | [] => none
  | c :: rest =>
    if c = '"' then
      let (more, after) := takeWord rest
      some ('"' :: more, after)
    else if c = '\\' then
      match rest with
      | [] => none
      | d :: rest => (takeQuoted rest).map fun (inner, after) => (c :: d :: inner, after)
    else (takeQuoted rest).map fun (inner, after) => (c :: inner, after)

end

/-- The words of a text with their quotes, or the text from the quote on that is
never closed; `skip` characters at the front belong to the last word. -/
def scanFrom : Nat → Text → Except Text (List Text)
  | _, [] => .ok []
  | skip + 1, _ :: rest => scanFrom skip rest
  | 0, c :: rest =>
    if isSeparator c then scanFrom 0 rest
    else
      match (takeWord (c :: rest)).1 with
      | [] => .error (c :: rest)
      | d :: more => (scanFrom more.length rest).map ((d :: more) :: ·)

/-- The words of a text with their quotes, or the text from the quote on that is
never closed. -/
def scan (s : Text) : Except Text (List Text) := scanFrom 0 s

/-- The line and the column of the place behind `before`, counted from one. -/
def position (before : Text) : Nat × Nat :=
  (before.count '\n' + 1, (Text.takeEndWhile (· != '\n') before).length + 1)

/-- The fault of a text that cannot be read from `rest` on. -/
def unclosedFault (s rest : Text) : LexFault :=
  let (line, column) := position (s.take (s.length - rest.length))
  ⟨line, column, "literal not terminated"⟩

/-- The tokens of one word: the word without the semicolons at its end, if anything
is left, and a mark for each of them. -/
def ofWord (w : Text) : List Token :=
  let body := Text.dropEndWhile (· == ';') w
  (if body.isEmpty then [] else [word body]) ++ List.replicate (w.length - body.length) split

/-- The tokens of the words before the first that begins with `#`. -/
def ofWords (words : List Text) : List Token :=
  (words.takeWhile fun w => w.head? != some '#').flatMap ofWord

/-- Cuts an expression into words and statement marks. -/
def lex (s : Text) : Except LexError (List Token) :=
  match scan s with
  | .ok words => .ok (ofWords words)
  | .error rest => .error ⟨[unclosedFault s rest]⟩

end Token

end Conch
