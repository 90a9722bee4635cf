import Conch.Program.Format
import Conch.Text.Basic

/-!
Questions that a script asks about texts, numbers and files. A question is a list of
words; operators join simple questions, and how many words there are may decide what
one of them means.
-/

namespace Conch.Program.Script.Question

/-- What a word may be besides a text. -/
inductive Role where
  /-- Asks about the word behind it. -/
  | unary
  /-- Asks about the words on its two sides. -/
  | binary
  | not
  | and
  | or
  | opening
  | closing
  deriving DecidableEq, Repr

/-- The operators that ask about one word. -/
def unaryLetters : Text := "rwxefdcbpugkstznhOGLS".toList

/-- The operators that ask about two words. -/
def binaryNames : List Text :=
  ["=", "!=", "<", ">", "-eq", "-ne", "-ge", "-gt", "-le", "-lt", "-nt", "-ot", "-ef"]

/-- What a word is besides a text. -/
def role? (word : Text) : Option Role :=
  match word with
  | ['!'] => some .not
  | ['-', 'a'] => some .and
  | ['-', 'o'] => some .or
  | ['('] => some .opening
  | [')'] => some .closing
  | ['-', letter] => if unaryLetters.contains letter then some .unary else none
  | word => if binaryNames.contains word then some .binary else none

/-- What the first of some words is where a question begins: an operator only if what
it needs is there. -/
def roleAt (words : List Text) : Option Role :=
  match words with
  | [] => none
  | word :: rest =>
    match role? word with
    | some .unary =>
      match rest with
      | [] => none
      | [_] => some .unary
      | next :: _ => if role? next = some .binary then none else some .unary
    | some .opening => if rest.isEmpty then none else some .opening
    | role => role

/-- Why a question has no answer. -/
inductive Fault where
  | unexpected (word : Text)
  | noArgument (word : Text)
  | noClosing
  | badNumber (word : Text)
  deriving DecidableEq, Repr

/-- What the user is told. -/
def Fault.message : Fault → Text
  | .unexpected [] => "unexpected operator"
  | .unexpected word => word ++ ": unexpected operator"
  | .noArgument [] => "argument expected"
  | .noArgument word => word ++ ": argument expected"
  | .noClosing => "closing paren expected"
  | .badNumber word => "Illegal number: " ++ word

/-- What is known about files: the answer to a question by its letter, and whether two
paths lead to one file. -/
structure Files where
  about : Char → Text → Bool
  same : Text → Text → Bool

/-- The number that a word means. -/
def number (word : Text) : Except Fault Int :=
  let unsigned := Format.readSign (word.dropWhile Format.isSpace)
  let digits := unsigned.2.takeWhile Char.isDigit
  let behind := unsigned.2.drop digits.length
  if digits.isEmpty || !behind.all Format.isSpace then .error (.badNumber word)
  else
    let value : Int := Format.digitsValue 10 digits
    let value := if unsigned.1 then -value else value
    if value < -Text.largestInt - 1 || Text.largestInt < value then .error (.badNumber word)
    else .ok value

/-- The answer to a question about two words. -/
def binary (files : Files) (left operator right : Text) : Except Fault Bool := do
  let compare (holds : Int → Int → Bool) : Except Fault Bool := do
    return holds (← number left) (← number right)
  match operator with
  | ['='] => return left == right
  | ['!', '='] => return left != right
  | ['<'] => return decide (left < right)
  | ['>'] => return decide (right < left)
  | ['-', 'e', 'q'] => compare (· == ·)
  | ['-', 'n', 'e'] => compare (· != ·)
  | ['-', 'g', 'e'] => compare fun a b => decide (b ≤ a)
  | ['-', 'g', 't'] => compare fun a b => decide (b < a)
  | ['-', 'l', 'e'] => compare fun a b => decide (a ≤ b)
  | ['-', 'l', 't'] => compare fun a b => decide (a < b)
  | ['-', 'e', 'f'] => return files.same left right
  | _ => return false

/-- The answer to a question about one word. -/
def unary (files : Files) (operator word : Text) : Except Fault Bool := do
  match operator with
  | ['-', 'z'] => return word.isEmpty
  | ['-', 'n'] => return !word.isEmpty
  | ['-', 't'] =>
    let _ ← number word
    return false
  | [_, letter] => return files.about letter word
  | _ => return false

/-- An answer, and the words from the last one that it took. -/
abbrev Answer := Except Fault (Bool × List Text)

/-- The answer to a simple question; `whole` answers one between parentheses. -/
def primary (files : Files) (whole : List Text → Answer) (words : List Text) : Answer := do
  match words with
  | [] => return (false, [])
  | first :: rest =>
    match roleAt words with
    | some .opening =>
      if roleAt rest = some .closing then return (false, rest)
      let (answer, last) ← whole rest
      match last.drop 1 with
      | [')'] :: _ => return (answer, last.drop 1)
      | _ => throw .noClosing
    | some .unary =>
      match rest with
      | [] => throw (.noArgument first)
      | word :: _ => return (← unary files first word, rest)
    | _ =>
      match rest with
      | operator :: more =>
        if roleAt rest = some .binary then
          match more with
          | [] => throw (.noArgument operator)
          | right :: _ => return (← binary files first operator right, more)
        else return (!first.isEmpty, words)
      | [] => return (!first.isEmpty, words)

/-- The answer to a question that may be turned around. -/
def negated (files : Files) (whole : List Text → Answer) : Nat → List Text → Answer
  | 0, words => return (false, words)
  | fuel + 1, words => do
    if roleAt words ≠ some .not then return (← primary files whole words)
    let rest := words.drop 1
    let (answer, last) ← negated files whole fuel rest
    return (!answer, if rest.isEmpty then words else last)

/-- The answer to questions of which all have to hold. -/
def conjunction (files : Files) (whole : List Text → Answer) (so : Bool) :
    Nat → List Text → Answer
  | 0, words => return (so, words)
  | fuel + 1, words => do
    let (answer, last) ← negated files whole (fuel + 1) words
    if roleAt (last.drop 1) = some .and then
      conjunction files whole (so && answer) fuel (last.drop 2)
    else return (so && answer, last)

/-- The answer to questions of which one has to hold, to a depth of parentheses. -/
def disjunction (files : Files) : (depth fuel : Nat) → Bool → List Text → Answer
  | 0, _, so, words | _ + 1, 0, so, words => return (so, words)
  | depth + 1, fuel + 1, so, words => do
    let whole (words : List Text) : Answer :=
      disjunction files depth (words.length + 1) false words
    let (answer, last) ← conjunction files whole true (fuel + 1) words
    if roleAt (last.drop 1) = some .or then
      disjunction files (depth + 1) fuel (so || answer) (last.drop 2)
    else return (so || answer, last)

/-- The answer to a question, with what is left of it. -/
def whole (files : Files) (words : List Text) : Except Fault Bool := do
  let (answer, last) ← disjunction files (words.length + 1) (words.length + 1) false words
  match last with
  | word :: _ :: _ => throw (.unexpected word)
  | _ => return answer

/-- The answer to a question. Three words with an operator between two texts are just
that, and parentheses or a negation around so few words always count. -/
def answer (files : Files) : List Text → Except Fault Bool
  | [] => .ok false
  | [first, operator, last] =>
    if role? operator = some .binary then binary files first operator last
    else if first = ['('] && last = [')'] then whole files [operator]
    else if first = ['!'] then (answer files [operator, last]).map (!·)
    else whole files [first, operator, last]
  | [first, second, third, last] =>
    if first = ['('] && last = [')'] then whole files [second, third]
    else if first = ['!'] then (answer files [second, third, last]).map (!·)
    else whole files [first, second, third, last]
  | words => whole files words

end Conch.Program.Script.Question
