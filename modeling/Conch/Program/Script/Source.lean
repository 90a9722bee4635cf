import Conch.Program.Script.Shorthand
import Conch.Program.Script.Tree

/-!
The text of a script while it is read: what is left of it, the number of the line, a
token that was read too far, and the documents whose lines are still to come.

A backslash at the end of a line joins the line to the next one everywhere but
between single quotes.

The text that a shorthand stands for is put in the place of the word. While it is
read, the word stands for itself; it does so until the first octet behind the text is
passed, and as long as another text that was put in before that octet is read. If the
text ends with a blank, the word behind it may be a shorthand as well.
-/

namespace Conch.Program.Script

/-- The tokens that are not words: operators and reserved words. -/
inductive Sign where
  | endOfFile | newline | semicolon | background | and | or | pipe | opening | closing | endCase
  | redirection | word | not | case | do | done | elif | else | esac | fi | for | if | in | then
  | until | while | begin | end
  deriving DecidableEq, Repr

namespace Sign

/-- The reserved words. -/
def reserved : List (Text × Sign) :=
  [("!", .not), ("case", .case), ("do", .do), ("done", .done), ("elif", .elif), ("else", .else),
    ("esac", .esac), ("fi", .fi), ("for", .for), ("if", .if), ("in", .in), ("then", .then),
    ("until", .until), ("while", .while), ("\x7b", .begin), ("\x7d", .end)]

/-- The operators that stand for themselves in messages. -/
def operators : List (Sign × Text) :=
  [(.semicolon, ";"), (.background, "&"), (.and, "&&"), (.or, "||"), (.pipe, "|"),
    (.opening, "("), (.closing, ")"), (.endCase, ";;")]

/-- A token as messages show it. -/
def shown (sign : Sign) : Text :=
  match sign with
  | .endOfFile => "end of file"
  | .newline => "newline"
  | .redirection => "redirection"
  | .word => "word"
  | sign =>
    let written :=
      (operators.lookup sign).or ((reserved.find? fun (_, other) => other == sign).map (·.1))
    "\"" ++ written.getD [] ++ "\""

/-- Whether a token ends a list of commands. -/
def endsList : Sign → Bool
  | .endOfFile | .closing | .endCase | .do | .done | .elif | .else | .esac | .fi | .then | .end =>
    true
  | _ => false

end Sign

/-- A token of a script. -/
inductive Token where
  | sign (sign : Sign)
  /-- A word, and whether there were quotes in it. -/
  | word (word : Word) (quoted : Bool)
  /-- A sign of redirection; a document may have its lines indented. -/
  | redirect (fd : Option Nat) (sign : Text)

/-- The kind of a token. -/
def Token.kind : Token → Sign
  | .sign which => which
  | .word .. => .word
  | .redirect .. => .redirection

/-- A document whose lines are still to come. -/
structure Pending where
  number : Nat
  /-- The line that ends it. -/
  delimiter : Text
  /-- Whether tabulators at the start of its lines are left out. -/
  indented : Bool
  /-- Whether nothing is put into it. -/
  verbatim : Bool

/-- A text that was put in the place of a word. -/
structure Insertion where
  /-- The word, and those whose texts ended just before it. -/
  names : List Text
  /-- The number of octets behind the text. -/
  behind : Nat
  /-- Whether the text ends with a blank. -/
  endsInBlank : Bool

/-- What is left of a script. -/
structure Source where
  rest : Text
  line : Nat := 1
  /-- A number of steps that is enough to read the whole of it. -/
  limit : Nat := rest.length + 1
  /-- A token that was read too far. -/
  back : Option Token := none
  /-- Whether it is a text that stood between backquotes. -/
  isBackquoted : Bool := false
  pending : List Pending := []
  /-- The documents that were read, by number. -/
  documents : List (Nat × Word) := []
  nextDocument : Nat := 0
  shorthands : Shorthands := {}
  /-- The texts that were put in and that are not yet read to their ends, innermost
  first. -/
  insertions : List Insertion := []
  /-- The words whose texts have just been read to their ends. -/
  leaving : List Text := []
  /-- The words in whose texts this one stands. -/
  around : List Text := []
  /-- Whether the end of a text with a blank at its end was passed since the last token. -/
  isBehindBlank : Bool := false

namespace Source

/-- Leaves the texts that were put in and are read to their ends. -/
def settled (source : Source) : Source :=
  match source.insertions with
  | [] => source
  | insertions =>
    let (unread, ended) := insertions.partition (·.behind < source.rest.length)
    { source with
      insertions := unread
      leaving := ended.flatMap (·.names) ++ source.leaving
      isBehindBlank := source.isBehindBlank || ended.any (·.endsInBlank) }

/-- The words that stand for themselves because their texts are being read. -/
def namesInUse (source : Source) : List Text :=
  source.insertions.flatMap (·.names) ++ source.leaving ++ source.around

/-- The text that a word stands for. -/
def shorthand? (source : Source) (word : Text) : Option Text :=
  if source.namesInUse.contains word then none else source.shorthands.get? word

/-- Puts a text in the place of the word that was just read. -/
def inserted (source : Source) (name text : Text) : Source :=
  match text.getLast? with
  | none => source
  | some last =>
    let insertion : Insertion :=
      { names := name :: source.leaving
        behind := source.rest.length
        endsInBlank := last = ' ' || last = '\t' }
    { source with
      rest := text ++ source.rest
      insertions := insertion :: source.insertions
      leaving := [] }

end Source

/-- A script that cannot be read, with the line where that was noticed. -/
structure Malformed where
  line : Nat
  message : Text
  deriving DecidableEq, Repr

/-- What reads some of a script. -/
abbrev Reader := StateT Source (Except Malformed)

namespace Reader

/-- Refuses the script. -/
def refuse {α : Type} (message : Text) : Reader α := do
  throw ⟨(← get).line, message⟩

/-- Refuses the script because of a token. -/
def unexpected {α : Type} (token : Sign) (wanted : Option Sign) : Reader α :=
  refuse (token.shown ++ " unexpected" ++
    match wanted with
    | some sign => " (expecting " ++ sign.shown ++ ")"
    | none => [])

/-- A text without the line joints at its start, and their number. -/
def skipJoints : Text → Text × Nat
  | '\\' :: '\n' :: rest =>
    let (behind, count) := skipJoints rest
    (behind, count + 1)
  | text => (text, 0)

/-- The next octet, which stays. -/
def peek : Reader (Option Char) := do
  modify Source.settled
  let source ← get
  let (rest, joints) := skipJoints source.rest
  if joints ≠ 0 then
    set { source with rest := rest, line := source.line + joints, leaving := [] }.settled
  return rest.head?

/-- The next octet, even if it joins lines. -/
def nextRaw : Reader (Option Char) := do
  modify Source.settled
  let source ← get
  match source.rest with
  | [] => return none
  | c :: rest =>
    let line := if c = '\n' then source.line + 1 else source.line
    set { source with rest := rest, line := line, leaving := [] }
    return some c

/-- The next octet. -/
def next : Reader (Option Char) := do
  let _ ← peek
  nextRaw

/-- The next octet; the line is not counted if it ends here. -/
def nextUncounted : Reader (Option Char) := do
  let _ ← peek
  let line := (← get).line
  let c ← nextRaw
  modify fun source => { source with line := line }
  return c

/-- The octets up to one that is not in `p`, for at most `fuel`. -/
def takeWhile (p : Char → Bool) : Nat → Reader Text
  | 0 => pure []
  | fuel + 1 => do
    match ← peek with
    | some c =>
      if p c then
        let _ ← next
        return c :: (← takeWhile p fuel)
      else return []
    | none => return []

/-- The octets up to one that is not in `p`, joints of lines included. -/
def takeRaw (p : Char → Bool) : Reader Text := do
  modify Source.settled
  let source ← get
  let taken := source.rest.takeWhile p
  set { source with
    rest := source.rest.drop taken.length
    line := source.line + taken.count '\n'
    leaving := if taken.isEmpty then source.leaving else [] }
  return taken

/-- The largest number of octets that are put in for shorthands. -/
def insertionLimit : Nat := 1000000000

/-- A number of steps that is enough to read the rest. -/
def size : Reader Nat := do
  let source ← get
  return if source.shorthands.isEmpty then source.limit else source.limit + insertionLimit

/-- Gives a token back. -/
def giveBack (token : Token) : Reader Unit :=
  modify fun source => { source with back := some token }

/-- Reads another text in place of the script, which stays as it is. The text begins on
the given line. -/
def reading {α : Type} (text : Text) (line : Nat) (backquoted : Bool) (reader : Reader α) :
    Reader α := do
  let outer ← get
  set { outer with
    rest := text
    line := line
    limit := text.length + 1
    back := none
    isBackquoted := backquoted
    pending := []
    insertions := []
    leaving := []
    around := outer.namesInUse }
  let value ← reader
  modify fun inner =>
    { outer with documents := inner.documents, nextDocument := inner.nextDocument }
  return value

end Reader

end Conch.Program.Script
