import Conch.Text.Blank
import Conch.Token.Lexer

/-!
Grouping joins words into groups. A pair of delimiters is looked for at the outer
ends of words only: opening delimiters count in the run of openers that a word
begins with, closing ones in the run of closers that it ends with, so that
delimiters may be glued to text. Words between an opener and its closer become
one token with the text between the two.

Only plain words take part in the count. Any other token inside a group is
written back into the text of the group; outside a group it passes through.
-/

namespace Conch

/-- Why an expression cannot be parsed. -/
inductive ParseError where
  /-- It cannot be cut into tokens. -/
  | lex (error : LexError)
  /-- A group is not closed. -/
  | unterminated (opener closer : Char)
  deriving DecidableEq, Repr

namespace Token

/-- Whether a character opens a group of either kind. -/
def isOpener (c : Char) : Bool := c == '{' || c == '('

/-- Whether a character closes a group of either kind. -/
def isCloser (c : Char) : Bool := c == '}' || c == ')'

/-- What a pass of grouping looks for and what it makes. -/
structure Delimiters where
  opener : Char
  closer : Char
  /-- The kind of the tokens that groups become. -/
  kind : Kind
  deriving DecidableEq, Repr

/-- Braces, whose groups are raw. -/
def braces : Delimiters := ⟨'{', '}', .raw⟩

/-- Parentheses, whose groups are substitutions. -/
def parentheses : Delimiters := ⟨'(', ')', .substitution⟩

/-- The number of openers of this pass in the run of openers at the front. -/
def Delimiters.opens (d : Delimiters) (s : Text) : Nat := (s.takeWhile isOpener).count d.opener

/-- The number of closers of this pass in the run of closers at the end. -/
def Delimiters.closes (d : Delimiters) (s : Text) : Nat :=
  (s.reverse.takeWhile isCloser).count d.closer

/-- Cuts behind the `needed`-th `closer`; nothing if there are fewer. -/
def cutAfter (closer : Char) : Nat → Text → Option (Text × Text)
  | _, [] => none
  | needed, c :: rest =>
    if c = closer then
      if needed ≤ 1 then some ([c], rest)
      else (cutAfter closer (needed - 1) rest).map fun (head, tail) => (c :: head, tail)
    else (cutAfter closer needed rest).map fun (head, tail) => (c :: head, tail)

/-- Cuts a text right behind the `needed`-th closer in the run of closers at its
end. What follows belongs to an outer group. -/
def splitAfterCloses (closer : Char) (needed : Nat) (s : Text) : Text × Text :=
  let run := Text.takeEndWhile isCloser s
  match cutAfter closer needed run with
  | some (head, tail) => (s.take (s.length - run.length) ++ head, tail)
  | none => (s, [])

/-- A group that is still open. -/
structure Group where
  /-- What has been read of it, its opener included, latest character first. -/
  back : Text
  /-- How many closers it waits for. -/
  depth : Nat
  deriving DecidableEq, Repr

/-- What has been read of a group. -/
def Group.text (group : Group) : Text := group.back.reverse

/-- Adds a piece of text, one space behind what is there. -/
def Group.push (group : Group) (piece : Text) : Group :=
  let piece := Text.trim piece
  if piece.isEmpty then group
  else if group.back.isEmpty then { group with back := piece.reverse }
  else { group with back := piece.reverse ++ ' ' :: group.back.dropWhile Text.isBlank }

/-- Adds a token as it is written. A statement mark stays glued to the word before. -/
def Group.pushToken (group : Group) (token : Token) : Group :=
  if token.isSplit then { group with back := ';' :: group.back } else group.push token.source

/-- The text without one opener at its front and one closer at its end, trimmed. -/
def Delimiters.body (d : Delimiters) (s : Text) : Text :=
  let s := (Text.afterStart? [d.opener] s).getD s
  Text.trim ((Text.beforeEnd? [d.closer] s).getD s)

/-- The tokens of a group that ends with the last closer of `head`, and of the text
`tail` behind it. -/
def Delimiters.finish (d : Delimiters) (group : Group) (head tail : Text) : List Token :=
  ⟨d.kind, d.body (group.push head).text⟩ :: if tail.isEmpty then [] else [word tail]

/-- Reads a token inside a group: the tokens that are complete, and the group if it
is still open. -/
def Delimiters.stepInside (d : Delimiters) (group : Group) (token : Token) :
    List Token × Option Group :=
  if token.kind ≠ .word ∨ token.isQuoted then ([], some (group.pushToken token))
  else
    let depth := group.depth + d.opens token.value
    let closes := d.closes token.value
    if closes < depth then ([], some { group.push token.value with depth := depth - closes })
    else
      let (head, tail) := splitAfterCloses d.closer depth token.value
      (d.finish group head tail, none)

/-- Reads a word that may open a group, seen as `s`. -/
def Delimiters.stepWord (d : Delimiters) (token : Token) (s : Text) :
    List Token × Option Group :=
  let opens := d.opens s
  if opens = 0 then ([token], none)
  else
    let before := s.takeWhile (· != d.opener)
    let body := s.dropWhile (· != d.opener)
    let front := if before.isEmpty then [] else [word before]
    let closes := d.closes s
    if opens ≤ closes then
      let (head, tail) := splitAfterCloses d.closer opens body
      (front ++ d.finish ⟨[], opens⟩ head tail, none)
    else (front, some (Group.push ⟨[], opens - closes⟩ body))

/-- Reads a token outside all groups. Quotes hide the delimiters of every pass but
that of substitutions, which looks through them. -/
def Delimiters.stepOutside (d : Delimiters) (token : Token) : List Token × Option Group :=
  if token.kind ≠ .word then ([token], none)
  else if !token.isQuoted then d.stepWord token token.value
  else if d.kind = .substitution then d.stepWord token (stripQuotes token.value)
  else ([token], none)

/-- Reads a token: the tokens that are complete, and the group that is open then. -/
def Delimiters.step (d : Delimiters) : Option Group → Token → List Token × Option Group
  | some group, token => d.stepInside group token
  | none, token => d.stepOutside token

/-- Groups the tokens that follow an open group, if there is one. -/
def Delimiters.groupFrom (d : Delimiters) :
    Option Group → List Token → Except ParseError (List Token)
  | none, [] => .ok []
  | some _, [] => .error (.unterminated d.opener d.closer)
  | pending, token :: rest =>
    let (complete, pending) := d.step pending token
    (d.groupFrom pending rest).map (complete ++ ·)

/-- Joins every balanced span of delimiters into one token. -/
def Delimiters.group (d : Delimiters) (tokens : List Token) : Except ParseError (List Token) :=
  d.groupFrom none tokens

end Token

end Conch
