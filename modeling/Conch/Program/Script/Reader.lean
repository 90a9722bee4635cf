import Conch.Program.Script.Source

/-!
Reading words and other tokens. Words hold commands whose output is put in; how a
list of commands is read is therefore given to the readers here, as `commands`.
-/

namespace Conch.Program.Script.Reader

/-- Where in a word the reader is. -/
structure Mode where
  /-- Octets are protected. -/
  quoted : Bool := false
  /-- Between the braces of a parameter. -/
  braced : Bool := false
  /-- In the lines of a document, where double quotes mean nothing. -/
  document : Bool := false
  /-- In an expression, which two closing parentheses end. -/
  expression : Bool := false
  /-- Nothing is put in. -/
  plain : Bool := false

/-- The octets that end a word. -/
def endsWord (c : Char) : Bool :=
  [' ', '\t', '\n', ';', '&', '|', '(', ')', '<', '>'].contains c

/-- Reads up to the second of two single quotes. -/
def singleQuoted : Reader Text := do
  let text ← takeRaw (· != '\'')
  match ← nextRaw with
  | none => refuse "Unterminated quoted string"
  | some _ => return text

/-- Reads a command between backquotes as a text, in which backslashes before some
octets are left out; `found` is the text so far, latest octet first. -/
def backquoted (quoted : Bool) (found : Text) : Nat → Reader Text
  | 0 => pure found.reverse
  | fuel + 1 => do
    match ← nextRaw with
    | none => refuse "EOF in backquote substitution"
    | some '`' => return found.reverse
    | some '\\' =>
      match ← nextRaw with
      | none => refuse "EOF in backquote substitution"
      | some '\n' => backquoted quoted found fuel
      | some c =>
        let kept := c = '\\' || c = '`' || c = '$' || (quoted && c = '"')
        backquoted quoted (if kept then c :: found else c :: '\\' :: found) fuel
    | some c => backquoted quoted (c :: found) fuel

/-- The octets that mean nothing in any mode. -/
def isOrdinary (c : Char) : Bool :=
  c.isAlphanum || ['_', '-', '.', '/', ',', ':', '=', '+', '%', '@'].contains c || 127 < c.toNat

/-- What a backslash and the octet behind it stand for. -/
def afterBackslash (mode : Mode) (c : Char) : List Piece :=
  let special := c = '\\' || c = '`' || c = '$' ||
    (c = '"' && !(mode.document && !mode.braced)) || (c = '\x7d' && mode.braced)
  if mode.quoted && !special then [.octet '\\' true, .octet c true] else [.octet c true]

/-- How the value of a parameter is used, whether an empty value counts as none, and
whether the parameter is closed. -/
def readUse : Reader (ParameterUse × Bool × Bool) := do
  let simple? : Char → Option ParameterUse
    | '-' => some .orWord
    | '+' => some .andWord
    | '?' => some .orFail
    | '=' => some .orAssign
    | _ => none
  match ← nextUncounted with
  | none => return (.bad, false, false)
  | some '\x7d' => return (.plain, false, true)
  | some ':' =>
    match ← nextUncounted with
    | some '\x7d' => return (.plain, true, false)
    | some c => return ((simple? c).getD .bad, true, false)
    | none => return (.bad, false, false)
  | some '#' =>
    if (← peek) = some '#' then
      let _ ← next
      return (.withoutStart true, false, false)
    else return (.withoutStart false, false, false)
  | some '%' =>
    if (← peek) = some '%' then
      let _ ← next
      return (.withoutEnd true, false, false)
    else return (.withoutEnd false, false, false)
  | some c => return ((simple? c).getD .bad, false, false)

/-- The name of a parameter that begins with the next octet. -/
def parameterName : Reader Text := do
  match ← peek with
  | some c =>
    if isNameStart c then takeWhile isNameChar (← size)
    else if c.isDigit then takeWhile Char.isDigit (← size)
    else return []
  | none => return []

/-- The name of a parameter between braces and how it is used. -/
def readParameter : Reader (Text × ParameterUse × Bool × Bool) := do
  let name ← parameterName
  if !name.isEmpty then return (name, ← readUse)
  match ← peek with
  | none => return ([], .bad, false, false)
  | some '\x7d' => return ([], .bad, false, false)
  | some '#' =>
    let _ ← next
    let name ← parameterName
    if !name.isEmpty then return (name, .length, false, false)
    let before ← get
    match ← nextUncounted, ← peek with
    | some c, some '\x7d' =>
      if c = '\x7d' then
        set before
        return (['#'], ← readUse)
      else return ([c], if isSpecial c then .length else .bad, false, false)
    | _, _ =>
      set before
      return (['#'], ← readUse)
  | some c =>
    let _ ← nextUncounted
    if isSpecial c then return ([c], ← readUse) else return ([], .bad, false, false)

/-- The fault of a word that ends too early. -/
def endedEarly (mode : Mode) : Text :=
  if mode.expression then "Missing '))'"
  else if mode.quoted && !mode.document then "Unterminated quoted string"
  else "Missing '\x7d'"

/-- Reads pieces up to where the mode ends, with `commands` for the commands in them.
`depth` counts the open parentheses of an expression, `inner` says whether double
quotes are open inside braces inside others, and `found` are the pieces so far, latest
first, with a mark whether there were quotes. -/
def readPieces (commands : Reader Command) : Nat → Mode → Nat → Bool → List Piece × Bool →
    Reader (List Piece × Bool)
  | 0, _, _, _, found => pure (found.1.reverse, found.2)
  | fuel + 1, mode, depth, inner, (found, quotes) => do
    let more (pieces : List Piece) (quotes : Bool) : Reader (List Piece × Bool) :=
      readPieces commands fuel mode depth inner (pieces.reverse ++ found, quotes)
    let finish : Reader (List Piece × Bool) := pure (found.reverse, quotes)
    match ← peek with
    | none => if mode.braced || mode.expression || (mode.quoted && !mode.document) then
        refuse (endedEarly mode) else finish
    | some '\\' =>
      let _ ← nextRaw
      match ← nextRaw with
      | none => more [.octet '\\' true] quotes
      | some c => more (afterBackslash mode c) true
    | some '\'' =>
      let _ ← next
      if mode.quoted then more [.octet '\'' true] quotes
      else
        let text ← singleQuoted
        more (.quote :: (text.map fun c => .octet c true) ++ [.quote]) true
    | some '"' =>
      let _ ← next
      if mode.expression || (mode.document && !mode.braced) then more [.octet '"' true] quotes
      else if mode.quoted then
        if mode.braced then
          readPieces commands fuel mode depth (!inner) (.quote :: found, true)
        else return (found.reverse, quotes)
      else
        let (pieces, _) ← readPieces commands fuel { quoted := true } 0 false ([], true)
        more (.quote :: pieces ++ [.quote]) true
    | some '$' =>
      let _ ← next
      if mode.plain then more [.octet '$' mode.quoted] quotes
      else
        match ← peek with
        | some '(' =>
          let _ ← next
          if (← peek) = some '(' then
            let _ ← next
            let inside : Mode := { quoted := true, expression := true }
            let (pieces, _) ← readPieces commands fuel inside 0 false ([], false)
            more [.value pieces mode.quoted] quotes
          else
            let command ← commands
            more [.output command mode.quoted] quotes
        | some '\x7b' =>
          let _ ← next
          let (name, use, orEmpty, closed) ← readParameter
          if closed then more [.parameter name use orEmpty [] mode.quoted] quotes
          else
            let trims := match use with
              | .withoutStart _ | .withoutEnd _ => true
              | _ => false
            let inside : Mode :=
              { quoted := mode.quoted && !trims, braced := true
                document := mode.document && !trims }
            let (pieces, _) ← readPieces commands fuel inside 0 false ([], false)
            more [.parameter name use orEmpty pieces mode.quoted] quotes
        | some c =>
          if isNameStart c then
            let name ← takeWhile isNameChar (← size)
            more [.parameter name .plain false [] mode.quoted] quotes
          else if isSpecial c then
            let _ ← next
            more [.parameter [c] .plain false [] mode.quoted] quotes
          else more [.octet '$' mode.quoted] quotes
        | none => more [.octet '$' mode.quoted] quotes
    | some '`' =>
      let _ ← next
      if mode.plain then more [.octet '`' mode.quoted] quotes
      else
        let text ← backquoted mode.quoted [] (← size)
        let command ← reading text 1 true commands
        more [.output command mode.quoted] quotes
    | some c =>
      if c = '\x7d' && mode.braced && !inner then
        let _ ← next
        finish
      else if mode.expression && c = '(' then
        let _ ← next
        readPieces commands fuel mode (depth + 1) inner (.octet c true :: found, quotes)
      else if mode.expression && c = ')' then
        let _ ← next
        if 0 < depth then
          readPieces commands fuel mode (depth - 1) inner (.octet c true :: found, quotes)
        else if (← peek) = some ')' then
          let _ ← next
          finish
        else more [.octet c true] quotes
      else if !mode.quoted && !mode.braced && endsWord c then finish
      else if isOrdinary c then
        let text ← takeRaw isOrdinary
        more (text.map fun c => .octet c mode.quoted) quotes
      else
        let _ ← next
        more [.octet c mode.quoted] quotes

/-- Reads the sign of a redirection. -/
def redirectionSign (fd : Option Nat) : Reader Token := do
  let first ← next
  let second ← peek
  let rest : List (Char × List Char) :=
    if first = some '>' then [('>', []), ('|', []), ('&', [])]
    else [('<', ['-']), ('&', []), ('>', [])]
  match second.bind fun c => (rest.lookup c).map (c, ·) with
  | none => return .redirect fd first.toList
  | some (c, third) =>
    let _ ← next
    match ← peek with
    | some d =>
      if third.contains d then
        let _ ← next
        return .redirect fd (first.toList ++ [c, d])
      else return .redirect fd (first.toList ++ [c])
    | none => return .redirect fd (first.toList ++ [c])

/-- An operator of one octet, or of two of the same. -/
def doubled (c : Char) (one two : Sign) : Reader Token := do
  if (← peek) = some c then
    let _ ← next
    return .sign two
  else return .sign one

/-- Reads the next token, for at most `fuel` blanks and comments before it. In a plain
mode nothing is put into a word. -/
def readFresh (commands : Reader Command) (plain : Bool) : Nat → Reader Token
  | 0 => pure (.sign .endOfFile)
  | fuel + 1 => do
    match ← peek with
    | none => return .sign .endOfFile
    | some c =>
      if c = ' ' || c = '\t' then
        let _ ← next
        readFresh commands plain fuel
      else if c = '#' then
        let _ ← takeRaw (· != '\n')
        readFresh commands plain fuel
      else if [';', '&', '|', '(', ')', '\n'].contains c then
        let _ ← next
        match c with
        | ';' => doubled ';' .semicolon .endCase
        | '&' => doubled '&' .background .and
        | '|' => doubled '|' .pipe .or
        | '(' => return .sign .opening
        | ')' => return .sign .closing
        | _ => return .sign .newline
      else
        let (word, quoted) ←
          readPieces commands ((← size) * 2) { plain := plain } 0 false ([], false)
        let ahead ← peek
        let digit := match Word.plain? word with
          | some [d] => if d.isDigit then some (d.toNat - 48) else none
          | _ => none
        if (ahead = some '<' || ahead = some '>') && !quoted && (word.isEmpty || digit.isSome) then
          redirectionSign digit
        else return .word word quoted

/-- Reads the next token, which may have been given back. -/
def readRaw (commands : Reader Command) (plain : Bool) : Reader Token := do
  let source ← get
  set { source with back := none, isBehindBlank := false }
  match source.back with
  | some token => return token
  | none => readFresh commands plain (← size)

/-- Reads the lines of a document up to the one that ends it; `found` are the lines so
far, latest first. -/
def documentLines (pending : Pending) (found : List Text) : Nat → Reader Text
  | 0 => pure found.reverse.flatten
  | fuel + 1 => do
    if (← get).rest.isEmpty then return found.reverse.flatten
    let line ← takeRaw (· != '\n')
    let newline ← nextRaw
    let line := if pending.indented then line.dropWhile (· == '\t') else line
    if line = pending.delimiter then return found.reverse.flatten
    else documentLines pending ((line ++ newline.toList) :: found) fuel

/-- Reads the documents that are still to come. -/
def readDocuments (commands : Reader Command) : Reader Unit := do
  let all := (← get).pending
  modify fun source => { source with pending := [] }
  for pending in all do
    let line := (← get).line
    let text ← documentLines pending [] (← size)
    let word ←
      if pending.verbatim then pure (Word.ofText text)
      else
        let inside : Mode := { quoted := true, document := true }
        let (pieces, _) ←
          reading text line false
            (readPieces commands (text.length * 2 + 1) inside 0 false ([], false))
        pure pieces
    modify fun source =>
      { source with documents := (pending.number, word) :: source.documents }

/-- Passes over newlines behind a token, for at most `fuel`. -/
def skipNewlines (commands : Reader Command) : Nat → Token → Reader Token
  | 0, token => pure token
  | fuel + 1, token => do
    if token.kind = .newline then
      readDocuments commands
      skipNewlines commands fuel (← readRaw commands false)
    else return token

/-- What may stand where a token is read. -/
structure Place where
  /-- Newlines, which are passed over. -/
  newlines : Bool := false
  /-- Reserved words. -/
  keywords : Bool := false
  /-- Words that stand for texts. -/
  shorthands : Bool := false
  /-- A word into which nothing is put. -/
  plain : Bool := false

/-- Reads the next token, behind at most `fuel` texts that are put in. -/
def readAt (commands : Reader Command) (place : Place) : Nat → Reader Token
  | 0 => readRaw commands place.plain
  | fuel + 1 => do
    let token ← readRaw commands place.plain
    let token ← if place.newlines then skipNewlines commands (← size) token else pure token
    let source ← get
    let place := { place with shorthands := place.shorthands || source.isBehindBlank }
    match token with
    | .word word false =>
      match Word.plain? word with
      | none => return token
      | some text =>
        match if place.keywords then Sign.reserved.lookup text else none with
        | some sign => return .sign sign
        | none =>
          match if place.shorthands then source.shorthand? text else none with
          | some value =>
            set (source.inserted text value)
            readAt commands place fuel
          | none => return token
    | token => return token

/-- Reads the next token. -/
def readToken (commands : Reader Command) (place : Place) : Reader Token := do
  readAt commands place (← size)

end Conch.Program.Script.Reader
