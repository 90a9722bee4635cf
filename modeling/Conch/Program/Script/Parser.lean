import Conch.Program.Script.Reader

/-!
Reading commands. A list of commands ends at a token that no command begins with;
what closes it is for the reader around it to say. Commands nest, so their reader is
given the depth to which they may.
-/

namespace Conch.Program.Script.Reader

/-- How a list of commands is read; it may be empty if the argument says so. -/
abbrev ListReader := Bool → Reader (Option Command)

/-- Commands as one. -/
def together : List Command → Option Command
  | [] => none
  | [command] => some command
  | commands => some (.sequence commands)

/-- The command that does nothing. -/
def nothing : Command := .sequence []

/-- A command whose output is put into a word, up to the closing parenthesis. In a text
that stood between backquotes, nothing has to close it. -/
def outputCommand (list : ListReader) (commands : Reader Command) : Reader Command := do
  let outer ← get
  set { outer with back := none, isBackquoted := false, pending := [] }
  let body ← list true
  let token ← readToken commands {}
  if !outer.isBackquoted && token.kind ≠ .closing then unexpected token.kind (some .closing)
  readDocuments commands
  modify fun source =>
    { source with back := none, isBackquoted := outer.isBackquoted, pending := outer.pending }
  return body.getD nothing

/-- What reads the tokens of a list: its nested lists, and the commands in its words. -/
structure Around where
  list : ListReader
  commands : Reader Command

namespace Around

/-- The next token of a place. -/
def tokenAt (around : Around) (place : Place) : Reader Token := readToken around.commands place

/-- The next token behind blanks only. -/
def token (around : Around) : Reader Token := around.tokenAt {}

/-- Where a command may begin. -/
def opening : Place := { keywords := true, shorthands := true }

/-- The next token where a command may begin. -/
def commandToken (around : Around) : Reader Token := around.tokenAt opening

/-- The next token behind newlines, where a command may begin. -/
def laterToken (around : Around) : Reader Token :=
  around.tokenAt { opening with newlines := true }

/-- The next token between the cases of a choice. -/
def caseToken (around : Around) : Reader Token :=
  around.tokenAt { newlines := true, keywords := true }

/-- Checks that a token is the one that has to come. -/
def expect (token : Token) (sign : Sign) : Reader Unit :=
  if token.kind = sign then pure () else unexpected token.kind (some sign)

/-- A list that may not be empty. -/
def body (around : Around) : Reader Command := return (← around.list false).getD nothing

/-- The target of a redirection. -/
def redirection (around : Around) (fd : Option Nat) (sign : Text) : Reader Redirection := do
  let input := sign.head? = some '<'
  let fd := fd.getD (if input then 0 else 1)
  let isDocument := sign = ("<<" : Text) || sign = ("<<-" : Text)
  let token ← around.tokenAt { plain := isDocument }
  match token with
  | .word word quoted =>
    if isDocument then
      let source ← get
      let delimiter := word.filterMap fun piece =>
        match piece with
        | .octet c _ => some c
        | _ => none
      set { source with
        nextDocument := source.nextDocument + 1
        pending := source.pending ++
          [Pending.mk source.nextDocument delimiter (sign.length == 3) quoted] }
      return .mk fd (.document source.nextDocument) []
    else
      let kind : RedirectionKind :=
        match sign with
        | ['<'] => .read
        | ['>', '>'] => .append
        | ['>', '|'] => .overwrite
        | ['<', '>'] => .update
        | [_, '&'] => .duplicate
        | _ => .write
      return .mk fd kind word
  | token => unexpected token.kind none

/-- The redirections behind a command, for at most `fuel`. What comes behind the first
one is not taken for a reserved word any more. -/
def redirections (around : Around) (place : Place) : Nat → Reader (List Redirection)
  | 0 => pure []
  | fuel + 1 => do
    match ← around.tokenAt place with
    | .redirect fd sign =>
      let first ← around.redirection fd sign
      return first :: (← redirections around {} fuel)
    | token =>
      giveBack token
      return []

/-- The words that stand where words alone may stand, and the token behind them. -/
def words (around : Around) : Nat → Reader (List Word × Token)
  | 0 => return ([], .sign .endOfFile)
  | fuel + 1 => do
    match ← around.token with
    | .word word _ =>
      let (rest, token) ← words around fuel
      return (word :: rest, token)
    | token => return ([], token)

/-- The rest of a condition, behind its first word. -/
def conditional (around : Around) : Nat → Reader Command
  | 0 => pure nothing
  | fuel + 1 => do
    let condition ← around.body
    expect (← around.token) .then
    let body ← around.body
    let token ← around.token
    match token.kind with
    | .elif => return .conditional condition body (some (← conditional around fuel))
    | .else => return .conditional condition body (some (← around.body))
    | _ =>
      giveBack token
      return .conditional condition body none

/-- The rest of a loop over words. -/
def forEach (around : Around) (line : Nat) : Reader Command := do
  let name ← match ← around.token with
    | .word word false =>
      match (Word.plain? word).filter isName with
      | some name => pure name
      | none => refuse "Bad for loop variable"
    | _ => refuse "Bad for loop variable"
  let token ← around.laterToken
  let words ←
    if token.kind = .in then
      let (words, token) ← around.words (← size)
      if token.kind ≠ .newline ∧ token.kind ≠ .semicolon then unexpected token.kind none
      if token.kind = .newline then readDocuments around.commands
      pure words
    else
      if token.kind ≠ .semicolon then giveBack token
      pure [[Piece.parameter ['@'] .plain false [] true]]
  expect (← around.laterToken) .do
  return .forEach line name words (← around.body)

/-- The patterns of a case behind the first one. -/
def patterns (around : Around) (first : Token) : Nat → Reader (List Word)
  | 0 => pure []
  | fuel + 1 => do
    let word ← match first with
      | .word word _ => pure word
      | .sign sign =>
        match Sign.reserved.find? fun (_, other) => other == sign with
        | some (text, _) => pure (text.map fun c => Piece.octet c false)
        | none => pure []
      | .redirect .. => pure []
    let token ← around.token
    if token.kind = .pipe then return word :: (← patterns around (← around.token) fuel)
    else
      expect token .closing
      return [word]

/-- The cases of a choice. -/
def cases (around : Around) : Nat → Reader (List (List Word × Option Command))
  | 0 => pure []
  | fuel + 1 => do
    let token ← around.caseToken
    if token.kind = .esac then return []
    let first ← if token.kind = .opening then around.token else pure token
    let patterns ← around.patterns first (← size)
    let body ← around.list true
    let token ← around.caseToken
    match token.kind with
    | .esac => return [(patterns, body)]
    | .endCase => return (patterns, body) :: (← cases around fuel)
    | kind => unexpected kind (some .endCase)

/-- The rest of a choice. -/
def choice (around : Around) (line : Nat) : Reader Command := do
  match ← around.token with
  | .word word _ =>
    expect (← around.laterToken) .in
    return .choice line word (← around.cases (← size))
  | token => unexpected token.kind (some .word)

/-- The name and the start of the value if a word sets a variable. -/
def setting? (word : Word) : Option (Text × Word) :=
  let (text, behind) := Word.splitPlain word
  match Text.cut? '=' text with
  | some (name, value) =>
    if isName name then some (name, (value.map fun c => .octet c false) ++ behind) else none
  | none => none

/-- The names that cannot be those of functions. -/
def specialNames : List Text :=
  [".", ":", "break", "continue", "eval", "exec", "exit", "export", "local", "readonly", "return",
    "set", "shift", "times", "trap", "unset"]

/-- What was read of a simple command. -/
structure Simple where
  settings : List (Text × Word) := []
  words : List Word := []
  redirections : List Redirection := []

/-- Reads a simple command, or the definition of a function, whose body `command`
reads. -/
def simple (around : Around) (command : Reader Command) (line : Nat) (found : Simple) :
    Nat → Reader Command
  | 0 => pure nothing
  | fuel + 1 => do
    match ← around.tokenAt { shorthands := found.words.isEmpty } with
    | .word word _ =>
      match (if found.words.isEmpty then setting? word else none) with
      | some setting =>
        simple around command line { found with settings := found.settings ++ [setting] } fuel
      | none =>
        simple around command line { found with words := found.words ++ [word] } fuel
    | .redirect fd sign =>
      let redirection ← around.redirection fd sign
      simple around command line
        { found with redirections := found.redirections ++ [redirection] } fuel
    | token =>
      match token.kind, found with
      | .opening, { settings := [], words := [word], redirections := [] } =>
        expect (← around.token) .closing
        match (Word.plain? word).filter fun name => isName name && !specialNames.contains name with
        | none => refuse "Bad function name"
        | some name =>
          let line := (← get).line
          giveBack (← around.laterToken)
          return .define line name (← command)
      | _, _ =>
        giveBack token
        return .simple line found.settings found.words found.redirections

/-- Reads one command of a pipeline, for at most `fuel` definitions in definitions. -/
def command (around : Around) : Nat → Bool → Reader Command
  | 0, _ => pure nothing
  | fuel + 1, later => do
    let token ← if later then around.laterToken else around.commandToken
    let line := (← get).line
    let closed (body : Command) (sign : Sign) : Reader Command := do
      expect (← around.token) sign
      return body
    let compound : Option (Reader Command) :=
      match token.kind with
      | .if => some do closed (← around.conditional (← size)) .fi
      | .while => some do
        let condition ← around.body
        expect (← around.token) .do
        closed (.loop true condition (← around.body)) .done
      | .until => some do
        let condition ← around.body
        expect (← around.token) .do
        closed (.loop false condition (← around.body)) .done
      | .for => some do closed (← around.forEach line) .done
      | .case => some (around.choice line)
      | .opening => some do
        let body ← around.body
        closed (.subshell line body []) .closing
      | .begin => some do closed (← around.body) .end
      | _ => none
    match compound, token with
    | some reader, _ =>
      let body ← reader
      match ← around.redirections opening (← size), body with
      | [], body => return body
      | redirections, .subshell line body _ => return .subshell line body redirections
      | redirections, body => return .redirected line body redirections
    | none, .word .. | none, .redirect .. =>
      giveBack token
      around.simple (command around fuel true) line {} (← size)
    | none, token => unexpected token.kind none

/-- Reads the commands of a pipeline behind the first one. -/
def piped (around : Around) : Nat → Reader (List Command)
  | 0 => pure []
  | fuel + 1 => do
    let token ← around.token
    if token.kind = .pipe then
      let command ← around.command (← size) true
      return command :: (← piped around fuel)
    else
      giveBack token
      return []

/-- Reads a pipeline, behind newlines if they may stand before it. -/
def pipeline (around : Around) (later : Bool) : Reader Command := do
  let token ← if later then around.laterToken else around.commandToken
  if token.kind ≠ .not then giveBack token
  let first ← around.command (← size) false
  let rest ← around.piped (← size)
  let all := if rest.isEmpty then first else .pipeline (first :: rest)
  return if token.kind = .not then .not all else all

/-- Reads pipelines behind the first one. -/
def andOr (around : Around) (first : Command) : Nat → Reader Command
  | 0 => pure first
  | fuel + 1 => do
    let token ← around.token
    match token.kind with
    | .and => andOr around (.andThen first (← around.pipeline true)) fuel
    | .or => andOr around (.orElse first (← around.pipeline true)) fuel
    | _ =>
      giveBack token
      return first

/-- Reads a list of commands. A list on the top ends with its line; any other goes on
to a token that ends it. -/
def listed (around : Around) (top mayEnd : Bool) (done : List Command) :
    Nat → Reader (List Command)
  | 0 => pure done.reverse
  | fuel + 1 => do
    let token ← if top then around.commandToken else around.laterToken
    match token.kind with
    | .newline =>
      readDocuments around.commands
      return done.reverse
    | .endOfFile =>
      readDocuments around.commands
      giveBack token
      return done.reverse
    | kind =>
      giveBack token
      if !top && mayEnd && kind.endsList then return done.reverse
      let line := (← get).line
      let command ← around.andOr (← around.pipeline false) (← size)
      let token ← around.token
      let command := if token.kind = .background then .background line command else command
      match token.kind with
      | .endOfFile =>
        readDocuments around.commands
        giveBack token
        return (command :: done).reverse
      | .newline =>
        giveBack token
        listed around top true (command :: done) fuel
      | .background | .semicolon => listed around top true (command :: done) fuel
      | kind =>
        if top then unexpected kind none
        giveBack token
        return (command :: done).reverse

end Around

/-- What reads commands that nest to a depth. -/
def nested : Nat → Around
  | 0 => ⟨fun _ => refuse "nested too deep", refuse "nested too deep"⟩
  | depth + 1 =>
    let inner := nested depth
    let list : ListReader := fun mayBeEmpty => do
      return together (← inner.listed false mayBeEmpty [] (← size))
    ⟨list, outputCommand list inner.commands⟩

/-- The depth to which commands nest. -/
def depthLimit : Nat := 1000

/-- Reads the commands of a line and of the lines that belong to it; nothing at the
end of the script. -/
def readLine : Reader (Option (List Command)) := do
  let topmost := nested depthLimit
  let token ← readToken topmost.commands {}
  if token.kind = .endOfFile then return none
  giveBack token
  return some (← topmost.listed true false [] (← size))

end Conch.Program.Script.Reader
