import Conch.Program.Script.Arithmetic
import Conch.Program.Script.State

/-!
Words and what becomes of them. Values are put in for the pieces of a word; a value
that no quotes protect is split into fields at the separators, and a field that is a
pattern becomes the paths that it matches.

How the output of a command is taken is given to the expansion, as `captured`.
-/

namespace Conch.Program.Script

/-- A part of an expanded word. -/
inductive Part where
  /-- An octet; it may separate fields if it comes from a value without quotes. -/
  | octet (glyph : Glyph) (splits : Bool)
  /-- A quote, which makes a field even if there is nothing in it. -/
  | mark
  /-- The end of one field and the start of another. -/
  | boundary
  deriving DecidableEq, Repr

namespace Part

/-- A value as it is put in. -/
def ofValue (quoted : Bool) (text : Text) : List Part :=
  text.map fun c => .octet ⟨c, quoted⟩ !quoted

/-- Values in fields of their own. -/
def ofValues (quoted : Bool) : List Text → List Part
  | [] => []
  | [text] => (if quoted then [.mark] else []) ++ ofValue quoted text
  | text :: rest =>
    (if quoted then [.mark] else []) ++ ofValue quoted text ++ .boundary :: ofValues quoted rest

/-- The glyphs of parts that are not split. -/
def glyphs (parts : List Part) : List Glyph :=
  parts.filterMap fun part =>
    match part with
    | .octet glyph _ => some glyph
    | .mark => none
    | .boundary => some ⟨' ', true⟩

/-- The text of parts that are not split. -/
def text (parts : List Part) : Text := Glyph.text (glyphs parts)

end Part

/-- The fields that are being made. -/
structure Fields where
  /-- The complete fields, latest first. -/
  done : List (List Glyph) := []
  /-- The field being made, latest glyph first. -/
  field : List Glyph := []
  /-- Whether the field is there even if it is empty. -/
  present : Bool := false
  /-- Whether only blanks separate the field from the one before. -/
  blankBefore : Bool := false

namespace Fields

/-- The fields with the last one complete. -/
def finish (fields : Fields) (blank : Bool) : Fields :=
  { done := fields.field.reverse :: fields.done, blankBefore := blank }

/-- Whether a separator is a blank, of which several count as one. -/
def isBlank (c : Char) : Bool := c == ' ' || c == '\t' || c == '\n'

/-- The fields with one more part. -/
def add (separators : Text) (fields : Fields) (part : Part) : Fields :=
  match part with
  | .mark => { fields with present := true }
  | .boundary =>
    if fields.present then fields.finish false else { fields with blankBefore := false }
  | .octet glyph splits =>
    if !(splits && separators.contains glyph.octet) then
      { fields with field := glyph :: fields.field, present := true }
    else if isBlank glyph.octet then if fields.present then fields.finish true else fields
    else if !fields.present && fields.blankBefore then { fields with blankBefore := false }
    else fields.finish false

end Fields

/-- The fields that parts make. -/
def fieldsOf (separators : Text) (parts : List Part) : List (List Glyph) :=
  let fields := parts.foldl (Fields.add separators) {}
  (if fields.present then fields.field.reverse :: fields.done else fields.done).reverse

/-! ### Paths that match -/

/-- The names in a directory. -/
def namesIn (volume : Volume) (directory : Path) : List Text :=
  volume.entries.filterMap fun (path, _) =>
    match path.getLast? with
    | some name =>
      if path.dropLast = directory && !path.isEmpty then some (Octets.ofText name) else none
    | none => none

/-- The names that a pattern matches in a directory. A name with a dot in front is only
matched by a pattern with one. -/
def matchingNames (volume : Volume) (directory : Path) (pattern : List Glyph) : List Text :=
  let dotted := (pattern.head?.map (·.octet == '.')).getD false
  let names := namesIn volume directory ++ (if dotted then [".".toList, "..".toList] else [])
  names.filter fun name =>
    (dotted || name.head? != some '.') && Pattern.isMatch pattern name

/-- The paths that the parts of a pattern match behind the path `written`, which leads to
`directory`. -/
def matchingPaths (volume : Volume) (directory : Path) (written : Text) :
    List (List Glyph) → List Text
  | [] => []
  | [last] =>
    if last.isEmpty then [written]
    else if Pattern.isPattern last then
      (matchingNames volume directory last).map (written ++ ·)
    else
      match volume.locate directory (Octets.toText (Glyph.text last)) with
      | .ok (.existing ..) => [written ++ Glyph.text last]
      | _ => []
  | first :: rest =>
    let names :=
      if first.isEmpty then [[]]
      else if Pattern.isPattern first then matchingNames volume directory first
      else [Glyph.text first]
    names.flatMap fun name =>
      if name.isEmpty then matchingPaths volume directory (written ++ ['/']) rest
      else
        match volume.locate directory (Octets.toText name) with
        | .ok (.existing path .directory) =>
          matchingPaths volume path (written ++ name ++ ['/']) rest
        | _ => []

/-- The paths that a field matches, or else its own text. -/
def pathsOf (w : World) (field : List Glyph) : List Text :=
  if !Pattern.isPattern field then [Glyph.text field]
  else
    let parts := field.splitOnP fun glyph => glyph.octet == '/'
    let absolute := (field.head?.map (·.octet == '/')).getD false
    let found :=
      if absolute then matchingPaths w.volume [] ['/'] (parts.drop 1)
      else matchingPaths w.volume w.directory [] parts
    if found.isEmpty then [Glyph.text field]
    else found.mergeSort fun a b => !decide (b < a)

/-! ### Parameters -/

/-- The value of a parameter. -/
inductive Value where
  | one (text : Text)
  /-- All parameters that have numbers; `joined` says whether quotes make them one. -/
  | all (joined : Bool) (texts : List Text)
  deriving DecidableEq, Repr

/-- The value of a parameter, if it has one. -/
def State.parameter? (state : State) (name : Text) : Option Value :=
  match name with
  | ['#'] => some (.one (Text.ofNat state.args.length))
  | ['?'] => some (.one (Text.ofNat state.status))
  | ['$'] => some (.one (Text.ofNat state.number))
  | ['!'] => state.lastJob.map fun number => .one (Text.ofNat number)
  | ['-'] => some (.one (state.settings.letters))
  | ['@'] => some (.all false state.args)
  | ['*'] => some (.all true state.args)
  | ['0'] => some (.one state.name)
  | _ =>
    match Text.digitsValue? name with
    | some 0 => some (.one state.name)
    | some n => (state.args[n - 1]?).map .one
    | none => (state.value? name).map .one

/-- Parameters joined into one text. -/
def State.joined (state : State) (texts : List Text) : Text :=
  Text.join (state.separators.take 1) texts

namespace Value

/-- A value as one text. -/
def text (state : State) : Value → Text
  | .one text => text
  | .all _ texts => state.joined texts

/-- The fields of a value where words are split or are not. -/
def fields (state : State) (splits quoted : Bool) : Value → List Text
  | .one text => [text]
  | .all joined texts =>
    if !splits || (joined && quoted) then [state.joined texts] else texts

/-- Fields of a value as they are put in. -/
def parts (quoted : Bool) (fields : List Text) : Value → List Part
  | .one _ => Part.ofValue quoted fields.flatten
  | .all _ _ =>
    match fields with
    | [text] => Part.ofValue quoted text
    | fields => Part.ofValues quoted fields

end Value

namespace Step

/-- The value of an expression; the variables that it sets are set. -/
def arithmetic (text : Text) : Step Text := do
  let state ← state
  match Arithmetic.evaluate (fun name => (state.parameter? name).map (·.text state)) text with
  | .error fault => fail (fault.message text)
  | .ok (value, set) =>
    for (name, value) in set do
      assign name (Text.ofInt value)
    return Text.ofInt value

/-- Ends the script because a parameter has no value. -/
def failUnset {α : Type} (name : Text) (message : Option Text) (orEmpty : Bool) : Step α :=
  fail (name ++ ": " ++
    match message with
    | some message => message
    | none => if orEmpty then "parameter not set or null" else "parameter not set")

/-- Where a word stands. -/
structure Place where
  /-- Whether it is split into fields. -/
  splits : Bool
  /-- Whether it is the word of a parameter. -/
  inner : Bool := false

/-- What is put in for a parameter, given how words are expanded. -/
def parameter (expand : Place → Word → Step (List Part)) (splits : Bool) (name : Text)
    (use : ParameterUse) (orEmpty : Bool) (word : Word) (quoted : Bool) : Step (List Part) := do
  let state ← state
  let value := if use = .bad then none else state.parameter? name
  let fields := (value.map fun value => value.fields state splits quoted).getD []
  let isGiven := value.isSome && !(orEmpty && (fields.isEmpty || fields = [[]]))
  let missing := value.isNone && state.settings.noUnset
  let put (fields : List Text) : List Part :=
    (value.map fun value => value.parts quoted fields).getD []
  let whole : Step Text := return Part.text (← expand ⟨false, true⟩ word)
  match use with
  | .bad => fail "Bad substitution"
  | .plain => if missing then failUnset name none false else return put fields
  | .length =>
    if missing then failUnset name none false
    let text := (value.map (·.text state)).getD []
    return Part.ofValue quoted (Text.ofNat text.length)
  | .orWord => if isGiven then return put fields else expand ⟨splits, true⟩ word
  | .andWord => if isGiven then expand ⟨splits, true⟩ word else return []
  | .orAssign =>
    if isGiven then return put fields
    let text ← whole
    if !isName name then fail (name ++ ": bad variable name")
    assign name text
    return Part.ofValue quoted text
  | .orFail =>
    if isGiven then return put fields
    let text ← whole
    failUnset name (if word.isEmpty then none else some text) orEmpty
  | .withoutStart longest =>
    if missing then failUnset name none false
    let pattern := Part.glyphs (← expand ⟨false, true⟩ word)
    return put (Pattern.dropStart longest pattern fields)
  | .withoutEnd longest =>
    if missing then failUnset name none false
    let pattern := Part.glyphs (← expand ⟨false, true⟩ word)
    return put (Pattern.dropEnd longest pattern fields)

/-- Whether a piece is an octet. -/
def isOctet : Piece → Bool
  | .octet .. => true
  | _ => false

/-- Octets as parts; in the word of a parameter they may separate fields. -/
def octetParts (inner : Bool) (pieces : List Piece) : List Part :=
  pieces.filterMap fun piece =>
    match piece with
    | .octet c quoted => some (.octet ⟨c, quoted⟩ (inner && !quoted))
    | _ => none

/-- The home directory of a user. -/
def homeOf (state : State) (user : Text) : Option Text :=
  if user.isEmpty then state.value? "HOME"
  else if user = ("root" : Text) then some "/root"
  else none

/-- A word with the home directory put in for a tilde at its start. In a setting, a
colon ends a name and starts another path. -/
def withHome (state : State) (setting : Bool) (word : Word) : Word :=
  match word with
  | .octet '~' false :: rest =>
    let isEnd (c : Char) : Bool := c == '/' || (setting && c == ':')
    let (text, behind) := Word.splitPlain rest
    let user := text.takeWhile (!isEnd ·)
    let complete := user.length < text.length || behind.isEmpty
    match (if complete then homeOf state user else none) with
    | some home => Word.ofText home ++ rest.drop user.length
    | none => word
  | word => word

/-- Expands a word, of which `size` bounds the number of pieces and `depth` how deep its
parameters nest. -/
def expandFrom (captured : Command → Step Text) : (depth size : Nat) → Place → Word →
    Step (List Part)
  | _, 0, _, _ => return []
  | depth, size + 1, place, word => do
    let octets := octetParts place.inner (word.takeWhile isOctet)
    let nested (place : Place) (word : Word) : Step (List Part) := do
      let word := withHome (← state) false word
      match depth with
      | 0 => return []
      | depth + 1 => expandFrom captured depth (word.length + 1) place word
    match word.dropWhile isOctet with
    | [] => return octets
    | .quote :: .parameter ['@'] .plain _ _ true :: .quote :: rest =>
      let state ← state
      let put :=
        if place.splits then Part.ofValues true state.args
        else Part.ofValue true (state.joined state.args)
      return octets ++ put ++ (← expandFrom captured depth size place rest)
    | piece :: rest =>
      let put ← match piece with
        | .quote => pure [.mark]
        | .octet .. => pure []
        | .parameter name use orEmpty word quoted =>
          parameter nested place.splits name use orEmpty word quoted
        | .output command quoted => return octets ++ Part.ofValue quoted (← captured command) ++
            (← expandFrom captured depth size place rest)
        | .value expression quoted =>
          let text := Part.text (← nested ⟨false, false⟩ expression)
          pure (Part.ofValue quoted (← arithmetic text))
      return octets ++ put ++ (← expandFrom captured depth size place rest)
termination_by depth size => (depth, size)

/-- How deep the parameters of a word nest. -/
def nestingLimit : Nat := 200

/-- A word with home directories put in behind every colon as well. -/
def withHomes (state : State) (word : Word) : Nat → Word
  | 0 => word
  | fuel + 1 =>
    let word := withHome state true word
    let isColon : Piece → Bool
      | .octet ':' false => true
      | _ => false
    let before := word.takeWhile (!isColon ·)
    match word.drop before.length with
    | [] => word
    | colon :: behind => before ++ colon :: withHomes state behind fuel

/-- The parts of a word, which is split or is not. -/
def expand (captured : Command → Step Text) (splits : Bool) (word : Word) :
    Step (List Part) := do
  let word := withHome (← state) false word
  expandFrom captured nestingLimit (word.length + 1) ⟨splits, false⟩ word

/-- The text of a word that is not split. -/
def expandText (captured : Command → Step Text) (word : Word) : Step Text :=
  return Part.text (← expand captured false word)

/-- The text of a setting. -/
def expandSetting (captured : Command → Step Text) (word : Word) : Step Text := do
  let word := withHomes (← state) word (word.length + 1)
  return Part.text (← expandFrom captured nestingLimit (word.length + 1) ⟨false, false⟩ word)

/-- The text of a document. -/
def expandDocument (captured : Command → Step Text) (word : Word) : Step Text :=
  return Part.text (← expandFrom captured nestingLimit (word.length + 1) ⟨false, false⟩ word)

/-- The fields of a word. -/
def expandWord (captured : Command → Step Text) (word : Word) : Step (List Text) := do
  let parts ← expand captured true word
  let state ← state
  let fields := fieldsOf state.separators parts
  if state.settings.noPatterns then return fields.map Glyph.text
  let w ← act Action.world
  return fields.flatMap (pathsOf w)

/-- The fields of words. -/
def expandWords (captured : Command → Step Text) : List Word → Step (List Text)
  | [] => return []
  | word :: rest => do
    let fields ← expandWord captured word
    return fields ++ (← expandWords captured rest)

end Step

end Conch.Program.Script
