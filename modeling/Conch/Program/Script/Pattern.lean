import Conch.Text.Basic

/-!
Patterns. A star matches any text, a question mark any octet, and brackets one of
the octets between them; quotes protect all of these from meaning more than
themselves.
-/

namespace Conch.Program.Script

/-- An octet of a pattern, which quotes may protect. -/
structure Glyph where
  octet : Char
  quoted : Bool
  deriving DecidableEq, Repr

namespace Glyph

/-- Whether an octet has its meaning in patterns. -/
def is (glyph : Glyph) (c : Char) : Bool := glyph.octet == c && !glyph.quoted

/-- The text of octets. -/
def text (glyphs : List Glyph) : Text := glyphs.map (·.octet)

end Glyph

namespace Pattern

/-- A part of a pattern. -/
inductive Atom where
  | octet (c : Char)
  | any
  | star
  /-- One of the octets in the ranges, or one that is in none of them. -/
  | among (inverted : Bool) (ranges : List (Char × Char))
  deriving DecidableEq, Repr

/-- The ranges of a named class. -/
def class? (name : Text) : Option (List (Char × Char)) :=
  let known : List (Text × List (Char × Char)) :=
    [("alnum", [('0', '9'), ('A', 'Z'), ('a', 'z')]), ("alpha", [('A', 'Z'), ('a', 'z')]),
      ("blank", [('\t', '\t'), (' ', ' ')]),
      ("cntrl", [(Char.ofNat 0, Char.ofNat 31), (Char.ofNat 127, Char.ofNat 127)]),
      ("digit", [('0', '9')]), ("graph", [('!', '~')]), ("lower", [('a', 'z')]),
      ("print", [(' ', '~')]),
      ("punct", [('!', '/'), (':', '@'), ('[', '`'), ('\x7b', '~')]),
      ("space", [('\t', '\r'), (' ', ' ')]), ("upper", [('A', 'Z')]),
      ("xdigit", [('0', '9'), ('A', 'F'), ('a', 'f')])]
  known.lookup name

/-- The class that glyphs begin with behind an opening bracket, and its size. -/
def classAt? (glyphs : List Glyph) : Option (List (Char × Char) × Nat) :=
  match glyphs with
  | colon :: rest =>
    if !colon.is ':' then none
    else
      let name := (rest.takeWhile (·.octet.isAlpha)).map (·.octet)
      match rest.drop name.length with
      | first :: second :: _ =>
        if first.is ':' && second.is ']' then (class? name).map (·, name.length + 3) else none
      | _ => none
  | [] => none

/-- The ranges up to the closing bracket and the number of glyphs that they take; the
first glyph never closes. -/
def readRanges (found : List (Char × Char)) (first : Bool) :
    Nat → List Glyph → Option (List (Char × Char) × Nat)
  | 0, _ => none
  | _ + 1, [] => none
  | fuel + 1, glyph :: rest =>
    if glyph.is ']' && !first then some (found, 1)
    else
      match (if glyph.is '[' then classAt? rest else none) with
      | some (ranges, size) =>
        (readRanges (found ++ ranges) false fuel (rest.drop size)).map fun (ranges, used) =>
          (ranges, used + size + 1)
      | none =>
        match rest with
        | hyphen :: last :: behind =>
          if hyphen.is '-' && !last.is ']' then
            (readRanges (found ++ [(glyph.octet, last.octet)]) false fuel behind).map
              fun (ranges, used) => (ranges, used + 3)
          else
            (readRanges (found ++ [(glyph.octet, glyph.octet)]) false fuel rest).map
              fun (ranges, used) => (ranges, used + 1)
        | _ =>
          (readRanges (found ++ [(glyph.octet, glyph.octet)]) false fuel rest).map
            fun (ranges, used) => (ranges, used + 1)

/-- The brackets that glyphs begin with behind an opening one, and their size. -/
def brackets? (glyphs : List Glyph) : Option (Atom × Nat) :=
  let inverted := match glyphs.head? with
    | some glyph => glyph.is '!'
    | none => false
  let inside := if inverted then glyphs.drop 1 else glyphs
  (readRanges [] true (inside.length + 1) inside).map fun (ranges, used) =>
    (.among inverted ranges, used + if inverted then 1 else 0)

/-- The parts of a pattern. The first `skip` glyphs are passed over. -/
def atoms (skip : Nat) : List Glyph → List Atom
  | [] => []
  | glyph :: rest =>
    match skip with
    | skip + 1 => atoms skip rest
    | 0 =>
      if glyph.is '*' then .star :: atoms 0 rest
      else if glyph.is '?' then .any :: atoms 0 rest
      else if glyph.is '[' then
        match brackets? rest with
        | some (atom, size) => atom :: atoms size rest
        | none => .octet '[' :: atoms 0 rest
      else .octet glyph.octet :: atoms 0 rest

/-- Whether an octet is one of those that a part of a pattern stands for. -/
def Atom.accepts (atom : Atom) (c : Char) : Bool :=
  match atom with
  | .octet d => c == d
  | .any => true
  | .star => false
  | .among inverted ranges =>
    (ranges.any fun (low, high) => low ≤ c && c ≤ high) != inverted

/-! A text is matched from the left. Before each octet it is known for every end of the
pattern whether the octets so far match what stands before that end. -/

/-- What is known before the first octet. -/
def starts (reached : Bool) : List Atom → List Bool
  | [] => [reached]
  | .star :: atoms => reached :: starts reached atoms
  | _ :: atoms => reached :: starts false atoms

/-- What is known behind one more octet. -/
def advance (c : Char) (reached : Bool) : List Atom → List Bool → List Bool
  | [], _ | _, [] => [reached]
  | .star :: atoms, here :: known => (reached || here) :: advance c (reached || here) atoms known
  | atom :: atoms, here :: known => reached :: advance c (here && atom.accepts c) atoms known

/-- Whether all of the pattern is matched. -/
def isComplete (known : List Bool) : Bool := known.getLast?.getD false

/-- Whether a pattern matches a whole text. -/
def matchesAll (atoms : List Atom) (text : Text) : Bool :=
  isComplete (text.foldl (fun known c => advance c false atoms known) (starts true atoms))

/-- Whether glyphs are a pattern that matches a whole text. -/
def isMatch (glyphs : List Glyph) (text : Text) : Bool := matchesAll (atoms 0 glyphs) text

/-- Whether glyphs may match anything but their own text. -/
def isPattern (glyphs : List Glyph) : Bool :=
  (atoms 0 glyphs).any fun atom =>
    match atom with
    | .octet _ => false
    | _ => true

/-- How long the starts of a text are that a pattern matches, the longest first; `size`
octets have been passed over, and `found` are the lengths so far. -/
def sizesFrom (atoms : List Atom) (known : List Bool) (size : Nat) (found : List Nat) :
    Text → List Nat
  | [] => if isComplete known then size :: found else found
  | c :: text =>
    sizesFrom atoms (advance c false atoms known) (size + 1)
      (if isComplete known then size :: found else found) text

/-- How long the start of a text is that a pattern matches, as long or as short as
possible. -/
def startSize? (longest : Bool) (atoms : List Atom) (text : Text) : Option Nat :=
  let sizes := sizesFrom atoms (starts true atoms) 0 [] text
  if longest then sizes.head? else sizes.getLast?

/-- Fields without what a pattern matches at the start of the first one. If it may take
as much as possible and matches the whole field, nothing is left. -/
def dropStart (longest : Bool) (glyphs : List Glyph) : List Text → List Text
  | [] => []
  | first :: rest =>
    match startSize? longest (atoms 0 glyphs) first with
    | some size => if longest && size = first.length then [[]] else first.drop size :: rest
    | none => first :: rest

/-- A text without what a pattern matches at its end. -/
def withoutEnd? (longest : Bool) (glyphs : List Glyph) (text : Text) : Option Text :=
  (startSize? longest (atoms 0 glyphs).reverse text.reverse).map fun size =>
    text.take (text.length - size)

/-- Fields, last first, without what a pattern matches at the end of the last one that
it matches at all; the fields behind that one are left out. -/
def dropLast (glyphs : List Glyph) : List Text → Option (List Text)
  | [] => none
  | field :: rest =>
    match withoutEnd? false glyphs field with
    | some field => some (field :: rest)
    | none => dropLast glyphs rest

/-- Fields without what a pattern matches at their end. If it may take as much as
possible, it begins in the first field, and the others are left out. -/
def dropEnd (longest : Bool) (glyphs : List Glyph) (fields : List Text) : List Text :=
  if longest then
    match fields with
    | [] => []
    | first :: rest =>
      match withoutEnd? true glyphs first with
      | some first => [first]
      | none => first :: rest
  else ((dropLast glyphs fields.reverse).map List.reverse).getD fields

end Pattern

end Conch.Program.Script
