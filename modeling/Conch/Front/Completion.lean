import Conch.Builtin.Basic
import Conch.Text.Blank
import Conch.Text.Utf8

/-!
Completion of the name of a command. The word before the cursor begins behind the
last blank or opening delimiter; the names of built-in commands and of aliases
that begin with that word are its completions.

Places in a line are counted in bytes. A place inside a character is no place, and
neither is one that would follow the first byte of a longer blank.
-/

namespace Conch.Front

/-- The part of a line before a place, if the place lies between two characters. -/
def before? : Nat → Text → Option Text
  | 0, _ => some []
  | _ + 1, [] => none
  | place, c :: rest =>
    if c.utf8Size ≤ place then (before? (place - c.utf8Size) rest).map (c :: ·) else none

/-- Whether a new word begins behind a character. -/
def isWordBreak (c : Char) : Bool := Text.isBlank c || c == '{' || c == '('

/-- The names that begin with a word that is not empty, in ascending order. -/
def completions (aliases : Table Text) (word : Text) : List Text :=
  if word.isEmpty then []
  else
    let names : Table Unit :=
      (Builtin.table.keys ++ aliases.keys).foldl (fun names name => names.insert name ()) .empty
    names.keys.filter word.isPrefixOf

/-- The place where the word before the cursor begins, and its completions; nothing
if one of the two is no place in the line. -/
def complete? (aliases : Table Text) (line : Text) (cursor : Nat) :
    Option (Nat × List Text) := do
  let typed ← before? cursor line
  let word := Text.takeEndWhile (!isWordBreak ·) typed
  match (typed.take (typed.length - word.length)).getLast? with
  | none => return (0, completions aliases word)
  | some c =>
    if c.utf8Size = 1 then return (cursor - Text.byteLength word, completions aliases word)
    else none

end Conch.Front
