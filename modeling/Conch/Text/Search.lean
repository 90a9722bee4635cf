import Conch.Text.Needle
import Conch.Text.Utf8

/-!
Occurrences of one text in another. Occurrences are taken from the left and never
overlap; the empty text occurs before every character and at the end.

`pieces` is the one notion of cutting at occurrences; counting and replacing are
read off it. Positions are counted in bytes.
-/

namespace Conch.Text

/-- Cuts at the occurrences of a nonempty text. `skip` characters at the front still
belong to the last occurrence, `piece` is the piece being read, latest character
first, and `done` are the pieces before it, latest first. -/
def cutFrom (needle : Needle) (done : List Text) (piece : Text) (skip : Nat) (window : Window) :
    Text → List Text
  | [] => (piece.reverse :: done).reverse
  | c :: rest =>
    match skip with
    | skip + 1 => cutFrom needle done piece skip (needle.move window c) rest
    | 0 =>
      if needle.startsAt window (c :: rest) then
        cutFrom needle (piece.reverse :: done) [] (needle.length - 1) (needle.move window c) rest
      else cutFrom needle done (c :: piece) 0 (needle.move window c) rest

/-- What lies between the occurrences of `pattern` in `s`. -/
def pieces (pattern s : Text) : List Text :=
  if pattern.isEmpty then [] :: s.map (fun c => [c]) ++ [[]]
  else
    let needle := Needle.ofText pattern
    cutFrom needle [] [] 0 (needle.atStart s) s

/-- The number of occurrences. -/
def occurrences (pattern s : Text) : Nat := (pieces pattern s).length - 1

/-- Replaces every occurrence of `old`. -/
def replaceAll (old new s : Text) : Text := join new (pieces old s)

/-- Replaces the first `count` occurrences of `old`. -/
def replaceFirst (count : Nat) (old new s : Text) : Text :=
  let parts := pieces old s
  if parts.length ≤ count + 1 then join new parts
  else join new (parts.take count ++ [join old (parts.drop count)])

/-- The byte offset of the first occurrence of a nonempty text, counted on from
`offset`. -/
def indexFrom? (needle : Needle) (offset : Nat) (window : Window) : Text → Option Nat
  | [] => none
  | c :: rest =>
    if needle.startsAt window (c :: rest) then some offset
    else indexFrom? needle (offset + c.utf8Size) (needle.move window c) rest

/-- The byte offset of the first occurrence. -/
def index? (pattern s : Text) : Option Nat :=
  if pattern.isEmpty then some 0
  else
    let needle := Needle.ofText pattern
    indexFrom? needle 0 (needle.atStart s) s

/-- Whether `pattern` occurs in a text. -/
def occursIn (pattern s : Text) : Bool := (index? pattern s).isSome

/-- The byte offset of the last occurrence, overlapping ones included: of the first
one when both texts are read backwards, so many bytes are behind it. -/
def lastIndex? (pattern s : Text) : Option Nat :=
  (index? pattern.reverse s.reverse).map fun behind =>
    byteLength s - byteLength pattern - behind

example : pieces ("aa" : Text) ("aaaba" : Text) = ["", "aba"].map String.toList := by decide
example : lastIndex? ("aa" : Text) ("aaa" : Text) = some 1 := by decide

end Conch.Text
