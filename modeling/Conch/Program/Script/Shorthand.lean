import Conch.Text.Basic

/-!
Shorthands: the words that stand for texts where a command may begin.

Shorthands are kept in drawers, and they are listed drawer by drawer. In one drawer
they stand in the order in which they were defined; a new text for a word does not
move it.
-/

namespace Conch.Program.Script

/-- Words with the texts that they stand for, as they are listed. -/
structure Shorthands where
  entries : List (Text × Text) := []

namespace Shorthands

/-- The number of drawers. -/
def drawerCount : Int := 39

/-- The numbers of drawers are counted up to this one before they are brought into
range. -/
def drawerRange : Int := 4294967296

/-- An octet as a number with a sign. -/
def signed (c : Char) : Int := if c.toNat < 128 then c.toNat else (c.toNat : Int) - 256

/-- The drawer of a word: its first octet counts sixteen times more than the others. -/
def drawer (name : Text) : Int :=
  let first : Int := ((name.head?.map Char.toNat).getD 0 : Nat) * 16
  (name.foldl (fun sum c => sum + signed c) first) % drawerRange % drawerCount

/-- Whether there are no shorthands. -/
def isEmpty (shorthands : Shorthands) : Bool := shorthands.entries.isEmpty

/-- The text that a word stands for. -/
def get? (shorthands : Shorthands) (name : Text) : Option Text := shorthands.entries.lookup name

/-- Puts a new shorthand behind those of its drawer. -/
def place (name value : Text) : List (Text × Text) → List (Text × Text)
  | [] => [(name, value)]
  | entry :: rest =>
    if drawer name < drawer entry.1 then (name, value) :: entry :: rest
    else entry :: place name value rest

/-- Lets a word stand for a text. -/
def insert (shorthands : Shorthands) (name value : Text) : Shorthands :=
  if (shorthands.get? name).isSome then
    ⟨shorthands.entries.map fun entry => if entry.1 = name then (name, value) else entry⟩
  else ⟨place name value shorthands.entries⟩

/-- Lets a word stand for itself again. -/
def erase (shorthands : Shorthands) (name : Text) : Shorthands :=
  ⟨shorthands.entries.filter (·.1 ≠ name)⟩

end Shorthands

end Conch.Program.Script
