import Conch.Host.Volume

/-!
Changes that are still to come. A program may leave others behind that go on when it
has ended. What they will do is known then, and it happens when its time has come.
-/

namespace Conch

/-- Something that happens while the shell does something else. -/
inductive Change where
  /-- Bytes are written on an output of the shell itself. -/
  | shown (fd : Nat) (bytes : Bytes)
  /-- Bytes are added to a file. -/
  | added (path : Path) (bytes : Bytes)
  /-- Something new is at a path, in place of anything that was there. -/
  | placed (path : Path) (entry : Entry)
  deriving DecidableEq, Repr

namespace Change

/-- How the entry of a path came to be what it is. -/
def ofEntry (path : Path) : Option Entry → Entry → Option Change
  | some (.file before), .file after =>
    if before = after then none
    else
      match List.isPrefixOf? before after with
      | some bytes => some (.added path bytes)
      | none => some (.placed path (.file after))
  | before, after => if before = some after then none else some (.placed path after)

/-- How a volume came to be what it is. -/
def between (before after : Volume) : List Change :=
  after.entries.filterMap fun (path, entry) => ofEntry path (before.get? path) entry

/-- A volume after a change. -/
def apply (volume : Volume) : Change → Volume
  | .shown .. => volume
  | .added path bytes =>
    match volume.get? path with
    | some (.file before) => volume.put path (.file (before ++ bytes))
    | _ => volume.put path (.file bytes)
  | .placed path entry => volume.put path entry

/-- What a change writes on the outputs of the shell itself. -/
def output? : Change → Option (Nat × Bytes)
  | .shown fd bytes => some (fd, bytes)
  | _ => none

end Change

end Conch
