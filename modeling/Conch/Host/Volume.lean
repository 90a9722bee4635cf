import Conch.Error.Io
import Conch.Text.Utf8

/-!
The files that a session sees. A volume holds directories, files with their bytes,
the devices that commands use, and the programs that can be run. Nothing is
ever removed or renamed, so a path names the same thing for the whole session.

A written path is walked from the root or from the working directory; every part
but the last has to be a directory that exists.
-/

namespace Conch

/-- The names on the way from the root. -/
abbrev Path := List Text

/-- What a path leads to. -/
inductive Entry where
  | directory
  | file (bytes : Bytes)
  /-- Reads as nothing and swallows what is written. -/
  | nullDevice
  /-- Reads as zeros without end and swallows what is written. -/
  | zeroDevice
  /-- Reads as zeros without end and has no room for what is written. -/
  | fullDevice
  /-- A program, by the name under which it is known. -/
  | program (name : Text)
  deriving DecidableEq, Repr

/-- A tree of files. The root is a directory and has no entry of its own. -/
structure Volume where
  entries : List (Path × Entry) := []
  deriving Repr

/-- Where a written path leads. -/
inductive Place where
  /-- To something that exists. -/
  | existing (path : Path) (entry : Entry)
  /-- To a name that is free in a directory that exists. -/
  | free (path : Path)
  deriving DecidableEq, Repr

namespace Volume

/-- What a path leads to. -/
def get? (volume : Volume) (path : Path) : Option Entry :=
  if path = [] then some .directory else volume.entries.lookup path

/-- Puts an entry at a path, in place of any that is there. -/
def put (volume : Volume) (path : Path) (entry : Entry) : Volume :=
  if (volume.entries.lookup path).isSome then
    ⟨volume.entries.map fun old => if old.1 = path then (path, entry) else old⟩
  else ⟨volume.entries ++ [(path, entry)]⟩

/-- Makes the directories on the way to a path and the last one as well. -/
def makeDirectories (volume : Volume) (path : Path) : Volume :=
  (List.range path.length).foldl
    (fun volume n =>
      let part := path.take (n + 1)
      if (volume.get? part).isSome then volume else volume.put part .directory)
    volume

/-- The longest name of a file, and the longest written path, in bytes. -/
def longestName : Nat := 255
@[inherit_doc longestName] def longestPath : Nat := 4095

/-- Walks the names of a written path from the directory `here`. -/
def walk (volume : Volume) (here : Path) : List Text → Except OsError Place
  | [] =>
    match volume.get? here with
    | some entry => .ok (.existing here entry)
    | none => .error .noSuchFile
  | name :: rest =>
    if volume.get? here ≠ some .directory then .error .notADirectory
    else if longestName < Text.byteLength name then .error .nameTooLong
    else if name = ("." : Text) then volume.walk here rest
    else if name = (".." : Text) then volume.walk here.dropLast rest
    else if (volume.get? (here ++ [name])).isSome then volume.walk (here ++ [name]) rest
    else if rest.isEmpty then .ok (.free (here ++ [name]))
    else .error .noSuchFile

/-- The names in a written path. -/
def names (written : Text) : List Text := (written.splitOnP (· == '/')).filter (!·.isEmpty)

/-- Where a written path leads, seen from the directory `here`. A slash at its end
asks for a directory. -/
def locate (volume : Volume) (here : Path) (written : Text) : Except OsError Place := do
  if written.isEmpty then throw .noSuchFile
  if longestPath < Text.byteLength written then throw .nameTooLong
  let start := if written.head? = some '/' then [] else here
  let place ← volume.walk start (names written)
  match place with
  | .existing _ .directory => return place
  | .existing .. => if written.getLast? = some '/' then throw .notADirectory else return place
  | .free _ => return place

/-- The entries below a directory, by the way from there. -/
def below (volume : Volume) (directory : Path) : List (Path × Entry) :=
  volume.entries.filterMap fun (path, entry) =>
    if directory.isPrefixOf path ∧ directory.length < path.length then
      some (path.drop directory.length, entry)
    else none

end Volume

end Conch
