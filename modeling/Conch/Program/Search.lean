import Conch.Host.World
import Conch.Text.Octets

/-!
Finding programs by name. A name with a slash in it is a path; any other name is
looked for in the directories of a search path.
-/

namespace Conch.Program

/-- A program and the path that leads to it. -/
structure Located where
  path : Text
  program : Text
  deriving DecidableEq, Repr

/-- The program that a path leads to. Nothing else can be run. -/
def programAt (w : World) (path : Text) : Except OsError Located := do
  match ← w.volume.locate w.directory (Octets.toText path) with
  | .existing _ (.program name) => return ⟨path, name⟩
  | .existing .. => throw .permissionDenied
  | .free _ => throw .noSuchFile

/-- Looks for a program in directories. Something that cannot be run is passed over,
but it is what is reported in the end. -/
def findIn (w : World) (name : Text) (found : OsError) : List Text → Except OsError Located
  | [] => .error found
  | directory :: rest =>
    match programAt w (if directory.isEmpty then name else directory ++ "/" ++ name) with
    | .ok program => .ok program
    | .error .noSuchFile | .error .notADirectory => findIn w name found rest
    | .error .permissionDenied => findIn w name .permissionDenied rest
    | .error error => .error error

/-- Finds a program by name. -/
def find (w : World) (directories : List Text) (name : Text) : Except OsError Located :=
  if name.isEmpty then .error .noSuchFile
  else if name.contains '/' then programAt w name
  else if Volume.longestName < name.length then .error .nameTooLong
  else findIn w name .noSuchFile directories

end Conch.Program
