import Conch.Front.Shell
import Conch.Host.Layout

/-!
The command line. The shell runs in a world that holds its input, its environment,
and those files that its arguments and its settings name. When it has ended, what it
wrote is printed in order, and the files that it changed are written.
-/

namespace Conch.CommandLine

/-- The variables of the environment that the shell and its programs look at. -/
def variableNames : List String :=
  ["HOME", "PATH", "TERM", "TMPDIR", "LALASH_HISTORY", "LALASH_RC", "LALASH_PROMPT",
    "LALASH_LOG", "LALASH_ALIAS_DEPTH"]

/-- The written paths of the files that a run may look at first. -/
def filesOf (args : List Text) (config : Config) : List Text :=
  args.filter (·.head? != some '-') ++ config.startupPath.toList ++ [config.historyPath]

/-- One name further on the way from the root. -/
def further (here : Path) (name : Text) : Path :=
  if name = ("." : Text) then here
  else if name = (".." : Text) then here.dropLast
  else here ++ [name]

/-- The path that is meant by a written one. -/
def pathOf (here : Path) (written : Text) : Path :=
  (Volume.names written).foldl further (if written.head? = some '/' then [] else here)

/-- The world with a file in it. -/
def withFile (world : World) (written : Text) (bytes : Bytes) : World :=
  let path := pathOf world.directory written
  { world with volume := (world.volume.makeDirectories path.dropLast).put path (.file bytes) }

/-- The files that are not what they were before. -/
def changedFiles (before after : Volume) : List (Path × Bytes) :=
  after.entries.filterMap fun (path, entry) =>
    match entry with
    | .file bytes => if before.get? path = some entry then none else some (path, bytes)
    | _ => none

/-- The path as the system reads it. -/
def written (path : Path) : String := String.ofList (path.flatMap fun name => '/' :: name)

/-- Reads a stream to its end; `found` are the blocks before, latest first. -/
partial def readBlocks (stream : IO.FS.Stream) (found : List Bytes) : IO Bytes := do
  let block ← stream.read 65536
  if block.isEmpty then return found.reverse.flatten
  else readBlocks stream (block.toList :: found)

/-- Adds a variable of the environment, if it is set. -/
def addVariable (table : Table Text) (name : String) : IO (Table Text) := do
  match ← IO.getEnv name with
  | some value => return table.insert name.toList value.toList
  | none => return table

/-- Adds a file, if it can be read. -/
def addFile (world : World) (name : Text) : IO World := do
  try
    let bytes ← IO.FS.readBinFile (String.ofList name)
    return withFile world name bytes.toList
  catch _ => return world

/-- The world in which the shell starts. -/
def startWorld (args : List Text) : IO World := do
  let environment ← variableNames.foldlM addVariable .empty
  let directory := Volume.names (← IO.currentDir).toString.toList
  let waiting ← readBlocks (← IO.getStdin) []
  let world : World :=
    { volume := Volume.usual.makeDirectories directory, directory, environment,
      terminal := { waiting } }
  (filesOf args (Front.configOf environment)).foldlM addFile world

/-- Prints what an event wrote. -/
def printEvent (event : Event) : IO Unit := do
  match event with
  | .shown 1 bytes => (← IO.getStdout).write ⟨bytes.toArray⟩
  | .shown 2 bytes => (← IO.getStderr).write ⟨bytes.toArray⟩
  | _ => return ()

end Conch.CommandLine

open Conch in
/-- Runs the shell. -/
def main (args : List String) : IO UInt32 := do
  let args := args.map String.toList
  let world ← CommandLine.startWorld args
  let result := Front.run args ⟨{ aliasDepth := Config.defaultAliasDepth }, world⟩
  result.trace.forM CommandLine.printEvent
  for (path, bytes) in CommandLine.changedFiles world.volume result.session.world.volume do
    IO.FS.writeBinFile (CommandLine.written path) ⟨bytes.toArray⟩
  match result.outcome with
  | .done code => return code.number.toUInt32
  | _ => return 1
