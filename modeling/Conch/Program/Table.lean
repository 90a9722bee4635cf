import Conch.Program.Cat
import Conch.Program.Head
import Conch.Program.Printf
import Conch.Program.Script.Run
import Conch.Program.Search
import Conch.Program.Sleep
import Conch.Program.Tr

/-!
The programs that there are, and how they are started. The arguments and the variables
that a program is given have to fit into the space that there is for them.
-/

namespace Conch.Program

open Process

/-- The number of bytes that an argument may not reach. -/
def argumentLimit : Nat := 131072

/-- The number of bytes that all arguments and variables may have. -/
def totalLimit : Nat := 2097152

/-- The bytes that a text takes: its own, the one that ends it, and those of the place
where it is noted. -/
def textSize (text : Text) : Nat := text.length + 1 + 8

/-- The bytes that the arguments and variables of a program take. -/
def totalSize (path name : Text) (args : List Text) (environment : Table Text) : Nat :=
  let settings := environment.entries.map fun (key, value) => key.length + 1 + textSize value
  path.length + 1 + total ((name :: args).map textSize) + total settings

/-- Whether a program can be given its arguments and variables. -/
def fits (path name : Text) (args : List Text) (environment : Table Text) : Bool :=
  args.all (·.length + 1 ≤ argumentLimit) &&
    totalSize path name args environment ≤ totalLimit

/-- The program of a name, given how a script starts others. -/
def ofName (start : Script.Starter) (name : Text) : Program :=
  match String.ofList name with
  | "sh" => Script.interpreter start
  | "cat" => cat
  | "head" => head
  | "tr" => tr
  | "printf" => printf
  | "sleep" => sleep
  | "false" => fun _ _ => pure .failure
  | _ => fun _ _ => pure .success

/-- The directories in which a program is looked for. -/
def searchPath (environment : Table Text) : List Text :=
  ((environment.get? "PATH").getD World.usualSearchPath).splitOnP (· == ':')

/-- Finds a program, to a depth of scripts that run scripts. -/
def start : Nat → Script.Starter
  | 0 => fun _ _ _ _ => .ok fun _ => Action.unfinished
  | depth + 1 => fun w task name args => do
    let located ← find w (searchPath task.environment) name
    if !fits located.path name args task.environment then throw .argumentsTooLong
    return fun number =>
      ofName (start depth) located.program { task with name := name, number := number } args

/-- The depth to which scripts run scripts. -/
def depthLimit : Nat := 1000

end Conch.Program
