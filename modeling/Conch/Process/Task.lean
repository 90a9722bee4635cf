import Conch.Process.Course
import Conch.Text.Octets

/-!
Processes: what a program is given when it is run, and what it leaves. A program
reads and writes through its own descriptors, which are bound to what it shares with
the shell or to pipes, and may bind others before it runs another program. It ends with a status.

Arguments, names and messages of programs are octets.
-/

namespace Conch.Process

/-- What a program is given besides its arguments. -/
structure Task where
  /-- The name by which it was called. -/
  name : Text
  /-- The number of its process. -/
  number : Nat
  /-- What its descriptors are bound to. -/
  handles : List (Nat × Handle)
  /-- The variables that it inherits. -/
  environment : Table Text
  /-- The signals of which it wants to be told. -/
  caught : List Nat := []
  /-- The signals that do not reach it. -/
  ignored : List Nat := []

/-- A program, which is run with its arguments. -/
abbrev Program := Task → List Text → Course Status

/-- The descriptor that a path stands for. -/
def descriptorAt? (path : Text) : Option Nat :=
  let numbered (directory : Text) : Option Nat :=
    (Text.afterStart? directory path).bind Text.digitsValue?
  if path = ("/dev/stdin" : Text) then some 0
  else if path = ("/dev/stdout" : Text) then some 1
  else if path = ("/dev/stderr" : Text) then some 2
  else (numbered "/dev/fd/").or (numbered "/proc/self/fd/")

/-- A failure to open a file as the system reports it. -/
def osError : IoError → OsError
  | .os error => error
  | _ => .noSuchFile

namespace Task

/-- What a descriptor is bound to. -/
def handle? (task : Task) (fd : Nat) : Option Handle := task.handles.lookup fd

/-- The task with a descriptor closed. -/
def close (task : Task) (fd : Nat) : Task :=
  { task with handles := task.handles.filter (·.1 ≠ fd) }

/-- The task with a descriptor bound to something. -/
def bind (task : Task) (fd : Nat) (handle : Handle) : Task :=
  { task with handles := (fd, handle) :: (task.close fd).handles }

/-- What others have to know about a program that runs. -/
def stance (task : Task) : Stance :=
  { handles := task.handles.map (·.2), caught := task.caught, ignored := task.ignored }

/-- Makes a new channel. -/
def newChannel (channel : Channel) : Action Handle := do
  let (number, w) := (← Action.world).addChannel channel
  Action.setWorld w
  return .shared (.channel number)

/-- Makes a new pipe. -/
def newPipe : Action Nat := do
  let w ← Action.world
  Action.setWorld { w with nextChannel := w.nextChannel + 1 }
  return w.nextChannel

/-- What a path that stands for a descriptor leads to: a file is opened anew by
`reopen`, anything else is shared. -/
def openDescriptor (task : Task) (fd : Nat) (reopen : Path → Action (Except OsError Handle)) :
    Action (Except OsError Handle) := do
  match task.handle? fd with
  | none => return .error .noSuchFile
  | some (.shared (.channel number)) =>
    match (← Action.world).channels number with
    | .pipe _ => return .ok (.shared (.channel number))
    | .file path _ _ => reopen path
  | some handle => return .ok handle

/-- Opens a file for reading. -/
def openRead (task : Task) (path : Text) : Action (Except OsError Handle) := do
  match descriptorAt? path with
  | some fd => task.openDescriptor fd fun path => return .ok (← newChannel (.file path 0 .read))
  | none =>
    match (← Action.world).openRead (Octets.toText path) with
    | .ok channel => return .ok (← newChannel channel)
    | .error error => return .error (osError error)

/-- Opens a file for writing. -/
def openWrite (task : Task) (path : Text) (access : Access) : Action (Except OsError Handle) := do
  let make (written : Text) : Action (Except OsError Handle) := do
    match (← Action.world).openWrite written access with
    | .ok (w, channel) =>
      Action.setWorld w
      return .ok (← newChannel channel)
    | .error error => return .error (osError error)
  match descriptorAt? path with
  | some fd => task.openDescriptor fd fun path => make ('/' :: Text.join "/" path)
  | none => make (Octets.toText path)

/-- Writes on a descriptor. -/
def write (task : Task) (fd : Nat) (bytes : Bytes) : Course (Except OsError Unit) := do
  match task.handle? fd with
  | some (.shared endpoint) => Action.tryWrite endpoint bytes
  | some (.writing pipe) =>
    if bytes.isEmpty then return .ok ()
    match (← Course.ask task.stance (.write pipe bytes)).answer with
    | .refused => return .error .brokenPipe
    | _ => return .ok ()
  | _ => return .error .badDescriptor

/-- Reads from a channel. -/
def readChannel {α : Type} (number : Nat)
    (read : Volume → Channel → Except OsError (α × Channel)) : Action (Except OsError α) := do
  let w ← Action.world
  match read w.volume (w.channels number) with
  | .ok (value, channel) =>
    Action.setWorld (w.setChannel number channel)
    return .ok value
  | .error error => return .error error

/-- Reads from a pipe; nothing at its end. -/
def readPipe (stance : Stance) (pipe : Nat) (portion : Portion) : Course Bytes := do
  match (← Course.ask stance (.read pipe portion)).answer with
  | .bytes bytes => return bytes
  | _ => return []

/-- The largest number of portions that are read as one. -/
def portionLimit : Nat := 1000000000

/-- Reads portions of a pipe up to one that is the last, or to the end of the pipe. -/
def readPortions (stance : Stance) (pipe : Nat) (portion : Portion) (isLast : Bytes → Bool) :
    Course Bytes :=
  Course.iterate
    (fun found => do
      let bytes ← readPipe stance pipe portion
      if bytes.isEmpty then return .inr found.reverse.flatten
      else if isLast bytes then return .inr (bytes :: found).reverse.flatten
      else return .inl (bytes :: found))
    portionLimit ([] : List Bytes)

/-- The size of the blocks in which a pipe is read to its end. -/
def blockSize : Nat := 65536

/-- Reads a pipe to its end. -/
def drain (task : Task) (pipe : Nat) : Course Bytes :=
  let stance := { task.stance with handles := .reading pipe :: task.stance.handles }
  readPortions stance pipe (.block blockSize) fun _ => false

/-- Reads all that is left on a descriptor. -/
def readAll (task : Task) (fd : Nat) : Course (Except OsError Bytes) := do
  match task.handle? fd with
  | some (.shared (.channel number)) => readChannel number Volume.readAll
  | some (.reading pipe) =>
    return .ok (← task.drain pipe)
  | _ => return .error .badDescriptor

/-- Reads at most `count` bytes on a descriptor, at least one unless it is at its end. -/
def readSome (task : Task) (fd count : Nat) : Course (Except OsError Bytes) := do
  match task.handle? fd with
  | some (.shared (.channel number)) =>
    readChannel number fun volume => volume.readSome count
  | some (.reading pipe) => return .ok (← readPipe task.stance pipe (.block count))
  | _ => return .error .badDescriptor

/-- Reads a line on a descriptor, without its newline, and whether it had one. -/
def readLine (task : Task) (fd : Nat) : Course (Except OsError (Bytes × Bool)) := do
  match task.handle? fd with
  | some (.shared (.channel number)) => readChannel number Volume.readLine
  | some (.reading pipe) =>
    let line ← readPortions task.stance pipe .line fun bytes => bytes.getLast? == some 10
    if line.getLast? = some 10 then return .ok (line.dropLast, true)
    else return .ok (line, false)
  | _ => return .error .badDescriptor

/-- Moves the place of a descriptor back, where that is possible. -/
def rewind (task : Task) (fd count : Nat) : Action Unit := do
  match task.handle? fd with
  | some (.shared (.channel number)) =>
    let w ← Action.world
    Action.setWorld (w.setChannel number ((w.channels number).rewind count))
  | _ => return ()

/-- Writes a line for the user to read apart from the result. -/
def report (task : Task) (line : Text) : Course Unit := do
  let _ ← task.write 2 (Octets.toBytes line ++ [10])

/-- Writes a line about something that went wrong in the program. -/
def complain (task : Task) (message : Text) : Course Unit :=
  task.report (task.name ++ ": " ++ message)

/-- Writes the whole result of a program, which fails if that is not possible. A program
without a result writes nothing, so it does not matter where it would write. -/
def deliver (task : Task) (bytes : Bytes) : Course Status := do
  if bytes.isEmpty then return .success
  match ← task.write 1 bytes with
  | .ok () => return .success
  | .error error =>
    task.complain ("write error: " ++ error.name)
    return .failure

/-- Ends a program that was called in a way that it does not understand. -/
def misused (task : Task) (message : Text) (more : Option Text) : Course Status := do
  task.complain message
  if let some line := more then task.report line
  task.report ("Try '" ++ task.name ++ " --help' for more information.")
  return .failure

end Task

end Conch.Process
