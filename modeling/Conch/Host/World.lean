import Conch.Cancel
import Conch.Host.Change
import Conch.Host.Channel
import Conch.Table

/-!
The world around an evaluation: the files and the working directory, the variables
of the environment, the channels that descriptors are bound to, the input of the
shell itself, the cancel tokens, a clock that only waiting moves, and what is still to
happen.
-/

namespace Conch

/-- The input of the shell itself. The shell reads it in blocks, and a program that
inherits it sees only what no block has taken. -/
structure Terminal where
  /-- Taken from the input and not yet used. -/
  buffered : Bytes := []
  /-- Not yet taken. -/
  waiting : Bytes := []
  deriving DecidableEq, Repr

namespace Terminal

/-- The size of a block. -/
def blockSize : Nat := 8192

/-- Reads on behind `line`, latest byte first. -/
def readLineFrom (line : Bytes) (terminal : Terminal) : Bytes × Terminal :=
  match terminal.buffered.dropWhile (· != 10) with
  | newline :: rest =>
    ((newline :: (terminal.buffered.takeWhile (· != 10)).reverse ++ line).reverse,
      { terminal with buffered := rest })
  | [] =>
    let line := terminal.buffered.reverse ++ line
    if terminal.waiting = [] then (line.reverse, {})
    else readLineFrom line ⟨terminal.waiting.take blockSize, terminal.waiting.drop blockSize⟩
termination_by terminal.waiting.length
decreasing_by
  rename_i nonempty
  have := List.length_pos_iff.2 nonempty
  simp [blockSize]
  omega

/-- The next line with its newline, or what is left; nothing at the end of input. -/
def readLine (terminal : Terminal) : Bytes × Terminal := terminal.readLineFrom []

/-- All that is left. -/
def readAll (terminal : Terminal) : Bytes × Terminal :=
  (terminal.buffered ++ terminal.waiting, {})

end Terminal

/-- What an evaluation can see and change outside its scope. -/
structure World where
  volume : Volume := {}
  /-- The working directory. -/
  directory : Path := []
  /-- The variables that programs inherit. -/
  environment : Table Text := .empty
  /-- The channels by number. -/
  channels : Nat → Channel := fun _ => .pipe []
  /-- A number from which on no channel is in use by the programs that run. -/
  nextChannel : Nat := 0
  terminal : Terminal := {}
  tokens : CancelTokens := {}
  /-- Milliseconds since the start. -/
  clock : Nat := 0
  /-- When a token will be cancelled, and which. -/
  alarm : Option (Nat × CancelToken) := none
  /-- What will happen, with its time, in that order. -/
  upcoming : List (Nat × Change) := []
  /-- How long someone will hold an output of the shell itself. -/
  heldUntil : Nat := 0

namespace World

/-- The home directory, if it is known. -/
def home (world : World) : Option Text := world.environment.get? "HOME"

/-- The directories in which programs are looked for if nothing says where. -/
def usualSearchPath : Text := "/bin:/usr/bin"

/-- The world with another channel at a number. -/
def setChannel (world : World) (number : Nat) (channel : Channel) : World :=
  { world with channels := fun n => if n = number then channel else world.channels n }

/-- The world with a new channel, and its number. -/
def addChannel (world : World) (channel : Channel) : Nat × World :=
  (world.nextChannel,
    { world.setChannel world.nextChannel channel with nextChannel := world.nextChannel + 1 })

/-- What the system answers about a written path. A path that holds the character
with code zero cannot be put to it. -/
def askAbout {α : Type} (written : Text) (result : Except OsError α) : Except IoError α :=
  if written.contains (Char.ofNat 0) then .error .nulInPath else result.mapError .os

/-- Opens a file for reading. -/
def openRead (world : World) (written : Text) : Except IoError Channel :=
  askAbout written (world.volume.openRead world.directory written)

/-- Opens a file for writing. -/
def openWrite (world : World) (written : Text) (access : Access) :
    Except IoError (World × Channel) :=
  askAbout written
    ((world.volume.openWrite world.directory written access).map fun (volume, channel) =>
      ({ world with volume := volume }, channel))

/-- The bytes of a file. -/
def readFile (world : World) (written : Text) : Except IoError Bytes := do
  let channel ← world.openRead written
  match world.volume.readAll channel with
  | .ok (bytes, _) => return bytes
  | .error error => throw (.os error)

/-- Makes a directory the working directory. -/
def changeDirectory (world : World) (written : Text) : Except IoError World :=
  askAbout written do
    match ← world.volume.locate world.directory written with
    | .existing path .directory => return { world with directory := path }
    | .existing .. => throw .notADirectory
    | .free _ => throw .noSuchFile

/-- The world in which something more will happen, and in which someone holds an output
of the shell itself for some time. -/
def expect (world : World) (changes : List (Nat × Change)) (heldUntil : Nat) : World :=
  { world with
    upcoming := (world.upcoming ++ changes).mergeSort fun a b => decide (a.1 ≤ b.1)
    heldUntil := max world.heldUntil heldUntil }

/-- The world in which everything has happened that was to happen by a time, and what
was written on the outputs of the shell itself. -/
def arrive (world : World) (time : Nat) : World × List (Nat × Bytes) :=
  let due := (world.upcoming.filter (·.1 ≤ time)).map (·.2)
  ({ world with
      volume := due.foldl Change.apply world.volume
      upcoming := world.upcoming.filter (time < ·.1) },
    due.filterMap Change.output?)

/-- Lets time pass. A token whose alarm falls into that time is cancelled, and the
clock stops there if `token` is the one. -/
def wait (world : World) (token : CancelToken) (milliseconds : Nat) : World :=
  match world.alarm with
  | some (due, alarmed) =>
    if due ≤ world.clock + milliseconds then
      { world with
        clock := if alarmed = token then max world.clock due else world.clock + milliseconds
        tokens := world.tokens.cancel alarmed
        alarm := none }
    else { world with clock := world.clock + milliseconds }
  | none => { world with clock := world.clock + milliseconds }

end World

end Conch
