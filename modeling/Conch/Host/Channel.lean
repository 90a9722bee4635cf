import Conch.Host.Volume

/-!
Channels: what can be read or written through a descriptor. A channel is the
reading end of a pipe, with the bytes not yet read, or an open file with a place
in it. Reading a file that is open for writing fails, and so does the reverse.
-/

namespace Conch

/-- What a file was opened for. -/
inductive Access where
  | read
  /-- Writing from the place that was reached. -/
  | write
  /-- Writing at the end of the file. -/
  | append
  deriving DecidableEq, Repr

/-- Something that a descriptor can be bound to. -/
inductive Channel where
  | pipe (unread : Bytes)
  | file (path : Path) (offset : Nat) (access : Access)
  deriving DecidableEq, Repr

/-- The channel with its place moved back by `count` bytes. What was read from a pipe
cannot be read again. -/
def Channel.rewind (count : Nat) : Channel → Channel
  | .pipe unread => .pipe unread
  | .file path offset access => .file path (offset - count) access

namespace Volume

/-- How much of a device without end is read when all of it is asked for. -/
def endlessSample : Nat := 1048576

/-- The result of reading all that is left on a channel, and the channel then. -/
def readAll (volume : Volume) : Channel → Except OsError (Bytes × Channel)
  | .pipe unread => .ok (unread, .pipe [])
  | .file path offset .read =>
    match volume.get? path with
    | some (.file bytes) => .ok (bytes.drop offset, .file path (max offset bytes.length) .read)
    | some .directory => .error .isADirectory
    | some .zeroDevice | some .fullDevice =>
      .ok (List.replicate endlessSample 0, .file path offset .read)
    | _ => .ok ([], .file path offset .read)
  | .file .. => .error .badDescriptor

/-- The result of reading at most `count` bytes on a channel, and the channel then. -/
def readSome (volume : Volume) (count : Nat) : Channel → Except OsError (Bytes × Channel)
  | .pipe unread => .ok (unread.take count, .pipe (unread.drop count))
  | .file path offset .read =>
    match volume.get? path with
    | some (.file bytes) =>
      let found := (bytes.drop offset).take count
      .ok (found, .file path (offset + found.length) .read)
    | some .directory => .error .isADirectory
    | some .zeroDevice | some .fullDevice => .ok (List.replicate count 0, .file path offset .read)
    | _ => .ok ([], .file path offset .read)
  | .file .. => .error .badDescriptor

/-- The result of reading a line without its newline, whether it had one, and the
channel then. -/
def readLine (volume : Volume) : Channel → Except OsError ((Bytes × Bool) × Channel)
  | .pipe unread =>
    let line := unread.takeWhile (· != 10)
    match unread.drop line.length with
    | [] => .ok ((line, false), .pipe [])
    | _ :: rest => .ok ((line, true), .pipe rest)
  | .file path offset .read =>
    match volume.get? path with
    | some (.file bytes) =>
      let unread := bytes.drop offset
      let line := unread.takeWhile (· != 10)
      let ended := !(unread.drop line.length).isEmpty
      .ok ((line, ended), .file path (offset + line.length + if ended then 1 else 0) .read)
    | some .directory => .error .isADirectory
    | _ => .ok (([], false), .file path offset .read)
  | .file .. => .error .badDescriptor

/-- Bytes with `more` written over them at a place, which may lie behind their end. -/
def overwrite (bytes : Bytes) (offset : Nat) (more : Bytes) : Bytes :=
  bytes.take offset ++ List.replicate (offset - bytes.length) 0 ++ more ++
    bytes.drop (offset + more.length)

/-- Writes to a channel. Writing nothing always succeeds. -/
def write (volume : Volume) (channel : Channel) (more : Bytes) :
    Except OsError (Volume × Channel) :=
  if more.isEmpty then .ok (volume, channel)
  else
    match channel with
    | .pipe _ | .file _ _ .read => .error .badDescriptor
    | .file path offset access =>
      match volume.get? path with
      | some (.file bytes) =>
        let offset := if access = .append then bytes.length else offset
        .ok (volume.put path (.file (overwrite bytes offset more)),
          .file path (offset + more.length) access)
      | some .fullDevice => .error .noSpace
      | _ => .ok (volume, channel)

/-- Opens a file for reading. -/
def openRead (volume : Volume) (here : Path) (written : Text) : Except OsError Channel := do
  match ← volume.locate here written with
  | .existing path _ => return .file path 0 .read
  | .free _ => throw .noSuchFile

/-- Opens a file for writing and makes it if it is not there. Unless it is opened
for appending, what it held is lost. -/
def openWrite (volume : Volume) (here : Path) (written : Text) (access : Access) :
    Except OsError (Volume × Channel) := do
  if written.isEmpty then throw .noSuchFile
  if longestPath < Text.byteLength written then throw .nameTooLong
  let start := if written.head? = some '/' then [] else here
  let place ← volume.walk start (names written)
  if written.getLast? = some '/' then throw .isADirectory
  match place with
  | .existing _ .directory => throw .isADirectory
  | .existing path (.file bytes) =>
    let kept := if access = .append then bytes else []
    return (volume.put path (.file kept), .file path 0 access)
  | .existing path _ => return (volume, .file path 0 access)
  | .free path => return (volume.put path (.file []), .file path 0 access)

end Volume

end Conch
