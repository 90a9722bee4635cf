import Conch.Text.Utf8

/-!
The lines that the user typed. They are kept in a file that begins with a mark of
its version; a line that holds a backslash or a newline is written with escapes.
-/

namespace Conch.Front

/-- The lines that the user typed, oldest first. -/
structure History where
  entries : List Text := []
  /-- How many of the entries are not yet in the file. -/
  unsaved : Nat := 0
  deriving DecidableEq, Repr

namespace History

/-- The largest number of entries that are kept. -/
def capacity : Nat := 100

/-- The first line of the file. -/
def versionMark : Text := "#V2"

/-- Adds a line, unless it is empty or repeats the last one. The oldest entry makes
room if there is none. -/
def add (history : History) (line : Text) : History :=
  if line.isEmpty ∨ history.entries.getLast? = some line then history
  else
    let kept := history.entries.drop (history.entries.length + 1 - capacity)
    let entries := kept ++ [line]
    ⟨entries, min (history.unsaved + 1) entries.length⟩

/-- A line as it is written in the file. -/
def escape (line : Text) : Text :=
  line.flatMap fun c =>
    if c = '\\' then ['\\', '\\'] else if c = '\n' then ['\\', 'n'] else [c]

/-- The line that is written with escapes; nothing if there is another escape. -/
def unescape? : Text → Option Text
  | [] => some []
  | '\\' :: 'n' :: rest => (unescape? rest).map ('\n' :: ·)
  | '\\' :: '\\' :: rest => (unescape? rest).map ('\\' :: ·)
  | '\\' :: _ => none
  | c :: rest => (unescape? rest).map (c :: ·)

/-- Adds the lines of a file, as far as they are texts. Once all are read, none of
them is unsaved. -/
def loadLines (history : History) (escaped : Bool) : List Bytes → History
  | [] => { history with unsaved := 0 }
  | bytes :: rest =>
    match Bytes.toText? bytes with
    | none => history
    | some line =>
      loadLines (history.add (if escaped then (unescape? line).getD line else line)) escaped rest

/-- The lines of a file without their line ends. -/
def fileLines (bytes : Bytes) : List Bytes :=
  let pieces := bytes.splitOnP (· == 10)
  let ended := pieces.dropLast.map fun line =>
    if line.getLast? = some 13 then line.dropLast else line
  match pieces.getLast? with
  | some [] | none => ended
  | some last => ended ++ [last]

/-- Adds what a file holds. Without the mark, the first line is an entry, and the
entries are written without escapes. -/
def load (history : History) (bytes : Bytes) : History :=
  match fileLines bytes with
  | [] => history.loadLines false []
  | first :: rest =>
    if first = versionMark.utf8 then history.loadLines true rest
    else history.loadLines false (first :: rest)

/-- The whole file. -/
def file (history : History) : Bytes :=
  Text.utf8 ((versionMark :: history.entries.map escape).flatMap (· ++ ['\n']))

end History

end Conch.Front
