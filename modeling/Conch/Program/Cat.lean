import Conch.Process.Task
import Conch.Program.Options
import Conch.Program.Quote
import Conch.Text.Numeral

/-!
The program that copies files to its output, one after another, and on the way may
number their lines, make one of several empty lines, and show what has no shape.
-/

namespace Conch.Program.Cat

open Process

/-- How files are copied. -/
structure Options where
  numbered : Bool := false
  /-- Whether only lines that hold something are numbered. -/
  sparing : Bool := false
  /-- Whether empty lines that follow another one are left out. -/
  squeezed : Bool := false
  /-- Whether the ends of lines are shown. -/
  ends : Bool := false
  /-- Whether tabulators are shown. -/
  tabs : Bool := false
  /-- Whether other characters without a shape are shown. -/
  shapes : Bool := false
  deriving DecidableEq, Repr

/-- The options of the program. -/
def rules : OptionRules where
  plain := "benstuvAET"
  long :=
    [⟨"number-nonblank", 'b', false⟩, ⟨"number", 'n', false⟩, ⟨"squeeze-blank", 's', false⟩,
      ⟨"show-nonprinting", 'v', false⟩, ⟨"show-ends", 'E', false⟩, ⟨"show-tabs", 'T', false⟩,
      ⟨"show-all", 'A', false⟩]

/-- The options with one more letter. -/
def Options.add (options : Options) : Char → Options
  | 'b' => { options with numbered := true, sparing := true }
  | 'n' => { options with numbered := true }
  | 's' => { options with squeezed := true }
  | 'v' => { options with shapes := true }
  | 'E' => { options with ends := true }
  | 'T' => { options with tabs := true }
  | 'e' => { options with ends := true, shapes := true }
  | 't' => { options with tabs := true, shapes := true }
  | 'A' => { options with ends := true, tabs := true, shapes := true }
  | _ => options

/-- Where in a text the copying has come to. -/
inductive Position where
  | insideLine
  /-- At the start of a line. -/
  | lineStart
  /-- At the start of a line, with `count` empty lines before it, of which two are as
  good as more. -/
  | afterEmpty (count : Nat)
  deriving DecidableEq, Repr

/-- What was copied and what follows it depends on. -/
structure Progress where
  /-- The copy so far, latest byte first. -/
  written : Bytes := []
  position : Position := .lineStart
  /-- The number of the next line. -/
  number : Nat := 1
  /-- A carriage return that is not yet copied, as it may end a line. -/
  held : Bool := false

/-- A byte as the options show it. -/
def shown (options : Options) (b : UInt8) : Bytes :=
  let low (b : UInt8) : Bytes := if b < 32 then [94, b + 64] else if b = 127 then [94, 63] else [b]
  if b = 9 then if options.tabs then [94, 73] else [9]
  else if !options.shapes then [b]
  else if b < 128 then low b
  else [77, 45] ++ low (b - 128)

namespace Progress

/-- Bytes added to the copy. -/
def write (progress : Progress) (bytes : Bytes) : Progress :=
  { progress with written := bytes.reverse ++ progress.written }

/-- The number of a line added to the copy. -/
def label (progress : Progress) : Progress :=
  let digits := Text.ofNat progress.number
  let label := List.replicate (6 - digits.length) ' ' ++ digits ++ ['\t']
  { progress.write (Octets.toBytes label) with number := progress.number + 1 }

/-- The end of a line added to the copy. -/
def newline (options : Options) (progress : Progress) : Progress :=
  let mark : Bytes :=
    if options.ends then (if progress.held then [94, 77] else []) ++ [36, 10] else [10]
  { progress.write mark with held := false }

/-- One more byte of the text. -/
def step (options : Options) (progress : Progress) (b : UInt8) : Progress :=
  if b = 10 then
    match progress.position with
    | .insideLine => { progress.newline options with position := .lineStart }
    | .lineStart =>
      let progress := if options.numbered && !options.sparing then progress.label else progress
      { progress.newline options with position := .afterEmpty 1 }
    | .afterEmpty _ =>
      if options.squeezed then { progress with position := .afterEmpty 2 }
      else
        let progress := if options.numbered && !options.sparing then progress.label else progress
        { progress.newline options with position := .afterEmpty 2 }
  else
    let progress := if progress.held then { progress.write [13] with held := false } else progress
    let progress :=
      if options.numbered && progress.position ≠ .insideLine then progress.label else progress
    let progress := { progress with position := .insideLine }
    if b = 13 && options.ends && !options.shapes then { progress with held := true }
    else progress.write (shown options b)

end Progress

/-- The copy of some bytes, and what follows it depends on. -/
def copy (options : Options) (progress : Progress) (bytes : Bytes) : Bytes × Progress :=
  if options = {} then (bytes, progress)
  else
    let after := bytes.foldl (Progress.step options) progress
    (after.written.reverse, { after with written := [] })

/-- Whether two handles lead to one file, and writing to the second would go on behind
what is still to be read from the first. -/
def feedsItself (w : World) (input output : Handle) : Bool :=
  match input, output with
  | .shared (.channel source), .shared (.channel target) =>
    match w.channels source, w.channels target with
    | .file path place .read, .file path' place' access =>
      let size := match w.volume.get? path with
        | some (.file bytes) => bytes.length
        | _ => 0
      path = path' && place < (if access = .append then size else place')
    | _, _ => false
  | _, _ => false

/-- The number of bytes that are read at once. -/
def blockSize : Nat := 131072

/-- Copies the input of a task. -/
def copyInput (task : Task) (options : Options) (file : Text) (progress : Progress) :
    Course (Except Status (Bool × Progress)) := do
  let w ← Action.world
  let loops := match task.handle? 0, task.handle? 1 with
    | some input, some output => feedsItself w input output
    | _, _ => false
  if loops then
    task.complain (Quote.name file ++ ": input file is output file")
    return .ok (false, progress)
  Course.iterate
    (fun progress => do
      match ← task.readSome 0 blockSize with
      | .error error =>
        task.complain (Quote.name file ++ ": " ++ error.name)
        return .inr (.ok (false, progress))
      | .ok [] => return .inr (.ok (true, progress))
      | .ok bytes =>
        let (bytes, progress) := copy options progress bytes
        match ← task.deliver bytes with
        | .exited 0 => return .inl progress
        | status => return .inr (.error status))
    Task.portionLimit progress

/-- Copies one file; a single hyphen means the input. -/
def copyFile (task : Task) (options : Options) (file : Text) (progress : Progress) :
    Course (Except Status (Bool × Progress)) := do
  if file = ['-'] then copyInput task options file progress
  else
    match ← task.openRead file with
    | .error error =>
      task.complain (Quote.name file ++ ": " ++ error.name)
      return .ok (false, progress)
    | .ok handle => copyInput (task.bind 0 handle) options file progress

/-- Copies files; a file that cannot be read is reported and passed over. Says whether all
were copied. -/
def copyFiles (task : Task) (options : Options) (progress : Progress) (succeeded : Bool) :
    List Text → Course (Except Status Bool)
  | [] => do
    if progress.held then
      let _ ← task.deliver [13]
    return .ok succeeded
  | file :: files => do
    match ← copyFile task options file progress with
    | .error status => return .error status
    | .ok (copied, progress) => copyFiles task options progress (succeeded && copied) files

end Cat

open Process

/-- The program that copies files. -/
def cat : Program := fun task args => do
  let read := Cat.rules.read args
  if let some fault := read.fault then task.misused fault.message none
  else if (task.handle? 1).isNone then
    task.complain "standard output: Bad file descriptor"
    return .failure
  else
    let options := read.options.foldl (fun options (letter, _) => options.add letter) {}
    let files := if read.operands.isEmpty then [['-']] else read.operands
    match ← Cat.copyFiles task options {} true files with
    | .error status => return status
    | .ok copied =>
      if files.contains ['-'] && (task.handle? 0).isNone then
        task.complain ("closing standard input: " ++ OsError.badDescriptor.name)
        return .failure
      return .ofBool copied

end Conch.Program
