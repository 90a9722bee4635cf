import Conch.Process.Task
import Conch.Program.Options
import Conch.Program.Quote
import Conch.Text.Numeral

/-!
The program that copies the beginning of files: some lines, some bytes, or all but
some at the end.
-/

namespace Conch.Program.Head

open Process

/-- What is counted. -/
inductive Unit where
  | lines
  | bytes
  deriving DecidableEq, Repr

/-- How much of each file is copied. -/
structure Options where
  count : Nat := 10
  unit : Unit := .lines
  /-- Whether all is copied but the last ones. -/
  butLast : Bool := false
  /-- Whether the name of each file is written; unless it is said, only if there are several. -/
  titled : Option Bool := none
  /-- The byte that ends a line. -/
  lineEnd : UInt8 := 10
  deriving DecidableEq, Repr

/-- Why the arguments make no sense. -/
inductive Fault where
  | badCount (unit : Unit) (written : Text)
  | largeCount (unit : Unit) (written : Text)
  | trailing (letter : Char)
  | option (fault : OptionFault)
  deriving DecidableEq, Repr

/-- The name of a unit. -/
def Unit.name : Unit → Text
  | .lines => "lines"
  | .bytes => "bytes"

/-- What the user is told. -/
def Fault.message : Fault → Text
  | .badCount unit written => "invalid number of " ++ unit.name ++ ": " ++ Quote.text written
  | .largeCount unit written =>
    "invalid number of " ++ unit.name ++ ": " ++ Quote.text written ++
      ": Value too large for defined data type"
  | .trailing letter => "invalid trailing option -- " ++ [letter]
  | .option fault => fault.message

/-- Whether the user is told where to find help. -/
def Fault.isMisuse : Fault → Bool
  | .badCount .. | .largeCount .. => false
  | _ => true

/-- The options of the program. -/
def rules : OptionRules where
  plain := "qvz0123456789"
  valued := "cn"
  long :=
    [⟨"bytes", 'c', true⟩, ⟨"lines", 'n', true⟩, ⟨"quiet", 'q', false⟩, ⟨"silent", 'q', false⟩,
      ⟨"verbose", 'v', false⟩, ⟨"zero-terminated", 'z', false⟩]

/-- The letters of the powers of 1024, or of 1000, from the first on. -/
def powerLetters : Text := "KMGTPEZYRQ"

/-- The factor that letters after a count mean. -/
def factor? : Text → Option Nat
  | [] => some 1
  | ['b'] => some 512
  | letter :: rest => do
    let letter := if letter = 'k' then 'K' else if letter = 'm' then 'M' else letter
    let place ← powerLetters.findIdx? (· == letter)
    let base ← match rest with
      | [] | ['i', 'B'] => some 1024
      | ['B'] | ['D'] => some 1000
      | _ => none
    return Nat.pow base (place + 1)

/-- Reads a count. -/
def readCount (unit : Unit) (written : Text) : Except Fault Nat :=
  let unsigned := written.dropWhile fun c => [' ', '\t', '\n', '\r', '\x0b', '\x0c'].contains c
  let unsigned := (Text.afterStart? ['+'] unsigned).getD unsigned
  let digits := unsigned.takeWhile Char.isDigit
  let suffix := unsigned.drop digits.length
  let value? := if digits.isEmpty && !suffix.isEmpty then some 1 else Text.digitsValue? digits
  match value?, factor? suffix with
  | some value, some factor =>
    if value * factor ≤ Text.largestNat then .ok (value * factor)
    else .error (.largeCount unit written)
  | _, _ => .error (.badCount unit written)

namespace Options

/-- The options with a count, which may be of what is left out. -/
def setCount (options : Options) (unit : Unit) (written : Text) : Except Fault Options := do
  let unsigned := Text.afterStart? ['-'] written
  let count ← readCount unit (unsigned.getD written)
  return { options with count, unit, butLast := unsigned.isSome }

/-- The options with one more letter. -/
def add (options : Options) (letter : Char) (value : Text) : Except Fault Options :=
  match letter with
  | 'n' => options.setCount .lines value
  | 'c' => options.setCount .bytes value
  | 'q' => .ok { options with titled := some false }
  | 'v' => .ok { options with titled := some true }
  | 'z' => .ok { options with lineEnd := 0 }
  | _ => if letter.isDigit then .error (.trailing letter) else .ok options

/-- The options with the letters behind a count that is an option by itself, and the
letter that scales the count. -/
def addTrailing (options : Options) (scale : Text) : Text → Except Fault (Options × Text)
  | [] => .ok (options, scale)
  | letter :: rest =>
    match letter with
    | 'c' => addTrailing { options with unit := .bytes } [] rest
    | 'b' | 'k' | 'm' => addTrailing { options with unit := .bytes } [letter] rest
    | 'l' => addTrailing { options with unit := .lines } scale rest
    | 'q' => addTrailing { options with titled := some false } scale rest
    | 'v' => addTrailing { options with titled := some true } scale rest
    | 'z' => addTrailing { options with lineEnd := 0 } scale rest
    | _ => .error (.trailing letter)

/-- The options with a first argument that begins with a count. -/
def addShort (options : Options) (written : Text) : Except Fault Options := do
  let digits := written.takeWhile Char.isDigit
  let (options, scale) ← options.addTrailing [] (written.drop digits.length)
  return { options with count := ← readCount options.unit (digits ++ scale) }

/-- Reads the options of a call and its files. -/
def read (args : List Text) : Except Fault (Options × List Text) := do
  let short? := match args with
    | ('-' :: digit :: rest) :: _ => if digit.isDigit then some (digit :: rest) else none
    | _ => none
  let options ← match short? with
    | some written => addShort {} written
    | none => pure {}
  let found := rules.read (if short?.isSome then args.drop 1 else args)
  let options ←
    found.options.foldlM (fun options (letter, value) => options.add letter value) options
  match found.fault with
  | some fault => throw (.option fault)
  | none => return (options, found.operands)

end Options

/-- The bytes of the first `count` lines. -/
def firstLines (lineEnd : UInt8) (count : Nat) (bytes : Bytes) : Bytes :=
  let step := fun (taken, left) (b : UInt8) =>
    if left = 0 then (taken, left) else (b :: taken, if b = lineEnd then left - 1 else left)
  (bytes.foldl step (([] : Bytes), count)).1.reverse

/-- The number of lines, the last of which may be without an end. -/
def lineCount (lineEnd : UInt8) (bytes : Bytes) : Nat :=
  bytes.count lineEnd + if (bytes.getLast?.getD lineEnd) = lineEnd then 0 else 1

/-- What is copied of bytes that are known to the end. -/
def Options.select (options : Options) (bytes : Bytes) : Bytes :=
  match options.unit, options.butLast with
  | .bytes, false => bytes.take options.count
  | .bytes, true => bytes.take (bytes.length - options.count)
  | .lines, false => firstLines options.lineEnd options.count bytes
  | .lines, true =>
    firstLines options.lineEnd (lineCount options.lineEnd bytes - options.count) bytes

/-- The size of the blocks in which lines are read. -/
def blockSize : Nat := 8192

/-- Reads blocks until they hold `count` lines, for at most `fuel` blocks. -/
def readLines (task : Task) (options : Options) (found : Bytes) :
    Nat → Course (Except OsError Bytes)
  | 0 => pure (.ok found)
  | fuel + 1 => do
    if options.count ≤ found.count options.lineEnd then return .ok found
    match ← task.readSome 0 blockSize with
    | .error error => return .error error
    | .ok [] => return .ok found
    | .ok more => readLines task options (found ++ more) fuel

/-- Reads blocks until they hold `count` bytes, behind blocks that were read before, latest
first, for at most `fuel` blocks. -/
def readBytes (task : Task) (count : Nat) (found : List Bytes) :
    Nat → Course (Except OsError Bytes)
  | 0 => pure (.ok found.reverse.flatten)
  | fuel + 1 => do
    if count = 0 then return .ok found.reverse.flatten
    match ← task.readSome 0 (min count blockSize) with
    | .error error => return .error error
    | .ok [] => return .ok found.reverse.flatten
    | .ok more => readBytes task (count - more.length) (more :: found) fuel

/-- The largest number of blocks that are read. -/
def blockLimit : Nat := 1000000000

/-- Reads what is copied from the input. What was read too much is given back, where
that is possible. -/
def readInput (task : Task) (options : Options) : Course (Except OsError Bytes) := do
  match options.unit, options.butLast with
  | .bytes, false => readBytes task options.count [] blockLimit
  | _, butLast =>
    let found ←
      if butLast then task.readAll 0 else readLines task options [] blockLimit
    match found with
    | .error error => return .error error
    | .ok found =>
      let selected := options.select found
      task.rewind 0 (found.length - selected.length)
      return .ok selected

/-- The line before the part of a file. -/
def title (first : Bool) (file : Text) : Bytes :=
  Octets.toBytes ((if first then [] else ['\n']) ++ "==> " ++ file ++ " <==\n")

/-- Copies the beginning of the input of a task, under the name `shown`. -/
def copyInput (task : Task) (options : Options) (title : Bytes) (shown : Text) :
    Course (Except Status Bool) := do
  match ← task.deliver title with
  | .exited 0 =>
    match ← readInput task options with
    | .error error =>
      task.complain ("error reading " ++ Quote.shellQuoted shown ++ ": " ++ error.name)
      return .ok false
    | .ok bytes =>
      match ← task.deliver bytes with
      | .exited 0 => return .ok true
      | status => return .error status
  | status => return .error status

/-- Copies the beginning of each file; a single hyphen means the input. -/
def copyFiles (task : Task) (options : Options) (titled first succeeded : Bool) :
    List Text → Course Status
  | [] => pure (.ofBool succeeded)
  | file :: files => do
    let shown : Text := if file = ['-'] then "standard input" else file
    let title := if titled then title first shown else []
    let result ←
      if file = ['-'] then copyInput task options title shown
      else
        match ← task.openRead file with
        | .error error =>
          task.complain ("cannot open " ++ Quote.shellQuoted file ++ " for reading: " ++ error.name)
          copyFiles task options titled first false files >>= (return .error ·)
        | .ok handle => copyInput (task.bind 0 handle) options title shown
    match result with
    | .error status => return status
    | .ok copied => copyFiles task options titled false (succeeded && copied) files

end Head

open Process

/-- The program that copies the beginning of files. -/
def head : Program := fun task args => do
  match Head.Options.read args with
  | .error fault =>
    if fault.isMisuse then task.misused fault.message none
    else
      task.complain fault.message
      return .failure
  | .ok (options, files) =>
    let files := if files.isEmpty then [['-']] else files
    let titled := options.titled.getD (1 < files.length)
    let status ← Head.copyFiles task options titled true true files
    if files.contains ['-'] && (task.handle? 0).isNone then
      task.complain ("-: " ++ OsError.badDescriptor.name)
      return .failure
    return status

end Conch.Program
