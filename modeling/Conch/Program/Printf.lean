import Conch.Process.Task
import Conch.Program.Format
import Conch.Program.Quote

/-!
The program that writes formatted output. A format holds plain text, escapes and
directives; each directive takes an argument. The format is used again for as long as
arguments are left, and arguments that are missing count as empty or as zero.
-/

namespace Conch.Program.Printf

open Process Format

/-- What a format or an argument asks for. -/
inductive Output where
  | bytes (octets : Text)
  /-- A fault after which the program goes on; it fails in the end if the fault is one
  of the arguments. -/
  | fault (message : Text) (fails : Bool)
  /-- A fault that ends the program. -/
  | fatal (message : Text)
  /-- The end of all output. -/
  | stop
  deriving DecidableEq, Repr

/-- The form of a character that the output cannot hold. -/
def characterName (code : Nat) : Text :=
  let digits := (Nat.toDigits 16 code).map Char.toUpper
  let filled (size : Nat) : Text := List.replicate (size - digits.length) '0' ++ digits
  if code < 0x10000 then "\\u" ++ filled 4 else "\\U" ++ filled 8

/-- The number of digits in the escape of a character by its code. -/
def codeLength (letter : Char) : Nat := if letter = 'u' then 4 else 8

/-- What the escape behind a backslash asks for, and the number of octets that it
takes. A zero before octal digits does not count as one of them if `extraZero` says
so. -/
def escape (extraZero : Bool) (text : Text) : Output × Nat :=
  match text with
  | [] => (.bytes ['\\'], 0)
  | c :: rest =>
    let simple := [('"', 34), ('\\', 92), ('a', 7), ('b', 8), ('e', 27), ('f', 12), ('n', 10),
      ('r', 13), ('t', 9), ('v', 11)]
    match simple.lookup c with
    | some code => (.bytes [Char.ofNat code], 1)
    | none =>
      if c = 'c' then (.stop, 1)
      else if isOctal c then
        let skipped := if extraZero && c == '0' then 1 else 0
        let digits := ((text.drop skipped).takeWhile isOctal).take 3
        (.bytes [Char.ofNat (digitsValue 8 digits % 256)], skipped + digits.length)
      else if c = 'x' then
        let digits := (rest.takeWhile isHex).take 2
        if digits.isEmpty then (.fatal "missing hexadecimal number in escape", 1)
        else (.bytes [Char.ofNat (digitsValue 16 digits)], 1 + digits.length)
      else if c = 'u' || c = 'U' then
        let digits := (rest.takeWhile isHex).take (codeLength c)
        let code := digitsValue 16 digits
        if digits.length < codeLength c then (.fatal "missing hexadecimal number in escape", 1)
        else if (code ≤ 0x9f && code != 0x24 && code != 0x40 && code != 0x60) ||
            (0xd800 ≤ code && code ≤ 0xdfff) then
          (.fatal ("invalid universal character name \\" ++ [c] ++ digits.map Char.toLower), 1)
        else
          (.bytes (if code < 128 then [Char.ofNat code] else characterName code),
            1 + digits.length)
      else (.bytes ['\\', c], 1)

/-- What a text in which escapes count asks for, behind the outputs `found`, latest
first. The first `skip` octets are passed over. -/
def escaped (found : List Output) (skip : Nat) : Text → List Output
  | [] => found.reverse
  | c :: rest =>
    match skip with
    | skip + 1 => escaped found skip rest
    | 0 =>
      if c = '\\' then
        let (output, used) := escape true rest
        escaped (output :: found) used rest
      else
        let text := rest.takeWhile (· != '\\')
        escaped (.bytes (c :: text) :: found) text.length rest

/-- A width or a precision. -/
inductive Count where
  | absent
  | given (n : Nat)
  /-- Taken from the arguments. -/
  | argument
  deriving DecidableEq, Repr

/-- What stands behind a percent sign. -/
structure Directive where
  flags : Text
  width : Count
  precision : Count
  letter : Char
  deriving DecidableEq, Repr

/-- A part of a format. -/
inductive Item where
  | output (output : Output)
  | directive (directive : Directive)
  /-- An argument in which escapes count. -/
  | escapedArgument
  /-- An argument as a shell reads it back. -/
  | quotedArgument
  deriving DecidableEq, Repr

/-- Reads a width or a precision. -/
def readCount : Text → Count × Nat
  | '*' :: _ => (.argument, 1)
  | written =>
    let digits := written.takeWhile Char.isDigit
    (if digits.isEmpty then .absent else .given (digitsValue 10 digits), digits.length)

/-- Whether a conversion goes together with flags and a precision. -/
def isKnown (flags : Text) (precise : Bool) (letter : Char) : Bool :=
  let among (letters : String) : Bool := letters.toList.contains letter
  among "aAcdeEfFgGiosuxX" &&
    !(flags.contains '#' && among "cdisu") &&
    !(flags.contains '0' && among "cs") &&
    !(flags.any (fun c => c == '\'' || c == 'I') && among "aAceEosxX") &&
    !(precise && letter == 'c')

/-- Reads what stands behind a percent sign, with the number of octets that it takes. -/
def readDirective (written : Text) : Item × Nat :=
  match written with
  | 'b' :: _ => (.escapedArgument, 1)
  | 'q' :: _ => (.quotedArgument, 1)
  | _ =>
    let flags := written.takeWhile ("-+ #0'I".toList.contains ·)
    let behind := written.drop flags.length
    let (width, widthSize) := readCount behind
    let behind := behind.drop widthSize
    let (precision, precisionSize) : Count × Nat :=
      match behind with
      | '.' :: rest =>
        match readCount rest with
        | (.absent, _) => (.given 0, 1)
        | (count, size) => (count, 1 + size)
      | _ => (.absent, 0)
    let behind := behind.drop precisionSize
    let lengths := behind.takeWhile ("lLhjtz".toList.contains ·)
    let size := flags.length + widthSize + precisionSize + lengths.length
    let unknown : Item :=
      .output (.fatal (('%' :: written.take (size + 1)) ++ ": invalid conversion specification"))
    match behind.drop lengths.length with
    | [] => (unknown, size)
    | letter :: _ =>
      if isKnown flags (precision ≠ .absent) letter then
        (.directive ⟨flags, width, precision, letter⟩, size + 1)
      else (unknown, size + 1)

/-- Whether an octet stands for itself in a format. -/
def isPlain (c : Char) : Bool := c != '\\' && c != '%'

/-- Reads a format behind the items `found`, latest first. The first `skip` octets are
passed over. -/
def readFormat (found : List Item) (skip : Nat) : Text → List Item
  | [] => found.reverse
  | c :: rest =>
    match skip with
    | skip + 1 => readFormat found skip rest
    | 0 =>
      if c = '\\' then
        let (output, used) := escape false rest
        readFormat (.output output :: found) used rest
      else if c = '%' then
        if rest.head? = some '%' then readFormat (.output (.bytes ['%']) :: found) 1 rest
        else
          let (item, used) := readDirective rest
          readFormat (item :: found) used rest
      else
        let text := rest.takeWhile isPlain
        readFormat (.output (.bytes (c :: text)) :: found) text.length rest

/-- The number that an argument means, as `read` reads it, and what is wrong with it.
Behind a quote, an octet means its code. -/
def number {α : Type} (ofCode : Nat → α) (read : Text → Reading α) (arg : Text) :
    α × List Output :=
  match arg with
  | '\'' :: c :: rest | '"' :: c :: rest =>
    (ofCode c.toNat,
      if rest.isEmpty then []
      else
        [.fault ("warning: " ++ rest ++
          ": character(s) following character constant have been ignored") false])
  | _ =>
    let reading := read arg
    let wrong (message : Text) : List Output := [.fault (Quote.text arg ++ ": " ++ message) true]
    (reading.value,
      if reading.outOfRange then wrong "Numerical result out of range"
      else if reading.rest.isEmpty then []
      else if reading.rest.length = arg.length then wrong "expected a numeric value"
      else wrong "value not completely converted")

/-- The output so far and the arguments that are left. -/
structure Progress where
  /-- What was asked for, latest first. -/
  done : List Output := []
  args : List Text

namespace Progress

/-- More output. -/
def add (progress : Progress) (outputs : List Output) : Progress :=
  { progress with done := outputs.reverse ++ progress.done }

/-- Whether nothing more is written. -/
def isOver (progress : Progress) : Bool :=
  match progress.done.head? with
  | some .stop | some (.fatal _) => true
  | _ => false

/-- Takes the next argument. -/
def next (progress : Progress) : Option Text × Progress :=
  match progress.args with
  | [] => (none, progress)
  | arg :: args => (some arg, { progress with args := args })

/-- Takes the next argument as a whole number. -/
def nextInteger (progress : Progress) (signed : Bool) : Int × Progress :=
  let (arg, progress) := progress.next
  let (value, outputs) := number (fun code => (code : Int)) (readInteger signed) (arg.getD [])
  (value, progress.add outputs)

/-- The largest width or precision. -/
def largestCount : Int := 2147483647

/-- The value of a width or a precision, which is called by a name. One that is taken
from the arguments must not be too large, nor may it be less than `least`. -/
def count (progress : Progress) (name : Text) (least : Option Int) :
    Count → Option Int × Progress
  | .absent => (none, progress)
  | .given n => (some n, progress)
  | .argument =>
    let arg := (progress.args.headD [])
    let (value, progress) := progress.nextInteger true
    let isSmall := (least.map fun least => decide (value < least)).getD false
    if largestCount < value || isSmall then
      (none, progress.add [.fatal ("invalid " ++ name ++ ": " ++ Quote.text arg)])
    else (some value, progress)

/-- The number of binary digits with which numbers are kept. -/
def realBits : Nat := 64

/-- Writes one directive. -/
def apply (progress : Progress) (directive : Directive) : Progress :=
  let (width, progress) :=
    progress.count "field width" (some (-largestCount - 1)) directive.width
  if progress.isOver then progress else
  let (precision, progress) := progress.count "precision" none directive.precision
  if progress.isOver then progress else
  let spec : Spec :=
    { flags := directive.flags
      width := width.getD 0
      precision := precision.bind fun n => if n < 0 then none else some n.toNat }
  let letter := directive.letter
  if letter = 's' || letter = 'c' then
    let (arg, progress) := progress.next
    let arg := arg.getD []
    let shown := if letter = 'c' then if arg.isEmpty then [Char.ofNat 0] else arg.take 1 else arg
    progress.add [.bytes (spec.text shown)]
  else if letter = 'd' || letter = 'i' then
    let (value, progress) := progress.nextInteger true
    progress.add [.bytes (spec.signed value)]
  else if "ouxX".toList.contains letter then
    let (value, progress) := progress.nextInteger false
    progress.add [.bytes (spec.word letter value)]
  else
    let (arg, progress) := progress.next
    let (value, outputs) :=
      number (fun code => Real.finite false code 1) (readReal realBits) (arg.getD [])
    progress.add (outputs ++ [.bytes (spec.real realBits letter value)])

/-- More output, up to where it ends. -/
def addUntilOver (progress : Progress) : List Output → Progress
  | [] => progress
  | output :: rest =>
    let progress := progress.add [output]
    if progress.isOver then progress else addUntilOver progress rest

/-- Uses a format once. -/
def useOnce (progress : Progress) : List Item → Progress
  | [] => progress
  | item :: items =>
    if progress.isOver then progress
    else
      match item with
      | .output output => useOnce (progress.add [output]) items
      | .directive directive => useOnce (progress.apply directive) items
      | .escapedArgument =>
        let (arg, progress) := progress.next
        useOnce (progress.addUntilOver (escaped [] 0 (arg.getD []))) items
      | .quotedArgument =>
        let (arg, progress) := progress.next
        useOnce (progress.add [.bytes ((arg.map Quote.name).getD [])]) items

/-- Uses a format again while it takes arguments and some are left. -/
def useAgain (items : List Item) : Nat → Progress → Progress
  | 0, progress => progress
  | fuel + 1, progress =>
    if progress.isOver || progress.args.isEmpty then progress
    else useAgain items fuel (progress.useOnce items)

end Progress

/-- All that a format asks for with some arguments, and the arguments that are left. -/
def outputs (format : Text) (args : List Text) : List Output × List Text :=
  let items := readFormat [] 0 format
  let once := Progress.useOnce { args := args } items
  let all := if once.args.length < args.length then once.useAgain items args.length else once
  (all.done.reverse, if all.isOver then [] else all.args)

/-- Texts, latest first, as one output before others. -/
def flush (texts : List Text) (done : List Output) : List Output :=
  if texts.isEmpty then done else .bytes texts.reverse.flatten :: done

/-- Puts outputs that stand side by side together. -/
def merge (outputs : List Output) : List Output :=
  let (done, texts) := outputs.foldl
    (fun (done, texts) output =>
      match output with
      | .bytes text => (done, text :: texts)
      | other => (other :: flush texts done, []))
    (([] : List Output), ([] : List Text))
  (flush texts done).reverse

/-- Writes outputs in order; `succeeded` says whether no argument was wrong so far. -/
def writeAll (task : Task) (succeeded : Bool) : List Output → Course (Status × Bool)
  | [] => pure (.ofBool succeeded, true)
  | output :: rest => do
    match output with
    | .bytes octets =>
      match ← task.deliver (Octets.toBytes octets) with
      | .exited 0 => writeAll task succeeded rest
      | status => return (status, false)
    | .fault message fails =>
      task.complain message
      writeAll task (succeeded && !fails) rest
    | .fatal message =>
      task.complain message
      return (.failure, false)
    | .stop => return (.success, false)

end Printf

open Process

/-- The program that writes formatted output. -/
def printf : Program := fun task args => do
  match (if args.head? = some ("--" : Text) then args.drop 1 else args) with
  | [] => task.misused "missing operand" none
  | format :: args =>
    let (outputs, unused) := Printf.outputs format args
    let (status, complete) ← Printf.writeAll task true (Printf.merge outputs)
    if complete then
      if let some arg := unused.head? then
        task.complain
          ("warning: ignoring excess arguments, starting with " ++ Quote.text arg)
    return status

end Conch.Program
