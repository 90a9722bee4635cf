import Conch.Program.Format
import Conch.Text.Basic

/-!
Output that a script writes itself: texts in which escapes count, and formats.
-/

namespace Conch.Program.Script.Formatted

open Format

/-- The octet that the escape behind a backslash stands for, and the number of octets
that it takes; what is no escape is left as it is. -/
def escape (text : Text) : Char × Nat :=
  match text with
  | [] => ('\\', 0)
  | c :: _ =>
    let simple := [('\\', 92), ('a', 7), ('b', 8), ('e', 27), ('f', 12), ('n', 10), ('r', 13),
      ('t', 9), ('v', 11)]
    match simple.lookup c with
    | some code => (Char.ofNat code, 1)
    | none =>
      if isOctal c then
        let digits := (text.takeWhile isOctal).take 3
        (Char.ofNat (digitsValue 8 digits % 256), digits.length)
      else ('\\', 0)

/-- A text with its escapes undone, and whether one of them ends all output. The first
`skip` octets are passed over; `found` is the text so far, latest octet first. -/
def unescaped (found : Text) (skip : Nat) : Text → Text × Bool
  | [] => (found.reverse, false)
  | c :: rest =>
    match skip with
    | skip + 1 => unescaped found skip rest
    | 0 =>
      if c ≠ '\\' then unescaped (c :: found) 0 rest
      else
        match rest with
        | 'c' :: _ => (found.reverse, true)
        | '0' :: d :: more =>
          if isOctal d then
            let (octet, size) := escape (d :: more)
            unescaped (octet :: found) (size + 1) rest
          else
            let (octet, size) := escape rest
            unescaped (octet :: found) size rest
        | _ =>
          let (octet, size) := escape rest
          unescaped (octet :: found) size rest

/-- What a format asks for. -/
inductive Item where
  | text (text : Text)
  | directive (flags : Text) (width precision : Text) (letter : Char)
  /-- A fault that ends the output. -/
  | fault (message : Text)
  deriving DecidableEq, Repr

/-- Reads what stands behind a percent sign, with the number of octets that it takes.
A width or a precision is a text of digits, a star, or nothing. -/
def readDirective (written : Text) : Item × Nat :=
  let isCount (c : Char) : Bool := c.isDigit || c == '*'
  let flags := written.takeWhile (['#', '-', '+', ' ', '0'].contains ·)
  let behind := written.drop flags.length
  let width := if behind.head? = some '*' then ['*'] else behind.takeWhile isCount
  let behind := behind.drop width.length
  let precision :=
    match behind with
    | '.' :: '*' :: _ => ['.', '*']
    | '.' :: rest => '.' :: rest.takeWhile isCount
    | _ => []
  let size := flags.length + width.length + precision.length
  match behind.drop precision.length with
  | [] => (.fault "missing format character", size)
  | letter :: _ =>
    if "bcsdiouxXaAeEfFgG".toList.contains letter then
      (.directive flags width precision letter, size + 1)
    else
      (.fault ('%' :: written.take (size + 1) ++ ": invalid directive"), size + 1)

/-- Whether an octet stands for itself in a format. -/
def isPlain (c : Char) : Bool := c != '\\' && c != '%'

/-- Reads a format behind the items `found`, latest first. The first `skip` octets are
passed over. -/
def readFormat (found : List Item) (skip : Nat) : Text → List Item
  | [] => found.reverse
  | c :: rest =>
    match skip with
    | skip + 1 => readFormat found skip rest
    | 0 =>
      if c = '\\' then
        let (octet, size) := escape rest
        readFormat (.text [octet] :: found) size rest
      else if c = '%' then
        if rest.head? = some '%' then readFormat (.text ['%'] :: found) 1 rest
        else
          let (item, size) := readDirective rest
          readFormat (item :: found) size rest
      else
        let text := rest.takeWhile isPlain
        readFormat (.text (c :: text) :: found) text.length rest

/-- The output so far and the arguments that are left. -/
structure Progress where
  /-- The output, latest part first. -/
  written : List Text := []
  args : List Text
  /-- What the user is told, latest first. -/
  warnings : List Text := []
  /-- Whether all output is over. -/
  ended : Bool := false
  /-- The fault that ended the output. -/
  fault : Option Text := none

namespace Progress

/-- More output. -/
def write (progress : Progress) (text : Text) : Progress :=
  { progress with written := text :: progress.written }

/-- Takes the next argument. -/
def next (progress : Progress) : Option Text × Progress :=
  match progress.args with
  | [] => (none, progress)
  | arg :: args => (some arg, { progress with args := args })

/-- Takes the next argument as a number, as `read` reads it. -/
def nextNumber {α : Type} (progress : Progress) (zero : α) (ofCode : Nat → α)
    (read : Text → Reading α) : α × Progress :=
  match progress.next with
  | (none, progress) => (zero, progress)
  | (some arg, progress) =>
    match arg with
    | '\'' :: rest | '"' :: rest => (ofCode ((rest.head?.map (·.toNat)).getD 0), progress)
    | _ =>
      let reading := read arg
      let wrong (message : Text) : Progress :=
        { progress with warnings := (arg ++ ": " ++ message) :: progress.warnings }
      (reading.value,
        if !reading.rest.isEmpty then
          wrong (if reading.rest.length = arg.length then "expected numeric value"
            else "not completely converted")
        else if reading.outOfRange then wrong "Numerical result out of range"
        else progress)

/-- Takes the next argument as a whole number. -/
def nextInteger (progress : Progress) (signed : Bool) : Int × Progress :=
  progress.nextNumber (0 : Int) (fun code => (code : Int)) (readInteger signed)

/-- The value of a width or a precision. -/
def count (progress : Progress) (written : Text) : Option Int × Progress :=
  match written with
  | [] => (none, progress)
  | ['*'] =>
    let (value, progress) := progress.nextInteger true
    (some value, progress)
  | digits => (some (digitsValue 10 (digits.filter Char.isDigit)), progress)

/-- The number of binary digits with which numbers are kept. -/
def realBits : Nat := 53

/-- Writes one directive. -/
def apply (progress : Progress) (flags width precision : Text) (letter : Char) : Progress :=
  let (width, progress) := progress.count width
  let (precision, progress) :=
    match precision with
    | [] => (none, progress)
    | ['.'] => (some 0, progress)
    | _ :: written => progress.count written
  let spec : Spec :=
    { flags
      width := width.getD 0
      precision := precision.bind fun n => if n < 0 then none else some n.toNat }
  if letter = 's' then
    let (arg, progress) := progress.next
    progress.write (spec.text (arg.getD []))
  else if letter = 'b' then
    let (arg, progress) := progress.next
    let (text, ended) := unescaped [] 0 (arg.getD [])
    { progress.write (spec.text text) with ended := ended }
  else if letter = 'c' then
    let (arg, progress) := progress.next
    let octet := ((arg.getD []).head?).getD (Char.ofNat 0)
    progress.write ({ spec with precision := none }.text [octet])
  else if letter = 'd' || letter = 'i' then
    let (value, progress) := progress.nextInteger true
    progress.write (spec.signed value)
  else if ['o', 'u', 'x', 'X'].contains letter then
    let (value, progress) := progress.nextInteger false
    progress.write (spec.word letter value)
  else
    let (value, progress) :=
      progress.nextNumber (Real.finite false 0 1) (fun code => .finite false code 1)
        (readReal realBits)
    progress.write (spec.real realBits letter value)

/-- Uses a format once. -/
def useOnce (progress : Progress) : List Item → Progress
  | [] => progress
  | item :: items =>
    if progress.ended then progress
    else
      match item with
      | .text text => useOnce (progress.write text) items
      | .directive flags width precision letter =>
        useOnce (progress.apply flags width precision letter) items
      | .fault message => { progress with ended := true, fault := some message }

/-- Uses a format again while it takes arguments and some are left. -/
def useAgain (items : List Item) : Nat → Progress → Progress
  | 0, progress => progress
  | fuel + 1, progress =>
    if progress.ended || progress.args.isEmpty then progress
    else useAgain items fuel (progress.useOnce items)

end Progress

/-- The whole output of a format with arguments. -/
def run (format : Text) (args : List Text) : Progress :=
  let items := readFormat [] 0 format
  let once := Progress.useOnce { args := args } items
  if once.args.length < args.length then once.useAgain items args.length else once

end Conch.Program.Script.Formatted
