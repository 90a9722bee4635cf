import Conch.Text.Numeral
import Conch.Text.Octets

/-!
Values in formatted output. A value is written with flags, on at least as many places
as the width says, and with the precision that is asked for. Numbers are read as
far as they go, and what follows them is left.
-/

namespace Conch.Program.Format

/-- How a value is written. -/
structure Spec where
  flags : Text := []
  width : Int := 0
  precision : Option Nat := none
  deriving DecidableEq, Repr

/-- Whether a flag is set. -/
def Spec.has (spec : Spec) (flag : Char) : Bool := spec.flags.contains flag

/-- Whether a value stands at the left of its places. -/
def Spec.left (spec : Spec) : Bool := spec.has '-' || spec.width < 0

/-- A value with a sign in front on its places. Zeros go between the two. -/
def Spec.pad (spec : Spec) (zeros : Bool) (sign body : Text) : Text :=
  let missing := spec.width.natAbs - (sign.length + body.length)
  if spec.left then sign ++ body ++ List.replicate missing ' '
  else if zeros then sign ++ List.replicate missing '0' ++ body
  else List.replicate missing ' ' ++ sign ++ body

/-- A text on its places, cut to its precision. -/
def Spec.text (spec : Spec) (text : Text) : Text :=
  spec.pad false [] ((spec.precision.map fun n => text.take n).getD text)

/-! ### Whole numbers -/

/-- Whether an octet is an octal digit. -/
def isOctal (c : Char) : Bool := '0' ≤ c && c ≤ '7'

/-- Whether an octet is a hexadecimal digit. -/
def isHex (c : Char) : Bool := c.isDigit || ('a' ≤ c.toLower && c.toLower ≤ 'f')

/-- The value of digits in a base. -/
def digitsValue (base : Nat) (digits : Text) : Nat :=
  digits.foldl
    (fun n c => n * base + (if c.isDigit then c.toNat - 48 else c.toLower.toNat - 87)) 0

/-- The blanks that may stand before a number. -/
def isSpace (c : Char) : Bool := c == ' ' || ('\t' ≤ c && c ≤ '\r')

/-- A number that was read. -/
structure Reading (α : Type) where
  value : α
  /-- What follows the number; all of the text if there is none. -/
  rest : Text
  /-- Whether the number is larger than any that can be kept. -/
  outOfRange : Bool := false
  deriving Repr

/-- The sign of a text, and the text behind it. -/
def readSign : Text → Bool × Text
  | '-' :: rest => (true, rest)
  | '+' :: rest => (false, rest)
  | text => (false, text)

/-- The base, the digits and the rest of a text that begins with a number. -/
def readDigits (text : Text) : Nat × Text × Text :=
  match text with
  | '0' :: x :: rest =>
    if (x = 'x' || x = 'X') && (rest.head?.map isHex).getD false then
      (16, rest.takeWhile isHex, rest.dropWhile isHex)
    else (8, text.takeWhile isOctal, text.dropWhile isOctal)
  | _ => (10, text.takeWhile Char.isDigit, text.dropWhile Char.isDigit)

/-- Reads a whole number of 64 bits. -/
def readInteger (signed : Bool) (text : Text) : Reading Int :=
  let (negative, unsigned) := readSign (text.dropWhile isSpace)
  let (base, digits, rest) := readDigits unsigned
  if digits.isEmpty then ⟨0, text, false⟩
  else
    let magnitude := digitsValue base digits
    let least : Int := if signed then -Text.largestInt - 1 else -Text.largestNat
    let most : Int := if signed then Text.largestInt else Text.largestNat
    let value : Int := if negative then -magnitude else magnitude
    if value < least then ⟨if signed then least else most, rest, true⟩
    else if most < value then ⟨most, rest, true⟩
    else ⟨value, rest, false⟩

/-- The sign before a number that is not negative. -/
def Spec.plusSign (spec : Spec) : Text :=
  if spec.has '+' then ['+'] else if spec.has ' ' then [' '] else []

/-- Digits filled up with zeros to the precision. A zero has no digits if the precision
is nothing. -/
def Spec.fill (spec : Spec) (digits : Text) : Text :=
  match spec.precision with
  | none => digits
  | some places =>
    let digits := if digits = ['0'] && places = 0 then [] else digits
    List.replicate (places - digits.length) '0' ++ digits

/-- A whole number with its sign. -/
def Spec.signed (spec : Spec) (value : Int) : Text :=
  spec.pad (spec.has '0' && spec.precision.isNone) (if value < 0 then ['-'] else spec.plusSign)
    (spec.fill (Nat.toDigits 10 value.natAbs))

/-- A whole number as a word of 64 bits, by the letter of its base. -/
def Spec.word (spec : Spec) (letter : Char) (value : Int) : Text :=
  let word := (value % (Text.largestNat + 1 : Nat)).toNat
  let (sign, body) : Text × Text :=
    match letter with
    | 'o' =>
      let digits := spec.fill (Nat.toDigits 8 word)
      ([], if spec.has '#' && digits.head? != some '0' then '0' :: digits else digits)
    | 'x' => (if spec.has '#' && word != 0 then "0x" else [], spec.fill (Nat.toDigits 16 word))
    | 'X' =>
      (if spec.has '#' && word != 0 then "0X" else [],
        (spec.fill (Nat.toDigits 16 word)).map Char.toUpper)
    | _ => ([], spec.fill (Nat.toDigits 10 word))
  spec.pad (spec.has '0' && spec.precision.isNone) sign body

/-! ### Numbers with a point -/

/-- A number that is kept with so many binary digits. -/
inductive Real where
  | nan (negative : Bool)
  | infinite (negative : Bool)
  /-- A numerator over a denominator. -/
  | finite (negative : Bool) (numerator denominator : Nat)
  deriving DecidableEq, Repr

/-- A quotient rounded to the nearest whole number, a half to the even one. -/
def roundDiv (numerator denominator : Nat) : Nat :=
  let whole := numerator / denominator
  let twice := 2 * (numerator % denominator)
  if twice < denominator then whole
  else if denominator < twice then whole + 1
  else whole + whole % 2

/-- A quotient rounded to `bits` binary digits. -/
def toBinary (bits numerator denominator : Nat) : Nat × Nat :=
  if numerator = 0 then (0, 1)
  else
    let size := Nat.log2 numerator
    let scale := Nat.log2 denominator
    -- the quotient lies between 2 ^ (size - scale - 1) and 2 ^ (size - scale + 1)
    let up := bits + scale + 1 - size
    let down := size - (bits + scale + 1)
    let wide := numerator.shiftLeft up / denominator.shiftLeft down
    let extra := Nat.log2 wide + 1 - bits
    let (up, down) := if extra ≤ up then (up - extra, down) else (0, down + (extra - up))
    let rounded := roundDiv (numerator.shiftLeft up) (denominator.shiftLeft down)
    (rounded.shiftLeft down, Nat.shiftLeft 1 up)

/-- The largest power of ten that is computed with. -/
def largestPower : Nat := 6000

/-- The decimal power behind a number, with its sign, and what follows it. -/
def readPower (mark : Char) (text : Text) : Int × Text :=
  match text with
  | c :: rest =>
    if c.toLower ≠ mark then (0, text)
    else
      let (negative, unsigned) := readSign rest
      let digits := unsigned.takeWhile Char.isDigit
      if digits.isEmpty then (0, text)
      else
        let value : Int := min (digitsValue 10 digits) largestPower
        (if negative then -value else value, unsigned.drop digits.length)
  | [] => (0, text)

/-- The largest binary exponent of a number that is kept with `bits` binary digits. -/
def largestExponent (bits : Nat) : Nat := if bits ≤ 53 then 1024 else 16384

/-- A number in a base with a point, times a power. -/
def readPoint (bits : Nat) (negative : Bool) (isDigit : Char → Bool) (base power : Nat)
    (mark : Char) (text : Text) : Option (Real × Text × Bool) :=
  let whole := text.takeWhile isDigit
  let behind := text.drop whole.length
  let places := if behind.head? = some '.' then (behind.drop 1).takeWhile isDigit else []
  let rest := if behind.head? = some '.' then behind.drop (1 + places.length) else behind
  if whole.isEmpty && places.isEmpty then none
  else
    let (exponent, rest) := readPower mark rest
    let digits := digitsValue base (whole ++ places)
    let (numerator, denominator) :=
      if exponent < 0 then (digits, base.pow places.length * power.pow exponent.natAbs)
      else (digits * power.pow exponent.natAbs, base.pow places.length)
    let (numerator, denominator) := toBinary bits numerator denominator
    if denominator.shiftLeft (largestExponent bits) ≤ numerator then
      some (.infinite negative, rest, true)
    else some (.finite negative numerator denominator, rest, false)

/-- Reads a number that is kept with `bits` binary digits. -/
def readReal (bits : Nat) (text : Text) : Reading Real :=
  let (negative, unsigned) := readSign (text.dropWhile isSpace)
  let lowered := unsigned.map Char.toLower
  let named (name : Text) : Option Text :=
    if name.isPrefixOf lowered then some (unsigned.drop name.length) else none
  match (named "infinity").or (named "inf"), named "nan" with
  | some rest, _ => ⟨.infinite negative, rest, false⟩
  | none, some rest => ⟨.nan negative, rest, false⟩
  | none, none =>
    let hex? :=
      if (named "0x").isSome then
        readPoint bits negative isHex 16 2 'p' (unsigned.drop 2)
      else none
    match hex?.or (readPoint bits negative Char.isDigit 10 10 'e' unsigned) with
    | some (value, rest, large) => ⟨value, rest, large⟩
    | none => ⟨.finite false 0 1, text, false⟩

/-- A number with `places` digits behind the point. -/
def fixed (always : Bool) (places numerator denominator : Nat) : Text :=
  let digits := Nat.toDigits 10 (roundDiv (numerator * Nat.pow 10 places) denominator)
  let digits := List.replicate (places + 1 - digits.length) '0' ++ digits
  let whole := digits.take (digits.length - places)
  whole ++ (if places = 0 && !always then [] else '.' :: digits.drop whole.length)

/-- The largest power of ten that is not above a number, if the number is one or more;
`power` is known not to be above it. -/
def powerFrom (numerator denominator : Nat) : Nat → Nat → Nat
  | 0, power => power
  | fuel + 1, power =>
    if denominator * Nat.pow 10 (power + 1) ≤ numerator then
      powerFrom numerator denominator fuel (power + 1)
    else power

/-- The decimal exponent of a number. -/
def exponent (numerator denominator : Nat) : Int :=
  if numerator = 0 then 0
  else if denominator ≤ numerator then
    powerFrom numerator denominator largestPower
      ((Nat.log2 numerator - Nat.log2 denominator - 1) * 3 / 10)
  else
    -- the least power of ten that lifts the number to one or more
    let start := (Nat.log2 denominator - Nat.log2 numerator - 1) * 3 / 10
    let lifted := (List.range (start + 8)).find? fun n =>
      start ≤ n + 4 && denominator ≤ numerator * Nat.pow 10 n
    Int.negOfNat (lifted.getD start)

/-- The digits of a number with `places` of them behind the first, and its exponent. -/
def digitsAndExponent (places numerator denominator : Nat) : Text × Int :=
  let power := exponent numerator denominator
  let shift : Int := places - power
  let scaled :=
    if shift < 0 then roundDiv numerator (denominator * Nat.pow 10 shift.natAbs)
    else roundDiv (numerator * Nat.pow 10 shift.natAbs) denominator
  let digits := Nat.toDigits 10 scaled
  if places + 1 < digits.length then (digits.take (places + 1), power + 1)
  else (List.replicate (places + 1 - digits.length) '0' ++ digits, power)

/-- An exponent behind its mark, with at least two digits. -/
def exponentText (mark : Char) (power : Int) : Text :=
  let digits := Nat.toDigits 10 power.natAbs
  [mark, if power < 0 then '-' else '+'] ++ List.replicate (2 - digits.length) '0' ++ digits

/-- A number as one digit, `places` digits behind the point, and an exponent. -/
def scientific (always : Bool) (places numerator denominator : Nat) : Text :=
  let (digits, power) := digitsAndExponent places numerator denominator
  digits.take 1 ++ (if places = 0 && !always then [] else '.' :: digits.drop 1) ++
    exponentText 'e' power

/-- A number without the zeros at the end of its places. -/
def withoutZeros (text : Text) : Text :=
  if text.contains '.' then
    let mantissa := text.takeWhile (· != 'e')
    let kept := Text.dropEndWhile (· == '0') mantissa
    (Text.beforeEnd? ['.'] kept).getD kept ++ text.drop mantissa.length
  else text

/-- A number in the shorter of the two forms. -/
def general (spec : Spec) (numerator denominator : Nat) : Text :=
  let places := max 1 (spec.precision.getD 6)
  let (_, power) := digitsAndExponent (places - 1) numerator denominator
  let written :=
    if -4 ≤ power ∧ power < places then
      fixed (spec.has '#') (places - 1 - power).toNat numerator denominator
    else scientific (spec.has '#') (places - 1) numerator denominator
  if spec.has '#' then written else withoutZeros written

/-- A number in base sixteen with a binary exponent; `bits` says how many bits stand
before the point. -/
def hexadecimal (bits numerator denominator : Nat) : Text :=
  if numerator = 0 then "0x0p+0"
  else
    let size : Int := (Nat.log2 numerator : Int) - Nat.log2 denominator
    let size : Int :=
      if (if size < 0 then numerator.shiftLeft size.natAbs < denominator
        else numerator < denominator.shiftLeft size.natAbs) then size - 1 else size
    let power : Int := size - (bits - 1)
    -- sixteen hexadecimal digits hold all bits of the number
    let shift : Int := 64 - power
    let scaled :=
      if shift < 0 then numerator / denominator.shiftLeft shift.natAbs
      else numerator.shiftLeft shift.natAbs / denominator
    let digits := Nat.toDigits 16 scaled
    let places := Text.dropEndWhile (· == '0') (digits.drop (digits.length - 16))
    "0x" ++ digits.take (digits.length - 16) ++ (if places.isEmpty then [] else '.' :: places) ++
      ['p', if power < 0 then '-' else '+'] ++ Nat.toDigits 10 power.natAbs

/-- A number by the letter of its form. -/
def Spec.real (spec : Spec) (bits : Nat) (letter : Char) (value : Real) : Text :=
  let capital (text : Text) : Text := if letter.isUpper then text.map Char.toUpper else text
  let sign (negative : Bool) : Text := if negative then ['-'] else spec.plusSign
  match value with
  | .nan negative => spec.pad false (sign negative) (capital "nan")
  | .infinite negative => spec.pad false (sign negative) (capital "inf")
  | .finite negative numerator denominator =>
    let places := spec.precision.getD 6
    let body : Text :=
      match letter.toLower with
      | 'f' => fixed (spec.has '#') places numerator denominator
      | 'e' => scientific (spec.has '#') places numerator denominator
      | 'g' => general spec numerator denominator
      | _ => hexadecimal (if bits ≤ 53 then 1 else 4) numerator denominator
    spec.pad (spec.has '0') (sign negative) (capital body)

example :
    String.ofList (({} : Spec).real 53 'f' (readReal 53 "1.5".toList).value) = "1.500000" := by
  decide +kernel
example : String.ofList (({} : Spec).real 53 'g' (readReal 53 "1e-5".toList).value) = "1e-05" := by
  decide +kernel

end Conch.Program.Format
