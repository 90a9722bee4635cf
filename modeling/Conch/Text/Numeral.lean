import Conch.Text.Basic

/-!
Decimal numerals. Numbers are written with the digits `0` to `9` alone. They are
read with an optional sign and any number of leading zeros, and a numeral whose
value does not fit in 64 bits is refused.
-/

namespace Conch.Text

/-- The decimal digits of a number. -/
def ofNat (n : Nat) : Text := Nat.toDigits 10 n

/-- The decimal digits of an integer, with a minus sign if it is negative. -/
def ofInt : Int → Text
  | .ofNat n => ofNat n
  | .negSucc n => '-' :: ofNat (n + 1)

/-- The value of one or more digits. -/
def digitsValue? (s : Text) : Option Nat :=
  if s ≠ [] ∧ s.all Char.isDigit then
    some (s.foldl (fun n c => 10 * n + (c.toNat - '0'.toNat)) 0)
  else none

/-- The largest number that a descriptor, an index or a count can be. -/
def largestNat : Nat := 18446744073709551615

/-- The largest integer of 64 bits in two's complement. -/
def largestInt : Nat := 9223372036854775807

/-- Reads a natural number below 2^64, with an optional plus sign. -/
def toNat? (s : Text) : Option Nat :=
  (digitsValue? ((afterStart? ['+'] s).getD s)).filter (· ≤ largestNat)

/-- Reads an integer of 64 bits in two's complement, with an optional sign. -/
def toInt? (s : Text) : Option Int :=
  match afterStart? ['-'] s with
  | some digits => ((digitsValue? digits).filter (· ≤ largestInt + 1)).map fun n => -(n : Int)
  | none => ((digitsValue? ((afterStart? ['+'] s).getD s)).filter (· ≤ largestInt)).map Int.ofNat

example : toNat? "+007".toList = some 7 := by decide
example : toNat? "18446744073709551616".toList = none := by decide
example : toInt? "-9223372036854775808".toList = some (-9223372036854775808) := by decide

end Conch.Text
