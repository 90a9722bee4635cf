import Conch.Text.Basic

/-!
Blank characters: the Unicode property `White_Space`. Trimming and cutting into
fields follow it everywhere in the shell, except in the scanner, which has a
smaller set of separators of its own.
-/

namespace Conch.Text

/-- The ranges of the property `White_Space`, in ascending order. -/
def blankRanges : List (Nat × Nat) :=
  [(0x9, 0xD), (0x20, 0x20), (0x85, 0x85), (0xA0, 0xA0), (0x1680, 0x1680), (0x2000, 0x200A),
    (0x2028, 0x2029), (0x202F, 0x202F), (0x205F, 0x205F), (0x3000, 0x3000)]

/-- Whether a character is white space. -/
def isBlank (c : Char) : Bool := blankRanges.any fun r => r.1 ≤ c.toNat && c.toNat ≤ r.2

/-- A text without the blanks at its two ends. -/
def trim (s : Text) : Text := trimWhile isBlank s

/-- The maximal runs of characters that are not blank. -/
def fields (s : Text) : List Text := (s.splitOnP isBlank).filter (!·.isEmpty)

example : trim "\t a b \r\n".toList = "a b".toList := by decide

end Conch.Text
