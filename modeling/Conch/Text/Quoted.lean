import Conch.Text.Unprintable

/-!
Quoted texts, as messages show a text that the user wrote: in double quotes, with
backslash forms for quotes, backslashes and line marks, and with numbers for what
cannot be printed.
-/

namespace Conch.Text

/-- How a character stands in a quoted text. -/
def quotedChar (c : Char) : Text :=
  if c = '"' then "\\\""
  else if c = '\\' then "\\\\"
  else if c = '\n' then "\\n"
  else if c = '\r' then "\\r"
  else if c = '\t' then "\\t"
  else if c = Char.ofNat 0 then "\\0"
  else if isUnprintable c then "\\u\x7b" ++ Nat.toDigits 16 c.toNat ++ "\x7d"
  else [c]

/-- A text in double quotes. -/
def quoted (s : Text) : Text := "\"" ++ s.flatMap quotedChar ++ "\""

end Conch.Text
