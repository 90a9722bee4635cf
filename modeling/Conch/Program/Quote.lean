import Conch.Text.Basic

/-!
Arguments as programs quote them in messages. A name that a shell would take as it
stands is shown as it is; any other is shown in a form that a shell reads back. Other
texts are shown between single quotes, with escapes.
-/

namespace Conch.Program.Quote

/-- The letter of the escape for a control character. -/
def controlLetter? (c : Char) : Option Char :=
  [(7, 'a'), (8, 'b'), (9, 't'), (10, 'n'), (11, 'v'), (12, 'f'), (13, 'r')].lookup c.toNat

/-- Whether an octet has a shape. -/
def isShown (c : Char) : Bool := 32 ≤ c.toNat && c.toNat < 127

/-- The octal escape of an octet, without its backslash. -/
def octal (c : Char) : Text :=
  [Nat.digitChar (c.toNat / 64), Nat.digitChar (c.toNat / 8 % 8), Nat.digitChar (c.toNat % 8)]

/-- The escape of an octet without a shape. -/
def escape (c : Char) : Text :=
  '\\' :: ((controlLetter? c).map fun letter => [letter]).getD (octal c)

/-- The characters that mean the same between any quotes. -/
def isTame (c : Char) : Bool :=
  c.isAlphanum || ("%+,-./:]_@ '".toList).contains c

/-- Whether a shell would not take a name as it stands. -/
def needsQuotes (name : Text) : Bool :=
  match name with
  | [] => true
  | first :: rest =>
    first == '#' || first == '~' || ((first == '\x7b' || first == '\x7d') && rest.isEmpty) ||
      name.any fun c => !isShown c || ("!\"$&()*;<=>[^` |'\\?:".toList).contains c

/-- The octets of a name between single quotes; those without a shape stand between
quotes of their own. `escaping` says whether such quotes are open. -/
def shellForm (escaping : Bool) : Text → Text
  | [] => []
  | c :: rest =>
    if !isShown c then (if escaping then [] else "'$'".toList) ++ escape c ++ shellForm true rest
    else
      (if escaping then "''".toList else []) ++
        (if c = '\'' then "'\\''".toList else [c]) ++ shellForm false rest

/-- A name as a shell reads it back, always between quotes. -/
def shellQuoted (name : Text) : Text :=
  if name.contains '\'' && name.all isTame then ['"'] ++ name ++ ['"']
  else ['\''] ++ shellForm false name ++ ['\'']

/-- A name as a shell reads it back. -/
def name (name : Text) : Text := if needsQuotes name then shellQuoted name else name

/-- A text between single quotes. -/
def text (text : Text) : Text :=
  ['\''] ++
    text.flatMap (fun c =>
      if c = '\'' || c = '\\' then ['\\', c] else if isShown c then [c] else escape c) ++
    ['\'']

end Conch.Program.Quote
