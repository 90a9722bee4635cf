import Conch.Builtin.Basic
import Conch.Text.Blank
import Conch.Text.Case
import Conch.Text.Distinct
import Conch.Text.Numeral
import Conch.Text.Search

/-!
What the utilities compute. A truth value is written as `true` or `false`, a
position that does not exist as `-1`, and a list with one item to a line.
-/

namespace Conch.Utility

/-- A truth value as one line. -/
def truth (b : Bool) : List Text := [if b then "true" else "false"]

/-- A position as one line. -/
def position : Option Nat → List Text
  | some n => [Text.ofNat n]
  | none => ["-1"]

/-- How many arguments a utility takes. -/
def arity (utility : Utility) : Nat := utility.parameters.length

/-- The lines that a utility makes of its arguments; `s` is the first of them, and
`t` and `u` the others if there are any. -/
def lines (utility : Utility) (s t u : Text) : List Text :=
  match utility with
  | .compare => [if s < t then "-1" else if s = t then "0" else "1"]
  | .contains => truth (Text.occursIn t s)
  | .containsAny => truth (s.any (Text.distinct t).contains)
  | .count =>
    if t.isEmpty then [Text.ofNat (s.length + 1)] else [Text.ofNat (Text.occurrences t s)]
  | .equalFold => truth (Text.toLower s == Text.toLower t)
  | .fields => Text.fields s
  | .hasPrefix => truth (t.isPrefixOf s)
  | .hasSuffix => truth (t.isSuffixOf s)
  | .index => position (Text.index? t s)
  | .lastIndex => position (Text.lastIndex? t s)
  | .replaceAll => [Text.replaceAll t u s]
  | .split => if t.isEmpty then s.map fun c => [c] else Text.pieces t s
  | .toLower => [Text.toLower s]
  | .toUpper => [Text.toUpper s]
  | .trim => [Text.trimWhile (Text.distinct t).contains s]
  | .trimLeft => [s.dropWhile (Text.distinct t).contains]
  | .trimRight => [Text.dropEndWhile (Text.distinct t).contains s]
  | .trimPrefix => [(Text.afterStart? t s).getD s]
  | .trimSuffix => [(Text.beforeEnd? t s).getD s]
  | .trimSpace => [Text.trim s]

/-- The lines that a utility makes of a list of arguments of the right length. -/
def apply (utility : Utility) (args : List Text) : List Text :=
  utility.lines (args.getD 0 []) (args.getD 1 []) (args.getD 2 [])

end Conch.Utility
