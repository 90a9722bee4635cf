/-!
Texts. A text is the list of its characters, so every rule of the shell about
words, names and output is stated by recursion on a list. A string literal may
stand wherever a text is wanted.

The operations here cut and join texts without looking at what the characters
mean; the classes of characters have modules of their own beside this one.
-/

namespace Conch

/-- The sum of sizes. -/
def total (sizes : List Nat) : Nat := sizes.foldl (· + ·) 0

/-- A piece of text: its characters in order. -/
abbrev Text := List Char

instance : Coe String Text := ⟨String.toList⟩

namespace Text

/-- The items one after another, with `sep` between neighbours. -/
def join (sep : Text) (items : List Text) : Text := sep.intercalate items

/-- What is left of a text when the characters in `p` are dropped from its end. -/
def dropEndWhile (p : Char → Bool) (s : Text) : Text := (s.reverse.dropWhile p).reverse

/-- The longest end of a text that has only characters in `p`. -/
def takeEndWhile (p : Char → Bool) (s : Text) : Text := (s.reverse.takeWhile p).reverse

/-- A text without the characters in `p` at its two ends. -/
def trimWhile (p : Char → Bool) (s : Text) : Text := dropEndWhile p (s.dropWhile p)

/-- What follows `start` in a text that begins with it. -/
def afterStart? (start s : Text) : Option Text :=
  if start.isPrefixOf s then some (s.drop start.length) else none

/-- What precedes `stop` in a text that ends with it. -/
def beforeEnd? (stop s : Text) : Option Text :=
  if stop.isSuffixOf s then some (s.take (s.length - stop.length)) else none

/-- The two sides of the first `c`, which itself is left out. -/
def cut? (c : Char) (s : Text) : Option (Text × Text) :=
  match s.dropWhile (· != c) with
  | [] => none
  | _ :: after => some (s.takeWhile (· != c), after)

/-- `count` copies of a text. -/
def times (count : Nat) (s : Text) : Text := (List.replicate count s).flatten

/-- The lines of a text: a line ends at a newline, which may have one carriage
return before it; text after the last newline is a line if there is any. -/
def lines (s : Text) : List Text :=
  match (s.splitOnP (· == '\n')).reverse with
  | [] => []
  | last :: ended =>
    let complete := ended.reverse.map fun line => (beforeEnd? ['\r'] line).getD line
    if last.isEmpty then complete else complete ++ [last]

@[simp] theorem join_nil (sep : Text) : join sep [] = [] := rfl

@[simp] theorem join_singleton (sep s : Text) : join sep [s] = s := by
  simp [join, List.intercalate]

@[simp] theorem join_cons_cons (sep a b : Text) (rest : List Text) :
    join sep (a :: b :: rest) = a ++ sep ++ join sep (b :: rest) := by
  simp [join, List.intercalate]

end Text

end Conch
