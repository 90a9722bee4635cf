import Conch.Text.Basic

/-!
The different characters of a text. Whether a character is among those of a long text
is found out faster among the different ones.
-/

namespace Conch.Text

/-- The different characters of a text, together with those that were found before. -/
def distinctFrom (found : Text) : Text → Text
  | [] => found
  | c :: rest => distinctFrom (if found.contains c then found else c :: found) rest

/-- The different characters of a text. -/
def distinct (s : Text) : Text := distinctFrom [] s

theorem mem_distinctFrom {c : Char} {found s : Text} :
    c ∈ distinctFrom found s ↔ c ∈ found ∨ c ∈ s := by
  induction s generalizing found with
  | nil => simp [distinctFrom]
  | cons d rest ih =>
    rw [distinctFrom, ih]
    by_cases h : d ∈ found <;> grind

@[simp] theorem mem_distinct {c : Char} {s : Text} : c ∈ distinct s ↔ c ∈ s := by
  simp [distinct, mem_distinctFrom]

@[simp] theorem contains_distinct (s : Text) : (distinct s).contains = s.contains := by
  funext c
  simp

end Conch.Text
