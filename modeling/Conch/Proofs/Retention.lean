import Conch.Proofs.Conservation

/-!
Parsing loses, repeats and reorders nothing. An expression goes on to its first word that begins
with `#`, which is where its comment begins; what is in front of the comment has the ink of the
tokens.

* `uncommented`: an expression up to its comment, and `CutsAt`, what it is to be cut there.
* `cutsAt_uncommented`: every expression that can be scanned is cut at its comment.
* `ink_uncommented`: the tokens of an expression have the ink of what is in front of its comment.
* `parse_retains_ink`: parsing keeps the ink of an expression, and so does each pass of it.
-/

namespace Conch.Token

open Text (ink)

/-! ### The comment of an expression -/

/-- Whether a word is in front of a comment, which it does not begin. -/
def isUncommented (w : Text) : Bool := w.head? != some '#'

/-- A text up to its first word that begins with `#`; `skip` characters at the front belong to
the word before them. -/
def uncommentedFrom : Nat → Text → Text
  | _, [] => []
  | skip + 1, c :: rest => c :: uncommentedFrom skip rest
  | 0, c :: rest =>
    if isSeparator c then c :: uncommentedFrom 0 rest
    else if c = '#' then []
    else c :: uncommentedFrom ((takeWord (c :: rest)).1.length - 1) rest

/-- An expression up to its first word that begins with `#`: all of it if there is none. -/
def uncommented (e : Text) : Text := uncommentedFrom 0 e

/-- An expression of these words is `front` and then `comment`. The words of `front` are those
before the first that begins with `#`, and that word stands at the very beginning of `comment`. -/
structure CutsAt (e : Text) (words : List Text) (front comment : Text) : Prop where
  whole : e = front ++ comment
  kept : scan front = .ok (words.takeWhile isUncommented)
  dropped : scan comment = .ok (words.dropWhile isUncommented)
  begins : ∀ c ∈ comment.head?, c = '#'

theorem uncommentedFrom_append (w rest : Text) :
    uncommentedFrom w.length (w ++ rest) = w ++ uncommented rest := by
  induction w with
  | nil => rfl
  | cons c w ih => rw [List.length_cons, List.cons_append, uncommentedFrom, ih, List.cons_append]

theorem uncommented_separator {c : Char} (h : isSeparator c = true) (s : Text) :
    uncommented (c :: s) = c :: uncommented s := by
  rw [uncommented, uncommentedFrom, if_pos h, uncommented]

/-- A word that begins with `#` begins the comment; any other is in front of it. -/
theorem uncommented_word {w rest : Text} (hw : IsWord w) (hstop : Stops rest) :
    uncommented (w ++ rest) = if isUncommented w then w ++ uncommented rest else [] := by
  have htake := takeWord_append hstop hw.unbroken hw.closed
  cases w with
  | nil => exact absurd rfl hw.nonempty
  | cons c w =>
      rw [List.cons_append] at htake ⊢
      rw [uncommented, uncommentedFrom, htake, if_neg (by simp [hw.head_not_separator])]
      by_cases hc : c = '#'
      · rw [if_pos hc, if_neg (by simp [isUncommented, hc])]
      · rw [if_neg hc, if_pos (by simp [isUncommented, hc])]
        exact congrArg (c :: ·) (uncommentedFrom_append w rest)

/-- What is in front of a separator, or of nothing, is so up to its comment. -/
theorem stops_uncommented {rest : Text} (h : Stops rest) : Stops (uncommented rest) := by
  cases rest with
  | nil => exact stops_nil
  | cons c rest =>
      have hsep := stops_cons.mp h
      rw [uncommented_separator hsep]
      exact stops_cons.mpr hsep

/-- Every expression that can be scanned is cut at its comment. -/
theorem cutsAt_uncommented {e : Text} {words : List Text} (h : Spaced e words) :
    ∃ comment, CutsAt e words (uncommented e) comment := by
  induction h with
  | nil => exact ⟨[], rfl, rfl, rfl, by simp⟩
  | separator hsep _ ih =>
      obtain ⟨comment, hcut⟩ := ih
      refine ⟨comment, ?_, ?_, hcut.dropped, hcut.begins⟩
      · rw [uncommented_separator hsep, List.cons_append, ← hcut.whole]
      · rw [uncommented_separator hsep, scan_separator hsep]
        exact hcut.kept
  | @word w rest words hw hstop hrest ih =>
      rw [uncommented_word hw hstop]
      split_ifs with huncommented
      · obtain ⟨comment, hcut⟩ := ih
        refine ⟨comment, ?_, ?_, ?_, hcut.begins⟩
        · rw [List.append_assoc, ← hcut.whole]
        · rw [scan_word hw (stops_uncommented hstop), hcut.kept,
            List.takeWhile_cons_of_pos huncommented]
          rfl
        · rw [List.dropWhile_cons_of_pos huncommented]
          exact hcut.dropped
      · refine ⟨w ++ rest, rfl, ?_, ?_, ?_⟩
        · rw [List.takeWhile_cons_of_neg huncommented]
          rfl
        · rw [List.dropWhile_cons_of_neg huncommented]
          exact (Spaced.word hw hstop hrest).scan_eq
        · rw [List.head?_append_of_ne_nil _ hw.nonempty]
          simp only [isUncommented, bne_iff_ne, ne_eq, not_not] at huncommented
          simp [huncommented]

/-! ### Ink up to the comment -/

theorem ink_uncommented {e : Text} {tokens : List Token} (h : parse e = .ok tokens) :
    ink (sources tokens) = ink (uncommented e) := by
  obtain ⟨words, hspaced, hink⟩ := ink_parse h
  obtain ⟨comment, hcut⟩ := cutsAt_uncommented hspaced
  have hfront := (scan_eq_ok_iff.mp hcut.kept).ink_eq
  rw [hink, hfront]
  rfl

/-- **Parsing loses, repeats and reorders nothing.** Every expression that can be scanned is cut
just before its first word that begins with `#`, and is whole if there is none. If it can be
parsed, its tokens as they are written have the same characters as what is in front of the cut,
in the same order, but for blanks and quotes. So has what a pass of grouping makes of any tokens
that it accepts, with braces and with parentheses. -/
theorem parse_retains_ink :
    (∀ e words, scan e = .ok words → ∃ comment, CutsAt e words (uncommented e) comment) ∧
    (∀ e tokens, parse e = .ok tokens → ink (sources tokens) = ink (uncommented e)) ∧
    (∀ tokens grouped, braces.group tokens = .ok grouped →
      ink (sources grouped) = ink (sources tokens)) ∧
    (∀ tokens grouped, parentheses.group tokens = .ok grouped →
      ink (sources grouped) = ink (sources tokens)) := by
  refine ⟨?_, ?_, ?_, ?_⟩
  · intro e words h
    exact cutsAt_uncommented (scan_eq_ok_iff.mp h)
  · intro e tokens h
    exact ink_uncommented h
  · intro tokens grouped h
    exact Delimiters.ink_group Delimiters.isPair_braces h
  · intro tokens grouped h
    exact Delimiters.ink_group Delimiters.isPair_parentheses h

/-- A substitution in quotes, a group whose opener stands behind another, marks, and a comment. -/
theorem parse_retains_ink_commented :
    parse "l-echo \"(a b)\" (\x7b c; \x7d) ;; # \x7bd" =
      .ok [word "l-echo", substitution "a b", substitution "\x7bc;\x7d", split, split] ∧
    ink (sources [word "l-echo", substitution "a b", substitution "\x7bc;\x7d", split, split]) =
      ink (uncommented "l-echo \"(a b)\" (\x7b c; \x7d) ;; # \x7bd") ∧
    uncommented "l-echo \"(a b)\" (\x7b c; \x7d) ;; # \x7bd" =
      "l-echo \"(a b)\" (\x7b c; \x7d) ;; " := by
  have hparse : parse "l-echo \"(a b)\" (\x7b c; \x7d) ;; # \x7bd" =
      .ok [word "l-echo", substitution "a b", substitution "\x7bc;\x7d", split, split] := by
    decide +kernel
  exact ⟨hparse, parse_retains_ink.2.1 _ _ hparse, by decide +kernel⟩

end Conch.Token
