import Conch.Text.Basic

/-!
Looking for one text at every place of another. Comparing the two character by
character at every place would take time for each of their lengths multiplied; so
the search carries a sum of the characters under the text that it looks for, which
is quick to carry on by one place, and compares only where the sum is right.

The sum never decides: where `startsAt` is asked with the right sum, it says no more
and no less than that the text begins there (`Needle.startsAt_eq`).
-/

namespace Conch.Text

/-- The factor between the weights of neighbouring characters in a sum. -/
def sumBase : UInt64 := 1000003

/-- One more character at the end of a sum. -/
def addToSum (sum : UInt64) (c : Char) : UInt64 := sum * sumBase + c.toNat.toUInt64

/-- The sum of the characters of a text, each weighted by its place. -/
def sumOf (s : Text) : UInt64 := s.foldl addToSum 0

/-- A text that is looked for. -/
structure Needle where
  text : Text
  length : Nat
  sum : UInt64
  /-- The weight of the first character. -/
  weight : UInt64
  deriving DecidableEq, Repr

/-- The places of a search: the sum of the characters under the needle, and the text
behind them. -/
structure Window where
  sum : UInt64
  ahead : Text
  deriving DecidableEq, Repr

namespace Needle

/-- A text to look for. -/
def ofText (text : Text) : Needle :=
  ⟨text, text.length, sumOf text, text.tail.foldl (fun weight _ => weight * sumBase) 1⟩

/-- The needle at the start of a text. -/
def atStart (needle : Needle) (s : Text) : Window :=
  ⟨sumOf (s.take needle.length), s.drop needle.length⟩

/-- The needle moved on by one place, away from the character `c`. -/
def move (needle : Needle) (window : Window) (c : Char) : Window :=
  match window.ahead with
  | [] => window
  | d :: ahead => ⟨addToSum (window.sum - c.toNat.toUInt64 * needle.weight) d, ahead⟩

/-- Whether the text that is looked for begins at the place of a window. -/
def startsAt (needle : Needle) (window : Window) (s : Text) : Bool :=
  window.sum == needle.sum && needle.text.isPrefixOf s

end Needle

theorem foldl_weight (s : Text) (start : UInt64) :
    s.foldl (fun weight _ => weight * sumBase) start = start * sumBase ^ s.length := by
  induction s generalizing start with
  | nil => simp
  | cons c rest ih =>
    rw [List.foldl_cons, ih, List.length_cons]
    grind

theorem foldl_addToSum (s : Text) (start : UInt64) :
    s.foldl addToSum start = start * sumBase ^ s.length + sumOf s := by
  induction s generalizing start with
  | nil => simp [sumOf]
  | cons c rest ih =>
    have h₁ := ih (addToSum start c)
    have h₂ := ih (addToSum 0 c)
    simp only [List.foldl_cons, sumOf, List.length_cons] at *
    rw [h₁, h₂]
    simp only [addToSum]
    grind

theorem sumOf_cons (c : Char) (s : Text) :
    sumOf (c :: s) = c.toNat.toUInt64 * sumBase ^ s.length + sumOf s := by
  rw [sumOf, List.foldl_cons, foldl_addToSum]
  simp [addToSum]

theorem sumOf_concat (s : Text) (c : Char) : sumOf (s ++ [c]) = addToSum (sumOf s) c := by
  simp [sumOf]

/-- A window that belongs to a place: its text is what lies behind the needle there,
and its sum is right as long as the needle does not stick out. -/
structure Window.Fits (needle : Needle) (window : Window) (s : Text) : Prop where
  ahead : window.ahead = s.drop needle.length
  sum : needle.length ≤ s.length → window.sum = sumOf (s.take needle.length)

namespace Needle

theorem fits_atStart (needle : Needle) (s : Text) : (needle.atStart s).Fits needle s :=
  ⟨rfl, fun _ => rfl⟩

theorem fits_move {text : Text} (nonempty : text ≠ []) {window : Window} {c : Char} {s : Text}
    (fits : window.Fits (ofText text) (c :: s)) :
    ((ofText text).move window c).Fits (ofText text) s := by
  obtain ⟨last, hlast⟩ : ∃ last, text.length = last + 1 :=
    ⟨text.length - 1, by have := List.length_pos_iff.2 nonempty; omega⟩
  obtain ⟨hahead, hsum⟩ := fits
  simp only [ofText, hlast, List.drop_succ_cons, List.length_cons, List.take_succ_cons]
    at hahead hsum
  unfold move
  split
  · next h =>
    rw [hahead] at h
    have short := List.drop_eq_nil_iff.1 h
    refine ⟨?_, fun long => ?_⟩
    · simp only [ofText, hlast]
      rw [hahead, h, List.drop_eq_nil_iff.2 (by omega)]
    · simp only [ofText, hlast] at long
      omega
  · next d rest h =>
    rw [hahead] at h
    have hlen : last < s.length := by
      apply Nat.lt_of_not_le
      intro le
      rw [List.drop_eq_nil_iff.2 le] at h
      cases h
    have hget := List.drop_eq_getElem_cons hlen
    rw [h] at hget
    injection hget with hd hrest
    refine ⟨by simp [ofText, hlast, hrest], fun _ => ?_⟩
    simp only [ofText, hlast]
    rw [foldl_weight, List.length_tail, hlast, Nat.add_sub_cancel, hsum (by omega),
      List.take_succ_eq_append_getElem hlen, sumOf_concat, hd, sumOf_cons, List.length_take,
      Nat.min_eq_left (by omega)]
    congr 1
    grind

/-- With the right sum, a needle starts at a place exactly if its text begins there. -/
theorem startsAt_eq {text : Text} {window : Window} {s : Text}
    (fits : window.Fits (ofText text) s) :
    (ofText text).startsAt window s = text.isPrefixOf s := by
  unfold startsAt
  by_cases h : text.isPrefixOf s
  · have hp := List.isPrefixOf_iff_prefix.1 h
    have htake : s.take text.length = text := List.prefix_iff_eq_take.1 hp |>.symm
    have hsum := fits.sum hp.length_le
    simp only [ofText, htake] at hsum
    simp [ofText, h, hsum]
  · simp [ofText, h]

end Needle

end Conch.Text
