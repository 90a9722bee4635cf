import Conch.Proofs.RoundTrip
import Conch.Proofs.Settings

/-!
Routes as they are written: descriptors in decimal digits, with a colon between the two sides of a
route and a comma between routes.

* `Text.toNat?_ofNat`: the digits of a number are read as the number.
* `Route.parse_print`: written routes are read as what they are.
* `Route.word`: written routes are a word that stands for itself in an expression.
-/

namespace Conch

/-! ### Numbers -/

theorem Text.isDigit_of_mem_ofNat {n : Nat} {c : Char} (h : c ∈ Text.ofNat n) :
    c.isDigit = true :=
  Nat.isDigit_of_mem_toDigits (by decide) (by decide) h

theorem Text.ofNat_ne_nil (n : Nat) : Text.ofNat n ≠ [] := Nat.toDigits_ne_nil

theorem Text.afterStart?_cons_self (c : Char) (s : Text) :
    Text.afterStart? [c] (c :: s) = some s := by
  simp [Text.afterStart?]

theorem Text.afterStart?_of_head {c : Char} {s : Text} (h : s.head? ≠ some c) :
    Text.afterStart? [c] s = none := by
  cases s with
  | nil => rfl
  | cons d s =>
      have hne : c ≠ d := fun heq => h (heq ▸ rfl)
      simp [Text.afterStart?, hne]

/-- A number does not begin with a sign. -/
theorem Text.afterStart?_ofNat {sign : Char} (hsign : sign.isDigit = false) (n : Nat) :
    Text.afterStart? [sign] (Text.ofNat n) = none := by
  refine Text.afterStart?_of_head fun hhead => ?_
  have hdigit := Text.isDigit_of_mem_ofNat (List.mem_of_mem_head? hhead)
  rw [hsign] at hdigit
  cases hdigit

theorem Text.digitsValue?_ofNat (n : Nat) : Text.digitsValue? (Text.ofNat n) = some n := by
  have hdigits : (Text.ofNat n).all Char.isDigit = true :=
    List.all_eq_true.mpr fun _ hc => Text.isDigit_of_mem_ofNat hc
  rw [Text.digitsValue?, if_pos ⟨Text.ofNat_ne_nil n, hdigits⟩]
  exact congrArg some (Nat.ofDigitChars_toDigits (by decide) (by decide))

/-- The digits of a number are read as the number. -/
theorem Text.toNat?_ofNat {n : Nat} (h : n ≤ Text.largestNat) :
    Text.toNat? (Text.ofNat n) = some n := by
  rw [Text.toNat?, Text.afterStart?_ofNat (by decide), Option.getD_none, Text.digitsValue?_ofNat,
    Option.filter_some, if_pos (by simpa using h)]

/-! ### Words -/

/-- The characters with which descriptors and routes are written. -/
def Route.isWritten (c : Char) : Bool := c.isDigit || c == ':' || c == ','

namespace Route

variable {c : Char} (h : isWritten c = true)

include h

theorem not_blank_of_isWritten : Text.isBlank c = false := by
  have hrange : 44 ≤ c.toNat ∧ c.toNat ≤ 58 := by
    simp only [isWritten, Char.isDigit, Bool.or_eq_true, Bool.and_eq_true, decide_eq_true_eq,
      beq_iff_eq] at h
    rcases h with (⟨hleast, hmost⟩ | rfl) | rfl
    · have hleast : 48 ≤ c.toNat := UInt32.le_iff_toNat_le.mp hleast
      have hmost : c.toNat ≤ 57 := UInt32.le_iff_toNat_le.mp hmost
      omega
    · decide
    · decide
  simp [Text.isBlank, Text.blankRanges]
  omega

theorem ne_of_isWritten {other : Char} (hother : isWritten other = false) : c ≠ other := by
  rintro rfl
  rw [h] at hother
  cases hother

theorem not_opener_of_isWritten : Token.isOpener c = false := by
  have hbrace : c ≠ '{' := ne_of_isWritten h (by decide)
  have hparenthesis : c ≠ '(' := ne_of_isWritten h (by decide)
  simp [Token.isOpener, hbrace, hparenthesis]

theorem not_closer_of_isWritten : Token.isCloser c = false := by
  have hbrace : c ≠ '}' := ne_of_isWritten h (by decide)
  have hparenthesis : c ≠ ')' := ne_of_isWritten h (by decide)
  simp [Token.isCloser, hbrace, hparenthesis]

end Route

/-- A word of such characters. -/
def PlainWord.ofWritten (s : Text) (hs : s ≠ []) (h : ∀ c ∈ s, Route.isWritten c = true) :
    PlainWord where
  text := s
  nonempty := hs
  notBlank := fun c hc => Route.not_blank_of_isWritten (h c hc)
  notQuote := fun hquote => Route.ne_of_isWritten (h _ hquote) (by decide) rfl
  head := fun c hc =>
    have hwritten := h c (List.mem_of_mem_head? hc)
    ⟨Route.ne_of_isWritten hwritten (by decide), Route.not_opener_of_isWritten hwritten⟩
  last := fun c hc =>
    have hwritten := h c (List.mem_of_mem_getLast? hc)
    ⟨Route.ne_of_isWritten hwritten (by decide), Route.not_closer_of_isWritten hwritten⟩

/-- The digits of a number as a word. -/
def PlainWord.ofNat (n : Nat) : PlainWord :=
  .ofWritten (Text.ofNat n) (Text.ofNat_ne_nil n) fun c hc => by
    rw [Route.isWritten, Text.isDigit_of_mem_ofNat hc]
    rfl

/-- A plain word is one argument. -/
theorem PlainWord.parse_text (w : PlainWord) : Token.parse w.text = .ok [.word w.text] :=
  Expression.parse_print (.cons (.single (.plain w)) .empty)

/-! ### Routes -/

namespace Route

/-- A route that can be written: from no input to no output, with descriptors that can be read. -/
structure IsValid (route : Route) : Prop where
  source_pos : route.source ≠ 0
  source_le : route.source ≤ Text.largestNat
  target_ne : route.target ≠ 1 ∧ route.target ≠ 2
  target_le : route.target ≤ Text.largestNat

/-- A route as it is written. -/
def text (route : Route) : Text := Text.ofNat route.source ++ ':' :: Text.ofNat route.target

/-- Routes as they are written. -/
def print (routes : List Route) : Text := Text.join [','] (routes.map text)

theorem descriptor_ofNat {n : Nat} (h : n ≤ Text.largestNat) :
    descriptor (Text.ofNat n) = .ok n := by
  have htight : Text.Tight (Text.ofNat n) := (PlainWord.ofNat n).tight
  rw [descriptor, htight.trim_eq, Text.toNat?_ofNat h]

theorem ofPart_text {route : Route} (h : route.IsValid) : ofPart route.text = .ok route := by
  have hcolon : ':' ∉ Text.ofNat route.source := fun hmem => by
    have hdigit := Text.isDigit_of_mem_ofNat hmem
    cases hdigit
  have hsides : sides route.text = (Text.ofNat route.source, some (Text.ofNat route.target)) := by
    rw [sides, text, Flags.cut?_append hcolon]
  unfold ofPart
  rw [hsides]
  simp only [Option.map_some, Option.getD_some, descriptor_ofNat h.source_le,
    descriptor_ofNat h.target_le, bind, Except.bind, if_neg h.source_pos,
    if_neg (not_or.mpr h.target_ne)]
  rfl

theorem isWritten_of_mem_text {route : Route} {c : Char} (h : c ∈ route.text) :
    isWritten c = true ∧ c ≠ ',' := by
  have hdigit : c.isDigit = true → isWritten c = true ∧ c ≠ ',' := by
    intro hdigit
    refine ⟨by rw [isWritten, hdigit]; rfl, ?_⟩
    rintro rfl
    cases hdigit
  rcases List.mem_append.mp h with hmem | hmem
  · exact hdigit (Text.isDigit_of_mem_ofNat hmem)
  · rcases List.mem_cons.mp hmem with rfl | hmem
    · decide
    · exact hdigit (Text.isDigit_of_mem_ofNat hmem)

theorem mapM_ofPart_text {routes : List Route} (h : ∀ route ∈ routes, route.IsValid) :
    (routes.map text).mapM ofPart = .ok routes := by
  induction routes with
  | nil => rfl
  | cons route routes ih =>
      obtain ⟨hroute, hroutes⟩ := List.forall_mem_cons.mp h
      rw [List.map_cons, List.mapM_cons, ofPart_text hroute, ih hroutes]
      rfl

/-- **Written routes are read as what they are.** -/
theorem parse_print {routes : List Route} (hnonempty : routes ≠ [])
    (h : ∀ route ∈ routes, route.IsValid) : parse (print routes) = .ok routes := by
  have hsplit : (print routes).splitOnP (· == ',') = routes.map text := by
    refine List.splitOn_intercalate ',' ?_ (by simpa using hnonempty)
    simp only [List.forall_mem_map]
    exact fun route _ hmem => (isWritten_of_mem_text hmem).2 rfl
  rw [parse, hsplit, mapM_ofPart_text h]
  rfl

theorem print_cons_cons (route next : Route) (routes : List Route) :
    print (route :: next :: routes) = route.text ++ ',' :: print (next :: routes) := by
  simp only [print, List.map_cons, Text.join_cons_cons]
  simp

theorem isWritten_of_mem_print {routes : List Route} {c : Char} (h : c ∈ print routes) :
    isWritten c = true := by
  induction routes with
  | nil => cases h
  | cons route routes ih =>
      cases routes with
      | nil =>
          rw [print, List.map_singleton, Text.join_singleton] at h
          exact (isWritten_of_mem_text h).1
      | cons next routes =>
          rw [print_cons_cons, List.mem_append, List.mem_cons] at h
          rcases h with hmem | rfl | hmem
          · exact (isWritten_of_mem_text hmem).1
          · rfl
          · exact ih hmem

theorem print_ne_nil {routes : List Route} (h : routes ≠ []) : print routes ≠ [] := by
  intro hnil
  cases routes with
  | nil => exact h rfl
  | cons route routes =>
      have htext : route.text ≠ [] := by simp [text]
      cases routes with
      | nil => exact htext (by rwa [print, List.map_singleton, Text.join_singleton] at hnil)
      | cons next routes =>
          rw [print_cons_cons] at hnil
          exact htext (List.append_eq_nil_iff.mp hnil).1

/-- Routes as a word. -/
def word (routes : List Route) (h : routes ≠ []) : PlainWord :=
  .ofWritten (print routes) (print_ne_nil h) fun _ hmem => isWritten_of_mem_print hmem

end Route

end Conch
