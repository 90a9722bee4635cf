import Conch.Token.Lexer
import Mathlib.Data.List.Basic

/-!
What the scanner takes for a word. A word is read in a quote state: outside quotes,
inside them, or behind a backslash inside them. `IsWord` says that no separator stands
outside quotes and that every quote is closed; `Spaced` says that a text is made of such
words with separators between them.

* `takeWord_append` — the scanner takes such a word whole, whatever stands behind it.
* `scan_eq_ok_iff` — a text is scanned to words exactly if it is made of them.
* `Spaced.scan_append` — scanning goes on behind a separator as at the start of a text.
-/

namespace Conch.Token

/-! ### Quote states -/

/-- Where a reader stands with respect to double quotes. -/
inductive QuoteState where
  | outside
  | inside
  /-- Inside quotes, behind a backslash that protects the next character. -/
  | escaped
  deriving DecidableEq, Repr

namespace QuoteState

/-- The state behind one more character. -/
def next : QuoteState → Char → QuoteState
  | outside, c => if c = '"' then inside else outside
  | inside, c => if c = '"' then outside else if c = '\\' then escaped else inside
  | escaped, _ => inside

/-- The state behind a text. -/
def after (state : QuoteState) (s : Text) : QuoteState := s.foldl next state

/-- Whether no separator of a text stands outside quotes. -/
def unbroken : QuoteState → Text → Bool
  | _, [] => true
  | state, c :: s => (state != outside || !isSeparator c) && unbroken (state.next c) s

@[simp] theorem after_nil (state : QuoteState) : state.after [] = state := rfl

@[simp] theorem after_cons (state : QuoteState) (c : Char) (s : Text) :
    state.after (c :: s) = (state.next c).after s := rfl

theorem after_append (state : QuoteState) (s t : Text) :
    state.after (s ++ t) = (state.after s).after t := List.foldl_append

theorem unbroken_append (state : QuoteState) (s t : Text) :
    state.unbroken (s ++ t) = (state.unbroken s && (state.after s).unbroken t) := by
  induction s generalizing state with
  | nil => simp [unbroken]
  | cons c s ih => simp [unbroken, ih, Bool.and_assoc]

/-- A character that means nothing to the scanner leaves the state outside quotes. -/
theorem next_outside {c : Char} (h : c ≠ '"') : outside.next c = outside := by simp [next, h]

end QuoteState

open QuoteState

/-- A word with its quotes: not empty, without separators outside quotes, and with every
quote closed. -/
structure IsWord (w : Text) : Prop where
  nonempty : w ≠ []
  unbroken : outside.unbroken w = true
  closed : outside.after w = outside

instance (w : Text) : Decidable (IsWord w) :=
  decidable_of_iff (w ≠ [] ∧ outside.unbroken w = true ∧ outside.after w = outside)
    ⟨fun ⟨h₁, h₂, h₃⟩ => ⟨h₁, h₂, h₃⟩, fun h => ⟨h.nonempty, h.unbroken, h.closed⟩⟩

/-- Whether a word ends before a text: there is nothing more, or a separator. -/
def Stops (rest : Text) : Prop := ∀ c ∈ rest.head?, isSeparator c = true

theorem stops_nil : Stops [] := by simp [Stops]

theorem stops_cons {c : Char} {rest : Text} : Stops (c :: rest) ↔ isSeparator c = true := by
  simp [Stops]

theorem Stops.append {rest more : Text} (h : Stops rest) (hmore : Stops more) :
    Stops (rest ++ more) := by
  cases rest with
  | nil => exact hmore
  | cons c rest => exact stops_cons.mpr (stops_cons.mp h)

theorem not_separator_quote : isSeparator '"' = false := by decide

/-! ### Taking one word -/

theorem takeWord_separator {c : Char} (h : isSeparator c = true) (s : Text) :
    takeWord (c :: s) = ([], c :: s) := by
  rw [takeWord.eq_def]
  simp [h]

theorem takeWord_bare {c : Char} (hsep : isSeparator c = false) (hquote : c ≠ '"') (s : Text) :
    takeWord (c :: s) = (c :: (takeWord s).1, (takeWord s).2) := by
  rw [takeWord.eq_def]
  simp [hsep, hquote]

theorem takeWord_quote (s : Text) :
    takeWord ('"' :: s) =
      match takeQuoted s with
      | some (inner, after) => ('"' :: inner, after)
      | none => ([], '"' :: s) := by
  have hsep : ¬isSeparator '"' = true := by rw [not_separator_quote]; decide
  rw [takeWord.eq_def]
  exact (if_neg hsep).trans (if_pos rfl)

theorem takeQuoted_quote (s : Text) :
    takeQuoted ('"' :: s) = some ('"' :: (takeWord s).1, (takeWord s).2) := by
  rw [takeQuoted.eq_def]
  simp

theorem takeQuoted_escape (d : Char) (s : Text) :
    takeQuoted ('\\' :: d :: s) =
      (takeQuoted s).map fun (inner, after) => ('\\' :: d :: inner, after) := by
  rw [takeQuoted.eq_def]
  simp

theorem takeQuoted_bare {c : Char} (hquote : c ≠ '"') (hescape : c ≠ '\\') (s : Text) :
    takeQuoted (c :: s) = (takeQuoted s).map fun (inner, after) => (c :: inner, after) := by
  rw [takeQuoted.eq_def]
  simp [hquote, hescape]

mutual

/-- The scanner takes a whole word where the word ends. -/
theorem takeWord_append {w rest : Text} (hstop : Stops rest)
    (hunbroken : outside.unbroken w = true) (hclosed : outside.after w = outside) :
    takeWord (w ++ rest) = (w, rest) := by
  match w with
  | [] =>
      cases rest with
      | nil => rfl
      | cons c rest => exact takeWord_separator (stops_cons.mp hstop) rest
  | c :: w =>
      simp only [QuoteState.unbroken, bne_self_eq_false, Bool.false_or, Bool.and_eq_true,
        Bool.not_eq_true'] at hunbroken
      obtain ⟨hsep, htail⟩ := hunbroken
      by_cases hquote : c = '"'
      · subst hquote
        have hrest := takeQuoted_append hstop htail hclosed
        rw [List.cons_append, takeWord_quote, hrest]
      · rw [after_cons, next_outside hquote] at hclosed
        rw [next_outside hquote] at htail
        have hrest := takeWord_append hstop htail hclosed
        rw [List.cons_append, takeWord_bare hsep hquote, hrest]
termination_by w.length

/-- The rest of a word behind an opening quote is taken whole as well. -/
theorem takeQuoted_append {w rest : Text} (hstop : Stops rest)
    (hunbroken : inside.unbroken w = true) (hclosed : inside.after w = outside) :
    takeQuoted (w ++ rest) = some (w, rest) := by
  match w with
  | [] => simp at hclosed
  | c :: w =>
      simp only [QuoteState.unbroken, Bool.and_eq_true] at hunbroken
      obtain ⟨-, htail⟩ := hunbroken
      by_cases hquote : c = '"'
      · subst hquote
        have hrest := takeWord_append hstop htail hclosed
        rw [List.cons_append, takeQuoted_quote, hrest]
      by_cases hescape : c = '\\'
      · subst hescape
        cases w with
        | nil => simp [next] at hclosed
        | cons d w =>
            simp only [next, hquote, if_false, if_true, QuoteState.unbroken,
              Bool.and_eq_true] at htail
            have hclosed' : inside.after w = outside := by simpa [next, hquote] using hclosed
            have hrest := takeQuoted_append hstop htail.2 hclosed'
            rw [List.cons_append, List.cons_append, takeQuoted_escape, hrest]
            rfl
      · have hnext : inside.next c = inside := by simp [next, hquote, hescape]
        rw [after_cons, hnext] at hclosed
        rw [hnext] at htail
        have hrest := takeQuoted_append hstop htail hclosed
        rw [List.cons_append, takeQuoted_bare hquote hescape, hrest]
        rfl
termination_by w.length

end

mutual

/-- What the scanner takes is a start of the text, unbroken and with its quotes closed. -/
theorem takeWord_spec (s : Text) :
    (takeWord s).1 ++ (takeWord s).2 = s ∧ outside.unbroken (takeWord s).1 = true ∧
      outside.after (takeWord s).1 = outside := by
  match s with
  | [] => exact ⟨rfl, rfl, rfl⟩
  | c :: s =>
      by_cases hsep : isSeparator c = true
      · rw [takeWord_separator hsep]
        exact ⟨rfl, rfl, rfl⟩
      have hsep : isSeparator c = false := by simpa using hsep
      by_cases hquote : c = '"'
      · subst hquote
        rw [takeWord_quote]
        cases hread : takeQuoted s with
        | none => exact ⟨rfl, rfl, rfl⟩
        | some read =>
            obtain ⟨happend, hunbroken, hclosed⟩ := takeQuoted_spec s read hread
            refine ⟨by simp [happend], ?_, hclosed⟩
            simpa [QuoteState.unbroken, hsep, next] using hunbroken
      · obtain ⟨happend, hunbroken, hclosed⟩ := takeWord_spec s
        rw [takeWord_bare hsep hquote]
        refine ⟨by simp [happend], ?_, ?_⟩
        · simpa [QuoteState.unbroken, hsep, next_outside hquote] using hunbroken
        · rw [after_cons, next_outside hquote]
          exact hclosed
termination_by s.length

theorem takeQuoted_spec (s : Text) (read : Text × Text) (h : takeQuoted s = some read) :
    read.1 ++ read.2 = s ∧ inside.unbroken read.1 = true ∧ inside.after read.1 = outside := by
  match s with
  | [] => cases h
  | c :: s =>
      by_cases hquote : c = '"'
      · subst hquote
        obtain ⟨happend, hunbroken, hclosed⟩ := takeWord_spec s
        rw [takeQuoted_quote] at h
        cases h
        refine ⟨by simp [happend], ?_, hclosed⟩
        simpa [QuoteState.unbroken, next] using hunbroken
      by_cases hescape : c = '\\'
      · subst hescape
        cases s with
        | nil => cases h
        | cons d s =>
            rw [takeQuoted_escape, Option.map_eq_some_iff] at h
            obtain ⟨inner, hread, rfl⟩ := h
            obtain ⟨happend, hunbroken, hclosed⟩ := takeQuoted_spec s inner hread
            refine ⟨by simp [happend], ?_, ?_⟩
            · simpa [QuoteState.unbroken, next] using hunbroken
            · simpa [next] using hclosed
      · have hnext : inside.next c = inside := by simp [next, hquote, hescape]
        rw [takeQuoted_bare hquote hescape, Option.map_eq_some_iff] at h
        obtain ⟨inner, hread, rfl⟩ := h
        obtain ⟨happend, hunbroken, hclosed⟩ := takeQuoted_spec s inner hread
        refine ⟨by simp [happend], ?_, ?_⟩
        · simpa [QuoteState.unbroken, hnext] using hunbroken
        · simpa [hnext] using hclosed
termination_by s.length

end

mutual

/-- Where the scanner stopped, it cannot take another word. -/
theorem takeWord_again (s : Text) : (takeWord (takeWord s).2).1 = [] := by
  match s with
  | [] => rfl
  | c :: s =>
      by_cases hsep : isSeparator c = true
      · rw [takeWord_separator hsep, takeWord_separator hsep]
      have hsep : isSeparator c = false := by simpa using hsep
      by_cases hquote : c = '"'
      · subst hquote
        cases hread : takeQuoted s with
        | none => simp only [takeWord_quote, hread]
        | some read =>
            simp only [takeWord_quote, hread]
            exact takeQuoted_again s read hread
      · rw [takeWord_bare hsep hquote]
        exact takeWord_again s
termination_by s.length

theorem takeQuoted_again (s : Text) (read : Text × Text) (h : takeQuoted s = some read) :
    (takeWord read.2).1 = [] := by
  match s with
  | [] => cases h
  | c :: s =>
      by_cases hquote : c = '"'
      · subst hquote
        rw [takeQuoted_quote] at h
        cases h
        exact takeWord_again s
      by_cases hescape : c = '\\'
      · subst hescape
        cases s with
        | nil => cases h
        | cons d s =>
            rw [takeQuoted_escape, Option.map_eq_some_iff] at h
            obtain ⟨inner, hread, rfl⟩ := h
            exact takeQuoted_again s inner hread
      · rw [takeQuoted_bare hquote hescape, Option.map_eq_some_iff] at h
        obtain ⟨inner, hread, rfl⟩ := h
        exact takeQuoted_again s inner hread
termination_by s.length

end

/-- A word that is not empty and was taken by the scanner is a word. -/
theorem takeWord_isWord {s : Text} (h : (takeWord s).1 ≠ []) : IsWord (takeWord s).1 :=
  ⟨h, (takeWord_spec s).2.1, (takeWord_spec s).2.2⟩

/-- A word starts with a character that is not a separator. -/
theorem IsWord.head_not_separator {c : Char} {w : Text} (h : IsWord (c :: w)) :
    isSeparator c = false := by
  have hunbroken := h.unbroken
  simp only [QuoteState.unbroken, bne_self_eq_false, Bool.false_or, Bool.and_eq_true,
    Bool.not_eq_true'] at hunbroken
  exact hunbroken.1

/-- A word stays one when a character follows that the scanner takes as it is. -/
theorem IsWord.snoc {w : Text} (h : IsWord w) {c : Char} (hsep : isSeparator c = false)
    (hquote : c ≠ '"') : IsWord (w ++ [c]) where
  nonempty := by simp
  unbroken := by
    rw [unbroken_append, h.unbroken, h.closed]
    simp [QuoteState.unbroken, hsep]
  closed := by rw [after_append, h.closed, after_cons, next_outside hquote, after_nil]

theorem IsWord.cons {w : Text} (h : IsWord w) {c : Char} (hsep : isSeparator c = false)
    (hquote : c ≠ '"') : IsWord (c :: w) where
  nonempty := by simp
  unbroken := by simpa [QuoteState.unbroken, hsep, next_outside hquote] using h.unbroken
  closed := by rw [after_cons, next_outside hquote, h.closed]

theorem isWord_singleton {c : Char} (hsep : isSeparator c = false) (hquote : c ≠ '"') :
    IsWord [c] where
  nonempty := by simp
  unbroken := by simp [QuoteState.unbroken, hsep]
  closed := by rw [after_cons, next_outside hquote, after_nil]

/-- Characters other than quotes lead out of quotes only if they stand outside of them. -/
theorem QuoteState.after_bare {state : QuoteState} {s : Text} (hquote : '"' ∉ s)
    (h : state.after s = outside) : state = outside := by
  induction s generalizing state with
  | nil => exact h
  | cons c s ih =>
      obtain ⟨hne, hrest⟩ := not_or.mp (List.mem_cons.not.mp hquote)
      have hnext := ih hrest h
      cases state with
      | outside => rfl
      | inside =>
          simp only [next, Ne.symm hne, if_false] at hnext
          split_ifs at hnext
      | escaped => cases hnext

/-- A word stays one without characters at its end that are not quotes, if any are left. -/
theorem IsWord.of_append_bare {w more : Text} (h : IsWord (w ++ more)) (hquote : '"' ∉ more) :
    w = [] ∨ IsWord w := by
  have hunbroken := h.unbroken
  have hclosed := h.closed
  rw [unbroken_append, Bool.and_eq_true] at hunbroken
  rw [after_append] at hclosed
  by_cases hnonempty : w = []
  · exact .inl hnonempty
  · exact .inr ⟨hnonempty, hunbroken.1, QuoteState.after_bare hquote hclosed⟩

/-- A word stays one without characters at its front that are not quotes, if any are left. -/
theorem IsWord.of_cons_bare {c : Char} {w : Text} (h : IsWord (c :: w)) (hquote : c ≠ '"') :
    w = [] ∨ IsWord w := by
  have hunbroken := h.unbroken
  have hclosed := h.closed
  rw [QuoteState.unbroken, Bool.and_eq_true, next_outside hquote] at hunbroken
  rw [after_cons, next_outside hquote] at hclosed
  by_cases hnonempty : w = []
  · exact .inl hnonempty
  · exact .inr ⟨hnonempty, hunbroken.2, hclosed⟩

/-- A word does not end with a separator. -/
theorem IsWord.last_not_separator {w : Text} {c : Char} (h : IsWord (w ++ [c])) :
    isSeparator c = false := by
  have hunbroken := h.unbroken
  have hclosed := h.closed
  rw [unbroken_append, Bool.and_eq_true] at hunbroken
  rw [after_append] at hclosed
  cases hsep : isSeparator c with
  | false => rfl
  | true =>
      have hquote : c ≠ '"' := by
        rintro rfl
        cases hsep
      have houtside := QuoteState.after_bare (by simpa using Ne.symm hquote) hclosed
      have hlast := hunbroken.2
      rw [houtside] at hlast
      simp [QuoteState.unbroken, hsep] at hlast

/-! ### Scanning -/

/-- A text made of words with separators between them. -/
inductive Spaced : Text → List Text → Prop where
  | nil : Spaced [] []
  | separator {c : Char} {s : Text} {words : List Text} :
      isSeparator c = true → Spaced s words → Spaced (c :: s) words
  | word {w rest : Text} {words : List Text} :
      IsWord w → Stops rest → Spaced rest words → Spaced (w ++ rest) (w :: words)

theorem scanFrom_eq_drop (skip : Nat) (s : Text) : scanFrom skip s = scanFrom 0 (s.drop skip) := by
  induction skip generalizing s with
  | zero => rw [List.drop_zero]
  | succ skip ih =>
      cases s with
      | nil => simp [scanFrom]
      | cons c s => rw [scanFrom, ih, List.drop_succ_cons]

theorem scan_nil : scan [] = .ok [] := rfl

theorem scan_separator {c : Char} (h : isSeparator c = true) (s : Text) :
    scan (c :: s) = scan s := by
  simp [scan, scanFrom, h]

/-- Where the scanner takes a word, it goes on behind it. -/
theorem scan_of_takeWord {w rest : Text} (hw : IsWord w) (htake : (takeWord (w ++ rest)).1 = w) :
    scan (w ++ rest) = (scan rest).map (w :: ·) := by
  cases w with
  | nil => exact absurd rfl hw.nonempty
  | cons c w =>
      rw [List.cons_append] at htake ⊢
      rw [scan, scanFrom, htake]
      simp only [hw.head_not_separator, Bool.false_eq_true, if_false]
      rw [scanFrom_eq_drop, List.drop_left]
      rfl

/-- Scanning one word and going on behind it. -/
theorem scan_word {w rest : Text} (hw : IsWord w) (hstop : Stops rest) :
    scan (w ++ rest) = (scan rest).map (w :: ·) :=
  scan_of_takeWord hw (congrArg Prod.fst (takeWord_append hstop hw.unbroken hw.closed))

/-- A quote that is never closed stops the scanner. -/
theorem scan_unclosed {c : Char} {s : Text} (hsep : isSeparator c = false)
    (htake : (takeWord (c :: s)).1 = []) : scan (c :: s) = .error (c :: s) := by
  simp [scan, scanFrom, hsep, htake]

theorem Spaced.scan_eq {s : Text} {words : List Text} (h : Spaced s words) :
    scan s = .ok words := by
  induction h with
  | nil => rfl
  | separator hsep _ ih => rw [scan_separator hsep, ih]
  | word hw hstop _ ih => rw [scan_word hw hstop, ih]; rfl

theorem Spaced.eq_nil {words : List Text} (h : Spaced [] words) : words = [] :=
  Except.ok.inj (h.scan_eq.symm.trans scan_nil)

/-- Behind a word that was taken there is nothing more or a separator, if the rest can be
scanned: only an unclosed quote stops the scanner otherwise. -/
theorem stops_takeWord {s : Text} {words : List Text} (h : scan (takeWord s).2 = .ok words) :
    Stops (takeWord s).2 := by
  have hagain := takeWord_again s
  cases hrest : (takeWord s).2 with
  | nil => exact stops_nil
  | cons c rest =>
      rw [hrest] at h hagain
      cases hsep : isSeparator c with
      | true => exact stops_cons.mpr hsep
      | false =>
          rw [scan_unclosed hsep hagain] at h
          cases h

theorem scan_takeWord {s : Text} (h : (takeWord s).1 ≠ []) :
    scan s = (scan (takeWord s).2).map ((takeWord s).1 :: ·) := by
  have happend := (takeWord_spec s).1
  calc scan s = scan ((takeWord s).1 ++ (takeWord s).2) := by rw [happend]
    _ = _ := scan_of_takeWord (takeWord_isWord h) (by rw [happend])

theorem spaced_of_scan (s : Text) (words : List Text) (h : scan s = .ok words) :
    Spaced s words := by
  match s with
  | [] =>
      cases h
      exact .nil
  | c :: s =>
      by_cases hsep : isSeparator c = true
      · rw [scan_separator hsep] at h
        exact .separator hsep (spaced_of_scan s words h)
      have hsep : isSeparator c = false := by simpa using hsep
      by_cases htake : (takeWord (c :: s)).1 = []
      · rw [scan_unclosed hsep htake] at h
        cases h
      · rw [scan_takeWord htake] at h
        have hspec := (takeWord_spec (c :: s)).1
        have hpositive := List.length_pos_iff.mpr htake
        have hlength := congrArg List.length hspec
        rw [List.length_append] at hlength
        cases hrest : scan (takeWord (c :: s)).2 with
        | error fault =>
            rw [hrest] at h
            cases h
        | ok more =>
            rw [hrest] at h
            cases h
            have hshorter : (takeWord (c :: s)).2.length < (c :: s).length := by omega
            have hspaced := Spaced.word (takeWord_isWord htake) (stops_takeWord hrest)
              (spaced_of_scan (takeWord (c :: s)).2 more hrest)
            rwa [hspec] at hspaced
termination_by s.length
decreasing_by
  · exact Nat.lt_succ_self _
  · exact hshorter

/-- **A text is scanned to words exactly if it is made of them.** -/
theorem scan_eq_ok_iff {s : Text} {words : List Text} : scan s = .ok words ↔ Spaced s words :=
  ⟨spaced_of_scan s words, Spaced.scan_eq⟩

theorem Spaced.isWord {s : Text} {words : List Text} (h : Spaced s words) :
    ∀ w ∈ words, IsWord w := by
  induction h with
  | nil => simp
  | separator _ _ ih => exact ih
  | word hw _ _ ih => exact List.forall_mem_cons.mpr ⟨hw, ih⟩

theorem IsWord.scan_eq {w : Text} (hw : IsWord w) : scan w = .ok [w] := by
  simpa using (Spaced.word hw stops_nil .nil).scan_eq

/-- The characters of a word are characters of the text. -/
theorem Spaced.mem {s : Text} {words : List Text} (h : Spaced s words) {w : Text} (hw : w ∈ words)
    {c : Char} (hc : c ∈ w) : c ∈ s := by
  induction h with
  | nil => cases hw
  | separator _ _ ih => exact List.mem_cons_of_mem _ (ih hw)
  | word _ _ _ ih =>
      rcases List.mem_cons.mp hw with rfl | hw
      · exact List.mem_append_left _ hc
      · exact List.mem_append_right _ (ih hw)

/-- Behind a separator, scanning goes on as at the start of a text. -/
theorem Spaced.scan_append {s : Text} {words : List Text} (h : Spaced s words) {c : Char}
    (hsep : isSeparator c = true) (t : Text) :
    scan (s ++ c :: t) = (scan t).map (words ++ ·) := by
  induction h with
  | nil =>
      rw [List.nil_append, scan_separator hsep]
      cases scan t <;> rfl
  | separator hc _ ih => rw [List.cons_append, scan_separator hc, ih]
  | word hw hstop _ ih =>
      rw [List.append_assoc, scan_word hw (hstop.append (stops_cons.mpr hsep)), ih]
      cases scan t <;> rfl

/-- A character that the scanner takes as it is belongs to the last word if the text ends
in one, and is a word of its own otherwise. -/
theorem Spaced.snoc {s : Text} {words : List Text} (h : Spaced s words) {c : Char}
    (hsep : isSeparator c = false) (hquote : c ≠ '"') :
    Spaced (s ++ [c]) (words ++ [[c]]) ∨
      ∃ before w, words = before ++ [w] ∧ Spaced (s ++ [c]) (before ++ [w ++ [c]]) := by
  induction h with
  | nil =>
      have hword := isWord_singleton hsep hquote
      exact .inl (by simpa using Spaced.word hword stops_nil .nil)
  | separator hc _ ih =>
      rcases ih with ih | ⟨before, w, rfl, ih⟩
      · exact .inl (.separator hc ih)
      · exact .inr ⟨before, w, rfl, .separator hc ih⟩
  | @word w rest words hw hstop hrest ih =>
      cases rest with
      | nil =>
          obtain rfl := hrest.eq_nil
          refine .inr ⟨[], w, rfl, ?_⟩
          simpa using Spaced.word (hw.snoc hsep hquote) stops_nil .nil
      | cons d rest =>
          have hstop' : Stops (d :: rest ++ [c]) := stops_cons.mpr (stops_cons.mp hstop)
          rcases ih with ih | ⟨before, v, rfl, ih⟩
          · exact .inl (by simpa using Spaced.word hw hstop' ih)
          · exact .inr ⟨w :: before, v, rfl, by simpa using Spaced.word hw hstop' ih⟩

/-! ### A character at an end of a text -/

/-- A character in front of a text was glued to a word of it or is a word of its own. -/
theorem Spaced.of_cons {c : Char} {s : Text} {words : List Text} (h : Spaced (c :: s) words)
    (hsep : isSeparator c = false) (hquote : c ≠ '"') : ∃ inner, Spaced s inner := by
  generalize hwhole : c :: s = whole at h
  cases h with
  | nil => cases hwhole
  | separator hd _ =>
      cases hwhole
      rw [hsep] at hd
      cases hd
  | @word w rest words hw hstop hrest =>
      cases w with
      | nil => exact absurd rfl hw.nonempty
      | cons d w =>
          cases hwhole
          rcases hw.of_cons_bare hquote with rfl | hword
          · exact ⟨words, hrest⟩
          · exact ⟨w :: words, .word hword hstop hrest⟩

/-- A character behind a text was glued to a word of it or is a word of its own. -/
theorem Spaced.of_snoc {c : Char} {s : Text} {words : List Text} (h : Spaced (s ++ [c]) words)
    (hsep : isSeparator c = false) (hquote : c ≠ '"') : ∃ inner, Spaced s inner := by
  generalize hwhole : s ++ [c] = whole at h
  induction h generalizing s with
  | nil => simp at hwhole
  | separator hd _ ih =>
      cases s with
      | nil =>
          cases hwhole
          rw [hsep] at hd
          cases hd
      | cons e s =>
          cases hwhole
          obtain ⟨inner, hinner⟩ := ih rfl
          exact ⟨inner, .separator hd hinner⟩
  | @word w rest words hw hstop hrest ih =>
      rcases List.eq_nil_or_concat' rest with rfl | ⟨before, last, rfl⟩
      · rw [List.append_nil] at hwhole
        rw [← hwhole] at hw
        rcases hw.of_append_bare (by simpa using hquote.symm) with rfl | hword
        · exact ⟨[], .nil⟩
        · exact ⟨[s], by simpa using Spaced.word hword stops_nil .nil⟩
      · rw [← List.append_assoc] at hwhole
        obtain ⟨rfl, hlast⟩ := List.append_inj' hwhole rfl
        cases hlast
        obtain ⟨inner, hinner⟩ := ih rfl
        refine ⟨w :: inner, .word hw ?_ hinner⟩
        cases before with
        | nil => exact stops_nil
        | cons d before => exact stops_cons.mpr (stops_cons.mp hstop)

/-- A character in front of a text that begins with a word is glued to that word. -/
theorem Spaced.glue_front {c : Char} {s : Text} {words : List Text} (h : Spaced s words)
    (hs : s ≠ []) (hhead : ∀ d ∈ s.head?, isSeparator d = false) (hsep : isSeparator c = false)
    (hquote : c ≠ '"') :
    ∃ w rest, words = w :: rest ∧ s.head? = w.head? ∧ Spaced (c :: s) ((c :: w) :: rest) := by
  cases h with
  | nil => exact absurd rfl hs
  | separator hd _ =>
      rw [hhead _ rfl] at hd
      cases hd
  | @word w rest words hw hstop hrest =>
      refine ⟨w, words, rfl, List.head?_append_of_ne_nil _ hw.nonempty, ?_⟩
      simpa using Spaced.word (hw.cons hsep hquote) hstop hrest

/-- A character behind a text that ends with a word is glued to that word. -/
theorem Spaced.glue_back {c : Char} {s : Text} {words : List Text} (h : Spaced s words)
    (hs : s ≠ []) (hlast : ∀ d ∈ s.getLast?, isSeparator d = false) (hsep : isSeparator c = false)
    (hquote : c ≠ '"') :
    ∃ before w, words = before ++ [w] ∧ s.getLast? = w.getLast? ∧
      Spaced (s ++ [c]) (before ++ [w ++ [c]]) := by
  induction h with
  | nil => exact absurd rfl hs
  | @separator d s words hd hrest ih =>
      have hnonempty : s ≠ [] := by
        rintro rfl
        rw [hlast d rfl] at hd
        cases hd
      rw [List.getLast?_cons_of_ne_nil hnonempty] at hlast ⊢
      obtain ⟨before, w, rfl, hend, hspaced⟩ := ih hnonempty hlast
      exact ⟨before, w, rfl, hend, .separator hd hspaced⟩
  | @word w rest words hw hstop hrest ih =>
      cases rest with
      | nil =>
          obtain rfl := hrest.eq_nil
          refine ⟨[], w, rfl, by rw [List.append_nil], ?_⟩
          simpa using Spaced.word (hw.snoc hsep hquote) stops_nil .nil
      | cons d rest =>
          rw [List.getLast?_append_of_ne_nil _ (List.cons_ne_nil d rest)] at hlast ⊢
          obtain ⟨before, v, rfl, hend, hspaced⟩ := ih (List.cons_ne_nil d rest) hlast
          have hstop' : Stops (d :: rest ++ [c]) := stops_cons.mpr (stops_cons.mp hstop)
          exact ⟨w :: before, v, rfl, hend, by simpa using Spaced.word hw hstop' hspaced⟩

end Conch.Token
