import Conch.Proofs.Words
import Mathlib.Data.List.Induction

/-!
The scanner beside an automaton that reads a text once, one character after another. The automaton
stands outside quotes, inside them, or behind a backslash inside them (`QuoteState.after`); what it
has read outside quotes decides where words end, and the last quote that it has opened is the one
to report if it does not get out of the quotes again.

* `runs`: the maximal runs of characters that are not separators read outside quotes.
* `LeftOpen`: the quote at a place is opened there and closed nowhere.
* `Place.behind`: line and column, counted along the text.
* `scan_matches_automaton`: the scanner gives the runs if the automaton ends outside quotes, and
  otherwise the one fault at the quote that is left open.
-/

namespace Conch.Token

open QuoteState

/-! ### Runs between separators -/

/-- The characters of a text, each with whether it is a separator that is read outside quotes:
a space, a tab, a newline or a carriage return. -/
def QuoteState.marked : QuoteState → Text → List (Char × Bool)
  | _, [] => []
  | state, c :: s =>
    (c, state == outside && [' ', '\t', '\n', '\r'].contains c) :: marked (state.next c) s

/-- The maximal runs of characters that are not separators read outside quotes, in order. -/
def runs (s : Text) : List Text :=
  (((outside.marked s).splitOnP Prod.snd).map (List.map Prod.fst)).filter (!·.isEmpty)

/-- The scanner takes the same characters for separators. -/
theorem QuoteState.marked_cons (state : QuoteState) (c : Char) (s : Text) :
    state.marked (c :: s) =
      (c, state == outside && isSeparator c) :: (state.next c).marked s := by
  have hsep : [' ', '\t', '\n', '\r'].contains c = isSeparator c := by
    rw [Bool.eq_iff_iff]
    simp [isSeparator, or_assoc]
  rw [marked, hsep]

theorem QuoteState.marked_append (state : QuoteState) (s t : Text) :
    state.marked (s ++ t) = state.marked s ++ (state.after s).marked t := by
  induction s generalizing state with
  | nil => rfl
  | cons c s ih => rw [List.cons_append, marked, marked, ih, after_cons, List.cons_append]

theorem QuoteState.map_fst_marked (state : QuoteState) (s : Text) :
    (state.marked s).map Prod.fst = s := by
  induction s generalizing state with
  | nil => rfl
  | cons c s ih => rw [marked, List.map_cons, ih]

/-- In an unbroken text nothing ends a word. -/
theorem QuoteState.not_of_mem_marked {state : QuoteState} {s : Text}
    (h : state.unbroken s = true) {entry : Char × Bool} (hentry : entry ∈ state.marked s) :
    entry.2 = false := by
  induction s generalizing state with
  | nil => cases hentry
  | cons c s ih =>
      rw [unbroken, Bool.and_eq_true] at h
      rw [marked_cons] at hentry
      rcases List.mem_cons.mp hentry with rfl | hmem
      · have hkept := h.1
        cases state <;> simp_all
      · exact ih h.2 hmem

/-- A separator outside quotes leaves the automaton there. -/
theorem QuoteState.next_separator {c : Char} (hsep : isSeparator c = true) :
    outside.next c = outside :=
  next_outside fun hquote => by
    rw [hquote, not_separator_quote] at hsep
    cases hsep

theorem runs_nil : runs [] = [] := by
  rw [runs, marked, List.splitOnP_nil]
  rfl

/-- A word is one run. -/
theorem IsWord.runs_eq {w : Text} (hw : IsWord w) : runs w = [w] := by
  have hwhole : (outside.marked w).splitOnP Prod.snd = [outside.marked w] :=
    List.splitOnP_eq_singleton fun _ hentry => not_of_mem_marked hw.unbroken hentry
  rw [runs, hwhole, List.map_singleton, map_fst_marked]
  simp [hw.nonempty]

/-- A separator that is read outside quotes stands between the runs before it and those behind. -/
theorem runs_append_separator {s : Text} (hs : outside.after s = outside) {c : Char}
    (hsep : isSeparator c = true) (t : Text) : runs (s ++ c :: t) = runs s ++ runs t := by
  have hmarked : outside.marked (s ++ c :: t) =
      outside.marked s ++ (c, true) :: outside.marked t := by
    rw [marked_append, hs, marked_cons, hsep, next_separator hsep]
    rfl
  rw [runs, hmarked, List.splitOnP_append_cons _ _ rfl, List.map_append, List.filter_append]
  rfl

theorem runs_separator {c : Char} (hsep : isSeparator c = true) (t : Text) :
    runs (c :: t) = runs t := by
  simpa [runs_nil] using runs_append_separator (after_nil outside) hsep t

/-- The words of a text are its runs. -/
theorem Spaced.runs_eq {s : Text} {words : List Text} (h : Spaced s words) : runs s = words := by
  induction h with
  | nil => exact runs_nil
  | separator hsep _ ih => rw [runs_separator hsep, ih]
  | @word w rest words hw hstop hrest ih =>
      cases rest with
      | nil =>
          rw [← ih, List.append_nil, runs_nil]
          exact hw.runs_eq
      | cons c rest =>
          have hsep := stops_cons.mp hstop
          rw [runs_separator hsep] at ih
          rw [runs_append_separator hw.closed hsep, hw.runs_eq, ih, List.singleton_append]

/-- A text that is made of words ends outside quotes. -/
theorem Spaced.closed {s : Text} {words : List Text} (h : Spaced s words) :
    outside.after s = outside := by
  induction h with
  | nil => rfl
  | separator hsep _ ih => rw [after_cons, next_separator hsep, ih]
  | word hw _ _ ih => rw [after_append, hw.closed, ih]

/-! ### The quote that is left open -/

/-- The quote between `before` and `rest` is read outside quotes and closed nowhere. -/
structure LeftOpen (before rest : Text) : Prop where
  opened : outside.after before = outside
  unclosed : ∀ start, start <+: rest → inside.after start ≠ outside

theorem LeftOpen.after_ne {before rest : Text} (h : LeftOpen before rest) :
    outside.after (before ++ '"' :: rest) ≠ outside := by
  rw [after_append, h.opened]
  exact h.unclosed rest (List.prefix_refl rest)

/-- What stands before the quote may be longer by a text that ends outside quotes. -/
theorem LeftOpen.append {before rest : Text} (h : LeftOpen before rest) {s : Text}
    (hs : outside.after s = outside) : LeftOpen (s ++ before) rest :=
  ⟨by rw [after_append, hs, h.opened], h.unclosed⟩

/-- The scanner finds no end of a quoted span only if there is none. -/
theorem unclosed_of_takeQuoted (s : Text) (h : takeQuoted s = none) (start : Text)
    (hstart : start <+: s) : inside.after start ≠ outside := by
  match s with
  | [] =>
      rw [List.prefix_nil.mp hstart]
      decide
  | c :: s =>
      cases start with
      | nil => decide
      | cons d start =>
          obtain ⟨hsame, hrest⟩ := List.cons_prefix_cons.mp hstart
          subst hsame
          by_cases hquote : d = '"'
          · subst hquote
            rw [takeQuoted_quote] at h
            cases h
          by_cases hescape : d = '\\'
          · subst hescape
            -- The character behind a backslash is passed over, whatever it is.
            cases start with
            | nil => decide
            | cons e start =>
                obtain ⟨more, rfl⟩ := hrest
                rw [List.cons_append, takeQuoted_escape, Option.map_eq_none_iff] at h
                exact unclosed_of_takeQuoted (start ++ more) h start
                  (List.prefix_append start more)
          · rw [takeQuoted_bare hquote hescape, Option.map_eq_none_iff] at h
            have hnext : inside.next d = inside := by simp [next, hquote, hescape]
            rw [after_cons, hnext]
            exact unclosed_of_takeQuoted s h start hrest
termination_by s.length

/-- Where the scanner cannot take a word, there is a separator or a quote that is left open. -/
theorem leftOpen_of_takeWord {c : Char} {s : Text} (hsep : isSeparator c = false)
    (h : (takeWord (c :: s)).1 = []) : c = '"' ∧ LeftOpen [] s := by
  by_cases hquote : c = '"'
  · subst hquote
    cases hread : takeQuoted s with
    | none => exact ⟨rfl, after_nil outside, unclosed_of_takeQuoted s hread⟩
    | some read =>
        simp only [takeWord_quote, hread] at h
        cases h
  · rw [takeWord_bare hsep hquote] at h
    cases h

/-- **The scanner stops at the quote that is left open.** -/
theorem leftOpen_of_scan (s fault : Text) (h : scan s = .error fault) :
    ∃ before rest, fault = '"' :: rest ∧ s = before ++ '"' :: rest ∧ LeftOpen before rest := by
  match s with
  | [] => cases h
  | c :: s =>
      by_cases hsep : isSeparator c = true
      · rw [scan_separator hsep] at h
        obtain ⟨before, rest, rfl, rfl, hopen⟩ := leftOpen_of_scan s fault h
        exact ⟨c :: before, rest, rfl, rfl, hopen.append (s := [c]) (next_separator hsep)⟩
      have hsep : isSeparator c = false := by simpa using hsep
      by_cases htake : (takeWord (c :: s)).1 = []
      · obtain ⟨rfl, hopen⟩ := leftOpen_of_takeWord hsep htake
        rw [scan_unclosed hsep htake] at h
        cases h
        exact ⟨[], s, rfl, rfl, hopen⟩
      · obtain ⟨happend, -, hclosed⟩ := takeWord_spec (c :: s)
        have hpositive := List.length_pos_iff.mpr htake
        have hlength := congrArg List.length happend
        rw [List.length_append] at hlength
        have hshorter : (takeWord (c :: s)).2.length < (c :: s).length := by omega
        have hrest : scan (takeWord (c :: s)).2 = .error fault := by
          rw [scan_takeWord htake] at h
          cases hscan : scan (takeWord (c :: s)).2 with
          | error other =>
              rw [hscan] at h
              cases h
              rfl
          | ok words =>
              rw [hscan] at h
              cases h
        obtain ⟨before, rest, rfl, hbehind, hopen⟩ :=
          leftOpen_of_scan (takeWord (c :: s)).2 fault hrest
        refine ⟨(takeWord (c :: s)).1 ++ before, rest, rfl, ?_, hopen.append hclosed⟩
        rw [List.append_assoc, ← hbehind, happend]
termination_by s.length
decreasing_by
  · exact Nat.lt_succ_self _
  · exact hshorter

/-! ### Lines and columns -/

/-- A place in a text. -/
structure Place where
  /-- The line, counted from one. -/
  line : Nat
  /-- The column, counted in characters from one. -/
  column : Nat
  deriving DecidableEq, Repr

namespace Place

/-- The place behind one more character. -/
def next (place : Place) (c : Char) : Place :=
  if c = '\n' then ⟨place.line + 1, 1⟩ else ⟨place.line, place.column + 1⟩

/-- The place of the character that follows a text. -/
def behind (s : Text) : Place := s.foldl next ⟨1, 1⟩

theorem behind_snoc (s : Text) (c : Char) : behind (s ++ [c]) = (behind s).next c := by
  rw [behind, List.foldl_append]
  rfl

end Place

theorem position_snoc (s : Text) (c : Char) :
    position (s ++ [c]) =
      if c = '\n' then ((position s).1 + 1, 1) else ((position s).1, (position s).2 + 1) := by
  by_cases hline : c = '\n'
  · simp [position, Text.takeEndWhile, hline]
  · simp [position, Text.takeEndWhile, hline]

/-- Lines and columns can be counted along the text. -/
theorem position_eq_behind (s : Text) :
    position s = ((Place.behind s).line, (Place.behind s).column) := by
  induction s using List.reverseRecOn with
  | nil => rfl
  | append_singleton s c ih =>
      rw [position_snoc, Place.behind_snoc, Place.next, ih]
      split_ifs <;> rfl

/-- The fault of a text is at the place behind what can be read of it. -/
theorem unclosedFault_append (before rest : Text) :
    unclosedFault (before ++ rest) rest =
      ⟨(Place.behind before).line, (Place.behind before).column, "literal not terminated"⟩ := by
  have hlength : (before ++ rest).length - rest.length = before.length := by simp
  rw [unclosedFault, hlength, List.take_left, position_eq_behind]

/-! ### The scanner and the automaton -/

/-- **The scanner accepts what the automaton accepts.** It succeeds exactly if the automaton ends
outside quotes, and its words are then the maximal runs of characters that are not separators read
outside quotes. Otherwise there is one fault, at the line and the column of the quote that is left
open, also if that quote stands behind a word that begins a comment. -/
theorem scan_matches_automaton (s : Text) :
    ((∃ words, scan s = .ok words) ↔ outside.after s = outside) ∧
    (outside.after s = outside → scan s = .ok (runs s) ∧ lex s = .ok (ofWords (runs s))) ∧
    (outside.after s ≠ outside →
      ∃ before rest, s = before ++ '"' :: rest ∧ LeftOpen before rest ∧
        scan s = .error ('"' :: rest) ∧
        lex s = .error ⟨[⟨(Place.behind before).line, (Place.behind before).column,
          "literal not terminated"⟩]⟩) := by
  cases hscan : scan s with
  | ok words =>
      have hspaced := scan_eq_ok_iff.mp hscan
      refine ⟨⟨fun _ => hspaced.closed, fun _ => ⟨words, rfl⟩⟩, fun _ => ?_,
        fun hopen => absurd hspaced.closed hopen⟩
      rw [lex, hscan, hspaced.runs_eq]
      exact ⟨rfl, rfl⟩
  | error fault =>
      obtain ⟨before, rest, rfl, rfl, hopen⟩ := leftOpen_of_scan s fault hscan
      refine ⟨⟨?_, fun hclosed => absurd hclosed hopen.after_ne⟩,
        fun hclosed => absurd hclosed hopen.after_ne,
        fun _ => ⟨before, rest, rfl, hopen, rfl, ?_⟩⟩
      · rintro ⟨words, hwords⟩
        cases hwords
      · rw [lex, hscan]
        show Except.error _ = _
        rw [unclosedFault_append]

/-- A quote that is left open behind a comment, on the second line. -/
example : lex "a \"b\nc\" #d \"e" = .error ⟨[⟨2, 7, "literal not terminated"⟩]⟩ := by
  decide +kernel

end Conch.Token
