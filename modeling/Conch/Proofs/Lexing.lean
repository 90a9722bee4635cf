import Conch.Proofs.Words
import Mathlib.Data.List.DropRight

/-!
What the lexer makes of words, and how tokens are written so that the lexer reads the same
tokens again. A statement mark is written glued to what stands before it; any other token
has one space in front of it.

* `lex_written` — tokens that the lexer can make are read back from how they are written.
* `ofWords_snoc_semicolon` — a semicolon behind a text is a mark behind its tokens.
-/

namespace Conch.Token

open QuoteState

/-! ### The tokens of one word -/

theorem dropEndWhile_eq_rdropWhile (p : Char → Bool) (s : Text) :
    Text.dropEndWhile p s = s.rdropWhile p := rfl

theorem length_dropEndWhile_le (p : Char → Bool) (s : Text) :
    (Text.dropEndWhile p s).length ≤ s.length := by
  have hstart : s.rdropWhile p <+: s := List.rdropWhile_prefix p s
  exact hstart.length_le

/-- A semicolon at the end of a word is a mark behind its other tokens. -/
theorem ofWord_snoc_semicolon (w : Text) : ofWord (w ++ [';']) = ofWord w ++ [split] := by
  have hbody : Text.dropEndWhile (· == ';') (w ++ [';']) = Text.dropEndWhile (· == ';') w := by
    rw [dropEndWhile_eq_rdropWhile, List.rdropWhile_concat_pos _ _ _ (by simp),
      dropEndWhile_eq_rdropWhile]
  have hlength := length_dropEndWhile_le (· == ';') w
  have hcount : (w ++ [';']).length - (Text.dropEndWhile (· == ';') w).length
      = w.length - (Text.dropEndWhile (· == ';') w).length + 1 := by
    rw [List.length_append, List.length_singleton]
    omega
  simp only [ofWord, hbody, hcount, List.replicate_succ', List.append_assoc]

/-- A word that the lexer takes as it is: it does not begin a comment, and no semicolon
ends it. -/
structure LexedWord (w : Text) : Prop where
  isWord : IsWord w
  notComment : w.head? ≠ some '#'
  notMarked : w.getLast? ≠ some ';'

/-- A character that the lexer takes as it is, and that may begin and end a word. -/
structure IsInert (c : Char) : Prop where
  notSeparator : isSeparator c = false
  notQuote : c ≠ '"'
  notComment : c ≠ '#'
  notMark : c ≠ ';'

theorem IsInert.lexedWord {c : Char} (hc : IsInert c) : LexedWord [c] where
  isWord := isWord_singleton hc.notSeparator hc.notQuote
  notComment := by simpa using hc.notComment
  notMarked := by simpa using hc.notMark

theorem IsInert.lexedWord_cons {c : Char} (hc : IsInert c) {w : Text} (hw : LexedWord w) :
    LexedWord (c :: w) where
  isWord := hw.isWord.cons hc.notSeparator hc.notQuote
  notComment := by simpa using hc.notComment
  notMarked := by
    rw [List.getLast?_cons_of_ne_nil hw.isWord.nonempty]
    exact hw.notMarked

theorem IsInert.lexedWord_snoc {c : Char} (hc : IsInert c) {w : Text} (hw : LexedWord w) :
    LexedWord (w ++ [c]) where
  isWord := hw.isWord.snoc hc.notSeparator hc.notQuote
  notComment := by
    rw [List.head?_append_of_ne_nil _ hw.isWord.nonempty]
    exact hw.notComment
  notMarked := by simpa using hc.notMark

theorem ofWord_of_notMarked {w : Text} (hnonempty : w ≠ []) (h : w.getLast? ≠ some ';') :
    ofWord w = [word w] := by
  have hbody : Text.dropEndWhile (· == ';') w = w := by
    rw [dropEndWhile_eq_rdropWhile, List.rdropWhile_eq_self_iff]
    intro hl hlast
    have hlast : w.getLast hl = ';' := by simpa using hlast
    exact h (by rw [List.getLast?_eq_some_getLast hl, hlast])
  simp [ofWord, hbody, hnonempty]

/-- The words of a text without comments, each cut from its semicolons. -/
theorem ofWords_eq_flatMap {words : List Text} (h : ∀ w ∈ words, w.head? ≠ some '#') :
    ofWords words = words.flatMap ofWord := by
  have htake : words.takeWhile (fun w => w.head? != some '#') = words :=
    List.takeWhile_eq_self_iff.mpr fun w hw => by simpa using h w hw
  rw [ofWords, htake]

theorem ofWords_append {words : List Text} (h : ∀ w ∈ words, w.head? ≠ some '#')
    (more : List Text) : ofWords (words ++ more) = ofWords words ++ ofWords more := by
  have htake : (words ++ more).takeWhile (fun w => w.head? != some '#')
      = words ++ more.takeWhile (fun w => w.head? != some '#') :=
    List.takeWhile_append_of_pos fun w hw => by simpa using h w hw
  rw [ofWords_eq_flatMap h, ofWords, htake, List.flatMap_append, ofWords]

/-- The tokens of a word that does not begin a comment are words that the lexer takes as
they are, and marks. -/
theorem mem_ofWord {w : Text} (hw : IsWord w) (hcomment : w.head? ≠ some '#') {token : Token}
    (h : token ∈ ofWord w) :
    token = split ∨ ∃ v, token = word v ∧ LexedWord v ∧ ∃ more, w = v ++ more := by
  obtain ⟨more, hmore⟩ : Text.dropEndWhile (· == ';') w <+: w := List.rdropWhile_prefix _ w
  have hmarks : more = Text.takeEndWhile (· == ';') w := by
    have hwhole : w.rdropWhile (· == ';') ++ w.rtakeWhile (· == ';') = w :=
      List.rdropWhile_append_rtakeWhile
    exact List.append_cancel_left (hmore.trans hwhole.symm)
  have hquote : '"' ∉ more := by
    rw [hmarks, Text.takeEndWhile, List.mem_reverse]
    intro hmem
    exact absurd (List.mem_takeWhile_imp hmem) (by decide)
  simp only [ofWord] at h
  rcases List.mem_append.mp h with h | h
  · split_ifs at h with hempty
    · cases h
    · have hnonempty : Text.dropEndWhile (· == ';') w ≠ [] := by simpa using hempty
      have hwhole : IsWord (Text.dropEndWhile (· == ';') w ++ more) := by rwa [hmore]
      have hword := (hwhole.of_append_bare hquote).resolve_left hnonempty
      refine .inr ⟨_, List.mem_singleton.mp h, ⟨hword, ?_, ?_⟩, more, hmore.symm⟩
      · rwa [← List.head?_append_of_ne_nil _ hnonempty, hmore]
      · intro hlast
        have hmarked := List.rdropWhile_last_not (· == ';') w hnonempty
        rw [List.getLast?_eq_some_getLast hnonempty] at hlast
        exact hmarked (beq_iff_eq.mpr (Option.some.inj hlast))
  · exact .inl (List.eq_of_mem_replicate h)

/-! ### Written tokens -/

/-- Tokens as they are written behind another token. -/
def writtenBehind : List Token → Text
  | [] => []
  | token :: rest =>
    (if token.isSplit then token.source else ' ' :: token.source) ++ writtenBehind rest

/-- Tokens as they are written, with one space before every token but the first and the
marks. -/
def written : List Token → Text
  | [] => []
  | token :: rest => token.source ++ writtenBehind rest

/-- Tokens that the lexer makes: words that it takes as they are, and marks. -/
def IsLexed (token : Token) : Prop := token = split ∨ ∃ w, token = word w ∧ LexedWord w

/-- The words of a text that begins with `w` and goes on with written tokens. -/
def wordsBehind (w : Text) : List Token → List Text
  | [] => [w]
  | token :: rest =>
    if token.isSplit then wordsBehind (w ++ [';']) rest else w :: wordsBehind token.value rest

theorem spaced_writtenBehind {w : Text} (hw : IsWord w) {tokens : List Token}
    (h : ∀ t ∈ tokens, t.IsLexed) : Spaced (w ++ writtenBehind tokens) (wordsBehind w tokens) := by
  induction tokens generalizing w with
  | nil =>
      simpa [writtenBehind, wordsBehind] using Spaced.word hw stops_nil .nil
  | cons token rest ih =>
      obtain ⟨hfirst, hrest⟩ := List.forall_mem_cons.mp h
      rcases hfirst with rfl | ⟨v, rfl, hv⟩
      · have hmarked : IsWord (w ++ [';']) := hw.snoc (by decide) (by decide)
        simpa [writtenBehind, wordsBehind, split, isSplit, source] using ih hmarked hrest
      · have hblank : isSeparator ' ' = true := by decide
        have hbehind := Spaced.word hw (stops_cons.mpr hblank)
          (.separator hblank (ih hv.isWord hrest))
        simpa [writtenBehind, wordsBehind, word, isSplit, source] using hbehind

theorem head_wordsBehind {w : Text} (hnonempty : w ≠ []) (hw : w.head? ≠ some '#')
    {tokens : List Token} (h : ∀ t ∈ tokens, t.IsLexed) :
    ∀ v ∈ wordsBehind w tokens, v.head? ≠ some '#' := by
  induction tokens generalizing w with
  | nil => simpa [wordsBehind] using hw
  | cons token rest ih =>
      obtain ⟨hfirst, hrest⟩ := List.forall_mem_cons.mp h
      rcases hfirst with rfl | ⟨v, rfl, hv⟩
      · have hmarked : (w ++ [';']).head? ≠ some '#' := by
          rwa [List.head?_append_of_ne_nil _ hnonempty]
        exact ih (by simp) hmarked hrest
      · simp only [wordsBehind, word, isSplit]
        exact List.forall_mem_cons.mpr ⟨hw, ih hv.isWord.nonempty hv.notComment hrest⟩

theorem flatMap_wordsBehind (w : Text) {tokens : List Token} (h : ∀ t ∈ tokens, t.IsLexed) :
    (wordsBehind w tokens).flatMap ofWord = ofWord w ++ tokens := by
  induction tokens generalizing w with
  | nil => simp [wordsBehind]
  | cons token rest ih =>
      obtain ⟨hfirst, hrest⟩ := List.forall_mem_cons.mp h
      rcases hfirst with rfl | ⟨v, rfl, hv⟩
      · have hmarked := ih (w ++ [';']) hrest
        rw [ofWord_snoc_semicolon] at hmarked
        simpa [wordsBehind, split, isSplit] using hmarked
      · have hbehind := ih v hrest
        rw [ofWord_of_notMarked hv.isWord.nonempty hv.notMarked] at hbehind
        simp only [wordsBehind, word, isSplit]
        simpa [word] using hbehind

/-- The lexer reads a first word and written tokens behind it. -/
theorem lex_writtenBehind {w : Text} (hw : IsWord w) (hcomment : w.head? ≠ some '#')
    {tokens : List Token} (h : ∀ t ∈ tokens, t.IsLexed) :
    lex (w ++ writtenBehind tokens) = .ok (ofWord w ++ tokens) := by
  rw [lex, (spaced_writtenBehind hw h).scan_eq]
  show Except.ok _ = _
  rw [ofWords_eq_flatMap (head_wordsBehind hw.nonempty hcomment h), flatMap_wordsBehind w h]

/-- **Tokens that the lexer makes are read back from how they are written.** -/
theorem lex_written {tokens : List Token} (h : ∀ t ∈ tokens, t.IsLexed) :
    lex (written tokens) = .ok tokens := by
  cases tokens with
  | nil => rfl
  | cons token rest =>
      obtain ⟨hfirst, hrest⟩ := List.forall_mem_cons.mp h
      rcases hfirst with rfl | ⟨v, rfl, hv⟩
      · have hmark : IsWord [';'] := isWord_singleton (by decide) (by decide)
        exact lex_writtenBehind hmark (by decide) hrest
      · have hlex := lex_writtenBehind hv.isWord hv.notComment hrest
        rwa [ofWord_of_notMarked hv.isWord.nonempty hv.notMarked] at hlex

/-! ### A mark between two texts -/

/-- A semicolon behind a text is a mark behind its tokens. -/
theorem ofWords_snoc_semicolon {s : Text} {words : List Text} (h : Spaced s words)
    (hcomment : ∀ w ∈ words, w.head? ≠ some '#') :
    ∃ marked, Spaced (s ++ [';']) marked ∧ (∀ w ∈ marked, w.head? ≠ some '#') ∧
      ofWords marked = ofWords words ++ [split] := by
  have hmark : ofWord [';'] = [split] := by decide
  rcases h.snoc (c := ';') (by decide) (by decide) with hsnoc | ⟨before, w, rfl, hsnoc⟩
  · have hmarked : ∀ w ∈ words ++ [[';']], w.head? ≠ some '#' := by
      simpa [or_imp, forall_and] using hcomment
    refine ⟨_, hsnoc, hmarked, ?_⟩
    rw [ofWords_eq_flatMap hmarked, List.flatMap_append, ofWords_eq_flatMap hcomment]
    simp [hmark]
  · have hnonempty : w ≠ [] := (h.isWord w (by simp)).nonempty
    have hmarked : ∀ v ∈ before ++ [w ++ [';']], v.head? ≠ some '#' := by
      intro v hv
      rcases List.mem_append.mp hv with hv | hv
      · exact hcomment v (by simp [hv])
      · rw [List.mem_singleton.mp hv, List.head?_append_of_ne_nil _ hnonempty]
        exact hcomment w (by simp)
    refine ⟨_, hsnoc, hmarked, ?_⟩
    rw [ofWords_eq_flatMap hmarked, ofWords_eq_flatMap hcomment]
    simp [ofWord_snoc_semicolon]

end Conch.Token
