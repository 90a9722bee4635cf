import Conch.Proofs.Rewrapping

/-!
Texts with single spaces. The tokens of the lexer, written with one space between any two of them,
are read again as the same tokens: a word that the lexer has cut out neither merges with its
neighbours nor falls apart, begins no comment, ends no statement and leaves no quote open
(`LexedWord`), and a mark that stands alone is a mark again.

* `respaced`: tokens with one space between any two of them, marks as well.
* `lex_respaced`: the lexer reads them back.
* `parse_eq_normalized`: an expression is parsed through its tokens with single spaces.
* `lexing_stable`: which tokens the lexer makes, and that parsing sees no more of an expression than
  its tokens with single spaces.
-/

namespace Conch.Token

/-- Tokens with one space between any two of them. -/
def respaced (tokens : List Token) : Text := Text.join [' '] (tokens.map source)

/-- An expression with single spaces and without its comment, if it can be cut into tokens. -/
def normalized (s : Text) : Except LexError Text := (lex s).map respaced

/-- Words with single spaces between them are scanned as they are. -/
theorem spaced_join {words : List Text} (h : ∀ w ∈ words, IsWord w) :
    Spaced (Text.join [' '] words) words := by
  have hspace : isSeparator ' ' = true := by decide
  induction words with
  | nil => exact .nil
  | cons w rest ih =>
      obtain ⟨hw, hrest⟩ := List.forall_mem_cons.mp h
      cases rest with
      | nil => simpa using Spaced.word hw stops_nil .nil
      | cons v rest =>
          rw [Text.join_cons_cons, List.append_assoc, List.singleton_append]
          exact .word hw (stops_cons.mpr hspace) (.separator hspace (ih hrest))

/-- A token of the lexer is written as one word, which is no comment and has just this token. -/
theorem IsLexed.source_spec {token : Token} (h : token.IsLexed) :
    IsWord token.source ∧ token.source.head? ≠ some '#' ∧ ofWord token.source = [token] := by
  rcases h with rfl | ⟨w, rfl, hw⟩
  · exact ⟨isWord_singleton (by decide) (by decide), by decide, by decide⟩
  · exact ⟨hw.isWord, hw.notComment, ofWord_of_notMarked hw.isWord.nonempty hw.notMarked⟩

/-- **Tokens of the lexer are read back from their text with single spaces.** -/
theorem lex_respaced {tokens : List Token} (h : ∀ t ∈ tokens, t.IsLexed) :
    lex (respaced tokens) = .ok tokens := by
  have hwords : ∀ w ∈ tokens.map source, IsWord w :=
    List.forall_mem_map.mpr fun t ht => (h t ht).source_spec.1
  have hcomment : ∀ w ∈ tokens.map source, w.head? ≠ some '#' :=
    List.forall_mem_map.mpr fun t ht => (h t ht).source_spec.2.1
  refine lex_eq_ok_iff.mpr ⟨_, (spaced_join hwords).scan_eq, ?_⟩
  rw [ofWords_eq_flatMap hcomment, List.flatMap_map]
  clear hwords hcomment
  induction tokens with
  | nil => rfl
  | cons token rest ih =>
      obtain ⟨hfirst, hrest⟩ := List.forall_mem_cons.mp h
      rw [List.flatMap_cons, hfirst.source_spec.2.2, ih hrest, List.singleton_append]

theorem isLexed_of_mem_lex {s : Text} {tokens : List Token} (h : lex s = .ok tokens) :
    ∀ t ∈ tokens, t.IsLexed := fun t ht => (isLexed_of_lex h t ht).1

/-- **Parsing reads an expression through its text with single spaces**, and reports the fault of
an expression that has none. -/
theorem parse_eq_normalized (s : Text) :
    parse s = ((normalized s).mapError .lex).bind parse := by
  rw [normalized]
  cases hlex : lex s with
  | error error =>
      rw [parse, hlex]
      rfl
  | ok tokens =>
      show parse s = parse (respaced tokens)
      rw [parse_eq_grouped hlex, parse_eq_grouped (lex_respaced (isLexed_of_mem_lex hlex))]

/-- **Lexing is stable under writing the tokens with single spaces.** The tokens of an expression
are marks and words that are not empty, do not begin a comment, do not end in a semicolon, and have
their quotes closed and no separator outside of them. Every list of such tokens is read back from
its text with single spaces, whether it came from an expression or not. So an expression is parsed
as that text is, and expressions with the same text are parsed alike. -/
theorem lexing_stable :
    (∀ s tokens, lex s = .ok tokens →
      lex (respaced tokens) = .ok tokens ∧
        ∀ t ∈ tokens, t = split ∨ ∃ w, t = word w ∧ LexedWord w) ∧
    (∀ tokens : List Token, (∀ t ∈ tokens, t = split ∨ ∃ w, t = word w ∧ LexedWord w) →
      lex (respaced tokens) = .ok tokens) ∧
    (∀ s tokens, lex s = .ok tokens → parse s = parse (respaced tokens)) ∧
    (∀ s t, normalized s = normalized t → parse s = parse t) := by
  refine ⟨fun s tokens h => ?_, fun tokens h => lex_respaced h, fun s tokens h => ?_,
    fun s t h => ?_⟩
  · have hlexed := isLexed_of_mem_lex h
    exact ⟨lex_respaced hlexed, hlexed⟩
  · rw [parse_eq_normalized, normalized, h]
    rfl
  · rw [parse_eq_normalized s, parse_eq_normalized t, h]

/-- An expression with a comment, semicolons glued to a word and standing alone, and a quoted span
glued to a word. -/
theorem lexing_stable_marked :
    lex (respaced [word "a", split, split, split, word "b\"c  d\""]) =
        .ok [word "a", split, split, split, word "b\"c  d\""] ∧
      parse "a;; ;\tb\"c  d\" #e" = parse "a ; ; ; b\"c  d\"" := by
  have hlex : lex "a;; ;\tb\"c  d\" #e" =
      .ok [word "a", split, split, split, word "b\"c  d\""] := by decide +kernel
  have hspaced : respaced [word "a", split, split, split, word "b\"c  d\""] =
      "a ; ; ; b\"c  d\"" := by decide +kernel
  refine ⟨(lexing_stable.1 _ _ hlex).1, ?_⟩
  rw [← hspaced]
  exact lexing_stable.2.2.1 _ _ hlex

end Conch.Token
