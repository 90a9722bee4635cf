import Conch.Proofs.Retention
import Conch.Proofs.Spelling

/-!
Texts that braces can be put around. A body is a text that is read back from its braces as it
is. Texts that are put together of plain words and of bodies in braces are bodies again: their
tokens are written as they are, and close no group around them (`IsPart`).

* `parse_append_space`: the tokens of an expression behind another one without a comment.
* `IsBody.isPart`, `IsPart.isBody`: a body in braces is part of greater bodies.
* `isBody_pipeOf`, `parse_pipeText`: a pipe of two bodies is a body, and has them for its
  arguments.
-/

namespace Conch

/-- The expression that connects two others, given as the tokens of its arguments. -/
def Builtin.pipeText (left right : Token) : Text :=
  "l-pipe" ++ ' ' :: (left.source ++ ' ' :: right.source)

/-- The expression that connects two others, both in braces. -/
def Builtin.pipeOf (left right : Text) : Text := pipeText (.raw left) (.raw right)

namespace Token

open Text (ink Tight)

/-! ### One expression behind another -/

/-- An expression all of whose ink is in its tokens has no comment. -/
theorem not_comment_of_ink {e : Text} {tokens : List Token} (h : parse e = .ok tokens)
    (hink : ink (sources tokens) = ink e) {words : List Text} (hwords : Spaced e words) :
    ∀ w ∈ words, w.head? ≠ some '#' := by
  obtain ⟨comment, hcut⟩ := cutsAt_uncommented hwords
  have hnone : ink comment = [] := by
    have hsame := (ink_uncommented h).symm.trans hink
    rw [congrArg ink hcut.whole, Text.ink_append] at hsame
    exact List.self_eq_append_right.mp hsame
  have hempty : comment = [] := by
    cases comment with
    | nil => rfl
    | cons c rest =>
        have hc := hcut.begins c rfl
        rw [hc, Text.ink_cons_of_isInk (by decide)] at hnone
        cases hnone
  have hdropped := hcut.dropped
  rw [hempty, scan_nil] at hdropped
  intro w hw
  have hkept := List.dropWhile_eq_nil_iff.mp (Except.ok.inj hdropped).symm w hw
  simpa [isUncommented] using hkept

/-- **An expression behind another one** that has no comment has its tokens behind those of that
one. -/
theorem parse_append_space {s t : Text} {first second : List Token} (hs : parse s = .ok first)
    (hink : ink (sources first) = ink s) (ht : parse t = .ok second) :
    parse (s ++ ' ' :: t) = .ok (first ++ second) := by
  obtain ⟨lexed, hlexed⟩ := exists_lex_of_parse hs
  obtain ⟨words, hwords, rfl⟩ := lex_eq_ok_iff.mp hlexed
  obtain ⟨behind, hbehind⟩ := exists_lex_of_parse ht
  obtain ⟨more, hmore, rfl⟩ := lex_eq_ok_iff.mp hbehind
  have hspaced := scan_eq_ok_iff.mp hwords
  have hlex : lex (s ++ ' ' :: t) = .ok (ofWords words ++ ofWords more) := by
    rw [lex, hspaced.scan_append (by decide), hmore]
    show Except.ok (ofWords (words ++ more)) = _
    rw [ofWords_append (not_comment_of_ink hs hink hspaced)]
  rw [parse_eq_grouped hlexed] at hs
  rw [parse_eq_grouped hbehind] at ht
  rw [parse_eq_grouped hlex, grouped_append hs, ht]
  rfl

/-! ### Parts of bodies -/

theorem ink_raw (v : Text) : ink (sources [raw v]) = ink (raw v).source := by
  rw [sources_cons, sources_nil, List.append_nil]

/-- A text that is read back from its braces as it is. -/
def IsBody (v : Text) : Prop := parse (raw v).source = .ok [raw v]

instance (v : Text) : Decidable (IsBody v) := inferInstanceAs (Decidable (_ = _))

/-- A text with its tokens that may be part of a body. Its tokens are written as it is, begin and
end with words, and close no group that is open around them. -/
structure IsPart (s : Text) (tokens : List Token) : Prop where
  spaced : ∃ words, Spaced s words ∧ (∀ w ∈ words, w.head? ≠ some '#') ∧
    words.flatMap ofWord = tokens
  phrase : IsPhrase tokens
  tight : ∀ t ∈ tokens, t.IsTight
  depth : ∀ depth, 0 < depth → braces.depthAfter depth tokens = some depth
  written : written tokens = s

theorem IsPart.append {s t : Text} {first second : List Token} (hs : IsPart s first)
    (ht : IsPart t second) : IsPart (s ++ ' ' :: t) (first ++ second) where
  spaced := by
    obtain ⟨words, hwords, hcomment, rfl⟩ := hs.spaced
    obtain ⟨more, hmore, hcomment', rfl⟩ := ht.spaced
    refine ⟨words ++ more, ?_, List.forall_mem_append.mpr ⟨hcomment, hcomment'⟩,
      List.flatMap_append⟩
    rw [← scan_eq_ok_iff, hwords.scan_append (by decide), hmore.scan_eq]
    rfl
  phrase := by simpa using hs.phrase.append ht.phrase []
  tight := List.forall_mem_append.mpr ⟨hs.tight, ht.tight⟩
  depth := fun depth hdepth => by
    rw [Delimiters.depthAfter_append, hs.depth depth hdepth, Option.bind_some,
      ht.depth depth hdepth]
  written := by
    rw [written_append hs.phrase.nonempty, ht.phrase.writtenBehind_eq, hs.written, ht.written]

/-- A word without delimiters. -/
theorem isPart_word {w : Text} (hw : LexedWord w) (htight : Tight w)
    (hopens : braces.opens w = 0) (hcloses : braces.closes w = 0) : IsPart w [word w] where
  spaced := by
    refine ⟨[w], scan_eq_ok_iff.mp hw.isWord.scan_eq, ?_, ?_⟩
    · simpa using hw.notComment
    · rw [List.flatMap_singleton, ofWord_of_notMarked hw.isWord.nonempty hw.notMarked]
  phrase := isPhrase_word w
  tight := List.forall_mem_singleton.mpr htight
  depth := fun depth hdepth => by
    rw [Delimiters.depthAfter_word, hopens, hcloses, Nat.add_zero, if_pos hdepth]
    rfl
  written := List.append_nil w

/-- Tokens that leave a group as deep as it was do so at every depth. -/
theorem Delimiters.depthAfter_add (d : Delimiters) {depth reached : Nat} {tokens : List Token}
    (h : d.depthAfter depth tokens = some reached) (more : Nat) :
    d.depthAfter (depth + more) tokens = some (reached + more) := by
  induction tokens generalizing depth with
  | nil =>
      cases h
      rfl
  | cons token rest ih =>
      by_cases hword : token.kind = .word
      · rw [depthAfter_of_word _ _ hword] at h ⊢
        split_ifs at h with hopen
        rw [if_pos (by omega)]
        have hdeeper : depth + more + d.opens token.value - d.closes token.value =
            depth + d.opens token.value - d.closes token.value + more := by omega
        rw [hdeeper]
        exact ih h
      · rw [depthAfter_other _ _ hword] at h ⊢
        exact ih h

/-- The tokens that a text has in braces: its own, the last word taken whole. -/
theorem IsBody.spelled {v : Text} (h : IsBody v) :
    keepsSpelling v = true ∧ fillsGroup v = true := by
  have hname : parse "l-eval" = .ok [word "l-eval"] := by decide
  have hflag : parse "--fn" = .ok [word "--fn"] := by decide
  exact (parse_functionTarget_eq_ok_iff v).mp
    (parse_append_space hname (by decide) (parse_append_space hflag (by decide) h))

theorem head_lastWhole {words : List Text} (h : ∀ w ∈ words, w ≠ []) :
    ∀ t ∈ (lastWhole words).head?, t.kind = .word ∨ t = split := by
  have hofWord : ∀ w, ∀ t ∈ ofWord w, t.kind = .word ∨ t = split := by
    intro w t ht
    rcases List.mem_append.mp ht with ht | ht
    · split_ifs at ht
      · cases ht
      · exact .inl (by rw [List.mem_singleton.mp ht]; rfl)
    · exact .inr (List.eq_of_mem_replicate ht)
  fun_cases lastWhole words with
  | case1 => simp
  | case2 w =>
      rintro t ⟨⟩
      exact .inl rfl
  | case3 w next rest =>
      rw [List.head?_append_of_ne_nil _ (ofWord_ne_nil (h w (by simp)))]
      exact fun t ht => hofWord w t (List.mem_of_mem_head? ht)

theorem last_lastWhole (words : List Text) : ∀ t ∈ (lastWhole words).getLast?, t.kind = .word := by
  rcases List.eq_nil_or_concat' words with rfl | ⟨before, w, rfl⟩
  · simp [lastWhole]
  · rw [lastWhole_snoc, List.getLast?_concat]
    rintro t ⟨⟩
    rfl

/-- A body in braces is part of greater bodies. -/
theorem IsBody.isPart {v : Text} (h : IsBody v) : ∃ tokens, IsPart (raw v).source tokens := by
  obtain ⟨hspelling, hfills⟩ := h.spelled
  obtain ⟨words, wrapped, hspaced, hwrapped, htokens, hcomment, htight, htext⟩ :=
    exists_wrap_of_keepsSpelling hspelling
  have hdepth := (fillsGroup_eq_true_iff hspaced.scan_eq).mp hfills
  refine ⟨braces.enclose (lastWhole words), ⟨wrapped, hwrapped, hcomment, htokens⟩,
    isPhrase_enclose _ _, ?_, ?_, ?_⟩
  · refine forall_mem_glueBack (Tight.snoc (s := []) (by decide) (.inl rfl))
      (fun w hw => Tight.snoc (by decide) (.inr hw)) ?_
    exact forall_mem_glueFront (Tight.cons (s := []) (by decide) (.inl rfl))
      (fun w hw => Tight.cons (by decide) (.inr hw)) htight
  · intro depth hpositive
    refine Delimiters.depthAfter_enclose (by decide) (by decide) hpositive ?_
    have hdeeper := braces.depthAfter_add hdepth depth
    rwa [Nat.add_comm 1 depth] at hdeeper
  · rw [braces.written_enclose (head_lastWhole fun w hw => (hspaced.isWord w hw).nonempty)
      (last_lastWhole words), htext]
    rfl

/-- A word whose last token is a word has no marks behind it. -/
theorem ofWord_of_last_word {w : Text} (hw : w ≠ [])
    (h : ∀ t ∈ (ofWord w).getLast?, t.kind = .word) : ofWord w = [word w] := by
  refine ofWord_of_notMarked hw fun hmarked => ?_
  obtain ⟨body, rfl⟩ := List.getLast?_eq_some_iff.mp hmarked
  rw [ofWord_snoc_semicolon, List.getLast?_concat] at h
  cases h split rfl

/-- What is part of bodies is a body. -/
theorem IsPart.isBody {s : Text} {tokens : List Token} (h : IsPart s tokens) : IsBody s := by
  obtain ⟨words, hspaced, hcomment, hwords⟩ := h.spaced
  have hs : s = [] ∨ Tight s := by
    rw [← h.written]
    exact tight_written h.tight
  obtain ⟨wrapped, hwrapped, htokens, hcomments⟩ := hspaced.wrap hs
  have hfree := hcomments.mpr fun w hw => hcomment w (List.mem_of_mem_tail hw)
  have hlast : lastWhole words = tokens := by
    rcases List.eq_nil_or_concat' words with rfl | ⟨before, w, rfl⟩
    · exact hwords
    · have hw := (hspaced.isWord w (by simp)).nonempty
      have hend := h.phrase.wordEnds.last
      rw [List.flatMap_append, List.flatMap_singleton] at hwords
      rw [← hwords, List.getLast?_append_of_ne_nil _ (ofWord_ne_nil hw)] at hend
      rw [lastWhole_snoc, ← hwords, ofWord_of_last_word hw hend]
  have hlex : lex (raw s).source = .ok (braces.enclose tokens) :=
    lex_eq_ok_iff.mpr ⟨wrapped, hwrapped.scan_eq, by rw [ofWords_eq_flatMap hfree, htokens, hlast]⟩
  have hgroup : braces.group (braces.enclose tokens) = .ok [raw s] := by
    rw [Delimiters.group_eq_ok_iff, Delimiters.advance_enclose (by decide) (by decide) h.tight
      (h.depth 1 Nat.one_pos), h.written]
    rfl
  rw [IsBody, parse_eq_grouped hlex, grouped, hgroup]
  rfl

/-! ### Pipes -/

theorem isPart_pipe : IsPart "l-pipe" [word "l-pipe"] := by
  refine isPart_word ⟨by decide, by decide, by decide⟩ ⟨by decide, ?_, ?_⟩ (by decide) (by decide)
  · rintro c ⟨⟩
    decide
  · rintro c ⟨⟩
    decide

/-- **A pipe of two bodies is a body.** -/
theorem isBody_pipeOf {left right : Text} (hleft : IsBody left) (hright : IsBody right) :
    IsBody (Builtin.pipeOf left right) := by
  obtain ⟨first, hfirst⟩ := hleft.isPart
  obtain ⟨second, hsecond⟩ := hright.isPart
  exact (isPart_pipe.append (hfirst.append hsecond)).isBody

/-- The sides of a pipe are its arguments. -/
theorem parse_pipeText {left : Text} {right : Token} (hleft : IsBody left)
    (hright : parse right.source = .ok [right]) :
    parse (Builtin.pipeText (raw left) right) = .ok [word "l-pipe", raw left, right] := by
  have hname : parse "l-pipe" = .ok [word "l-pipe"] := by decide
  exact parse_append_space hname (by decide) (parse_append_space hleft (ink_raw left) hright)

end Token

end Conch
