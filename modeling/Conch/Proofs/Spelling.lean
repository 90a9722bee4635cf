import Conch.Proofs.Lengths

/-!
Whether a text that is put in braces is read back as the same text. It is exactly if its
tokens are written the way the text is (`keepsSpelling`) and if it fills the group around it
(`fillsGroup`).

A text whose spelling is lost may be read as another text, as several groups, or not at all.
None of these is as long as the text in its braces, so one count of lengths excludes them all.

* `Spaced.wrap`: the words and tokens of a text in braces.
* `parse_functionTarget_eq_ok_iff`: the exact condition, for every text.
* `parse_functionTarget`: which bodies of functions can be read back.
-/

namespace Conch.Token

open Text (Tight)

/-! ### Words of a text in braces -/

theorem ofWord_ne_nil {w : Text} (h : w ≠ []) : ofWord w ≠ [] := by
  simp only [ofWord]
  split_ifs with hempty
  · have hnil : Text.dropEndWhile (· == ';') w = [] := by simpa using hempty
    simpa [hnil] using h
  · simp

/-- A delimiter in front of a word is glued to the first of its tokens. -/
theorem ofWord_cons {c : Char} (hc : c ≠ ';') (w : Text) :
    ofWord (c :: w) = glueFront c (ofWord w) := by
  have hbody : Text.dropEndWhile (· == ';') (c :: w) = c :: Text.dropEndWhile (· == ';') w := by
    rw [dropEndWhile_eq_rdropWhile, dropEndWhile_eq_rdropWhile]
    induction w using List.reverseRecOn with
    | nil => simp [List.rdropWhile_singleton, hc]
    | append_singleton w d ih =>
        rw [← List.cons_append, List.rdropWhile_concat, List.rdropWhile_concat]
        split_ifs
        · exact ih
        · rfl
  have hmarks : ∀ n, glueFront c (List.replicate n split) = word [c] :: List.replicate n split := by
    intro n
    refine glueFront_of_not_word c fun t ht => ?_
    rw [List.eq_of_mem_replicate (List.mem_of_mem_head? ht)]
    decide
  simp only [ofWord, hbody, List.isEmpty_cons, List.length_cons, Nat.add_sub_add_right,
    Bool.false_eq_true, if_false]
  split_ifs with hempty
  · have hnil : Text.dropEndWhile (· == ';') w = [] := by simpa using hempty
    rw [hnil, List.nil_append, hmarks]
    rfl
  · rfl

/-- **A text in braces** has the words of the text, with the braces glued to the first and
the last of them. Its tokens are those of the text, the last word taken whole. -/
theorem Spaced.wrap {v : Text} {words : List Text} (h : Spaced v words) (hv : v = [] ∨ Tight v) :
    ∃ wrapped, Spaced ('{' :: v ++ ['}']) wrapped ∧
      wrapped.flatMap ofWord = braces.enclose (lastWhole words) ∧
      ((∀ w ∈ wrapped, w.head? ≠ some '#') ↔ ∀ w ∈ words.tail, w.head? ≠ some '#') := by
  have hopener : IsInert '{' := isInert_of_isOpener (by decide)
  have hcloser : IsInert '}' := isInert_of_isCloser (by decide)
  have hlast : ∀ w : Text, ofWord (w ++ ['}']) = [Token.word (w ++ ['}'])] := fun w =>
    ofWord_of_notMarked (by simp) (by rw [List.getLast?_concat]; decide)
  rcases hv with rfl | hv
  · obtain rfl := h.eq_nil
    have hword : IsWord ['{', '}'] := by decide
    exact ⟨[['{', '}']], by simpa using Spaced.word hword stops_nil .nil, by decide, by simp⟩
  obtain ⟨before, w, rfl, -, hback⟩ := h.glue_back hv.nonempty
    (fun c hc => not_separator_of_not_blank (hv.last c hc)) hcloser.notSeparator hcloser.notQuote
  have hhead : ∀ c ∈ (v ++ ['}']).head?, isSeparator c = false := by
    rw [List.head?_append_of_ne_nil _ hv.nonempty]
    exact fun c hc => not_separator_of_not_blank (hv.head c hc)
  obtain ⟨first, rest, hwords, -, hfront⟩ := hback.glue_front (by simp) hhead
    hopener.notSeparator hopener.notQuote
  refine ⟨('{' :: first) :: rest, hfront, ?_, ?_⟩
  · cases before with
    | nil =>
        obtain ⟨rfl, rfl⟩ := List.cons.inj hwords
        rw [← List.cons_append, List.flatMap_cons, hlast]
        rfl
    | cons f more =>
        rw [List.cons_append] at hwords
        obtain ⟨rfl, rfl⟩ := List.cons.inj hwords
        have hnonempty : f ≠ [] := (h.isWord f (by simp)).nonempty
        have htokens : (f :: more).flatMap ofWord ≠ [] := by
          rw [List.flatMap_cons]
          exact List.append_ne_nil_of_left_ne_nil (ofWord_ne_nil hnonempty) _
        rw [lastWhole_snoc, enclose_append _ htokens (by simp), List.flatMap_cons,
          List.flatMap_cons, glueFront_append _ (ofWord_ne_nil hnonempty), ofWord_cons (by decide),
          List.flatMap_append, List.flatMap_singleton, hlast, List.append_assoc]
        rfl
  · cases before with
    | nil =>
        obtain ⟨rfl, rfl⟩ := List.cons.inj hwords
        simp
    | cons f more =>
        rw [List.cons_append] at hwords
        obtain ⟨rfl, rfl⟩ := List.cons.inj hwords
        have hnonempty : w ≠ [] := (h.isWord w (by simp)).nonempty
        simp [or_imp, forall_and, List.head?_append_of_ne_nil _ hnonempty]

/-! ### Depth behind a run -/

/-- Tokens from which nothing comes out leave a group open, as deep as they say. -/
theorem depthAfter_of_advance {group : Group} (hdepth : 0 < group.depth) {tokens : List Token}
    (h : (braces.advance (some group) tokens).1 = []) :
    ∃ g, (braces.advance (some group) tokens).2 = some g ∧ 0 < g.depth ∧
      braces.depthAfter group.depth tokens = some g.depth := by
  induction tokens generalizing group with
  | nil => exact ⟨group, rfl, hdepth, rfl⟩
  | cons token rest ih =>
      rw [Delimiters.advance_cons] at h ⊢
      obtain ⟨hstep, hrest⟩ := List.append_eq_nil_iff.mp h
      by_cases hword : token.kind = .word
      · obtain ⟨kind, w⟩ := token
        cases hword
        have hinside : braces.step (some group) ⟨.word, w⟩ = braces.stepInside group (word w) := rfl
        rw [hinside, braces.stepInside_word hdepth] at hstep hrest ⊢
        rw [Delimiters.depthAfter_of_word _ _ rfl]
        split_ifs at hstep hrest ⊢ with hopen
        · exact ih (by show 0 < group.depth + braces.opens w - braces.closes w; omega) hrest
        · cases hstep
      · have hother : braces.step (some group) token = ([], some (group.pushToken token)) := by
          show braces.stepInside group token = _
          rw [Delimiters.stepInside, if_pos (.inl hword)]
        have hsame : (group.pushToken token).depth = group.depth := by
          rw [Group.pushToken]
          split_ifs
          · rfl
          · exact group.push_depth _
        rw [hother] at hrest ⊢
        rw [Delimiters.depthAfter_other _ _ hword, ← hsame]
        exact ih (by rwa [hsame]) hrest

/-- A group ends at the very end of a word only if the word brings just the closers that
the group waits for. -/
theorem needed_of_finish {group : Group} {needed : Nat} (hpositive : 0 < needed) {s : Text}
    (hneeded : needed ≤ braces.closes s + 1) {t : Token}
    (h : braces.finish group (splitAfterCloses braces.closer needed (s ++ ['}'])).1
      (splitAfterCloses braces.closer needed (s ++ ['}'])).2 = [t]) :
    needed = braces.closes s + 1 := by
  by_contra hfewer
  have hcut := braces.splitAfterCloses_snoc hpositive (s := s) (by omega) (c := '}') (by decide)
  rw [hcut, Delimiters.finish, if_neg (by simp)] at h
  cases h

/-- Enclosed tokens fill the group if it ends with the last of them. -/
theorem depthAfter_of_last {before : List Token} {w : Text}
    (htight : ∀ t ∈ before ++ [word w], t.IsTight) {front : List Token} {last t : Token}
    (hcut : braces.enclose (before ++ [word w]) = front ++ [last])
    (hfront : (braces.advance none front).1 = [])
    (hlast : (braces.step (braces.advance none front).2 last).1 = [t]) :
    braces.depthAfter 1 (before ++ [word w]) = some 1 := by
  have hopener : isOpener braces.opener = true := by decide
  have hcloser : isCloser braces.closer = true := by decide
  have hsnoc : Tight (w ++ [braces.closer]) :=
    Tight.snoc (by decide) (.inr (htight (word w) (by simp)))
  have hcloses : braces.closes (w ++ [braces.closer]) = braces.closes w + 1 := by
    rw [braces.closes_snoc_closer hcloser, if_pos rfl]
  have hopens := braces.opens_snoc_closer hcloser w
  by_cases hbefore : before = []
  · subst hbefore
    have hsingle : braces.enclose ([] ++ [word w]) =
        [] ++ [word (braces.opener :: (w ++ [braces.closer]))] := rfl
    rw [hsingle] at hcut
    obtain ⟨rfl, hword⟩ := List.append_inj' hcut rfl
    cases hword
    have hstep := Delimiters.step_opening hopener (.inr hsnoc)
    rw [Delimiters.advance_nil, hstep, hopens, hcloses] at hlast
    split_ifs at hlast with hclosed
    have hneeded := needed_of_finish (s := braces.opener :: w) (Nat.succ_pos _)
      (by rwa [braces.closes_cons_opener hopener]) hlast
    rw [braces.closes_cons_opener hopener] at hneeded
    rw [List.nil_append, Delimiters.depthAfter_word, if_pos (by omega), Delimiters.depthAfter_nil]
    congr 1
    omega
  · rw [enclose_append _ hbefore (by simp)] at hcut
    obtain ⟨rfl, hword⟩ := List.append_inj' hcut rfl
    cases hword
    obtain ⟨x, rest, hglue, hx, hrest⟩ := Delimiters.exists_glueFront braces.opener
      (fun t ht => htight t (List.mem_append_left _ ht) : ∀ t ∈ before, t.IsTight)
    have hdepth := braces.depthAfter_glueFront hopener 0 before
    rw [hglue] at hfront hlast hdepth
    rw [Delimiters.advance_cons, Delimiters.step_opening hopener hx] at hfront hlast
    rw [Delimiters.depthAfter_word, braces.opens_cons_opener hopener, if_pos rfl,
      braces.closes_cons_opener hopener, Nat.zero_add] at hdepth
    by_cases hclosed : braces.opens x + 1 ≤ braces.closes x
    · rw [if_pos hclosed] at hfront
      cases hfront
    · rw [if_neg hclosed] at hfront hlast
      rw [if_pos (by omega)] at hdepth
      have hpositive : 0 < braces.opens x + 1 - braces.closes x := by omega
      obtain ⟨g, hopened, hwaiting, hend⟩ := depthAfter_of_advance hpositive hfront
      have hreached : braces.depthAfter 1 before = some g.depth := hdepth.symm.trans hend
      simp only [hopened] at hlast
      change (braces.stepInside g (word (w ++ [braces.closer]))).1 = [t] at hlast
      rw [braces.stepInside_word hwaiting, hopens, hcloses] at hlast
      split_ifs at hlast with hopen
      have hneeded := needed_of_finish (by omega) (by omega) hlast
      rw [braces.depthAfter_append, hreached, Option.bind_some, Delimiters.depthAfter_word,
        if_pos (by omega), Delimiters.depthAfter_nil]
      congr 1
      omega

/-! ### Reading a text in braces -/

/-- Whether the tokens of a text in braces are written as the text is: no word behind the
first begins a comment, and the tokens have no blanks at their ends and one space between
them. -/
def keepsSpelling (v : Text) : Bool :=
  match scan v with
  | .ok words =>
    words.tail.all (fun w => w.head? != some '#') &&
      decide (∀ t ∈ lastWhole words, t.IsTight) && written (lastWhole words) == v
  | .error _ => false

theorem keepsSpelling_iff {v : Text} :
    keepsSpelling v = true ↔ ∃ words, scan v = .ok words ∧
      (∀ w ∈ words.tail, w.head? ≠ some '#') ∧ (∀ t ∈ lastWhole words, t.IsTight) ∧
      written (lastWhole words) = v := by
  rw [keepsSpelling]
  cases scan v with
  | ok words => simp [and_assoc]
  | error rest => simp

theorem scan_functionTarget (v : Text) :
    scan (Builtin.functionTarget v) =
      (scan ('{' :: v ++ ['}'])).map fun words => "l-eval".toList :: "--fn".toList :: words := by
  have hname : IsWord "l-eval".toList := by decide
  have hflag : IsWord "--fn".toList := by decide
  have hspace : isSeparator ' ' = true := by decide
  have htext : Builtin.functionTarget v =
      "l-eval".toList ++ ' ' :: ("--fn".toList ++ ' ' :: ('{' :: v ++ ['}'])) := rfl
  rw [htext, scan_word hname (stops_cons.mpr hspace), scan_separator hspace,
    scan_word hflag (stops_cons.mpr hspace), scan_separator hspace]
  cases scan ('{' :: v ++ ['}']) <;> rfl

theorem lex_functionTarget {v : Text} {wrapped : List Text}
    (h : Spaced ('{' :: v ++ ['}']) wrapped) :
    lex (Builtin.functionTarget v) =
      .ok (word "l-eval" :: word "--fn" :: ofWords wrapped) := by
  have hcomment : ∀ w ∈ ["l-eval".toList, "--fn".toList], w.head? ≠ some '#' := by decide
  have hscan : scan (Builtin.functionTarget v) =
      .ok (["l-eval".toList, "--fn".toList] ++ wrapped) := by
    rw [scan_functionTarget, h.scan_eq]
    rfl
  rw [lex, hscan]
  show Except.ok _ = _
  rw [ofWords_append hcomment]
  rfl

/-- The scanner reads a text in the call of a function only if it reads the text. -/
theorem exists_spaced_of_lex {v : Text} {tokens : List Token}
    (h : lex (Builtin.functionTarget v) = .ok tokens) : ∃ words, Spaced v words := by
  have hopener : IsInert '{' := isInert_of_isOpener (by decide)
  have hcloser : IsInert '}' := isInert_of_isCloser (by decide)
  obtain ⟨all, hscan, -⟩ := lex_eq_ok_iff.mp h
  rw [scan_functionTarget] at hscan
  cases hwrapped : scan ('{' :: v ++ ['}']) with
  | error rest =>
      rw [hwrapped] at hscan
      cases hscan
  | ok wrapped =>
      obtain ⟨inner, hinner⟩ := (scan_eq_ok_iff.mp hwrapped).of_cons hopener.notSeparator
        hopener.notQuote
      exact hinner.of_snoc hcloser.notSeparator hcloser.notQuote

/-- The two words in front of a function's body are passed on. -/
theorem advance_functionTarget (tokens : List Token) :
    braces.advance none (word "l-eval" :: word "--fn" :: tokens) =
      (word "l-eval" :: word "--fn" :: (braces.advance none tokens).1,
        (braces.advance none tokens).2) := by
  have hname : braces.step none (word "l-eval") = ([word "l-eval"], none) :=
    Delimiters.step_of_opens_eq_zero (by decide) (by decide)
  have hflag : braces.step none (word "--fn") = ([word "--fn"], none) :=
    Delimiters.step_of_opens_eq_zero (by decide) (by decide)
  rw [Delimiters.advance_cons, hname, Delimiters.advance_cons, hflag]
  rfl

section Enclosed

variable {v : Text} {tokens : List Token}
  (hlex : lex (Builtin.functionTarget v) =
    .ok (word "l-eval" :: word "--fn" :: braces.enclose tokens))
  (htight : ∀ t ∈ tokens, t.IsTight)

include hlex htight in
theorem parse_of_filled (h : braces.depthAfter 1 tokens = some 1) :
    parse (Builtin.functionTarget v) = .ok [word "l-eval", word "--fn", raw (written tokens)] := by
  have hone := Delimiters.advance_enclose (d := braces) (by decide) (by decide) htight h
  have hgroup : braces.group (word "l-eval" :: word "--fn" :: braces.enclose tokens) =
      .ok [word "l-eval", word "--fn", raw (written tokens)] := by
    rw [Delimiters.group_eq_ok_iff, advance_functionTarget, hone]
    rfl
  rw [parse_eq_grouped hlex, grouped, hgroup]
  rfl

include hlex htight in
theorem parse_of_open {reached : Nat} (hreached : 1 < reached)
    (h : braces.depthAfter 1 tokens = some reached) :
    parse (Builtin.functionTarget v) = .error (.unterminated '{' '}') := by
  obtain ⟨group, hopen⟩ := Delimiters.advance_enclose_open (d := braces) (by decide) (by decide)
    htight hreached h
  have hgroup : braces.group (word "l-eval" :: word "--fn" :: braces.enclose tokens) =
      .error (.unterminated '{' '}') := by
    rw [Delimiters.group, Delimiters.groupFrom_eq_advance, advance_functionTarget, hopen]
    rfl
  rw [parse_eq_grouped hlex, grouped, hgroup]
  rfl

end Enclosed

theorem head_of_ofWord_append {w x : Text} {more rest : List Token} (hw : w ≠ [])
    (h : ofWord w ++ more = word x :: rest) : x ≠ [] ∧ x.head? = w.head? := by
  obtain ⟨marks, hmarks⟩ : Text.dropEndWhile (· == ';') w <+: w := List.rdropWhile_prefix _ w
  simp only [ofWord] at h
  split_ifs at h with hempty
  · have hnil : Text.dropEndWhile (· == ';') w = [] := by simpa using hempty
    obtain ⟨c, w, rfl⟩ := List.exists_cons_of_ne_nil hw
    rw [hnil, List.length_nil, List.length_cons, Nat.sub_zero, List.replicate_succ] at h
    cases h
  · have hnonempty : Text.dropEndWhile (· == ';') w ≠ [] := by simpa using hempty
    obtain ⟨hx, -⟩ := List.cons.inj h
    cases hx
    refine ⟨hnonempty, ?_⟩
    conv_rhs => rw [← hmarks]
    rw [List.head?_append_of_ne_nil _ hnonempty]

/-- If nothing can be trimmed off a text, nor off its tokens in braces, then nothing can be
trimmed off its tokens. -/
theorem Spaced.tight_lastWhole {v : Text} {words : List Text} (h : Spaced v words)
    (hv : v = [] ∨ Tight v) (htight : ∀ t ∈ braces.enclose (lastWhole words), t.IsTight) :
    ∀ t ∈ lastWhole words, t.IsTight := by
  rcases hv with rfl | hv
  · rw [h.eq_nil]
    simp [lastWhole]
  have hinert : IsInert '}' := isInert_of_isCloser (by decide)
  obtain ⟨before, w, rfl, hlast, -⟩ := h.glue_back hv.nonempty
    (fun c hc => not_separator_of_not_blank (hv.last c hc)) hinert.notSeparator hinert.notQuote
  obtain ⟨first, rest, hwords, hhead, -⟩ := h.glue_front hv.nonempty
    (fun c hc => not_separator_of_not_blank (hv.head c hc)) hinert.notSeparator hinert.notQuote
  have hw := (h.isWord w (by simp)).nonempty
  rw [lastWhole_snoc] at htight ⊢
  cases before with
  | nil =>
      obtain ⟨rfl, rfl⟩ := List.cons.inj hwords
      have hone : Tight w := ⟨hw, hhead ▸ hv.head, hlast ▸ hv.last⟩
      exact List.forall_mem_singleton.mpr hone
  | cons f more =>
      rw [List.cons_append] at hwords
      obtain ⟨rfl, rfl⟩ := List.cons.inj hwords
      have hf := (h.isWord f (by simp)).nonempty
      have hnonempty : (f :: more).flatMap ofWord ≠ [] := by
        rw [List.flatMap_cons]
        exact List.append_ne_nil_of_left_ne_nil (ofWord_ne_nil hf) _
      rw [enclose_append _ hnonempty (by simp)] at htight
      obtain ⟨hfront, hback⟩ := List.forall_mem_append.mp htight
      have hclosed : Tight (w ++ ['}']) :=
        hback (Token.word (w ++ ['}'])) (by simp [glueBack, Token.word, braces])
      have hend : Tight w := by
        refine ⟨hw, ?_, hlast ▸ hv.last⟩
        rw [← List.head?_append_of_ne_nil w hw]
        exact hclosed.head
      refine List.forall_mem_append.mpr ⟨?_, List.forall_mem_singleton.mpr hend⟩
      obtain ⟨x, tokens, hglue, hshape⟩ :=
        glueFront_eq_cons braces.opener ((f :: more).flatMap ofWord)
      rw [hglue] at hfront
      obtain ⟨hopened, hrest⟩ := List.forall_mem_cons.mp hfront
      rcases hshape with ⟨hnil, -⟩ | hshape | ⟨-, hsame, -⟩
      · exact absurd hnil hnonempty
      · have hstart := hshape
        rw [List.flatMap_cons] at hstart
        obtain ⟨hx, hxhead⟩ := head_of_ofWord_append hf hstart
        have hxlast : ∀ c ∈ x.getLast?, Text.isBlank c = false := by
          rw [← List.getLast?_cons_of_ne_nil hx]
          exact hopened.last
        rw [hshape]
        refine List.forall_mem_cons.mpr ⟨⟨hx, ?_, hxlast⟩, hrest⟩
        show ∀ c ∈ x.head?, _
        rw [hxhead, ← hhead]
        exact hv.head
      · rwa [hsame]

/-- The words of a text that keeps its spelling, and the words of the text in braces. -/
theorem exists_wrap_of_keepsSpelling {v : Text} (h : keepsSpelling v = true) :
    ∃ words wrapped, Spaced v words ∧ Spaced ('{' :: v ++ ['}']) wrapped ∧
      wrapped.flatMap ofWord = braces.enclose (lastWhole words) ∧
      (∀ w ∈ wrapped, w.head? ≠ some '#') ∧ (∀ t ∈ lastWhole words, t.IsTight) ∧
      written (lastWhole words) = v := by
  obtain ⟨words, hscan, hcomment, htight, htext⟩ := keepsSpelling_iff.mp h
  have hspaced := scan_eq_ok_iff.mp hscan
  have hv : v = [] ∨ Tight v := by
    rw [← htext]
    exact tight_written htight
  obtain ⟨wrapped, hwrapped, htokens, hcomments⟩ := hspaced.wrap hv
  exact ⟨words, wrapped, hspaced, hwrapped, htokens, hcomments.mpr hcomment, htight, htext⟩

/-- **A text in braces is read back as the text** exactly if its tokens are written as it is
and it fills the group around it. -/
theorem parse_functionTarget_eq_ok_iff (v : Text) :
    parse (Builtin.functionTarget v) = .ok [word "l-eval", word "--fn", raw v] ↔
      keepsSpelling v = true ∧ fillsGroup v = true := by
  constructor
  · intro hparse
    obtain ⟨lexed, hlex⟩ := exists_lex_of_parse hparse
    obtain ⟨words, hspaced⟩ := exists_spaced_of_lex hlex
    have hraw := mem_advance_of_parse hlex hparse (v := v) (by simp)
    have hlexed : ∀ t ∈ lexed, t.IsLexed := fun t ht => (isLexed_of_lex hlex t ht).1
    have hv := (length_le_of_mem_advance (by simp) hlexed hraw).1
    obtain ⟨wrapped, hwrapped, htokens, hcomments⟩ := hspaced.wrap hv
    have hread := lex_functionTarget hwrapped
    cases hlex.symm.trans hread
    have hbody : raw v ∈ (braces.advance none (ofWords wrapped)).1 := by
      rw [advance_functionTarget] at hraw
      simpa [raw, word] using hraw
    obtain ⟨-, hlong, hall⟩ := length_le_of_mem_advance (by simp)
      (fun t ht => hlexed t (by simp [ht])) hbody
    -- Nothing may be lost: not to a comment, not to trimming, and not to another group.
    obtain ⟨hshort, hwhole⟩ := length_writtenBehind_ofWords wrapped
    have hspread : spread wrapped ≤ v.length + 3 := by simpa using hwrapped.spread_le.1
    have hnone : pendingSize none = 0 := rfl
    have hcomment := hwhole (by omega)
    obtain ⟨htights, front, last, hcut, hfront, hlast⟩ := hall (by omega)
    rw [ofWords_eq_flatMap hcomment, htokens] at htights hcut hread
    have htight := hspaced.tight_lastWhole hv htights
    have hdepth : braces.depthAfter 1 (lastWhole words) = some 1 := by
      rcases List.eq_nil_or_concat' words with rfl | ⟨before, w, rfl⟩
      · rfl
      · rw [lastWhole_snoc] at htight hcut ⊢
        exact depthAfter_of_last htight hcut hfront hlast
    have htext : written (lastWhole words) = v := by
      have hsame := (parse_of_filled hread htight hdepth).symm.trans hparse
      simpa [raw] using hsame
    exact ⟨keepsSpelling_iff.mpr ⟨words, hspaced.scan_eq, hcomments.mp hcomment, htight, htext⟩,
      (fillsGroup_eq_true_iff hspaced.scan_eq).mpr hdepth⟩
  · rintro ⟨hspelling, hfills⟩
    obtain ⟨words, wrapped, hspaced, hwrapped, htokens, hcomment, htight, htext⟩ :=
      exists_wrap_of_keepsSpelling hspelling
    have hdepth := (fillsGroup_eq_true_iff hspaced.scan_eq).mp hfills
    have hlex := lex_functionTarget hwrapped
    rw [ofWords_eq_flatMap hcomment, htokens] at hlex
    rw [parse_of_filled hlex htight hdepth, htext]

/-- **Whether the body of a function can be read back.** The text that stands for a function
with a raw group as its body is parsed into the call of that body exactly if the tokens of the
body are written as it is and it fills a group. In an expression whose blanks are all
separators only the second can fail, and then the text cannot be parsed; it holds of every
body that does not end with a semicolon. -/
theorem parse_functionTarget {e : Text} {tokens : List Token} (hparse : parse e = .ok tokens)
    {v : Text} (hraw : raw v ∈ tokens) :
    (parse (Builtin.functionTarget v) = .ok [word "l-eval", word "--fn", raw v] ↔
        keepsSpelling v = true ∧ fillsGroup v = true) ∧
      (PlainlySpaced e →
        parse (Builtin.functionTarget v) =
            (if fillsGroup v then .ok [word "l-eval", word "--fn", raw v]
              else .error (.unterminated '{' '}')) ∧
          (v.getLast? ≠ some ';' → fillsGroup v = true)) := by
  refine ⟨parse_functionTarget_eq_ok_iff v, fun hblank => ?_⟩
  obtain ⟨inner, hencloses⟩ := encloses_of_parse hblank hparse hraw
  obtain ⟨front, depth, w, hends, hplain⟩ := hencloses.exists_last
  have hinside := hends.inside
  have htight : ∀ t ∈ front ++ piece w, t.IsTight := fun t ht => (hends.held t ht).tight
  have hdepth : braces.depthAfter 1 (front ++ piece w) =
      some (depth + braces.opens w - braces.closes w) := by
    rw [braces.depthAfter_append, hends.holds.depthAfter, Option.bind_some,
      depthAfter_piece hinside]
  refine ⟨?_, fun hlast => hends.fillsGroup_iff.mpr (hplain hlast)⟩
  by_cases hfills : depth + braces.opens w = braces.closes w + 1
  · rw [hfills, Nat.add_sub_cancel_left] at hdepth
    rw [if_pos (hends.fillsGroup_iff.mpr hfills),
      parse_of_filled hends.lex_functionTarget htight hdepth, ← hends.text]
  · rw [if_neg (by rw [hends.fillsGroup_iff]; exact hfills)]
    exact parse_of_open hends.lex_functionTarget htight (by omega) hdepth

theorem parse_functionTarget_nested :
    parse (Builtin.functionTarget "l-echo \x7ba b\x7d; l-echo (c)") =
      .ok [word "l-eval", word "--fn", raw "l-echo \x7ba b\x7d; l-echo (c)"] := by
  have hblank : PlainlySpaced "l-fn f \x7bl-echo \x7ba b\x7d ; l-echo (c)\x7d" := by decide
  have hparse : parse "l-fn f \x7bl-echo \x7ba b\x7d ; l-echo (c)\x7d" =
      .ok [word "l-fn", word "f", raw "l-echo \x7ba b\x7d; l-echo (c)"] := by decide
  have hraw : raw "l-echo \x7ba b\x7d; l-echo (c)" ∈
      [word "l-fn", word "f", raw "l-echo \x7ba b\x7d; l-echo (c)"] := by decide
  have hbody := (parse_functionTarget hparse hraw).2 hblank
  rw [hbody.1, hbody.2 (by decide)]
  rfl

/-- A group in front of a semicolon at the end of a body: the function can be defined, but
its call cannot be parsed. -/
theorem functionTarget_unterminated :
    parse "l-fn f \x7bl-echo \x7ba\x7d ; \x7d" =
        .ok [word "l-fn", word "f", raw "l-echo \x7ba\x7d;"] ∧
      parse (Builtin.functionTarget "l-echo \x7ba\x7d;") = .error (.unterminated '{' '}') := by
  decide +kernel

end Conch.Token
