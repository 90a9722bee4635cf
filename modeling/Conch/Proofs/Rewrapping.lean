import Conch.Builtin.Names
import Conch.Proofs.Enclosing
import Conch.Proofs.Sequencing

/-!
What a raw group holds, and how deep its text is nested when it is put in braces again. A
function is stored as a text with its body in braces, so this bears on whether the function
can be called.

The tokens between the braces of a group are written one behind the other (`Encloses`). A
statement mark is written glued to the word before it. If a mark is the last of them and the
word before it closes a group, then its closers stand in front of a semicolon in the text
that is wrapped again, where they no longer count, and the body does not fill the group that
is put around it (`fillsGroup`).

* `encloses_of_parse`: every raw group of an expression holds such tokens.
* `EndsWith.fillsGroup_iff`: the last word of a body decides whether it fills a group.
-/

namespace Conch.Token

open Text (Tight)

/-! ### Blanks -/

/-- A text whose blanks are all separators. -/
def PlainlySpaced (s : Text) : Prop := ∀ c ∈ s, Text.isBlank c = true → isSeparator c = true

instance (s : Text) : Decidable (PlainlySpaced s) :=
  List.decidableBAll (fun c => Text.isBlank c = true → isSeparator c = true) s

theorem PlainlySpaced.mono {s t : Text} (h : PlainlySpaced s) (hsub : ∀ c ∈ t, c ∈ s) :
    PlainlySpaced t :=
  fun c hc => h c (hsub c hc)

theorem IsWord.tight {w : Text} (hw : IsWord w) (hblank : PlainlySpaced w) : Tight w where
  nonempty := hw.nonempty
  head := by
    cases w with
    | nil => simp
    | cons c w =>
        rintro d hd
        cases hd
        cases hc : Text.isBlank c with
        | false => rfl
        | true => exact (hblank c (by simp) hc).symm.trans hw.head_not_separator
  last := by
    obtain ⟨front, c, rfl⟩ := (List.eq_nil_or_concat' w).resolve_left hw.nonempty
    rintro d hd
    rw [List.getLast?_concat] at hd
    cases hd
    cases hc : Text.isBlank c with
    | false => rfl
    | true => exact (hblank c (by simp) hc).symm.trans hw.last_not_separator

/-- Every token of the lexer is a word that it takes as it is, or a mark, and has its
characters from the text. -/
theorem isLexed_of_lex {s : Text} {tokens : List Token} (h : lex s = .ok tokens) :
    ∀ t ∈ tokens, t.IsLexed ∧ ∀ c ∈ t.value, c ∈ s := by
  obtain ⟨words, hscan, rfl⟩ := lex_eq_ok_iff.mp h
  have hspaced := scan_eq_ok_iff.mp hscan
  intro t ht
  obtain ⟨w, hw, hmem⟩ := List.mem_flatMap.mp ht
  have hcomment : w.head? ≠ some '#' := by simpa using List.mem_takeWhile_imp hw
  have hword := (List.takeWhile_sublist _).subset hw
  rcases mem_ofWord (hspaced.isWord w hword) hcomment hmem with rfl | ⟨v, rfl, hv, more, rfl⟩
  · exact ⟨.inl rfl, by simp [split]⟩
  · exact ⟨.inr ⟨v, rfl, hv⟩, fun c hc => hspaced.mem hword (List.mem_append_left _ hc)⟩

/-! ### What a group holds -/

/-- A mark, or a word without blanks at its ends. -/
def IsHeld (token : Token) : Prop := token = split ∨ ∃ w, token = word w ∧ IsWord w ∧ Tight w

theorem isHeld_split : split.IsHeld := .inl rfl

theorem IsHeld.tight {token : Token} (h : token.IsHeld) : token.IsTight := by
  rcases h with rfl | ⟨w, rfl, -, htight⟩
  · exact isTight_split
  · exact htight

/-- Tokens that stand behind the opener of a group and leave it open, `depth` closers before
its end. -/
structure Holds (tokens : List Token) (depth : Nat) : Prop where
  held : ∀ t ∈ tokens, t.IsHeld
  lexed : ∀ t ∈ glueFront '{' tokens, t.IsLexed
  depthAfter : braces.depthAfter 1 tokens = some depth

/-- A text that was written with tokens between an opener and a closer. -/
structure Encloses (v : Text) (tokens : List Token) : Prop where
  text : v = written tokens
  held : ∀ t ∈ tokens, t.IsHeld
  lexed : ∀ t ∈ braces.enclose tokens, t.IsLexed
  depthAfter : braces.depthAfter 1 tokens = some 1

/-- The text of an open group is that of the tokens that it holds, maybe behind a blank. -/
def Opened (group : Group) : Prop :=
  ∃ tokens pad, Holds tokens group.depth ∧ (∀ b ∈ pad, Text.isBlank b = true) ∧
    (tokens = [] → pad = []) ∧
    group = Group.ofText ('{' :: (pad ++ written tokens)) group.depth

theorem Holds.tight {tokens : List Token} {depth : Nat} (h : Holds tokens depth) :
    ∀ t ∈ tokens, t.IsTight := fun t ht => (h.held t ht).tight

/-- A group goes on holding tokens of the lexer. -/
theorem Holds.append {tokens more : List Token} {depth reached : Nat} (h : Holds tokens depth)
    (hheld : ∀ t ∈ more, t.IsHeld) (hlexed : ∀ t ∈ more, t.IsLexed)
    (hdepth : braces.depthAfter depth more = some reached) : Holds (tokens ++ more) reached where
  held := List.forall_mem_append.mpr ⟨h.held, hheld⟩
  lexed := by
    cases tokens with
    | nil =>
        have hopener : IsInert '{' := isInert_of_isOpener (by decide)
        refine forall_mem_glueFront (.inr ⟨_, rfl, hopener.lexedWord⟩) ?_ hlexed
        rintro w (hsplit | ⟨v, hv, hlexed⟩)
        · cases hsplit
        · cases hv
          exact .inr ⟨_, rfl, hopener.lexedWord_cons hlexed⟩
    | cons token rest =>
        rw [glueFront_append _ (List.cons_ne_nil token rest)]
        exact List.forall_mem_append.mpr ⟨h.lexed, hlexed⟩
  depthAfter := by
    rw [braces.depthAfter_append, h.depthAfter]
    exact hdepth

/-- What is left of a word without the delimiters around it: a word, if anything. -/
def piece (w : Text) : List Token := if w.isEmpty then [] else [word w]

theorem IsWord.piece_eq {w : Text} (hw : IsWord w) : piece w = [word w] := by
  simp [piece, hw.nonempty]

theorem written_piece (w : Text) : written (piece w) = w := by
  cases w with
  | nil => rfl
  | cons c w => simp [piece, written, writtenBehind, word, source]

theorem kind_of_mem_piece {w : Text} {t : Token} (h : t ∈ piece w) : t.kind = .word := by
  rw [piece] at h
  split_ifs at h
  · cases h
  · rw [List.mem_singleton.mp h]
    rfl

theorem held_piece {w : Text} (hw : w = [] ∨ IsWord w) (hblank : PlainlySpaced w) :
    ∀ t ∈ piece w, t.IsHeld := by
  rcases hw with rfl | hw
  · simp [piece]
  · rw [hw.piece_eq]
    exact List.forall_mem_singleton.mpr (.inr ⟨w, rfl, hw, hw.tight hblank⟩)

theorem depthAfter_piece {depth : Nat} {w : Text}
    (h : braces.closes w < depth + braces.opens w) :
    braces.depthAfter depth (piece w) = some (depth + braces.opens w - braces.closes w) := by
  cases w with
  | nil => rfl
  | cons c w =>
      have hsingle : piece (c :: w) = [word (c :: w)] := rfl
      rw [hsingle, Delimiters.depthAfter_word, if_pos h, Delimiters.depthAfter_nil]

theorem holds_nil : Holds [] 1 where
  held := by simp
  lexed := List.forall_mem_singleton.mpr
    (.inr ⟨_, rfl, (isInert_of_isOpener (by decide)).lexedWord⟩)
  depthAfter := rfl

/-- The word behind the last opener of a word is held by the group that this opener opens. -/
theorem holds_piece {w : Text} (hw : w = [] ∨ IsWord w) (hblank : PlainlySpaced w)
    (hmarked : w.getLast? ≠ some ';') (h : braces.closes w < 1 + braces.opens w) :
    Holds (piece w) (1 + braces.opens w - braces.closes w) where
  held := held_piece hw hblank
  lexed := by
    have hopener : IsInert '{' := isInert_of_isOpener (by decide)
    rcases hw with rfl | hw
    · exact holds_nil.lexed
    · have hglue : glueFront '{' (piece w) = [word ('{' :: w)] := by
        simp [piece, hw.nonempty, glueFront, word]
      rw [hglue]
      refine List.forall_mem_singleton.mpr (.inr ⟨_, rfl, ?_, by simp, ?_⟩)
      · exact hw.cons hopener.notSeparator hopener.notQuote
      · rwa [List.getLast?_cons_of_ne_nil hw.nonempty]
  depthAfter := depthAfter_piece h

theorem enclose_append (d : Delimiters) {first second : List Token} (hfirst : first ≠ [])
    (hsecond : second ≠ []) :
    d.enclose (first ++ second) = glueFront d.opener first ++ glueBack d.closer second := by
  rw [Delimiters.enclose, glueFront_append _ hfirst, glueBack_append _ _ hsecond]

/-- The tokens that a group holds, and what stands in front of its last closer, were made by
the lexer with the delimiters around them. -/
theorem Holds.lexed_enclose {tokens : List Token} {depth : Nat} (h : Holds tokens depth) {w : Text}
    (hw : w = [] ∨ IsWord w) (hcomment : tokens ≠ [] → w.head? ≠ some '#') :
    ∀ t ∈ braces.enclose (tokens ++ piece w), t.IsLexed := by
  have hopener : IsInert '{' := isInert_of_isOpener (by decide)
  have hcloser : IsInert '}' := isInert_of_isCloser (by decide)
  rcases hw with rfl | hw
  · rw [piece, List.isEmpty_nil, if_pos rfl, List.append_nil]
    refine forall_mem_glueBack (.inr ⟨_, rfl, hcloser.lexedWord⟩) ?_ h.lexed
    rintro w (hsplit | ⟨v, hv, hlexed⟩)
    · cases hsplit
    · cases hv
      exact .inr ⟨_, rfl, hcloser.lexedWord_snoc hlexed⟩
  · have hclosed := hw.snoc hcloser.notSeparator hcloser.notQuote
    have hmarked : (w ++ ['}']).getLast? ≠ some ';' := by
      rw [List.getLast?_concat]
      decide
    rw [hw.piece_eq]
    by_cases hempty : tokens = []
    · have hlexed : LexedWord ('{' :: w ++ ['}']) := by
        refine ⟨hclosed.cons hopener.notSeparator hopener.notQuote, by simp, ?_⟩
        rwa [List.cons_append, List.getLast?_cons_of_ne_nil hclosed.nonempty]
      rw [hempty]
      exact List.forall_mem_singleton.mpr (.inr ⟨_, rfl, hlexed⟩)
    · have hlexed : LexedWord (w ++ ['}']) := by
        refine ⟨hclosed, ?_, hmarked⟩
        rw [List.head?_append_of_ne_nil _ hw.nonempty]
        exact hcomment hempty
      rw [enclose_append _ hempty (by simp)]
      exact List.forall_mem_append.mpr
        ⟨h.lexed, List.forall_mem_singleton.mpr (.inr ⟨_, rfl, hlexed⟩)⟩

theorem Holds.close {tokens : List Token} {depth : Nat} (h : Holds tokens depth) {w : Text}
    (hw : w = [] ∨ IsWord w) (hblank : PlainlySpaced w)
    (hcomment : tokens ≠ [] → w.head? ≠ some '#')
    (hdepth : depth + braces.opens w = braces.closes w + 1) :
    Encloses (written (tokens ++ piece w)) (tokens ++ piece w) where
  text := rfl
  held := List.forall_mem_append.mpr ⟨h.held, held_piece hw hblank⟩
  lexed := h.lexed_enclose hw hcomment
  depthAfter := by
    rw [braces.depthAfter_append, h.depthAfter, Option.bind_some, depthAfter_piece (by omega),
      hdepth, Nat.add_sub_cancel_left]

/-! ### Texts of groups -/

section Texts

variable {tokens : List Token} (htight : ∀ t ∈ tokens, t.IsTight) {pad : Text}
  (hpad : ∀ b ∈ pad, Text.isBlank b = true) (hempty : tokens = [] → pad = [])

include htight hempty in
theorem tight_opened : Tight ('{' :: (pad ++ written tokens)) := by
  have hblank : Text.isBlank '{' = false := by decide
  rcases tight_written htight with hnone | hwritten
  · cases tokens with
    | nil => simpa [hempty rfl, hnone] using Tight.cons hblank (.inl rfl)
    | cons token rest =>
        have hsource : token.source = [] := (List.append_eq_nil_iff.mp hnone).1
        exact absurd hsource (htight token (by simp)).nonempty
  · exact (Tight.cons hblank (.inl rfl)).append hwritten pad

include hpad hempty in
theorem exists_pad (token : Token) :
    ∃ pad', (∀ b ∈ pad', Text.isBlank b = true) ∧
      pad ++ written tokens ++ writtenBehind [token] = pad' ++ written (tokens ++ [token]) := by
  cases tokens with
  | nil =>
      rw [hempty rfl]
      cases hsplit : token.isSplit with
      | true => exact ⟨[], by simp, by simp [written, writtenBehind, hsplit]⟩
      | false =>
          exact ⟨[' '], by simpa using show Text.isBlank ' ' = true by decide,
            by simp [written, writtenBehind, hsplit]⟩
  | cons first rest =>
      refine ⟨pad, hpad, ?_⟩
      rw [written_append (List.cons_ne_nil first rest), List.append_assoc]

include htight hpad hempty in
/-- The body of a group that ends with a closer behind `w`. -/
theorem body_opened {w : Text} (hw : ∀ t ∈ piece w, t.IsTight) :
    braces.body ('{' :: (pad ++ written tokens) ++ ' ' :: (w ++ ['}'])) =
      written (tokens ++ piece w) := by
  have hstart : Text.afterStart? ['{'] ('{' :: (pad ++ written tokens) ++ ' ' :: (w ++ ['}'])) =
      some (pad ++ written tokens ++ ' ' :: w ++ ['}']) := by
    simp [Text.afterStart?]
  have hend : Text.beforeEnd? ['}'] (pad ++ written tokens ++ ' ' :: w ++ ['}']) =
      some (pad ++ written tokens ++ ' ' :: w) := Text.beforeEnd?_append _ _
  have hblank : Text.isBlank ' ' = true := by decide
  simp only [Delimiters.body, braces, hstart, Option.getD_some, hend]
  have hall := tight_written (List.forall_mem_append.mpr ⟨htight, hw⟩)
  cases w with
  | nil =>
      have hnone : piece [] = [] := rfl
      rw [hnone, List.append_nil] at hall ⊢
      exact Text.trim_pad hpad (by simpa using hblank) hall
  | cons c w =>
      have hsingle : piece (c :: w) = [word (c :: w)] := rfl
      rw [hsingle] at hall ⊢
      obtain ⟨pad', hpad', htext⟩ := exists_pad hpad hempty (word (c :: w))
      have hbehind : writtenBehind [word (c :: w)] = ' ' :: c :: w := by
        simp [writtenBehind, word, isSplit, source]
      have hnone : ∀ b ∈ ([] : Text), Text.isBlank b = true := by simp
      rw [← hbehind, htext]
      simpa using Text.trim_pad hpad' hnone hall

end Texts

/-! ### Groups of a run -/

theorem not_mem_of_closers {s : Text} (h : ∀ c ∈ s, isCloser c = true) : '"' ∉ s :=
  fun hmem => absurd (h _ hmem) (by decide)

/-- A word cut behind one of the closers at its end. -/
theorem exists_inner {w : Text} (hw : IsWord w) (hblank : PlainlySpaced w) {needed : Nat}
    (hpositive : 0 < needed) (h : needed ≤ braces.closes w) :
    ∃ inner tail, splitAfterCloses braces.closer needed w = (inner ++ ['}'], tail) ∧
      (inner = [] ∨ IsWord inner) ∧ PlainlySpaced inner ∧
      (inner ≠ [] → inner.head? = w.head?) ∧
      braces.closes inner + 1 = needed ∧ braces.opens inner = braces.opens w := by
  obtain ⟨inner, tail, hsplit, hwhole, htail, hcloses, hopens⟩ :=
    braces.splitAfterCloses_spec (by decide) hpositive h
  refine ⟨inner, tail, hsplit, ?_, ?_, ?_, hcloses, hopens⟩
  · rw [hwhole] at hw
    refine hw.of_append_bare (not_mem_of_closers (List.forall_mem_cons.mpr ⟨by decide, htail⟩))
  · exact hblank.mono fun c hc => by simp [hwhole, hc]
  · intro hnonempty
    rw [hwhole, List.head?_append_of_ne_nil _ hnonempty]

theorem mem_finish {d : Delimiters} {group : Group} {head tail v : Text}
    (h : raw v ∈ d.finish group head tail) : v = d.body (group.push head).text := by
  rw [Delimiters.finish, List.mem_cons] at h
  rcases h with h | h
  · exact congrArg Token.value h
  · split_ifs at h
    · cases h
    · cases List.mem_singleton.mp h

/-- Inside a group, one more token of the lexer is held by the group or ends it. -/
theorem step_inside {group : Group} (hgroup : Opened group) {token : Token}
    (hlexed : token.IsLexed) (hblank : PlainlySpaced token.value) :
    (∀ v, raw v ∈ (braces.step (some group) token).1 → ∃ tokens, Encloses v tokens) ∧
      ∀ g ∈ (braces.step (some group) token).2, Opened g := by
  obtain ⟨tokens, pad, hholds, hpad, hempty, htext⟩ := hgroup
  have htight := tight_opened hholds.tight hempty
  have hdepth := Delimiters.depthAfter_pos Nat.one_pos hholds.depthAfter
  rcases hlexed with rfl | ⟨w, rfl, hw⟩
  · have hmark := isHeld_split.tight
    obtain ⟨pad', hpad', hwritten⟩ := exists_pad hpad hempty split
    have hstep : braces.step (some group) split = ([], some (group.pushToken split)) := rfl
    rw [hstep]
    refine ⟨by simp, ?_⟩
    rintro g ⟨⟩
    refine ⟨tokens ++ [split], pad', ?_, hpad', by simp, ?_⟩
    · exact hholds.append (by simpa using isHeld_split) (by simp [IsLexed])
        (by rw [Delimiters.depthAfter_other _ _ (by decide), Delimiters.depthAfter_nil]; rfl)
    · rw [htext, Group.pushToken_ofText htight hmark, List.cons_append, hwritten]
      rfl
  · have hheld : (word w).IsHeld := .inr ⟨w, rfl, hw.isWord, hw.isWord.tight hblank⟩
    have hwtight := hheld.tight
    show (∀ v, raw v ∈ (braces.stepInside group (word w)).1 → _) ∧
      ∀ g ∈ (braces.stepInside group (word w)).2, _
    rw [braces.stepInside_word hdepth]
    split_ifs with hopen
    · obtain ⟨pad', hpad', hwritten⟩ := exists_pad hpad hempty (word w)
      refine ⟨by simp, ?_⟩
      rintro g ⟨⟩
      refine ⟨tokens ++ [word w], pad', ?_, hpad', by simp, ?_⟩
      · refine hholds.append (by simpa using hheld) ?_ ?_
        · exact List.forall_mem_singleton.mpr (.inr ⟨w, rfl, hw⟩)
        · rw [Delimiters.depthAfter_word, if_pos hopen, Delimiters.depthAfter_nil]
      · have hpush := Group.pushToken_ofText htight hwtight group.depth
        rw [← htext, List.cons_append, hwritten] at hpush
        have hsource : group.pushToken (word w) = group.push w := rfl
        rw [hsource] at hpush
        rw [hpush]
        rfl
    · refine ⟨fun v hv => ?_, by simp⟩
      have hneeded : group.depth + braces.opens w ≤ braces.closes w := by omega
      obtain ⟨inner, tail, hsplit, hinner, hinnerBlank, hhead, hcloses, hopens⟩ :=
        exists_inner hw.isWord hblank (by omega) hneeded
      have hclosed : Tight (inner ++ ['}']) :=
        Tight.snoc (by decide) (hinner.imp_right fun h => h.tight hinnerBlank)
      have hpiece : ∀ t ∈ piece inner, t.IsTight :=
        fun t ht => (held_piece hinner hinnerBlank t ht).tight
      have hvalue := mem_finish hv
      rw [hsplit, htext, Group.push_ofText htight.nonempty htight.last hclosed, Group.text_ofText,
        body_opened hholds.tight hpad hempty hpiece] at hvalue
      rw [hvalue]
      refine ⟨_, hholds.close hinner hinnerBlank (fun _ hcomment => ?_) (by omega)⟩
      have hnonempty : inner ≠ [] := by
        rintro rfl
        cases hcomment
      exact hw.notComment ((hhead hnonempty).symm.trans hcomment)

theorem IsWord.of_append_front {before rest : Text} (h : IsWord (before ++ rest))
    (hquote : '"' ∉ before) : rest = [] ∨ IsWord rest := by
  induction before with
  | nil => exact .inr h
  | cons c before ih =>
      obtain ⟨hne, hmore⟩ := not_or.mp (List.mem_cons.not.mp hquote)
      rcases h.of_cons_bare (Ne.symm hne) with hnil | hword
      · exact .inl (List.append_eq_nil_iff.mp hnil).2
      · exact ih hword hmore

/-- A group whose first word also brings its last closer. -/
theorem encloses_word {rest : Text} (hopened : IsWord ('{' :: rest))
    (hblank : PlainlySpaced ('{' :: rest)) (h : braces.opens rest + 1 ≤ braces.closes rest)
    {depth : Nat} {v : Text}
    (hv : raw v ∈ braces.finish ⟨[], depth⟩
      (splitAfterCloses braces.closer (braces.opens rest + 1) ('{' :: rest)).1
      (splitAfterCloses braces.closer (braces.opens rest + 1) ('{' :: rest)).2) :
    ∃ tokens, Encloses v tokens := by
  have hneeded : braces.opens rest + 1 ≤ braces.closes ('{' :: rest) := by
    rwa [braces.closes_cons_opener (by decide)]
  obtain ⟨inner, tail, hsplit, hinner, hinnerBlank, hhead, hcloses, hopens⟩ :=
    exists_inner hopened hblank (Nat.succ_pos _) hneeded
  have hopens' : braces.opens ('{' :: rest) = braces.opens rest + 1 :=
    braces.opens_cons_opener (by decide) rest
  cases inner with
  | nil =>
      rw [hopens'] at hopens
      cases hopens
  | cons c inner =>
      cases hhead (by simp)
      have hword : inner = [] ∨ IsWord inner :=
        (hinner.resolve_left (by simp)).of_cons_bare (by decide)
      have hwordBlank : PlainlySpaced inner := hinnerBlank.mono fun c hc => by simp [hc]
      have htight : ∀ t ∈ piece inner, t.IsTight :=
        fun t ht => (held_piece hword hwordBlank t ht).tight
      have hclosed : Tight ('{' :: inner ++ ['}']) :=
        Tight.snoc (by decide) (hinner.imp_right fun h => h.tight hinnerBlank)
      have hwritten : written (braces.enclose (piece inner)) = '{' :: inner ++ ['}'] := by
        cases inner with
        | nil => rfl
        | cons c inner =>
            simp [piece, Delimiters.enclose, glueFront, glueBack, written, writtenBehind, word,
              source, braces]
      have hvalue := mem_finish hv
      rw [hsplit, Group.push_first _ hclosed, Group.text_ofText, ← hwritten,
        braces.body_written_enclose htight] at hvalue
      have hinnerOpens : braces.opens ('{' :: inner) = braces.opens inner + 1 :=
        braces.opens_cons_opener (by decide) inner
      have hinnerCloses : braces.closes ('{' :: inner) = braces.closes inner :=
        braces.closes_cons_opener (by decide) inner
      rw [hvalue]
      exact ⟨_, holds_nil.close hword hwordBlank (fun h => absurd rfl h) (by omega)⟩

/-- What a word that opens a group does, seen as `s`: openers of the other kind in front of
the group are a word of their own. -/
theorem Delimiters.stepWord_opening {d : Delimiters} {s : Text} (h : 0 < d.opens s)
    (token : Token) :
    ∃ before rest, s = before ++ d.opener :: rest ∧ (∀ c ∈ before, isOpener c = true) ∧
      d.stepWord token s =
        if d.opens rest + 1 ≤ d.closes rest then
          (piece before ++ d.finish ⟨[], d.opens rest + 1⟩
            (splitAfterCloses d.closer (d.opens rest + 1) (d.opener :: rest)).1
            (splitAfterCloses d.closer (d.opens rest + 1) (d.opener :: rest)).2, none)
        else
          (piece before,
            some (Group.push ⟨[], d.opens rest + 1 - d.closes rest⟩ (d.opener :: rest))) := by
  obtain ⟨hopener, before, rest, hwhole, hbefore⟩ := exists_opener h
  obtain ⟨htake, hdrop⟩ := cut_at_opener (fun c hc => (hbefore c hc).2) rest
  have hopens := opens_append_opener hopener hbefore rest
  have hcloses := d.closes_append_opener hopener before rest
  rw [← hwhole] at htake hdrop hopens hcloses
  rw [d.closes_cons_opener hopener] at hcloses
  refine ⟨before, rest, hwhole, fun c hc => (hbefore c hc).1, ?_⟩
  rw [stepWord]
  simp only [htake, hdrop, hopens, hcloses, Nat.add_one_ne_zero, if_false]
  rfl

/-- What a word that opens a raw group does outside of groups. -/
theorem exists_step_opening {w : Text} (h : 0 < braces.opens w) :
    ∃ before rest, w = before ++ '{' :: rest ∧ '"' ∉ before ∧
      braces.step none (word w) =
        if braces.opens rest + 1 ≤ braces.closes rest then
          (piece before ++ braces.finish ⟨[], braces.opens rest + 1⟩
            (splitAfterCloses braces.closer (braces.opens rest + 1) ('{' :: rest)).1
            (splitAfterCloses braces.closer (braces.opens rest + 1) ('{' :: rest)).2, none)
        else
          (piece before,
            some (Group.push ⟨[], braces.opens rest + 1 - braces.closes rest⟩ ('{' :: rest))) := by
  obtain ⟨before, rest, hwhole, hbefore, hstep⟩ := Delimiters.stepWord_opening h (word w)
  refine ⟨before, rest, hwhole, fun hmem => absurd (hbefore _ hmem) (by decide), ?_⟩
  rw [Delimiters.step_of_opens_pos h, hstep]
  rfl

theorem not_mem_piece {v w : Text} : raw v ∉ piece w := fun h => by
  cases kind_of_mem_piece h

/-- Outside of groups, a token of the lexer stands for itself or is a word that opens a group. -/
theorem step_none_cases {token : Token} (hlexed : token.IsLexed) :
    (braces.step none token = ([token], none) ∧ ∀ v, raw v ∉ [token]) ∨
      ∃ w, token = word w ∧ LexedWord w ∧ 0 < braces.opens w := by
  have hnotRaw : ∀ t : Token, t.kind ≠ .raw → ∀ v, raw v ∉ [t] := fun t ht v hv => by
    rw [← List.mem_singleton.mp hv] at ht
    exact ht rfl
  rcases hlexed with rfl | ⟨w, rfl, hw⟩
  · exact .inl ⟨rfl, hnotRaw split (by decide)⟩
  · by_cases hnone : braces.opens w = 0
    · exact .inl ⟨Delimiters.step_of_opens_eq_zero (by decide) hnone,
        hnotRaw (word w) (by simp [word])⟩
    · exact .inr ⟨w, rfl, hw, Nat.pos_of_ne_zero hnone⟩

/-- A group that is opened by a token of the lexer may end with it. -/
theorem step_outside {token : Token} (hlexed : token.IsLexed) (hblank : PlainlySpaced token.value) :
    (∀ v, raw v ∈ (braces.step none token).1 → ∃ tokens, Encloses v tokens) ∧
      ∀ g ∈ (braces.step none token).2, Opened g := by
  obtain ⟨hself, hnone⟩ | ⟨w, rfl, hw, hopens⟩ := step_none_cases hlexed
  · rw [hself]
    exact ⟨fun v hv => absurd hv (hnone v), by simp⟩
  obtain ⟨before, rest, hwhole, hquote, hstep⟩ := exists_step_opening hopens
  have hopened : IsWord ('{' :: rest) := by
    have hword := hw.isWord
    rw [hwhole] at hword
    exact (hword.of_append_front hquote).resolve_left (by simp)
  have hopenedBlank : PlainlySpaced ('{' :: rest) := hblank.mono fun c hc => by
    show c ∈ w
    rw [hwhole]
    exact List.mem_append_right _ hc
  rw [hstep]
  by_cases hclosed : braces.opens rest + 1 ≤ braces.closes rest
  · rw [if_pos hclosed]
    refine ⟨fun v hv => ?_, by simp⟩
    exact encloses_word hopened hopenedBlank hclosed
      ((List.mem_append.mp hv).resolve_left not_mem_piece)
  · rw [if_neg hclosed]
    refine ⟨fun v hv => absurd hv not_mem_piece, ?_⟩
    rintro g ⟨⟩
    have hrest : rest = [] ∨ IsWord rest := hopened.of_cons_bare (by decide)
    have hrestBlank : PlainlySpaced rest := hopenedBlank.mono fun c hc => by simp [hc]
    have hmarked : rest.getLast? ≠ some ';' := by
      intro hlast
      have hnonempty : rest ≠ [] := by
        rintro rfl
        cases hlast
      refine hw.notMarked ?_
      rw [hwhole, List.getLast?_append_of_ne_nil _ (by simp),
        List.getLast?_cons_of_ne_nil hnonempty, hlast]
    have hholds := holds_piece hrest hrestBlank hmarked (by omega)
    rw [Nat.add_comm 1] at hholds
    have hpush := Group.push_first (braces.opens rest + 1 - braces.closes rest)
      (hopened.tight hopenedBlank)
    rw [hpush]
    exact ⟨piece rest, [], hholds, by simp, by simp, by rw [written_piece]; rfl⟩

/-- **Every raw group of a run** holds tokens of the lexer that do not close it. -/
theorem advance_encloses {pending : Option Group} (hpending : ∀ g ∈ pending, Opened g)
    {tokens : List Token} (hlexed : ∀ t ∈ tokens, t.IsLexed ∧ PlainlySpaced t.value) :
    ∀ v, raw v ∈ (braces.advance pending tokens).1 → ∃ tokens, Encloses v tokens := by
  induction tokens generalizing pending with
  | nil => simp
  | cons token rest ih =>
      obtain ⟨⟨hfirst, hblank⟩, hrest⟩ := List.forall_mem_cons.mp hlexed
      have hstep : (∀ v, raw v ∈ (braces.step pending token).1 → ∃ tokens, Encloses v tokens) ∧
          ∀ g ∈ (braces.step pending token).2, Opened g := by
        cases pending with
        | none => exact step_outside hfirst hblank
        | some group => exact step_inside (hpending group rfl) hfirst hblank
      intro v hv
      rw [Delimiters.advance_cons] at hv
      rcases List.mem_append.mp hv with hv | hv
      · exact hstep.1 v hv
      · exact ih hstep.2 hrest v hv

/-! ### Raw groups of an expression -/

/-- What a step yields: groups of its kind, words, and the token that it reads. -/
theorem mem_step {d : Delimiters} {pending : Option Group} {token t : Token}
    (h : t ∈ (d.step pending token).1) : t.kind = d.kind ∨ t.kind = .word ∨ t = token := by
  have hfinish : ∀ group head tail, t ∈ d.finish group head tail →
      t.kind = d.kind ∨ t.kind = .word ∨ t = token := by
    intro group head tail hmem
    rcases List.mem_cons.mp hmem with rfl | hmem
    · exact .inl rfl
    · exact .inr (.inl (kind_of_mem_piece hmem))
  have hword : ∀ s, t ∈ (d.stepWord token s).1 → t.kind = d.kind ∨ t.kind = .word ∨ t = token := by
    intro s hmem
    simp only [Delimiters.stepWord] at hmem
    by_cases hnone : d.opens s = 0
    · rw [if_pos hnone] at hmem
      exact .inr (.inr (List.mem_singleton.mp hmem))
    rw [if_neg hnone] at hmem
    by_cases hclosed : d.opens s ≤ d.closes s
    · rw [if_pos hclosed] at hmem
      rcases List.mem_append.mp hmem with hmem | hmem
      · exact .inr (.inl (kind_of_mem_piece hmem))
      · exact hfinish _ _ _ hmem
    · rw [if_neg hclosed] at hmem
      exact .inr (.inl (kind_of_mem_piece hmem))
  cases pending with
  | none =>
      change t ∈ (d.stepOutside token).1 at h
      rw [Delimiters.stepOutside] at h
      split_ifs at h
      · exact .inr (.inr (List.mem_singleton.mp h))
      · exact hword _ h
      · exact hword _ h
      · exact .inr (.inr (List.mem_singleton.mp h))
  | some group =>
      change t ∈ (d.stepInside group token).1 at h
      simp only [Delimiters.stepInside] at h
      split_ifs at h
      · cases h
      · cases h
      · exact hfinish _ _ _ h

theorem mem_advance {d : Delimiters} {pending : Option Group} {tokens : List Token} {t : Token}
    (h : t ∈ (d.advance pending tokens).1) : t.kind = d.kind ∨ t.kind = .word ∨ t ∈ tokens := by
  induction tokens generalizing pending with
  | nil => cases h
  | cons token rest ih =>
      rw [Delimiters.advance_cons] at h
      rcases List.mem_append.mp h with h | h
      · rcases mem_step h with hkind | hkind | rfl
        · exact .inl hkind
        · exact .inr (.inl hkind)
        · exact .inr (.inr List.mem_cons_self)
      · rcases ih h with hkind | hkind | hmem
        · exact .inl hkind
        · exact .inr (.inl hkind)
        · exact .inr (.inr (List.mem_cons_of_mem token hmem))

theorem exists_lex_of_parse {e : Text} {tokens : List Token} (h : parse e = .ok tokens) :
    ∃ lexed, lex e = .ok lexed := by
  cases hlex : lex e with
  | error error =>
      simp only [parse, hlex] at h
      cases h
  | ok lexed => exact ⟨lexed, rfl⟩

/-- The raw groups of an expression are those of the pass that looks for braces. -/
theorem mem_advance_of_parse {e : Text} {lexed tokens : List Token} (hlex : lex e = .ok lexed)
    (hparse : parse e = .ok tokens) {v : Text} (hraw : raw v ∈ tokens) :
    raw v ∈ (braces.advance none lexed).1 := by
  rw [parse_eq_grouped hlex] at hparse
  obtain ⟨braced, ready, hbraced, hready, rfl⟩ := exists_of_grouped hparse
  obtain ⟨t, ht, hquote⟩ := List.mem_map.mp hraw
  have hself : t = raw v := by
    rw [unquote] at hquote
    split_ifs at hquote with hquoted
    · cases hquote
    · exact hquote
  rw [hself] at ht
  have hyield : raw v ∈ (parentheses.advance none braced).1 := by rwa [hready]
  rw [hbraced]
  rcases mem_advance hyield with hkind | hkind | hmem
  · cases hkind
  · cases hkind
  · exact hmem

/-- **Every raw group of an expression** holds what was written between its braces. -/
theorem encloses_of_parse {e : Text} (hblank : PlainlySpaced e) {tokens : List Token}
    (hparse : parse e = .ok tokens) {v : Text} (hraw : raw v ∈ tokens) :
    ∃ inner, Encloses v inner := by
  obtain ⟨lexed, hlex⟩ := exists_lex_of_parse hparse
  refine advance_encloses (by simp) (fun t ht => ?_) v (mem_advance_of_parse hlex hparse hraw)
  obtain ⟨hlexed, hchars⟩ := isLexed_of_lex hlex t ht
  exact ⟨hlexed, hblank.mono hchars⟩

/-! ### Wrapping again -/

/-- The tokens of words of which the last keeps its semicolons. -/
def lastWhole : List Text → List Token
  | [] => []
  | [w] => [word w]
  | w :: next :: rest => ofWord w ++ lastWhole (next :: rest)

/-- Whether a text in braces is one group. The closer behind it is glued to its last word, so
semicolons at its end are part of that word and hide the closers in front of them. -/
def fillsGroup (v : Text) : Bool :=
  match scan v with
  | .ok words => braces.depthAfter 1 (lastWhole words) == some 1
  | .error _ => false

theorem fillsGroup_eq_true_iff {v : Text} {words : List Text} (h : scan v = .ok words) :
    fillsGroup v = true ↔ braces.depthAfter 1 (lastWhole words) = some 1 := by
  simp [fillsGroup, h]

theorem lastWhole_snoc (words : List Text) (w : Text) :
    lastWhole (words ++ [w]) = words.flatMap ofWord ++ [word w] := by
  induction words with
  | nil => rfl
  | cons first rest ih =>
      cases hmore : rest ++ [w] with
      | nil => simp at hmore
      | cons next more =>
          rw [List.cons_append, hmore, lastWhole, ← hmore, ih, List.flatMap_cons, List.append_assoc]

/-- What an open group holds is scanned back into its tokens. -/
theorem Holds.spaced {tokens : List Token} {depth : Nat} (h : Holds tokens depth) :
    ∃ words, Spaced (written tokens) words ∧ words.flatMap ofWord = tokens := by
  cases tokens with
  | nil => exact ⟨[], .nil, rfl⟩
  | cons token rest =>
      rcases h.held token (by simp) with rfl | ⟨w, rfl, hw, -⟩
      · have hrest : ∀ t ∈ rest, t.IsLexed := fun t ht =>
          h.lexed t (List.mem_cons_of_mem _ (List.mem_cons_of_mem _ ht))
        have hmark : IsWord [';'] := isWord_singleton (by decide) (by decide)
        exact ⟨_, spaced_writtenBehind hmark hrest, flatMap_wordsBehind _ hrest⟩
      · obtain ⟨hfirst, hrest⟩ := List.forall_mem_cons.mp h.lexed
        have hmarked : w.getLast? ≠ some ';' := by
          rcases hfirst with hsplit | ⟨v, hv, hlexed⟩
          · cases hsplit
          · cases hv
            have hlast : ('{' :: w).getLast? ≠ some ';' := hlexed.notMarked
            rwa [List.getLast?_cons_of_ne_nil hw.nonempty] at hlast
        refine ⟨_, spaced_writtenBehind hw hrest, ?_⟩
        rw [flatMap_wordsBehind _ hrest, ofWord_of_notMarked hw.nonempty hmarked]
        rfl

/-- The text of a group, seen as the tokens in front of its last word and that word, which
takes the semicolons at the end with it. -/
structure EndsWith (v : Text) (front : List Token) (depth : Nat) (w : Text) : Prop where
  holds : Holds front depth
  text : v = written (front ++ piece w)
  word : w = [] ∨ IsWord w
  tight : w = [] ∨ Tight w
  alone : w = [] → front = []
  notComment : front ≠ [] → w.head? ≠ some '#'
  inside : braces.closes w < depth + braces.opens w

theorem Encloses.front {v : Text} {front more : List Token} (h : Encloses v (front ++ more))
    (hmore : more ≠ []) : ∃ depth, Holds front depth ∧ braces.depthAfter depth more = some 1 := by
  have hdepth := h.depthAfter
  rw [braces.depthAfter_append] at hdepth
  obtain ⟨depth, hfront, hend⟩ := Option.bind_eq_some_iff.mp hdepth
  refine ⟨depth, ⟨fun t ht => h.held t (List.mem_append_left _ ht), ?_, hfront⟩, hend⟩
  by_cases hempty : front = []
  · rw [hempty]
    exact holds_nil.lexed
  · intro t ht
    refine h.lexed t ?_
    rw [enclose_append _ hempty hmore]
    exact List.mem_append_left _ ht

theorem isWord_append_marks {w : Text} (hw : w = [] ∨ IsWord w) (n : Nat) :
    IsWord (w ++ List.replicate (n + 1) ';') := by
  induction n with
  | zero =>
      rcases hw with rfl | hw
      · exact isWord_singleton (by decide) (by decide)
      · exact hw.snoc (by decide) (by decide)
  | succ n ih =>
      rw [List.replicate_succ', ← List.append_assoc]
      exact ih.snoc (by decide) (by decide)

theorem tight_append_marks {w : Text} (hw : w = [] ∨ Tight w) (n : Nat) :
    Tight (w ++ List.replicate (n + 1) ';') := by
  induction n with
  | zero => exact Tight.snoc (by decide) hw
  | succ n ih =>
      rw [List.replicate_succ', ← List.append_assoc]
      exact Tight.snoc (by decide) (.inr ih)

theorem writtenBehind_marks (n : Nat) :
    writtenBehind (List.replicate n split) = List.replicate n ';' := by
  induction n with
  | zero => rfl
  | succ n ih =>
      rw [List.replicate_succ, writtenBehind_cons, ih]
      rfl

theorem depthAfter_marks (depth n : Nat) :
    braces.depthAfter depth (List.replicate n split) = some depth := by
  induction n with
  | zero => rfl
  | succ n ih => rwa [List.replicate_succ, Delimiters.depthAfter_other _ _ (by decide)]

theorem runs_append_marks (w : Text) (n : Nat) :
    braces.opens (w ++ List.replicate (n + 1) ';') = braces.opens w ∧
      braces.closes (w ++ List.replicate (n + 1) ';') = 0 := by
  constructor
  · rw [List.replicate_succ, Delimiters.opens, takeWhile_append_neg (by decide), Delimiters.opens]
  · refine braces.closes_eq_zero fun c hc => ?_
    rw [List.replicate_succ', ← List.append_assoc, List.getLast?_concat] at hc
    cases hc
    decide

theorem eq_marks_of_isSplit {tokens : List Token} (hheld : ∀ t ∈ tokens, t.IsHeld)
    (h : ∀ t ∈ tokens, t.isSplit = true) : tokens = List.replicate tokens.length split := by
  refine List.eq_replicate_iff.mpr ⟨rfl, fun t ht => ?_⟩
  rcases hheld t ht with rfl | ⟨w, rfl, -⟩
  · rfl
  · cases h _ ht

/-- Tokens end with marks, and with a word in front of the marks, if with anything. -/
theorem exists_marks {tokens : List Token} (h : ∀ t ∈ tokens, t.IsHeld) :
    ∃ front n, tokens = front ++ List.replicate n split ∧
      (front = [] ∨ ∃ before w, front = before ++ [word w]) := by
  refine ⟨tokens.rdropWhile isSplit, (tokens.rtakeWhile isSplit).length, ?_, ?_⟩
  · have hmarks : ∀ t ∈ tokens.rtakeWhile isSplit, t.isSplit = true :=
      fun t ht => List.mem_rtakeWhile_imp ht
    have hheld : ∀ t ∈ tokens.rtakeWhile isSplit, t.IsHeld := fun t ht =>
      h t ((List.rtakeWhile_suffix _ _).subset ht)
    rw [← eq_marks_of_isSplit hheld hmarks, List.rdropWhile_append_rtakeWhile]
  · rcases List.eq_nil_or_concat' (tokens.rdropWhile isSplit) with hnil | ⟨before, last, hlast⟩
    · exact .inl hnil
    · have hstart : tokens.rdropWhile isSplit <+: tokens := List.rdropWhile_prefix isSplit tokens
      have hmem : last ∈ tokens := hstart.subset (by simp [hlast])
      have hstop : ¬ last.isSplit = true := by
        have hnonempty : tokens.rdropWhile isSplit ≠ [] := by simp [hlast]
        have hnot := List.rdropWhile_last_not isSplit tokens hnonempty
        simpa [hlast] using hnot
      rcases h last hmem with rfl | ⟨w, rfl, -⟩
      · exact absurd rfl hstop
      · exact .inr ⟨before, w, hlast⟩

theorem written_snoc_append (before : List Token) (w more : Text) :
    written (before ++ [word (w ++ more)]) = written (before ++ [word w]) ++ more := by
  cases before with
  | nil => simp [written, writtenBehind, word, source]
  | cons token rest =>
      simp [written, writtenBehind_append, writtenBehind, word, isSplit, source]

/-- A word that tokens precede does not begin a comment, whatever it is glued to. -/
theorem Encloses.notComment {v w : Text} {front more : List Token}
    (h : Encloses v (front ++ word w :: more)) (hfront : front ≠ []) (hw : w ≠ []) :
    w.head? ≠ some '#' := by
  have hlexed := h.lexed
  rw [enclose_append _ hfront (by simp)] at hlexed
  have hlast := (List.forall_mem_append.mp hlexed).2
  cases more with
  | nil =>
      rcases List.forall_mem_singleton.mp hlast with hsplit | ⟨u, hu, hlexed⟩
      · cases hsplit
      · cases hu
        rw [← List.head?_append_of_ne_nil w hw]
        exact hlexed.notComment
  | cons next more =>
      rcases hlast (word w) (by simp [glueBack]) with hsplit | ⟨u, hu, hlexed⟩
      · cases hsplit
      · cases hu
        exact hlexed.notComment

/-- What is enclosed ends with a word that takes the semicolons at the end with it. Unless
there are any, that word leaves the group one closer before its end. -/
theorem Encloses.exists_last {v : Text} {tokens : List Token} (h : Encloses v tokens) :
    ∃ front depth w, EndsWith v front depth w ∧
      (v.getLast? ≠ some ';' → depth + braces.opens w = braces.closes w + 1) := by
  obtain ⟨first, n, rfl, hfirst⟩ := exists_marks h.held
  have hmarked : n ≠ 0 → v.getLast? = some ';' := by
    rintro hn
    obtain ⟨n, rfl⟩ := Nat.exists_eq_succ_of_ne_zero hn
    rw [h.text, List.replicate_succ', ← List.append_assoc]
    cases hfront : first ++ List.replicate n split with
    | nil => rfl
    | cons token rest => simp [written, writtenBehind_append, writtenBehind, split, isSplit, source]
  rcases hfirst with rfl | ⟨before, w, rfl⟩
  · cases n with
    | zero =>
        exact ⟨[], 1, [], ⟨holds_nil, h.text, .inl rfl, .inl rfl, fun _ => rfl, by simp, by decide⟩,
          fun _ => rfl⟩
    | succ n =>
        have hword := isWord_append_marks (.inl rfl) n
        obtain ⟨hopens, hcloses⟩ := runs_append_marks [] n
        refine ⟨[], 1, _, ⟨holds_nil, ?_, .inr hword, .inr (tight_append_marks (.inl rfl) n),
          fun _ => rfl, by simp, by omega⟩, fun hlast => absurd (hmarked (by simp)) hlast⟩
        rw [h.text, List.nil_append, List.nil_append, List.nil_append, written_piece,
          List.replicate_succ, written, writtenBehind_marks]
        rfl
  · rw [List.append_assoc] at h
    obtain ⟨depth, hholds, hend⟩ := h.front (by simp)
    obtain ⟨u, hu, hw, htight⟩ := (h.held (word w) (by simp)).resolve_left (by simp [word, split])
    cases hu
    have hcomment : before ≠ [] → w.head? ≠ some '#' := fun hbefore =>
      h.notComment hbefore hw.nonempty
    rw [List.singleton_append, Delimiters.depthAfter_word, depthAfter_marks] at hend
    split_ifs at hend with hopen
    have hone : depth + braces.opens w - braces.closes w = 1 := Option.some.inj hend
    cases n with
    | zero =>
        refine ⟨before, depth, w, ⟨hholds, ?_, .inr hw, .inr htight,
          fun hnil => absurd hnil hw.nonempty, hcomment, hopen⟩, fun _ => by omega⟩
        rw [h.text, hw.piece_eq, List.replicate_zero, List.append_nil]
    | succ n =>
        have hword := isWord_append_marks (.inr hw) n
        obtain ⟨hopens, hcloses⟩ := runs_append_marks w n
        refine ⟨before, depth, _, ⟨hholds, ?_, .inr hword,
          .inr (tight_append_marks (.inr htight) n), fun hnil => absurd hnil hword.nonempty, ?_,
          by omega⟩, fun hlast => absurd (hmarked (by simp)) hlast⟩
        · rw [h.text, hword.piece_eq, written_snoc_append, ← List.append_assoc,
            written_append (by simp), writtenBehind_marks]
        · rwa [List.head?_append_of_ne_nil _ hw.nonempty]

/-- The text of a group fills a group exactly if its last word leaves it one closer before
its end. -/
theorem EndsWith.fillsGroup_iff {v w : Text} {front : List Token} {depth : Nat}
    (h : EndsWith v front depth w) :
    fillsGroup v = true ↔ depth + braces.opens w = braces.closes w + 1 := by
  have hinside := h.inside
  have hdepth : braces.depthAfter 1 (front ++ piece w) =
      some (depth + braces.opens w - braces.closes w) := by
    rw [braces.depthAfter_append, h.holds.depthAfter, Option.bind_some, depthAfter_piece hinside]
  have hscan : ∃ words, scan v = .ok words ∧ lastWhole words = front ++ piece w := by
    obtain ⟨words, hspaced, hwords⟩ := h.holds.spaced
    rcases h.word with hnil | hw
    · have hfront := h.alone hnil
      refine ⟨[], ?_, ?_⟩
      · rw [h.text, hfront, hnil]
        rfl
      · rw [hfront, hnil]
        rfl
    · rw [h.text, hw.piece_eq]
      by_cases hempty : front = []
      · have hsingle : written (front ++ [Token.word w]) = w := by
          simp [hempty, written, writtenBehind, Token.word, source]
        exact ⟨[w], by rw [hsingle, hw.scan_eq], by simp [hempty, lastWhole]⟩
      · have hsnoc : written (front ++ [Token.word w]) = written front ++ ' ' :: w := by
          rw [written_append hempty]
          simp [writtenBehind, Token.word, isSplit, source]
        refine ⟨words ++ [w], ?_, by rw [lastWhole_snoc, hwords]⟩
        rw [hsnoc, hspaced.scan_append (by decide), hw.scan_eq]
        rfl
  obtain ⟨words, hscan, hwords⟩ := hscan
  rw [fillsGroup_eq_true_iff hscan, hwords, hdepth, Option.some.injEq]
  omega

theorem EndsWith.held {v w : Text} {front : List Token} {depth : Nat}
    (h : EndsWith v front depth w) : ∀ t ∈ front ++ piece w, t.IsHeld := by
  refine List.forall_mem_append.mpr ⟨h.holds.held, ?_⟩
  rcases h.word with rfl | hw
  · simp [piece]
  · rw [hw.piece_eq]
    exact List.forall_mem_singleton.mpr
      (.inr ⟨w, rfl, hw, h.tight.resolve_left hw.nonempty⟩)

/-- The lexer reads the call of a function whose body is the text of a group. -/
theorem EndsWith.lex_functionTarget {v w : Text} {front : List Token} {depth : Nat}
    (h : EndsWith v front depth w) :
    lex (Builtin.functionTarget v) =
      .ok (Token.word "l-eval" :: Token.word "--fn" :: braces.enclose (front ++ piece w)) := by
  have hlexed := h.holds.lexed_enclose h.word h.notComment
  have hhead : ∀ t ∈ (front ++ piece w).head?, t.kind = .word ∨ t = split := by
    intro t ht
    rcases h.held t (List.mem_of_mem_head? ht) with rfl | ⟨u, rfl, -⟩
    · exact .inr rfl
    · exact .inl rfl
  have hlast : ∀ t ∈ (front ++ piece w).getLast?, t.kind = .word := by
    intro t ht
    rcases h.word with hnil | hw
    · rw [h.alone hnil, hnil] at ht
      cases ht
    · rw [hw.piece_eq, List.getLast?_concat] at ht
      cases ht
      rfl
  have htext : Builtin.functionTarget v =
      written (Token.word "l-eval" :: Token.word "--fn" :: braces.enclose (front ++ piece w)) := by
    rw [written, writtenBehind_cons, (isPhrase_enclose braces _).writtenBehind_eq,
      braces.written_enclose hhead hlast, ← h.text]
    rfl
  rw [htext]
  refine lex_written (List.forall_mem_cons.mpr ⟨.inr ⟨_, rfl, ?_⟩,
    List.forall_mem_cons.mpr ⟨.inr ⟨_, rfl, ?_⟩, hlexed⟩⟩)
  · exact ⟨by decide, by decide, by decide⟩
  · exact ⟨by decide, by decide, by decide⟩

end Conch.Token
