import Conch.Proofs.Bodies
import Conch.Proofs.Expression
import Conch.Proofs.Respacing
import Mathlib.Algebra.GroupWithZero.Nat
import Mathlib.Data.List.Infix

/-!
Which words a raw group holds as they are. Words with single spaces between them can be put in
braces and come back as the text of one group exactly if their braces balance in the way that the
grammar counts them: an opener counts in the run of openers that its word begins with, a closer in
the run of closers that its word ends with, and nothing else counts.

* `RunsBalanced`: braces balance as the grammar counts them.
* `depthAfter_words_iff`: how deep words leave a group, as sums over the words.
* `runsBalanced_iff_bracesBalanced`: where all braces stand in those runs, every one of them counts.
* `raw_group_verbatim`: which words are held verbatim.

A brace inside of a word does not count, so words whose characters balance may close a group too
early or leave it open (`brace_inside_word`).
-/

namespace Conch.Token

open Text (Tight)

/-! ### Words and balance -/

/-- A word without quotes and white space that begins no comment and ends no statement. Its
delimiters may stand anywhere. -/
structure BareWord (w : Text) : Prop where
  nonempty : w ≠ []
  notBlank : ∀ c ∈ w, Text.isBlank c = false
  notQuote : '"' ∉ w
  notComment : w.head? ≠ some '#'
  notMarked : w.getLast? ≠ some ';'

instance (w : Text) : Decidable (BareWord w) :=
  decidable_of_iff (w ≠ [] ∧ w.all (!Text.isBlank ·) = true ∧ '"' ∉ w ∧ w.head? ≠ some '#' ∧
      w.getLast? ≠ some ';')
    ⟨fun ⟨h₁, h₂, h₃, h₄, h₅⟩ => ⟨h₁, by simpa using h₂, h₃, h₄, h₅⟩,
      fun h => ⟨h.nonempty, by simpa using h.notBlank, h.notQuote, h.notComment, h.notMarked⟩⟩

/-- The braces of a text balance: every start of it has at least as many openers as closers, and
the whole has as many. -/
structure BracesBalanced (s : Text) : Prop where
  starts : ∀ start, start <+: s → start.count '}' ≤ start.count '{'
  total : s.count '{' = s.count '}'

instance (s : Text) : Decidable (BracesBalanced s) :=
  decidable_of_iff ((∀ start ∈ s.inits, start.count '}' ≤ start.count '{') ∧
      s.count '{' = s.count '}')
    ⟨fun ⟨h₁, h₂⟩ => ⟨fun start h => h₁ start ((List.mem_inits start s).mpr h), h₂⟩,
      fun h => ⟨fun start hstart => h.starts start ((List.mem_inits start s).mp hstart), h.total⟩⟩

/-- The braces of words balance as the grammar counts them: openers in the run of openers that a
word begins with, closers in the run of closers that it ends with. -/
structure RunsBalanced (words : List Text) : Prop where
  starts : ∀ start, start <+: words → (start.map braces.closes).sum ≤ (start.map braces.opens).sum
  total : (words.map braces.opens).sum = (words.map braces.closes).sum

instance (words : List Text) : Decidable (RunsBalanced words) :=
  decidable_of_iff ((∀ start ∈ words.inits,
        (start.map braces.closes).sum ≤ (start.map braces.opens).sum) ∧
      (words.map braces.opens).sum = (words.map braces.closes).sum)
    ⟨fun ⟨h₁, h₂⟩ => ⟨fun start h => h₁ start ((List.mem_inits start words).mpr h), h₂⟩,
      fun h =>
        ⟨fun start hstart => h.starts start ((List.mem_inits start words).mp hstart), h.total⟩⟩

namespace BareWord

variable {w : Text} (h : BareWord w)

include h

theorem lexedWord : LexedWord w where
  isWord :=
    have hsep : ∀ c ∈ w, isSeparator c = false := fun c hc =>
      not_separator_of_not_blank (h.notBlank c hc)
    ⟨h.nonempty, (unquoted_scan hsep h.notQuote).1, (unquoted_scan hsep h.notQuote).2⟩
  notComment := h.notComment
  notMarked := h.notMarked

theorem tight : Tight w where
  nonempty := h.nonempty
  head := fun c hc => h.notBlank c (List.mem_of_mem_head? hc)
  last := fun c hc => h.notBlank c (List.mem_of_mem_getLast? hc)

theorem ofWord_eq : ofWord w = [word w] := ofWord_of_notMarked h.nonempty h.notMarked

end BareWord

/-! ### How deep words leave a group -/

/-- **Words leave a group open** if they have always closed fewer than were open, and then as deep
as the difference of all they open and close. -/
theorem depthAfter_words_iff {depth : Nat} (hdepth : 0 < depth) (words : List Text)
    (reached : Nat) :
    braces.depthAfter depth (words.map word) = some reached ↔
      (∀ start, start <+: words →
        (start.map braces.closes).sum < depth + (start.map braces.opens).sum) ∧
      reached + (words.map braces.closes).sum = depth + (words.map braces.opens).sum := by
  induction words generalizing depth with
  | nil => simp [hdepth, eq_comm]
  | cons w rest ih =>
      rw [List.map_cons, Delimiters.depthAfter_word]
      by_cases hopen : braces.closes w < depth + braces.opens w
      · rw [if_pos hopen, ih (by omega)]
        simp only [List.prefix_cons_iff, List.map_cons, List.sum_cons]
        constructor
        · rintro ⟨hstarts, htotal⟩
          refine ⟨?_, by omega⟩
          rintro start (rfl | ⟨start, rfl, hstart⟩)
          · exact hdepth
          · have hbehind := hstarts start hstart
            rw [List.map_cons, List.map_cons, List.sum_cons, List.sum_cons]
            omega
        · rintro ⟨hstarts, htotal⟩
          refine ⟨fun start hstart => ?_, by omega⟩
          have hwhole := hstarts (w :: start) (.inr ⟨start, rfl, hstart⟩)
          rw [List.map_cons, List.map_cons, List.sum_cons, List.sum_cons] at hwhole
          omega
      · rw [if_neg hopen]
        constructor
        · intro h
          cases h
        · rintro ⟨hstarts, -⟩
          have hfirst := hstarts [w] (List.cons_prefix_cons.mpr ⟨rfl, List.nil_prefix⟩)
          exact absurd (by simpa using hfirst) hopen

/-- Words fill a group exactly if their braces balance. -/
theorem depthAfter_one_iff (words : List Text) :
    braces.depthAfter 1 (words.map word) = some 1 ↔ RunsBalanced words := by
  rw [depthAfter_words_iff Nat.one_pos]
  constructor
  · rintro ⟨hstarts, htotal⟩
    refine ⟨fun start hstart => ?_, by omega⟩
    have hbelow := hstarts start hstart
    omega
  · intro h
    refine ⟨fun start hstart => ?_, by rw [h.total]⟩
    have hbelow := h.starts start hstart
    omega

/-! ### Words in braces -/

theorem writtenBehind_words (words : List Text) :
    writtenBehind (words.map word) = words.flatMap (' ' :: ·) := by
  induction words with
  | nil => rfl
  | cons w rest ih => rw [List.map_cons, writtenBehind, ih]; rfl

/-- Words are written with single spaces between them. -/
theorem written_words (words : List Text) :
    written (words.map word) = Text.join [' '] words := by
  cases words with
  | nil => rfl
  | cons w rest =>
      rw [List.map_cons, written, writtenBehind_words]
      show w ++ _ = _
      induction rest generalizing w with
      | nil => simp
      | cons v rest ih => rw [List.flatMap_cons, Text.join_cons_cons, ← ih v]; simp

section Words

variable {words : List Text} (hwords : ∀ w ∈ words, BareWord w)

include hwords

theorem flatMap_ofWord_words : words.flatMap ofWord = words.map word := by
  rw [List.map_eq_flatMap]
  exact List.flatMap_congr fun w hw => (hwords w hw).ofWord_eq

theorem lastWhole_words : lastWhole words = words.map word := by
  rcases List.eq_nil_or_concat' words with rfl | ⟨before, w, rfl⟩
  · rfl
  · rw [lastWhole_snoc, flatMap_ofWord_words fun v hv => hwords v (by simp [hv])]
    simp

theorem spaced_words : Spaced (Text.join [' '] words) words :=
  spaced_join fun w hw => (hwords w hw).lexedWord.isWord

/-- Words that close no group around them are part of bodies. -/
theorem isPart_words (hnonempty : words ≠ []) (hbalanced : RunsBalanced words) :
    IsPart (Text.join [' '] words) (words.map word) where
  spaced := ⟨words, spaced_words hwords, fun w hw => (hwords w hw).notComment,
    flatMap_ofWord_words hwords⟩
  phrase := by
    have hkind : ∀ t ∈ words.map word, t.kind = .word :=
      List.forall_mem_map.mpr fun _ _ => rfl
    exact ⟨by simpa using hnonempty, fun t ht => hkind t (List.mem_of_mem_head? ht),
      fun t ht => hkind t (List.mem_of_mem_getLast? ht)⟩
  tight := List.forall_mem_map.mpr fun w hw => (hwords w hw).tight
  depth := fun depth hdepth => by
    obtain ⟨more, rfl⟩ := Nat.exists_eq_add_of_le hdepth
    exact braces.depthAfter_add ((depthAfter_one_iff words).mpr hbalanced) more
  written := written_words words

/-- **Words are read back from their braces** exactly if their braces balance as the grammar counts
them. -/
theorem isBody_words_iff : IsBody (Text.join [' '] words) ↔ RunsBalanced words := by
  constructor
  · intro h
    have hfills := (fillsGroup_eq_true_iff (spaced_words hwords).scan_eq).mp h.spelled.2
    rw [lastWhole_words hwords] at hfills
    exact (depthAfter_one_iff words).mp hfills
  · intro hbalanced
    by_cases hnonempty : words = []
    · subst hnonempty
      decide
    · exact (isPart_words hwords hnonempty hbalanced).isBody

end Words

/-! ### Braces at the ends of words -/

/-- Every brace of a word counts: its openers stand in the run of openers that it begins with, its
closers in the run of closers that it ends with. -/
def BracesAtEnds (w : Text) : Prop :=
  braces.opens w = w.count '{' ∧ braces.closes w = w.count '}'

instance (w : Text) : Decidable (BracesAtEnds w) := inferInstanceAs (Decidable (_ ∧ _))

/-- A start of a word whose closers stand at its end has no closers yet or all of the openers. -/
theorem count_of_start {w start : Text} (hcloses : braces.closes w = w.count '}')
    (hstart : start <+: w) :
    start.count '}' = 0 ∨ start.count '{' = w.count '{' ∧ start.count '}' ≤ w.count '}' := by
  obtain ⟨front, hfront⟩ := exists_takeEndWhile isCloser w
  have hnone : front.count '}' = 0 := by
    have hcounted : w.count '}' = (Text.takeEndWhile isCloser w).count '}' :=
      hcloses.symm.trans (braces.closes_eq_count w)
    have hcount := congrArg (List.count '}') hfront
    rw [List.count_append] at hcount
    omega
  have hrun : (Text.takeEndWhile isCloser w).count '{' = 0 := by
    rw [List.count_eq_zero, Text.takeEndWhile, List.mem_reverse]
    exact fun hmem => absurd (List.mem_takeWhile_imp hmem) (by decide)
  have hwhole : front <+: w := ⟨_, hfront.symm⟩
  rcases List.prefix_or_prefix_of_prefix hstart hwhole with hwithin | hbeyond
  · have hfew := hwithin.count_le '}'
    exact .inl (by omega)
  · have hall := hbeyond.count_le '{'
    have hmost := hstart.count_le '{'
    have hsum := congrArg (List.count '{') hfront
    rw [List.count_append, hrun] at hsum
    exact .inr ⟨by omega, hstart.count_le '}'⟩

/-- If no word closes more than is open, then no character does. -/
theorem count_le_of_starts {words : List Text} (hends : ∀ w ∈ words, BracesAtEnds w) (depth : Nat)
    (h : ∀ start, start <+: words →
      (start.map braces.closes).sum ≤ depth + (start.map braces.opens).sum)
    {start : Text} (hstart : start <+: words.flatten) :
    start.count '}' ≤ depth + start.count '{' := by
  induction words generalizing depth start with
  | nil =>
      rw [List.prefix_nil.mp hstart]
      exact Nat.zero_le _
  | cons w rest ih =>
      obtain ⟨⟨hopens, hcloses⟩, hrest⟩ := List.forall_mem_cons.mp hends
      have hfirst := h [w] (List.cons_prefix_cons.mpr ⟨rfl, List.nil_prefix⟩)
      rw [List.map_singleton, List.map_singleton, List.sum_singleton, List.sum_singleton, hopens,
        hcloses] at hfirst
      rw [List.flatten_cons] at hstart
      rcases List.prefix_or_prefix_of_prefix hstart (List.prefix_append w _) with
        hwithin | ⟨behind, rfl⟩
      · rcases count_of_start hcloses hwithin with hnone | ⟨hall, hsome⟩ <;> omega
      · have hbehind : behind <+: rest.flatten := (List.prefix_append_right_inj w).mp hstart
        have hdeeper := ih hrest (depth + w.count '{' - w.count '}') (fun more hmore => by
          have hwhole := h (w :: more) (List.cons_prefix_cons.mpr ⟨rfl, hmore⟩)
          rw [List.map_cons, List.map_cons, List.sum_cons, List.sum_cons, hopens, hcloses] at hwhole
          omega) hbehind
        rw [List.count_append, List.count_append]
        omega

/-- **Where all braces stand at the ends of words**, the grammar counts every one of them. -/
theorem runsBalanced_iff_bracesBalanced {words : List Text} (hends : ∀ w ∈ words, BracesAtEnds w) :
    RunsBalanced words ↔ BracesBalanced words.flatten := by
  have hopens : ∀ start, start <+: words →
      (start.map braces.opens).sum = start.flatten.count '{' := fun start hstart => by
    rw [List.count_flatten]
    exact congrArg List.sum (List.map_congr_left fun w hw => (hends w (hstart.subset hw)).1)
  have hcloses : ∀ start, start <+: words →
      (start.map braces.closes).sum = start.flatten.count '}' := fun start hstart => by
    rw [List.count_flatten]
    exact congrArg List.sum (List.map_congr_left fun w hw => (hends w (hstart.subset hw)).2)
  have hwhole : words <+: words := List.prefix_refl words
  constructor
  · intro h
    refine ⟨fun start hstart => ?_, ?_⟩
    · have hcount := count_le_of_starts hends 0
        (fun start hstart => by rw [Nat.zero_add]; exact h.starts start hstart) hstart
      rwa [Nat.zero_add] at hcount
    · rw [← hopens words hwhole, ← hcloses words hwhole, h.total]
  · intro h
    refine ⟨fun start hstart => ?_, ?_⟩
    · rw [hopens start hstart, hcloses start hstart]
      exact h.starts _ hstart.flatten
    · rw [hopens words hwhole, hcloses words hwhole, h.total]

/-! ### Raw groups -/

/-- **Which words a raw group holds verbatim.** Words with single spaces between them are put in
braces. They are read as one raw group with just that text exactly if their braces balance as the
grammar counts them. If all their braces stand in the runs of openers and closers at the ends of
words, this is to say that their characters balance. A group that is read so is one argument, and
nothing in it is expanded. -/
theorem raw_group_verbatim {words : List Text} (hwords : ∀ w ∈ words, BareWord w) :
    (parse ('{' :: Text.join [' '] words ++ ['}']) = .ok [raw (Text.join [' '] words)] ↔
      RunsBalanced words) ∧
    ((∀ w ∈ words, BracesAtEnds w) → (RunsBalanced words ↔ BracesBalanced words.flatten)) ∧
    (RunsBalanced words → ∀ nested ctx,
      (Eval.parse ('{' :: Text.join [' '] words ++ ['}']) >>= Eval.arguments nested ctx) =
        Action.pure (some [Text.join [' '] words])) := by
  have hbody := isBody_words_iff hwords
  refine ⟨hbody, runsBalanced_iff_bracesBalanced, fun hbalanced nested ctx => ?_⟩
  have hparse : parse ('{' :: Text.join [' '] words ++ ['}']) =
      .ok [raw (Text.join [' '] words)] := hbody.mpr hbalanced
  rw [Eval.parse, hparse]
  rfl

/-- Braces glued to words, a substitution that is not expanded, and a semicolon inside of a word. -/
theorem raw_group_verbatim_glued :
    (∀ w ∈ ["\x7b\x7bx\x7d".toList, "(l-echo".toList, "y)\x7d".toList, "z;w".toList], BareWord w) ∧
      parse "\x7b\x7b\x7bx\x7d (l-echo y)\x7d z;w\x7d" =
        .ok [raw "\x7b\x7bx\x7d (l-echo y)\x7d z;w"] := by
  have hwords : ∀ w ∈ ["\x7b\x7bx\x7d".toList, "(l-echo".toList, "y)\x7d".toList, "z;w".toList],
      BareWord w := by decide +kernel
  exact ⟨hwords, (raw_group_verbatim hwords).1.mpr (by decide +kernel)⟩

/-- Braces inside of words do not count. The characters of `a{b}` balance, but the closer of
the inner group ends the outer one; those of `{a}b` balance, but the group around them is not
closed. -/
theorem brace_inside_word :
    (BareWord "a\x7bb\x7d" ∧ BracesBalanced "a\x7bb\x7d" ∧
      parse ('{' :: "a\x7bb\x7d".toList ++ ['}']) = .ok [raw "a\x7bb", word "\x7d"]) ∧
    BareWord "\x7ba\x7db" ∧ BracesBalanced "\x7ba\x7db" ∧
      parse ('{' :: "\x7ba\x7db".toList ++ ['}']) = .error (.unterminated '{' '}') := by
  decide +kernel

end Conch.Token
