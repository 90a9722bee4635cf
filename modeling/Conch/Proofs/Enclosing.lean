import Conch.Proofs.Grouping

/-!
Groups around tokens. `enclose` puts an opener and a closer around tokens, glued to the
first and the last of them as far as these are words. If no token between the two closes
the group (`depthAfter`), then grouping gives back one token with the enclosed ones as they
are written (`advance_enclose`).

Delimiters of the other kind are glued to words as well. They change nothing in the count,
and the pass that does not look for them leaves them glued to what it makes of the rest
(`advance_glueFront`, `advance_glueBack`).
-/

namespace Conch

/-! ### Texts without blanks at their ends -/

namespace Text

theorem beforeEnd?_append (s stop : Text) : beforeEnd? stop (s ++ stop) = some s := by
  have hlength : (s ++ stop).length - stop.length = s.length := by simp
  rw [beforeEnd?, if_pos (List.isSuffixOf_iff_suffix.mpr (List.suffix_append s stop)), hlength,
    List.take_left]

/-- A text that trimming leaves as it is, and that is not empty. -/
structure Tight (s : Text) : Prop where
  nonempty : s ≠ []
  head : ∀ c ∈ s.head?, isBlank c = false
  last : ∀ c ∈ s.getLast?, isBlank c = false

theorem trim_pad {before after s : Text} (hbefore : ∀ c ∈ before, isBlank c = true)
    (hafter : ∀ c ∈ after, isBlank c = true) (hs : s = [] ∨ Tight s) :
    trim (before ++ s ++ after) = s := by
  unfold trim trimWhile
  rw [List.append_assoc, List.dropWhile_append_of_pos hbefore]
  rcases hs with rfl | hs
  · have hnone : after.dropWhile isBlank = [] := List.dropWhile_eq_nil_iff.mpr hafter
    rw [List.nil_append, hnone]
    rfl
  · cases hcons : s with
    | nil => exact absurd hcons hs.nonempty
    | cons c rest =>
        have hkept : (c :: rest ++ after).dropWhile isBlank = c :: rest ++ after := by
          have hc : isBlank c = false := hs.head c (by simp [hcons])
          rw [List.cons_append, List.dropWhile_cons_of_neg (by simp [hc])]
        rw [hkept, ← hcons, dropEndWhile, List.reverse_append,
          List.dropWhile_append_of_pos (by simpa using hafter)]
        have hlast := hs.last
        rw [← List.head?_reverse] at hlast
        cases hreverse : s.reverse with
        | nil => exact absurd (List.reverse_eq_nil_iff.mp hreverse) hs.nonempty
        | cons e back =>
            have he : isBlank e = false := hlast e (by simp [hreverse])
            rw [List.dropWhile_cons_of_neg (by simp [he]), ← hreverse, List.reverse_reverse]

theorem Tight.trim_eq {s : Text} (h : Tight s) : trim s = s := by
  have hnone : ∀ c ∈ ([] : Text), isBlank c = true := by simp
  simpa using trim_pad hnone hnone (.inr h)

theorem Tight.cons {c : Char} (hc : isBlank c = false) {s : Text} (h : s = [] ∨ Tight s) :
    Tight (c :: s) where
  nonempty := by simp
  head := by simpa using hc
  last := by
    rcases h with rfl | h
    · simpa using hc
    · rw [List.getLast?_cons_of_ne_nil h.nonempty]
      exact h.last

theorem Tight.snoc {c : Char} (hc : isBlank c = false) {s : Text} (h : s = [] ∨ Tight s) :
    Tight (s ++ [c]) where
  nonempty := by simp
  head := by
    rcases h with rfl | h
    · simpa using hc
    · rw [List.head?_append_of_ne_nil _ h.nonempty]
      exact h.head
  last := by simpa using hc

/-- A text between two that are tight at their outer ends. -/
theorem Tight.append {s t : Text} (hs : Tight s) (ht : Tight t) (between : Text) :
    Tight (s ++ between ++ t) where
  nonempty := by simp [hs.nonempty]
  head := by
    rw [List.append_assoc, List.head?_append_of_ne_nil _ hs.nonempty]
    exact hs.head
  last := by
    rw [List.getLast?_append_of_ne_nil _ ht.nonempty]
    exact ht.last

end Text

namespace Token

open Text (Tight)

theorem not_blank_of_opener {c : Char} (h : isOpener c = true) : Text.isBlank c = false := by
  simp only [isOpener, Bool.or_eq_true, beq_iff_eq] at h
  rcases h with rfl | rfl <;> decide

theorem not_blank_of_closer {c : Char} (h : isCloser c = true) : Text.isBlank c = false := by
  simp only [isCloser, Bool.or_eq_true, beq_iff_eq] at h
  rcases h with rfl | rfl <;> decide

theorem not_separator_of_not_blank {c : Char} (h : Text.isBlank c = false) :
    isSeparator c = false := by
  refine Bool.eq_false_iff.mpr fun hsep => ?_
  simp only [isSeparator, Bool.or_eq_true, beq_iff_eq] at hsep
  rcases hsep with ((rfl | rfl) | rfl) | rfl <;> exact absurd h (by decide)

theorem isInert_of_isOpener {c : Char} (h : isOpener c = true) : IsInert c := by
  simp only [isOpener, Bool.or_eq_true, beq_iff_eq] at h
  rcases h with rfl | rfl <;> constructor <;> decide

theorem isInert_of_isCloser {c : Char} (h : isCloser c = true) : IsInert c := by
  simp only [isCloser, Bool.or_eq_true, beq_iff_eq] at h
  rcases h with rfl | rfl <;> constructor <;> decide

/-! ### Gluing delimiters to tokens -/

/-- Puts a character in front of tokens, glued to the first of them if that is a word. -/
def glueFront (c : Char) : List Token → List Token
  | [] => [word [c]]
  | token :: rest =>
    if token.kind = .word then word (c :: token.value) :: rest else word [c] :: token :: rest

/-- Puts a character behind tokens, glued to the last of them if that is a word. -/
def glueBack (c : Char) : List Token → List Token
  | [] => [word [c]]
  | [token] => if token.kind = .word then [word (token.value ++ [c])] else [token, word [c]]
  | token :: next :: rest => token :: glueBack c (next :: rest)

/-- Tokens between an opener and a closer. -/
def Delimiters.enclose (d : Delimiters) (tokens : List Token) : List Token :=
  glueBack d.closer (glueFront d.opener tokens)

theorem glueBack_append (c : Char) (first : List Token) {second : List Token} (h : second ≠ []) :
    glueBack c (first ++ second) = first ++ glueBack c second := by
  induction first with
  | nil => rfl
  | cons token rest ih =>
      cases hmore : rest ++ second with
      | nil => simp [h] at hmore
      | cons next more => rw [List.cons_append, hmore, glueBack, ← hmore, ih, List.cons_append]

theorem glueFront_append (c : Char) {first : List Token} (h : first ≠ []) (second : List Token) :
    glueFront c (first ++ second) = glueFront c first ++ second := by
  cases first with
  | nil => exact absurd rfl h
  | cons token rest =>
      simp only [List.cons_append, glueFront]
      split_ifs <;> rfl

/-- What is glued in front is part of a word that other tokens follow. -/
theorem glueFront_eq_cons (c : Char) (tokens : List Token) :
    ∃ w rest, glueFront c tokens = word (c :: w) :: rest ∧
      ((tokens = [] ∧ w = [] ∧ rest = []) ∨ tokens = word w :: rest ∨
        (w = [] ∧ tokens = rest ∧ ∀ t ∈ tokens.head?, t.kind ≠ .word)) := by
  cases tokens with
  | nil => exact ⟨[], [], rfl, .inl ⟨rfl, rfl, rfl⟩⟩
  | cons token rest =>
      obtain ⟨kind, value⟩ := token
      by_cases hword : kind = .word
      · subst hword
        exact ⟨value, rest, by simp [glueFront], .inr (.inl rfl)⟩
      · exact ⟨[], ⟨kind, value⟩ :: rest, by simp [glueFront, hword],
          .inr (.inr ⟨rfl, rfl, by simpa using hword⟩)⟩

theorem forall_mem_glueFront {P : Token → Prop} {c : Char} (hsingle : P (word [c]))
    (hglue : ∀ w, P (word w) → P (word (c :: w))) {tokens : List Token}
    (h : ∀ t ∈ tokens, P t) : ∀ t ∈ glueFront c tokens, P t := by
  obtain ⟨w, rest, hglued, hshape⟩ := glueFront_eq_cons c tokens
  rw [hglued]
  refine List.forall_mem_cons.mpr ?_
  rcases hshape with ⟨-, rfl, rfl⟩ | rfl | ⟨rfl, rfl, -⟩
  · exact ⟨hsingle, by simp⟩
  · exact ⟨hglue w (h (word w) (by simp)), fun t ht => h t (by simp [ht])⟩
  · exact ⟨hsingle, h⟩

theorem forall_mem_glueBack {P : Token → Prop} {c : Char} (hsingle : P (word [c]))
    (hglue : ∀ w, P (word w) → P (word (w ++ [c]))) {tokens : List Token}
    (h : ∀ t ∈ tokens, P t) : ∀ t ∈ glueBack c tokens, P t := by
  fun_induction glueBack c tokens with
  | case1 => simpa using hsingle
  | case2 token hword =>
      obtain ⟨kind, w⟩ := token
      cases hword
      simpa using hglue w (h (word w) (by simp [word]))
  | case3 token hword => exact List.forall_mem_cons.mpr ⟨h token (by simp), by simpa using hsingle⟩
  | case4 token next rest ih =>
      obtain ⟨hfirst, hrest⟩ := List.forall_mem_cons.mp h
      exact List.forall_mem_cons.mpr ⟨hfirst, ih hrest⟩

/-- Tokens that begin and end with a word, if there are any. -/
structure WordEnds (tokens : List Token) : Prop where
  head : ∀ t ∈ tokens.head?, t.kind = .word
  last : ∀ t ∈ tokens.getLast?, t.kind = .word

theorem wordEnds_word (w : Text) : WordEnds [word w] := ⟨by simp [word], by simp [word]⟩

theorem WordEnds.append {first last : List Token} (hfirst : WordEnds first) (hlast : WordEnds last)
    (hfirst' : first ≠ []) (hlast' : last ≠ []) (between : List Token) :
    WordEnds (first ++ between ++ last) where
  head := by
    rw [List.append_assoc, List.head?_append_of_ne_nil _ hfirst']
    exact hfirst.head
  last := by
    rw [List.getLast?_append_of_ne_nil _ hlast']
    exact hlast.last

theorem glueBack_ne_nil (c : Char) (tokens : List Token) : glueBack c tokens ≠ [] := by
  fun_cases glueBack c tokens <;> simp

theorem wordEnds_glueBack (c : Char) {tokens : List Token}
    (h : ∀ t ∈ tokens.head?, t.kind = .word) : WordEnds (glueBack c tokens) where
  head := by
    fun_cases glueBack c tokens with
    | case1 => simp [word]
    | case2 token hword => simp [word]
    | case3 token hword => simpa using h
    | case4 token next rest => simpa using h
  last := by
    clear h
    fun_induction glueBack c tokens with
    | case1 => simp [word]
    | case2 token hword => simp [word]
    | case3 token hword => simp [word]
    | case4 token next rest ih =>
        rwa [List.getLast?_cons_of_ne_nil (glueBack_ne_nil c (next :: rest))]

theorem Delimiters.wordEnds_enclose (d : Delimiters) (tokens : List Token) :
    WordEnds (d.enclose tokens) := by
  obtain ⟨w, rest, hglued, -⟩ := glueFront_eq_cons d.opener tokens
  exact wordEnds_glueBack d.closer (by simp [hglued, word])

/-! ### How deep a group is nested -/

namespace Delimiters

/-- How many closers a group waits for behind tokens that it holds, if none of them closes
it. -/
def depthAfter (d : Delimiters) : Nat → List Token → Option Nat
  | depth, [] => some depth
  | depth, token :: rest =>
    if token.kind = .word then
      if d.closes token.value < depth + d.opens token.value then
        d.depthAfter (depth + d.opens token.value - d.closes token.value) rest
      else none
    else d.depthAfter depth rest

@[simp] theorem depthAfter_nil (d : Delimiters) (depth : Nat) :
    d.depthAfter depth [] = some depth := rfl

theorem depthAfter_of_word (d : Delimiters) (depth : Nat) {token : Token}
    (h : token.kind = .word) (rest : List Token) :
    d.depthAfter depth (token :: rest) =
      if d.closes token.value < depth + d.opens token.value then
        d.depthAfter (depth + d.opens token.value - d.closes token.value) rest
      else none := by
  rw [depthAfter, if_pos h]

theorem depthAfter_word (d : Delimiters) (depth : Nat) (w : Text) (rest : List Token) :
    d.depthAfter depth (word w :: rest) =
      if d.closes w < depth + d.opens w then
        d.depthAfter (depth + d.opens w - d.closes w) rest
      else none := depthAfter_of_word d depth rfl rest

theorem depthAfter_other (d : Delimiters) (depth : Nat) {token : Token} (h : token.kind ≠ .word)
    (rest : List Token) : d.depthAfter depth (token :: rest) = d.depthAfter depth rest := by
  simp [depthAfter, h]

theorem depthAfter_append (d : Delimiters) (depth : Nat) (first second : List Token) :
    d.depthAfter depth (first ++ second) =
      (d.depthAfter depth first).bind fun reached => d.depthAfter reached second := by
  induction first generalizing depth with
  | nil => rfl
  | cons token rest ih =>
      rw [List.cons_append, depthAfter, depthAfter]
      split_ifs
      · exact ih _
      · rfl
      · exact ih _

theorem depthAfter_pos {d : Delimiters} {depth reached : Nat} {tokens : List Token}
    (hdepth : 0 < depth) (h : d.depthAfter depth tokens = some reached) : 0 < reached := by
  induction tokens generalizing depth with
  | nil =>
      cases h
      exact hdepth
  | cons token rest ih =>
      rw [depthAfter] at h
      split_ifs at h with hword hopen
      · exact ih (by omega) h
      · exact ih hdepth h

/-- An opener in front makes the group one deeper. -/
theorem depthAfter_glueFront (d : Delimiters) (hopener : isOpener d.opener = true) (depth : Nat)
    (tokens : List Token) :
    d.depthAfter depth (glueFront d.opener tokens) = d.depthAfter (depth + 1) tokens := by
  have hsingle : d.opens [d.opener] = 1 := by
    rw [d.opens_cons_opener hopener, if_pos rfl]
    rfl
  have hnone : d.closes [d.opener] = 0 := d.closes_cons_opener hopener []
  cases tokens with
  | nil => simp [glueFront, depthAfter_word, hsingle, hnone]
  | cons token rest =>
      by_cases hword : token.kind = .word
      · have hopens : depth + (d.opens token.value + 1) = depth + 1 + d.opens token.value := by
          omega
        simp only [glueFront, hword, if_true, depthAfter_word, d.opens_cons_opener hopener,
          d.closes_cons_opener hopener, hopens, depthAfter_of_word d _ hword]
      · simp [glueFront, hword, depthAfter_word, hsingle, hnone]

/-- A closer behind makes the group one less deep, or closes it. -/
theorem depthAfter_glueBack (d : Delimiters) (hcloser : isCloser d.closer = true) (depth : Nat)
    (tokens : List Token) :
    d.depthAfter depth (glueBack d.closer tokens) =
      (d.depthAfter depth tokens).bind fun reached =>
        if 1 < reached then some (reached - 1) else none := by
  have hsingle : d.closes [d.closer] = 1 := by
    rw [← List.nil_append [d.closer], d.closes_snoc_closer hcloser, if_pos rfl]
    rfl
  have hnone : d.opens [d.closer] = 0 := d.opens_snoc_closer hcloser []
  fun_induction glueBack d.closer tokens generalizing depth with
  | case1 => simp [depthAfter_word, hsingle, hnone]
  | case2 token hword =>
      simp only [depthAfter_word, d.opens_snoc_closer hcloser, d.closes_snoc_closer hcloser,
        if_true, depthAfter_of_word d depth hword, depthAfter_nil]
      by_cases hopen : d.closes token.value < depth + d.opens token.value
      · rw [if_pos hopen, Option.bind_some]
        by_cases hmore : d.closes token.value + 1 < depth + d.opens token.value
        · rw [if_pos hmore, if_pos (by omega), Nat.sub_add_eq]
        · rw [if_neg hmore, if_neg (by omega)]
      · rw [if_neg hopen, if_neg (by omega), Option.bind_none]
  | case3 token hword => simp [depthAfter_word, depthAfter_other _ _ hword, hsingle, hnone]
  | case4 token next rest ih =>
      rw [depthAfter, depthAfter]
      split_ifs
      · exact ih _
      · rfl
      · exact ih _

/-- Between delimiters, tokens that close nothing outside them still close nothing. -/
theorem depthAfter_enclose {d : Delimiters} (hopener : isOpener d.opener = true)
    (hcloser : isCloser d.closer = true) {depth : Nat} {tokens : List Token} (hdepth : 0 < depth)
    (h : d.depthAfter (depth + 1) tokens = some (depth + 1)) :
    d.depthAfter depth (d.enclose tokens) = some depth := by
  rw [enclose, depthAfter_glueBack d hcloser, depthAfter_glueFront d hopener, h, Option.bind_some,
    if_pos (by omega), Nat.add_sub_cancel]

/-- A foreign opener in front does not count. -/
theorem depthAfter_glueFront_foreign (d : Delimiters) {c : Char} (hc : isOpener c = true)
    (hforeign : c ≠ d.opener) {depth : Nat} (hdepth : 0 < depth) (tokens : List Token) :
    d.depthAfter depth (glueFront c tokens) = d.depthAfter depth tokens := by
  have hopens := d.opens_cons_foreign hc hforeign
  have hsingle : d.opens [c] = 0 := hopens []
  have hnone : d.closes [c] = 0 := d.closes_cons_opener hc []
  cases tokens with
  | nil => simp [glueFront, depthAfter_word, hsingle, hnone, hdepth]
  | cons token rest =>
      by_cases hword : token.kind = .word
      · simp only [glueFront, hword, if_true, depthAfter_word, hopens, d.closes_cons_opener hc,
          depthAfter_of_word d depth hword]
      · simp [glueFront, hword, depthAfter_word, hsingle, hnone, hdepth]

/-- A foreign closer behind does not count. -/
theorem depthAfter_glueBack_foreign (d : Delimiters) {c : Char} (hc : isCloser c = true)
    (hforeign : c ≠ d.closer) {depth : Nat} (hdepth : 0 < depth) (tokens : List Token) :
    d.depthAfter depth (glueBack c tokens) = d.depthAfter depth tokens := by
  have hcloses := d.closes_snoc_foreign hc hforeign
  have hsingle : d.closes [c] = 0 := hcloses []
  have hnone : d.opens [c] = 0 := d.opens_snoc_closer hc []
  fun_induction glueBack c tokens generalizing depth with
  | case1 => simp [depthAfter_word, hsingle, hnone, hdepth]
  | case2 token hword =>
      simp only [depthAfter_word, d.opens_snoc_closer hc, hcloses,
        depthAfter_of_word d depth hword]
  | case3 token hword =>
      simp [depthAfter_word, depthAfter_other _ _ hword, hsingle, hnone, hdepth]
  | case4 token next rest ih =>
      rw [depthAfter, depthAfter]
      split_ifs
      · exact ih (by omega)
      · rfl
      · exact ih hdepth

end Delimiters

/-! ### Inside a group -/

/-- A group with the given text. -/
def Group.ofText (s : Text) (depth : Nat) : Group := ⟨s.reverse, depth⟩

theorem Group.text_ofText (s : Text) (depth : Nat) : (Group.ofText s depth).text = s :=
  List.reverse_reverse s

theorem Group.push_depth (group : Group) (piece : Text) :
    (group.push piece).depth = group.depth := by
  simp only [push]
  split_ifs <;> rfl

theorem Group.push_first (depth : Nat) {piece : Text} (h : Tight piece) :
    Group.push ⟨[], depth⟩ piece = Group.ofText piece depth := by
  simp [push, ofText, h.trim_eq, h.nonempty]

/-- A piece of text comes one space behind a text without blanks at its end. -/
theorem Group.push_ofText {s piece : Text} (hs : s ≠ [])
    (hlast : ∀ c ∈ s.getLast?, Text.isBlank c = false) (h : Tight piece) (depth : Nat) :
    (Group.ofText s depth).push piece = Group.ofText (s ++ ' ' :: piece) depth := by
  have hkept : s.reverse.dropWhile Text.isBlank = s.reverse := by
    rw [← List.head?_reverse] at hlast
    cases hreverse : s.reverse with
    | nil => rfl
    | cons c back =>
        have hc : Text.isBlank c = false := hlast c (by simp [hreverse])
        rw [List.dropWhile_cons_of_neg (by simp [hc])]
  simp [push, ofText, h.trim_eq, h.nonempty, hs, hkept]

/-- A token that is written without blanks at its ends. -/
def IsTight (token : Token) : Prop := Tight token.source

theorem isTight_split : split.IsTight where
  nonempty := by decide
  head := by
    rintro c ⟨⟩
    decide
  last := by
    rintro c ⟨⟩
    decide

theorem Group.pushToken_ofText {s : Text} (hs : Tight s) {token : Token} (h : token.IsTight)
    (depth : Nat) :
    (Group.ofText s depth).pushToken token =
      Group.ofText (s ++ writtenBehind [token]) depth := by
  cases hsplit : token.isSplit with
  | true =>
      have hkind : token.kind = .split := by simpa [isSplit] using hsplit
      simp [pushToken, hsplit, writtenBehind, source, hkind, ofText]
  | false =>
      rw [pushToken, if_neg (by simp [hsplit]), push_ofText hs.nonempty hs.last h]
      simp [writtenBehind, hsplit]

theorem tight_writtenBehind {s : Text} (hs : Tight s) {token : Token} (h : token.IsTight) :
    Tight (s ++ writtenBehind [token]) := by
  cases hsplit : token.isSplit with
  | true => simpa [writtenBehind, hsplit] using hs.append h []
  | false => simpa [writtenBehind, hsplit] using hs.append h [' ']

theorem writtenBehind_append (first second : List Token) :
    writtenBehind (first ++ second) = writtenBehind first ++ writtenBehind second := by
  induction first with
  | nil => rfl
  | cons token rest ih => simp [writtenBehind, ih]

theorem writtenBehind_cons (token : Token) (rest : List Token) :
    writtenBehind (token :: rest) = writtenBehind [token] ++ writtenBehind rest :=
  writtenBehind_append [token] rest

theorem written_append {first : List Token} (h : first ≠ []) (second : List Token) :
    written (first ++ second) = written first ++ writtenBehind second := by
  cases first with
  | nil => exact absurd rfl h
  | cons token rest => simp [written, writtenBehind_append]

namespace Delimiters

/-- What a word does inside a group, quoted or not. -/
theorem stepInside_word (d : Delimiters) {group : Group} (hdepth : 0 < group.depth) (w : Text) :
    d.stepInside group (word w) =
      if d.closes w < group.depth + d.opens w then
        ([], some { group.push w with depth := group.depth + d.opens w - d.closes w })
      else
        (d.finish group (splitAfterCloses d.closer (group.depth + d.opens w) w).1
          (splitAfterCloses d.closer (group.depth + d.opens w) w).2, none) := by
  cases hquoted : isFullyQuoted w with
  | true =>
      -- A quoted word neither opens nor closes anything, so the group takes it as it is.
      obtain ⟨hopens, hcloses⟩ := d.runs_of_quoted hquoted
      have hsource : group.pushToken (word w) = group.push w := rfl
      rw [hopens, hcloses, if_pos (by omega)]
      simp only [stepInside, word, isQuoted, hquoted, beq_self_eq_true, Bool.and_self, ne_eq,
        not_true_eq_false, or_true, if_true, Nat.add_zero, Nat.sub_zero]
      simp only [word] at hsource
      rw [hsource, ← group.push_depth w]
  | false =>
      simp only [stepInside, word, isQuoted, hquoted, Bool.and_false, ne_eq, not_true_eq_false,
        Bool.false_eq_true, or_self, if_false]
      rfl

/-- **Tokens that do not close a group become part of its text.** -/
theorem advance_inside (d : Delimiters) {s : Text} (hs : Tight s) {depth reached : Nat}
    (hdepth : 0 < depth) {tokens : List Token} (htight : ∀ t ∈ tokens, t.IsTight)
    (h : d.depthAfter depth tokens = some reached) :
    d.advance (some (Group.ofText s depth)) tokens =
      ([], some (Group.ofText (s ++ writtenBehind tokens) reached)) := by
  induction tokens generalizing s depth with
  | nil =>
      cases h
      simp [writtenBehind]
  | cons token rest ih =>
      obtain ⟨hfirst, hrest⟩ := List.forall_mem_cons.mp htight
      have hnext := tight_writtenBehind hs hfirst
      rw [advance_cons, writtenBehind_cons, ← List.append_assoc]
      by_cases hword : token.kind = .word
      · obtain ⟨kind, w⟩ := token
        cases hword
        rw [depthAfter_of_word d depth rfl] at h
        split_ifs at h with hopen
        have hstep : d.step (some (Group.ofText s depth)) ⟨.word, w⟩ =
            ([], some (Group.ofText (s ++ writtenBehind [⟨.word, w⟩])
              (depth + d.opens w - d.closes w))) := by
          have hpush := Group.pushToken_ofText hs hfirst depth
          show d.stepInside (Group.ofText s depth) (word w) = _
          rw [d.stepInside_word hdepth]
          have hsource : (Group.ofText s depth).pushToken ⟨.word, w⟩ =
            (Group.ofText s depth).push w := rfl
          rw [hsource] at hpush
          have hopen' : d.closes w < (Group.ofText s depth).depth + d.opens w := hopen
          rw [hpush, if_pos hopen']
          rfl
        rw [hstep, ih hnext (by omega) hrest h]
        rfl
      · rw [depthAfter_other d depth hword] at h
        have hstep : d.step (some (Group.ofText s depth)) token =
            ([], some (Group.ofText (s ++ writtenBehind [token]) depth)) := by
          show d.stepInside (Group.ofText s depth) token = _
          rw [stepInside, if_pos (.inl hword), Group.pushToken_ofText hs hfirst]
        rw [hstep, ih hnext hdepth hrest h]
        rfl

end Delimiters

/-! ### How enclosed tokens are written -/

theorem tight_append_writtenBehind {s : Text} (hs : Tight s) {tokens : List Token}
    (h : ∀ t ∈ tokens, t.IsTight) : Tight (s ++ writtenBehind tokens) := by
  induction tokens generalizing s with
  | nil => simpa [writtenBehind] using hs
  | cons token rest ih =>
      obtain ⟨hfirst, hrest⟩ := List.forall_mem_cons.mp h
      rw [writtenBehind_cons, ← List.append_assoc]
      exact ih (tight_writtenBehind hs hfirst) hrest

theorem tight_written {tokens : List Token} (h : ∀ t ∈ tokens, t.IsTight) :
    written tokens = [] ∨ Tight (written tokens) := by
  cases tokens with
  | nil => exact .inl rfl
  | cons token rest =>
      obtain ⟨hfirst, hrest⟩ := List.forall_mem_cons.mp h
      exact .inr (tight_append_writtenBehind hfirst hrest)

theorem written_glueFront (c : Char) (tokens : List Token) :
    ∃ pad : Text, (∀ b ∈ pad, Text.isBlank b = true) ∧
      written (glueFront c tokens) = c :: (pad ++ written tokens) := by
  have hblank : Text.isBlank ' ' = true := by decide
  cases tokens with
  | nil => exact ⟨[], by simp, rfl⟩
  | cons token rest =>
      by_cases hword : token.kind = .word
      · exact ⟨[], by simp, by simp [glueFront, hword, written, word, source]⟩
      cases hsplit : token.isSplit with
      | true =>
          refine ⟨[], by simp, ?_⟩
          simp [glueFront, hword, hsplit, written, writtenBehind, word, source]
      | false =>
          exact ⟨[' '], by simpa using hblank,
            by simp [glueFront, hword, hsplit, written, writtenBehind, word, source]⟩

theorem writtenBehind_glueBack (c : Char) (tokens : List Token) :
    ∃ pad : Text, (∀ b ∈ pad, Text.isBlank b = true) ∧
      writtenBehind (glueBack c tokens) = writtenBehind tokens ++ pad ++ [c] := by
  have hblank : Text.isBlank ' ' = true := by decide
  fun_induction glueBack c tokens with
  | case1 =>
      exact ⟨[' '], by simpa using hblank, by simp [writtenBehind, word, isSplit, source]⟩
  | case2 token hword =>
      exact ⟨[], by simp, by simp [writtenBehind, word, isSplit, source, hword]⟩
  | case3 token hword =>
      exact ⟨[' '], by simpa using hblank, by simp [writtenBehind, word, isSplit, source]⟩
  | case4 token next rest ih =>
      obtain ⟨pad, hpad, hwritten⟩ := ih
      refine ⟨pad, hpad, ?_⟩
      rw [writtenBehind_cons, hwritten, writtenBehind_cons token (next :: rest)]
      simp only [List.append_assoc]

theorem written_glueBack (c : Char) {tokens : List Token} (h : tokens ≠ []) :
    ∃ pad : Text, (∀ b ∈ pad, Text.isBlank b = true) ∧
      written (glueBack c tokens) = written tokens ++ pad ++ [c] := by
  have hblank : Text.isBlank ' ' = true := by decide
  match tokens with
  | [] => exact absurd rfl h
  | [token] =>
      by_cases hword : token.kind = .word
      · exact ⟨[], by simp, by simp [glueBack, hword, written, writtenBehind, word, source]⟩
      · exact ⟨[' '], by simpa using hblank,
          by simp [glueBack, hword, written, writtenBehind, word, isSplit, source]⟩
  | token :: next :: rest =>
      obtain ⟨pad, hpad, hwritten⟩ := writtenBehind_glueBack c (next :: rest)
      exact ⟨pad, hpad, by simp [glueBack, written, hwritten]⟩

/-- In front of a word or a mark a character is written without a space. -/
theorem written_glueFront_word (c : Char) {tokens : List Token}
    (h : ∀ t ∈ tokens.head?, t.kind = .word ∨ t = split) :
    written (glueFront c tokens) = c :: written tokens := by
  cases tokens with
  | nil => rfl
  | cons token rest =>
      rcases h token rfl with hword | rfl
      · simp [glueFront, hword, written, word, source]
      · simp [glueFront, written, writtenBehind, word, split, isSplit, source]

/-- Behind a word a character is written without a space. -/
theorem written_glueBack_word (c : Char) {tokens : List Token} (hnonempty : tokens ≠ [])
    (h : ∀ t ∈ tokens.getLast?, t.kind = .word) :
    written (glueBack c tokens) = written tokens ++ [c] := by
  obtain ⟨front, last, rfl⟩ := (List.eq_nil_or_concat' tokens).resolve_left hnonempty
  have hword : last.kind = .word := h last (by simp)
  rw [glueBack_append c front (List.cons_ne_nil last [])]
  cases front with
  | nil => simp [glueBack, hword, written, writtenBehind, word, source]
  | cons token front =>
      simp [glueBack, hword, written, writtenBehind_append, writtenBehind, word, source, isSplit]

theorem glueFront_ne_nil (c : Char) (tokens : List Token) : glueFront c tokens ≠ [] := by
  obtain ⟨w, rest, hglue, -⟩ := glueFront_eq_cons c tokens
  simp [hglue]

/-- Tokens that begin and end with a word. -/
structure IsPhrase (tokens : List Token) : Prop where
  nonempty : tokens ≠ []
  wordEnds : WordEnds tokens

theorem IsPhrase.append {first second : List Token} (hfirst : IsPhrase first)
    (hsecond : IsPhrase second) (between : List Token) :
    IsPhrase (first ++ between ++ second) where
  nonempty := by simp [hfirst.nonempty]
  wordEnds := hfirst.wordEnds.append hsecond.wordEnds hfirst.nonempty hsecond.nonempty between

theorem isPhrase_word (w : Text) : IsPhrase [word w] := ⟨by simp, wordEnds_word w⟩

theorem isPhrase_enclose (d : Delimiters) (tokens : List Token) : IsPhrase (d.enclose tokens) :=
  ⟨glueBack_ne_nil _ _, d.wordEnds_enclose tokens⟩

theorem IsPhrase.writtenBehind_eq {tokens : List Token} (h : IsPhrase tokens) :
    writtenBehind tokens = ' ' :: written tokens := by
  cases tokens with
  | nil => exact absurd rfl h.nonempty
  | cons token rest =>
      have hword : token.kind = .word := h.wordEnds.head token rfl
      simp [writtenBehind, written, isSplit, hword]

namespace Delimiters

/-- Tokens that begin with a word or a mark and end with a word are enclosed without spaces. -/
theorem written_enclose (d : Delimiters) {tokens : List Token}
    (hhead : ∀ t ∈ tokens.head?, t.kind = .word ∨ t = split)
    (hlast : ∀ t ∈ tokens.getLast?, t.kind = .word) :
    written (d.enclose tokens) = d.opener :: written tokens ++ [d.closer] := by
  have hlast' : ∀ t ∈ (glueFront d.opener tokens).getLast?, t.kind = .word := by
    cases tokens with
    | nil => simp [glueFront, word]
    | cons token rest =>
        rw [glueFront]
        split_ifs with hword
        · cases rest with
          | nil => simp [word]
          | cons next more => simpa using hlast
        · simpa using hlast
  rw [enclose, written_glueBack_word d.closer (glueFront_ne_nil d.opener tokens) hlast',
    written_glueFront_word d.opener hhead]

/-- The text of a group is that of the tokens it encloses. -/
theorem body_written_enclose (d : Delimiters) {tokens : List Token}
    (h : ∀ t ∈ tokens, t.IsTight) : d.body (written (d.enclose tokens)) = written tokens := by
  obtain ⟨before, hbefore, hfront⟩ := written_glueFront d.opener tokens
  obtain ⟨after, hafter, hback⟩ := written_glueBack d.closer (glueFront_ne_nil d.opener tokens)
  have htext : written (d.enclose tokens) =
      d.opener :: (before ++ written tokens ++ after ++ [d.closer]) := by
    rw [enclose, hback, hfront]
    simp
  have hstart : Text.afterStart? [d.opener] (written (d.enclose tokens)) =
      some (before ++ written tokens ++ after ++ [d.closer]) := by
    simp [htext, Text.afterStart?]
  have hend : Text.beforeEnd? [d.closer] (before ++ written tokens ++ after ++ [d.closer]) =
      some (before ++ written tokens ++ after) := Text.beforeEnd?_append _ _
  simp only [body, hstart, Option.getD_some, hend]
  exact Text.trim_pad hbefore hafter (tight_written h)

/-! ### Grouping enclosed tokens -/

section Enclosed

variable {d : Delimiters} (hopener : isOpener d.opener = true) (hcloser : isCloser d.closer = true)

include hcloser in
/-- The word that brings the last closer a group waits for ends the group. -/
theorem step_closing {s w : Text} (hs : Tight s) (hw : w = [] ∨ Tight w) {depth : Nat}
    (hdepth : 0 < depth) (h : depth + d.opens w = d.closes w + 1) :
    d.step (some (Group.ofText s depth)) (word (w ++ [d.closer])) =
      ([⟨d.kind, d.body (s ++ ' ' :: (w ++ [d.closer]))⟩], none) := by
  have hpositive : 0 < (Group.ofText s depth).depth := hdepth
  have hneeded : (Group.ofText s depth).depth + d.opens w = d.closes w + 1 := h
  show d.stepInside _ _ = _
  rw [d.stepInside_word hpositive, d.opens_snoc_closer hcloser, d.closes_snoc_closer hcloser,
    if_pos rfl, hneeded, if_neg (by omega), d.splitAfterCloses_last hcloser]
  simp only [finish, List.isEmpty_nil, if_true]
  rw [Group.push_ofText hs.nonempty hs.last (Tight.snoc (not_blank_of_closer hcloser) hw),
    Group.text_ofText]

include hcloser in
/-- A group that is one closer away from its end behind some tokens ends with a closer
behind them. -/
theorem advance_closing {s : Text} (hs : Tight s) {depth : Nat} (hdepth : 0 < depth)
    {tokens : List Token} (hnonempty : tokens ≠ []) (htight : ∀ t ∈ tokens, t.IsTight)
    (h : d.depthAfter depth tokens = some 1) :
    d.advance (some (Group.ofText s depth)) (glueBack d.closer tokens) =
      ([⟨d.kind, d.body (s ++ writtenBehind (glueBack d.closer tokens))⟩], none) := by
  obtain ⟨front, last, rfl⟩ := (List.eq_nil_or_concat' tokens).resolve_left hnonempty
  have hfront : ∀ t ∈ front, t.IsTight := fun t ht => htight t (by simp [ht])
  have hlast : last.IsTight := htight last (by simp)
  rw [depthAfter_append] at h
  obtain ⟨reached, hreached, hend⟩ := Option.bind_eq_some_iff.mp h
  have hpositive := depthAfter_pos hdepth hreached
  have hmiddle := tight_append_writtenBehind hs hfront
  rw [glueBack_append _ _ (by simp), advance_append, d.advance_inside hs hdepth hfront hreached,
    writtenBehind_append, ← List.append_assoc]
  generalize s ++ writtenBehind front = middle at hmiddle
  by_cases hword : last.kind = .word
  · obtain ⟨kind, w⟩ := last
    cases hword
    rw [depthAfter_of_word d reached rfl] at hend
    split_ifs at hend with hopen
    have hneeded : reached + d.opens w = d.closes w + 1 := by
      have hone : reached + d.opens w - d.closes w = 1 := Option.some.inj hend
      have hopen : d.closes w < reached + d.opens w := hopen
      omega
    have hw : Tight w := hlast
    have hstep := step_closing hcloser hmiddle (.inr hw) hpositive hneeded
    have hglued : glueBack d.closer [⟨.word, w⟩] = [word (w ++ [d.closer])] := rfl
    rw [hglued, advance_cons, hstep]
    simp [writtenBehind, word, isSplit, source]
  · rw [depthAfter_other d reached hword] at hend
    cases hend
    have htext := tight_writtenBehind hmiddle hlast
    have hopen : d.depthAfter 1 [last] = some 1 := by
      rw [depthAfter_other d 1 hword, depthAfter_nil]
    have hinside := d.advance_inside hmiddle Nat.one_pos (by simpa using hlast) hopen
    have hstep := step_closing hcloser (w := []) htext (.inl rfl) Nat.one_pos rfl
    rw [glueBack, if_neg hword, ← List.singleton_append, advance_append, hinside]
    simp only [List.nil_append] at hstep
    simp only [advance_cons, hstep, advance_nil, List.nil_append, List.append_nil]
    rw [writtenBehind_append]
    simp [writtenBehind, word, isSplit, source]

theorem stepOutside_unquoted (d : Delimiters) {w : Text} (h : isFullyQuoted w = false) :
    d.stepOutside (word w) = d.stepWord (word w) w := by
  simp [stepOutside, word, isQuoted, h]

include hopener in
/-- What a word does outside groups if it begins with an opener. -/
theorem step_opening {w : Text} (hw : w = [] ∨ Tight w) :
    d.step none (word (d.opener :: w)) =
      if d.opens w + 1 ≤ d.closes w then
        (d.finish ⟨[], d.opens w + 1⟩ (splitAfterCloses d.closer (d.opens w + 1) (d.opener :: w)).1
          (splitAfterCloses d.closer (d.opens w + 1) (d.opener :: w)).2, none)
      else ([], some (Group.ofText (d.opener :: w) (d.opens w + 1 - d.closes w))) := by
  have hwhole : Tight (d.opener :: w) := Tight.cons (not_blank_of_opener hopener) hw
  have hquote : isFullyQuoted (d.opener :: w) = false := by
    have hne : d.opener ≠ '"' := by
      rintro heq
      rw [heq] at hopener
      cases hopener
    simp [isFullyQuoted, hne]
  have hopens : d.opens (d.opener :: w) = d.opens w + 1 := by
    rw [d.opens_cons_opener hopener, if_pos rfl]
  have htake : (d.opener :: w).takeWhile (· != d.opener) = [] := by simp
  have hdrop : (d.opener :: w).dropWhile (· != d.opener) = d.opener :: w := by simp
  show d.stepOutside _ = _
  rw [d.stepOutside_unquoted hquote, stepWord]
  simp only [hopens, d.closes_cons_opener hopener, htake, hdrop, Nat.add_one_ne_zero, if_false,
    List.isEmpty_nil, if_true, List.nil_append, Group.push_first _ hwhole]

include hopener in
/-- Tokens behind an opener that do not close the group leave it open. -/
theorem advance_opening {w : Text} (hw : w = [] ∨ Tight w) {rest : List Token}
    (hrest : ∀ t ∈ rest, t.IsTight) {reached : Nat}
    (h : d.depthAfter 0 (word (d.opener :: w) :: rest) = some reached) :
    d.advance none (word (d.opener :: w) :: rest) =
      ([], some (Group.ofText (d.opener :: w ++ writtenBehind rest) reached)) := by
  rw [depthAfter_word, d.opens_cons_opener hopener, if_pos rfl, d.closes_cons_opener hopener,
    Nat.zero_add] at h
  split_ifs at h with hopen
  have hpositive : 0 < d.opens w + 1 - d.closes w := by omega
  have hstep := step_opening hopener hw
  rw [if_neg (by omega)] at hstep
  rw [advance_cons, hstep,
    d.advance_inside (Tight.cons (not_blank_of_opener hopener) hw) hpositive hrest h]
  rfl

theorem exists_glueFront (c : Char) {tokens : List Token} (h : ∀ t ∈ tokens, t.IsTight) :
    ∃ w rest, glueFront c tokens = word (c :: w) :: rest ∧ (w = [] ∨ Tight w) ∧
      ∀ t ∈ rest, t.IsTight := by
  obtain ⟨w, rest, hglue, hshape⟩ := glueFront_eq_cons c tokens
  refine ⟨w, rest, hglue, ?_⟩
  rcases hshape with ⟨-, rfl, rfl⟩ | rfl | ⟨rfl, rfl, -⟩
  · exact ⟨.inl rfl, by simp⟩
  · exact ⟨.inr (h (word w) (by simp)), fun t ht => h t (by simp [ht])⟩
  · exact ⟨.inl rfl, h⟩

include hopener hcloser in
/-- **Enclosed tokens are grouped into one.** -/
theorem advance_enclose {tokens : List Token} (htight : ∀ t ∈ tokens, t.IsTight)
    (h : d.depthAfter 1 tokens = some 1) :
    d.advance none (d.enclose tokens) = ([⟨d.kind, written tokens⟩], none) := by
  have hblank := not_blank_of_opener hopener
  have hblank' := not_blank_of_closer hcloser
  rw [← d.body_written_enclose htight]
  rw [← Nat.zero_add 1, ← d.depthAfter_glueFront hopener] at h
  obtain ⟨w, rest, hglue, hw, hrest⟩ := exists_glueFront d.opener htight
  rw [hglue, depthAfter_word, d.opens_cons_opener hopener, if_pos rfl,
    d.closes_cons_opener hopener] at h
  split_ifs at h with hopen
  rw [enclose, hglue]
  cases rest with
  | nil =>
      have hone : 0 + (d.opens w + 1) - d.closes w = 0 + 1 := Option.some.inj h
      have hcloses : d.closes w = d.opens w := by omega
      have hcut := d.splitAfterCloses_last hcloser (d.opener :: w)
      rw [d.closes_cons_opener hopener, hcloses] at hcut
      have hstep := step_opening hopener (Or.inr (Tight.snoc hblank' hw))
      rw [d.opens_snoc_closer hcloser, d.closes_snoc_closer hcloser, if_pos rfl, hcloses,
        if_pos le_rfl, ← List.cons_append, hcut] at hstep
      have hwhole := Group.push_first (d.opens w + 1)
        (Tight.snoc hblank' (Or.inr (Tight.cons hblank hw)))
      simp only [finish, List.isEmpty_nil, if_true, hwhole, Group.text_ofText] at hstep
      have hglued : glueBack d.closer [word (d.opener :: w)] =
          [word (d.opener :: w ++ [d.closer])] := rfl
      rw [hglued, advance_cons, hstep]
      simp [written, writtenBehind, source, word]
  | cons next more =>
      have hstep := step_opening hopener hw
      rw [if_neg (by omega)] at hstep
      have hpositive : 0 < d.opens w + 1 - d.closes w := by omega
      have hclosing := advance_closing hcloser (Tight.cons hblank hw) hpositive
        (List.cons_ne_nil next more) hrest (by simpa using h)
      rw [glueBack, advance_cons, hstep, hclosing]
      simp [written, word, source]

include hopener hcloser in
/-- Tokens that open more than they close leave the group open behind its closer. -/
theorem advance_enclose_open {tokens : List Token} (htight : ∀ t ∈ tokens, t.IsTight)
    {reached : Nat}
    (hreached : 1 < reached) (h : d.depthAfter 1 tokens = some reached) :
    ∃ group, d.advance none (d.enclose tokens) = ([], some group) := by
  have hblank := not_blank_of_closer hcloser
  have hdepth : d.depthAfter 0 (d.enclose tokens) = some (reached - 1) := by
    rw [enclose, depthAfter_glueBack d hcloser, depthAfter_glueFront d hopener, h, Option.bind_some,
      if_pos hreached]
  obtain ⟨w, rest, hglue, hw, hrest⟩ := exists_glueFront d.opener htight
  rw [enclose, hglue] at hdepth ⊢
  cases rest with
  | nil =>
      have hword : w ++ [d.closer] = [] ∨ Tight (w ++ [d.closer]) := .inr (Tight.snoc hblank hw)
      exact ⟨_, advance_opening hopener hword hrest hdepth⟩
  | cons next more =>
      have hmore : ∀ t ∈ glueBack d.closer (next :: more), t.IsTight :=
        forall_mem_glueBack (Tight.cons hblank (.inl rfl))
          (fun w hw => Tight.snoc hblank (.inr hw)) hrest
      exact ⟨_, advance_opening hopener hw hmore hdepth⟩

end Enclosed

end Delimiters

/-! ### Foreign delimiters -/

theorem glueFront_of_not_word (c : Char) {tokens : List Token}
    (h : ∀ t ∈ tokens.head?, t.kind ≠ .word) : glueFront c tokens = word [c] :: tokens := by
  cases tokens with
  | nil => rfl
  | cons token rest => simp [glueFront, h token rfl]

namespace Delimiters

/-- What comes out of an open group first is the group. -/
theorem head_advance_inside (d : Delimiters) (group : Group) (tokens : List Token) :
    ∀ t ∈ (d.advance (some group) tokens).1.head?, t.kind = d.kind := by
  induction tokens generalizing group with
  | nil => simp
  | cons token rest ih =>
      rw [advance_cons]
      show ∀ t ∈ ((d.stepInside group token).1 ++ _).head?, _
      simp only [step, stepInside, finish]
      split_ifs
      · exact ih _
      · exact ih _
      · simp
      · simp

/-- A word that opens nothing stays what it is, as long as quotes hide delimiters. -/
theorem step_of_opens_eq_zero {d : Delimiters} (hquotes : d.kind ≠ .substitution) {w : Text}
    (h : d.opens w = 0) : d.step none (word w) = ([word w], none) := by
  show d.stepOutside (word w) = _
  cases hquoted : isFullyQuoted w with
  | true => simp [stepOutside, word, isQuoted, hquoted, hquotes]
  | false => rw [d.stepOutside_unquoted hquoted, stepWord, h, if_pos rfl]

/-- A word that opens a group is not quoted. -/
theorem step_of_opens_pos {d : Delimiters} {w : Text} (h : 0 < d.opens w) :
    d.step none (word w) = d.stepWord (word w) w := by
  have hquoted : isFullyQuoted w = false := by
    cases hquoted : isFullyQuoted w with
    | true =>
        have hnone := (d.runs_of_quoted hquoted).1
        omega
    | false => rfl
  exact d.stepOutside_unquoted hquoted

/-- Whatever is glued in front of the opener of a group stays in front of the group. -/
theorem stepWord_foreign (d : Delimiters) {c : Char} (hc : isOpener c = true)
    (hforeign : c ≠ d.opener) {w : Text} (hopens : 0 < d.opens w) :
    ∃ before complete pending,
      d.stepWord (word w) w =
        ((if before.isEmpty then [] else [word before]) ++ complete, pending) ∧
      d.stepWord (word (c :: w)) (c :: w) = (word (c :: before) :: complete, pending) ∧
      ((∀ t ∈ complete.head?, t.kind = d.kind) ∧ (complete = [] → pending ≠ none)) := by
  have hopens' := d.opens_cons_foreign hc hforeign w
  have htake : (c :: w).takeWhile (· != d.opener) = c :: w.takeWhile (· != d.opener) := by
    simp [hforeign]
  have hdrop : (c :: w).dropWhile (· != d.opener) = w.dropWhile (· != d.opener) := by
    simp [hforeign]
  refine ⟨w.takeWhile (· != d.opener), ?_⟩
  simp only [stepWord, hopens', d.closes_cons_opener hc, htake, hdrop, hopens.ne', if_false]
  by_cases hcloses : d.opens w ≤ d.closes w
  · simp only [if_pos hcloses]
    exact ⟨_, none, rfl, rfl, by simp [finish], by simp [finish]⟩
  · simp only [if_neg hcloses]
    exact ⟨[], some _, by rw [List.append_nil], rfl, by simp, by simp⟩

/-- A foreign opener stays glued to what comes out first. -/
theorem advance_glueFront {d : Delimiters} (hkind : d.kind ≠ .word)
    (hquotes : d.kind ≠ .substitution) {c : Char} (hc : isOpener c = true)
    (hforeign : c ≠ d.opener) (tokens : List Token) :
    d.advance none (glueFront c tokens) =
      (glueFront c (d.advance none tokens).1, (d.advance none tokens).2) := by
  have hopens := d.opens_cons_foreign hc hforeign
  have hsingle : d.step none (word [c]) = ([word [c]], none) :=
    step_of_opens_eq_zero hquotes (hopens [])
  cases tokens with
  | nil => simp [glueFront, advance_cons, hsingle]
  | cons token rest =>
      by_cases hword : token.kind = .word
      · obtain ⟨kind, w⟩ := token
        cases hword
        show d.advance none (word (c :: w) :: rest) =
          (glueFront c (d.advance none (word w :: rest)).1,
            (d.advance none (word w :: rest)).2)
        rw [advance_cons, advance_cons]
        by_cases hnone : d.opens w = 0
        · rw [step_of_opens_eq_zero hquotes hnone,
            step_of_opens_eq_zero hquotes ((hopens w).trans hnone)]
          rfl
        · have hpositive : 0 < d.opens w := Nat.pos_of_ne_zero hnone
          obtain ⟨before, complete, pending, hstep, hglued, hhead, hempty⟩ :=
            d.stepWord_foreign hc hforeign hpositive
          rw [step_of_opens_pos hpositive, step_of_opens_pos (by rwa [hopens]), hstep, hglued]
          cases before with
          | cons b before => rfl
          | nil =>
              have hfirst : ∀ t ∈ (complete ++ (d.advance pending rest).1).head?,
                  t.kind ≠ .word := by
                cases complete with
                | cons t complete =>
                    simp only [List.cons_append, List.head?_cons, Option.mem_def,
                      Option.some.injEq]
                    rintro u rfl
                    rw [hhead t rfl]
                    exact hkind
                | nil =>
                    cases pending with
                    | none => exact absurd rfl (hempty rfl)
                    | some group =>
                        intro t ht
                        rw [d.head_advance_inside group rest t ht]
                        exact hkind
              simp only [List.isEmpty_nil, if_true, List.nil_append]
              rw [glueFront_of_not_word c hfirst]
              rfl
      · have hstep : d.step none token = ([token], none) := by
          show d.stepOutside token = _
          rw [stepOutside, if_pos hword]
        simp [glueFront, hword, advance_cons, hsingle, hstep]

/-- A step that leaves no group open yields something. -/
theorem step_ne_nil {d : Delimiters} {pending : Option Group} {token : Token}
    (h : (d.step pending token).2 = none) : (d.step pending token).1 ≠ [] := by
  cases pending with
  | none =>
      simp only [step, stepOutside, stepWord, finish] at h ⊢
      split_ifs at h ⊢ <;> simp_all
  | some group =>
      simp only [step, stepInside, finish] at h ⊢
      split_ifs at h ⊢ <;> simp_all

theorem advance_ne_nil {d : Delimiters} {pending : Option Group} {tokens : List Token}
    (hnonempty : tokens ≠ []) (h : (d.advance pending tokens).2 = none) :
    (d.advance pending tokens).1 ≠ [] := by
  induction tokens generalizing pending with
  | nil => exact absurd rfl hnonempty
  | cons token rest ih =>
      rw [advance_cons] at h ⊢
      cases rest with
      | nil => simpa using step_ne_nil h
      | cons next more =>
          have hmore := ih (List.cons_ne_nil next more) h
          simp [hmore]

/-- A group waits for at least one closer. -/
def Waiting (pending : Option Group) : Prop := ∀ group ∈ pending, 0 < group.depth

theorem waiting_step {d : Delimiters} {pending : Option Group} (h : Waiting pending)
    (token : Token) : Waiting (d.step pending token).2 := by
  cases pending with
  | none =>
      simp only [step, stepOutside, stepWord, Waiting]
      split_ifs with _ _ _ _ _ _ _ <;> simp [Group.push_depth] <;> omega
  | some group =>
      have hdepth : 0 < group.depth := h group rfl
      simp only [step, stepInside, Waiting]
      split_ifs with _ hopen
      · simp only [Option.mem_def, Option.some.injEq, forall_eq']
        unfold Group.pushToken
        split_ifs
        · exact hdepth
        · rwa [Group.push_depth]
      · simp only [Option.mem_def, Option.some.injEq, forall_eq']
        omega
      · simp

/-- A word that opens a group has an opener, and openers of the other kind in front of it. -/
theorem exists_opener {d : Delimiters} {w : Text} (h : 0 < d.opens w) :
    isOpener d.opener = true ∧ ∃ before rest, w = before ++ d.opener :: rest ∧
      ∀ c ∈ before, isOpener c = true ∧ c ≠ d.opener := by
  have hmem := List.count_pos_iff.mp h
  obtain ⟨before, run, hrun, hfree⟩ := List.eq_append_cons_of_mem hmem
  refine ⟨List.mem_takeWhile_imp hmem, before, run ++ w.dropWhile isOpener, ?_, fun c hc => ?_⟩
  · have hwhole : w.takeWhile isOpener ++ w.dropWhile isOpener = w :=
      List.takeWhile_append_dropWhile
    rw [hrun, List.append_assoc, List.cons_append] at hwhole
    exact hwhole.symm
  · have hrunMem : c ∈ w.takeWhile isOpener := by
      rw [hrun]
      exact List.mem_append_left _ hc
    exact ⟨List.mem_takeWhile_imp hrunMem, fun heq => hfree (heq ▸ hc)⟩

theorem cut_at_opener {opener : Char} {before : Text} (h : ∀ c ∈ before, c ≠ opener) (rest : Text) :
    (before ++ opener :: rest).takeWhile (· != opener) = before ∧
      (before ++ opener :: rest).dropWhile (· != opener) = opener :: rest := by
  have hbefore : ∀ c ∈ before, (c != opener) = true := fun c hc => by simp [h c hc]
  rw [List.takeWhile_append_of_pos hbefore, List.dropWhile_append_of_pos hbefore]
  simp

theorem opens_append_opener {d : Delimiters} (hopener : isOpener d.opener = true) {before : Text}
    (h : ∀ c ∈ before, isOpener c = true ∧ c ≠ d.opener) (rest : Text) :
    d.opens (before ++ d.opener :: rest) = d.opens rest + 1 := by
  have hcount : before.count d.opener = 0 :=
    List.count_eq_zero.mpr fun hmem => (h _ hmem).2 rfl
  rw [opens, List.takeWhile_append_of_pos fun c hc => (h c hc).1, List.count_append, hcount,
    Nat.zero_add, List.takeWhile_cons_of_pos hopener, List.count_cons_self, opens]

/-- A foreign closer behind a word that leaves no group open is glued to what comes out
last. -/
theorem step_snoc_foreign {d : Delimiters} (hkind : d.kind ≠ .word)
    (hquotes : d.kind ≠ .substitution) {c : Char} (hc : isCloser c = true)
    (hforeign : c ≠ d.closer) {pending : Option Group} (hwaiting : Waiting pending) {w : Text}
    (h : (d.step pending (word w)).2 = none) :
    d.step pending (word (w ++ [c])) = (glueBack c (d.step pending (word w)).1, none) := by
  have hopens := d.opens_snoc_closer hc w
  have hcloses := d.closes_snoc_foreign hc hforeign w
  have hfinish : ∀ group head tail, d.finish group head (tail ++ [c]) =
      glueBack c (d.finish group head tail) := by
    intro group head tail
    cases tail with
    | nil => simp [finish, glueBack, hkind]
    | cons b tail => simp [finish, glueBack, word]
  cases pending with
  | none =>
      by_cases hnone : d.opens w = 0
      · rw [step_of_opens_eq_zero hquotes hnone,
          step_of_opens_eq_zero hquotes (hopens.trans hnone)]
        rfl
      · have hpositive : 0 < d.opens w := Nat.pos_of_ne_zero hnone
        obtain ⟨hopener, before, rest, hw, hbefore⟩ := exists_opener hpositive
        have hne : ∀ b ∈ before, b ≠ d.opener := fun b hb => (hbefore b hb).2
        obtain ⟨htake, hdrop⟩ := cut_at_opener hne rest
        obtain ⟨htake', hdrop'⟩ := cut_at_opener hne (rest ++ [c])
        rw [← List.cons_append, ← List.append_assoc, ← hw] at htake' hdrop'
        rw [← hw] at htake hdrop
        have hbody : d.closes w = d.closes (d.opener :: rest) := by
          rw [hw, d.closes_append_opener hopener]
        rw [step_of_opens_pos hpositive] at h ⊢
        rw [step_of_opens_pos (by rwa [hopens])]
        simp only [stepWord, hopens, hcloses, htake, hdrop, htake', hdrop', hnone, if_false] at h ⊢
        split_ifs at h ⊢ with hclosed
        · rw [d.splitAfterCloses_snoc hpositive (hbody ▸ hclosed) hc, hfinish, List.nil_append,
            List.nil_append]
        · rw [d.splitAfterCloses_snoc hpositive (hbody ▸ hclosed) hc, hfinish,
            glueBack_append c _ (by simp [finish])]
  | some group =>
      have hdepth : 0 < group.depth := hwaiting group rfl
      have hstep : ∀ v, d.step (some group) (word v) = d.stepInside group (word v) := fun _ => rfl
      rw [hstep, d.stepInside_word hdepth] at h ⊢
      rw [hstep, d.stepInside_word hdepth, hopens, hcloses]
      split_ifs at h ⊢ with hopen
      rw [d.splitAfterCloses_snoc (by omega) (by omega) hc, hfinish]

/-- A foreign closer stays glued to what comes out last. -/
theorem advance_glueBack {d : Delimiters} (hkind : d.kind ≠ .word)
    (hquotes : d.kind ≠ .substitution) {c : Char} (hc : isCloser c = true)
    (hforeign : c ≠ d.closer) {pending : Option Group} (hwaiting : Waiting pending)
    {tokens : List Token} (hnonempty : tokens ≠ [] ∨ pending = none)
    (h : (d.advance pending tokens).2 = none) :
    d.advance pending (glueBack c tokens) = (glueBack c (d.advance pending tokens).1, none) := by
  have hsingle : d.step none (word [c]) = ([word [c]], none) :=
    step_of_opens_eq_zero hquotes (d.opens_snoc_closer hc [])
  fun_induction glueBack c tokens generalizing pending with
  | case1 =>
      rcases hnonempty with hnonempty | rfl
      · exact absurd rfl hnonempty
      · rw [advance_cons, hsingle]
        rfl
  | case2 token hword =>
      obtain ⟨kind, w⟩ := token
      cases hword
      have hlast : (d.step pending (word w)).2 = none := h
      have hstep := step_snoc_foreign hkind hquotes hc hforeign hwaiting hlast
      rw [advance_cons, advance_cons, hstep]
      simp [word]
  | case3 token hword =>
      cases pending with
      | none =>
          have hstep : d.step none token = ([token], none) := by
            show d.stepOutside token = _
            rw [stepOutside, if_pos hword]
          simp [advance_cons, hstep, hsingle, glueBack, hword]
      | some group =>
          -- Inside a group such a token is folded back, and the group stays open.
          have hstep : (d.step (some group) token).2 = some (group.pushToken token) := by
            show (d.stepInside group token).2 = _
            rw [stepInside, if_pos (.inl hword)]
          rw [advance_cons, advance_nil, hstep] at h
          cases h
  | case4 token next rest ih =>
      have hrest : (d.advance (d.step pending token).2 (next :: rest)).2 = none := h
      have hmore := advance_ne_nil (List.cons_ne_nil next rest) hrest
      rw [advance_cons, advance_cons d pending token (next :: rest),
        ih (waiting_step hwaiting token) (.inl (List.cons_ne_nil next rest)) hrest]
      rw [glueBack_append c _ hmore]

end Delimiters

end Token

end Conch
