import Conch.Proofs.Enclosing

/-!
Grouping is complete in one pass. A pass cuts words that were not there before: openers of the
other kind in front of a group, closers behind it. None of them opens a group, so what comes out of
a pass is settled, and the same pass over it changes nothing.

* `IsSettled`: a token that opens no group. A pass lets such tokens through
  (`advance_of_isSettled`).
* `isSettled_step`: one step yields settled tokens only.
* `group_settled`: what is grouped stays as it is, whatever follows it.
-/

namespace Conch.Token

/-- A word of delimiters only is not quoted. -/
theorem stripQuotes_of_forall_ne {s : Text} (h : ∀ c ∈ s, c ≠ '"') : stripQuotes s = s := by
  have hhead : s.head? ≠ some '"' := fun hhead => h _ (List.mem_of_mem_head? hhead) rfl
  simp [stripQuotes, isFullyQuoted, hhead]

/-- What is cut off behind a closer are closers only. -/
theorem isCloser_of_mem_splitAfterCloses {closer : Char} {needed : Nat} {s : Text} {c : Char}
    (h : c ∈ (splitAfterCloses closer needed s).2) : isCloser c = true := by
  have hrun : ∀ c ∈ Text.takeEndWhile isCloser s, isCloser c = true :=
    fun _ => List.mem_rtakeWhile_imp
  unfold splitAfterCloses at h
  cases hcut : cutAfter closer needed (Text.takeEndWhile isCloser s) with
  | none =>
      simp only [hcut] at h
      exact absurd h List.not_mem_nil
  | some cut =>
      obtain ⟨head, tail⟩ := cut
      simp only [hcut] at h
      obtain ⟨inner, -, hwhole, -⟩ := cutAfter_spec hcut
      exact hrun c (by rw [hwhole]; simp [h])

namespace Delimiters

variable {d : Delimiters}

/-- A word as a pass sees it outside all groups. The pass of substitutions looks through quotes. -/
def view (d : Delimiters) (token : Token) : Text :=
  if d.kind = .substitution then stripQuotes token.value else token.value

/-- A token that opens no group. -/
def IsSettled (d : Delimiters) (token : Token) : Prop :=
  token.kind = .word → d.opener ∉ (d.view token).takeWhile isOpener

theorem view_of_forall_ne {s : Text} (h : ∀ c ∈ s, c ≠ '"') : d.view (word s) = s := by
  unfold view
  split_ifs
  · exact stripQuotes_of_forall_ne h
  · rfl

theorem opens_eq_zero_iff {s : Text} : d.opens s = 0 ↔ d.opener ∉ s.takeWhile isOpener :=
  List.count_eq_zero

/-- A token of another kind than words is settled. -/
theorem isSettled_of_kind {token : Token} (h : token.kind ≠ .word) : d.IsSettled token :=
  fun hword => absurd hword h

/-- Closers open nothing. -/
theorem isSettled_closers {s : Text} (h : ∀ c ∈ s, isCloser c = true) : d.IsSettled (word s) := by
  intro _ hmem
  rw [view_of_forall_ne fun c hc heq => by simpa [heq, isCloser] using h c hc] at hmem
  have hopener : isOpener d.opener = true := List.mem_takeWhile_imp hmem
  have hcloser := h _ (List.takeWhile_subset _ hmem)
  rw [not_closer_of_opener hopener] at hcloser
  cases hcloser

/-- Openers of the other kind open nothing in this pass. -/
theorem isSettled_openers {s : Text} (h : ∀ c ∈ s, isOpener c = true ∧ c ≠ d.opener) :
    d.IsSettled (word s) := by
  intro _ hmem
  rw [view_of_forall_ne fun c hc heq => by simpa [heq, isOpener] using (h c hc).1] at hmem
  exact (h _ (List.takeWhile_subset _ hmem)).2 rfl

/-! ### Settled tokens pass through -/

/-- A word that is not in quotes is seen as it is. -/
theorem view_of_not_isQuoted {token : Token} (hword : token.kind = .word)
    (hquoted : token.isQuoted = false) : d.view token = token.value := by
  have hplain : isFullyQuoted token.value = false := by
    simpa [isQuoted, hword] using hquoted
  simp [view, stripQuotes, hplain]

theorem stepWord_of_opens_eq_zero (token : Token) {s : Text} (h : d.opens s = 0) :
    d.stepWord token s = ([token], none) := by
  simp only [stepWord, h, if_true]

theorem step_of_isSettled {token : Token} (h : d.IsSettled token) :
    d.step none token = ([token], none) := by
  show d.stepOutside token = _
  unfold stepOutside
  split_ifs with hword hquoted hkind
  · rfl
  · refine stepWord_of_opens_eq_zero token (opens_eq_zero_iff.mpr ?_)
    rw [← view_of_not_isQuoted (not_not.mp hword) (by simpa using hquoted)]
    exact h (not_not.mp hword)
  · refine stepWord_of_opens_eq_zero token (opens_eq_zero_iff.mpr ?_)
    have hview : d.view token = stripQuotes token.value := if_pos hkind
    rw [← hview]
    exact h (not_not.mp hword)
  · rfl

theorem advance_of_isSettled {tokens : List Token} (h : ∀ t ∈ tokens, d.IsSettled t) :
    d.advance none tokens = (tokens, none) := by
  induction tokens with
  | nil => rfl
  | cons token rest ih =>
      obtain ⟨htoken, hrest⟩ := List.forall_mem_cons.mp h
      rw [advance_cons, step_of_isSettled htoken, ih hrest]
      rfl

/-! ### What a pass yields is settled -/

/-- A group that is complete, and closers behind it. -/
theorem isSettled_finish (hkind : d.kind ≠ .word) (group : Group) (head : Text) {tail : Text}
    (htail : ∀ c ∈ tail, isCloser c = true) : ∀ t ∈ d.finish group head tail, d.IsSettled t := by
  unfold finish
  rw [List.forall_mem_cons]
  refine ⟨isSettled_of_kind hkind, ?_⟩
  split_ifs
  · exact fun _ hmem => absurd hmem List.not_mem_nil
  · exact List.forall_mem_singleton.mpr (isSettled_closers htail)

theorem isSettled_stepInside (hkind : d.kind ≠ .word) (group : Group) (token : Token) :
    ∀ t ∈ (d.stepInside group token).1, d.IsSettled t := by
  unfold stepInside
  split_ifs
  · exact fun _ hmem => absurd hmem List.not_mem_nil
  · dsimp only
    split_ifs
    · exact fun _ hmem => absurd hmem List.not_mem_nil
    · exact isSettled_finish hkind group _ fun _ hc => isCloser_of_mem_splitAfterCloses hc

/-- A word that is cut has openers of the other kind in front of the group, or nothing. -/
theorem isSettled_stepWord (hkind : d.kind ≠ .word) {token : Token} {s : Text}
    (hview : d.view token = s) : ∀ t ∈ (d.stepWord token s).1, d.IsSettled t := by
  by_cases hnone : d.opens s = 0
  · rw [stepWord_of_opens_eq_zero token hnone]
    refine List.forall_mem_singleton.mpr fun _ => ?_
    rw [hview]
    exact opens_eq_zero_iff.mp hnone
  · obtain ⟨-, before, rest, rfl, hbefore⟩ := exists_opener (Nat.pos_of_ne_zero hnone)
    have hcut := cut_at_opener (fun c hc => (hbefore c hc).2) rest
    have hfront : ∀ t ∈ (if before.isEmpty then [] else [word before]), d.IsSettled t := by
      split_ifs
      · exact fun _ hmem => absurd hmem List.not_mem_nil
      · exact List.forall_mem_singleton.mpr (isSettled_openers hbefore)
    simp only [stepWord, if_neg hnone, hcut.1]
    by_cases hcloses : d.opens (before ++ d.opener :: rest) ≤ d.closes (before ++ d.opener :: rest)
    · rw [if_pos hcloses]
      refine List.forall_mem_append.mpr ⟨hfront, ?_⟩
      exact isSettled_finish hkind _ _ fun _ hc => isCloser_of_mem_splitAfterCloses hc
    · rw [if_neg hcloses]
      exact hfront

theorem isSettled_stepOutside (hkind : d.kind ≠ .word) (token : Token) :
    ∀ t ∈ (d.stepOutside token).1, d.IsSettled t := by
  unfold stepOutside
  split_ifs with hword hquoted hsubstitution
  · exact List.forall_mem_singleton.mpr (isSettled_of_kind hword)
  · exact isSettled_stepWord hkind
      (view_of_not_isQuoted (not_not.mp hword) (by simpa using hquoted))
  · exact isSettled_stepWord hkind (if_pos hsubstitution)
  · refine List.forall_mem_singleton.mpr fun _ => opens_eq_zero_iff.mp ?_
    have hfull : isFullyQuoted token.value = true := by
      simpa [isQuoted, not_not.mp hword] using hquoted
    rw [view, if_neg hsubstitution]
    exact (runs_of_quoted d hfull).1

/-- **One step yields settled tokens only.** -/
theorem isSettled_step (hkind : d.kind ≠ .word) (pending : Option Group) (token : Token) :
    ∀ t ∈ (d.step pending token).1, d.IsSettled t := by
  cases pending with
  | none => exact isSettled_stepOutside hkind token
  | some group => exact isSettled_stepInside hkind group token

theorem isSettled_advance (hkind : d.kind ≠ .word) (pending : Option Group) (tokens : List Token) :
    ∀ t ∈ (d.advance pending tokens).1, d.IsSettled t := by
  induction tokens generalizing pending with
  | nil => exact fun _ hmem => absurd hmem List.not_mem_nil
  | cons token rest ih =>
      rw [advance_cons]
      exact List.forall_mem_append.mpr ⟨isSettled_step hkind pending token, ih _⟩

/-- **Grouping is complete in one pass.** Whatever the delimiters are, and whatever kind of tokens
groups become as long as they are not words again: what was grouped is grouped to itself, also in
front of other tokens, and no word of it, as the pass sees it, has the opener in the run of openers
that it begins with. -/
theorem group_settled (hkind : d.kind ≠ .word) {tokens out : List Token}
    (h : d.group tokens = .ok out) :
    d.group out = .ok out ∧
    (∀ t ∈ out, t.kind = .word → d.opener ∉ (d.view t).takeWhile isOpener) ∧
    ∀ more, d.group (out ++ more) = (d.group more).map (out ++ ·) := by
  have hsettled : ∀ t ∈ out, d.IsSettled t := by
    have hadvance := isSettled_advance hkind none tokens
    rwa [group_eq_ok_iff.mp h] at hadvance
  have hagain : d.group out = .ok out := group_eq_ok_iff.mpr (advance_of_isSettled hsettled)
  exact ⟨hagain, hsettled, group_append hagain⟩

/-- A quoted word that becomes two words and a group, which the pass of substitutions sees through
the quotes. -/
theorem group_settled_quoted :
    parentheses.group [word "\"\x7b(a\"", split, word "b)\x7d)"] =
      .ok [word "\x7b", substitution "a; b", word "\x7d)"] ∧
    parentheses.group [word "\x7b", substitution "a; b", word "\x7d)"] =
      .ok [word "\x7b", substitution "a; b", word "\x7d)"] := by
  have hgroup : parentheses.group [word "\"\x7b(a\"", split, word "b)\x7d)"] =
      .ok [word "\x7b", substitution "a; b", word "\x7d)"] := by decide
  exact ⟨hgroup, (group_settled (by decide) hgroup).1⟩

end Delimiters

end Conch.Token
