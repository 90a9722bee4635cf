import Conch.Text.Search
import Conch.Proofs.Utf8

/-!
Occurrences of a pattern. Searching goes from left to right and goes on behind what it has found, so
occurrences do not overlap. `FirstAt` says where the first one is, and `Cut` what lies between all
of them, both without saying how to search.

* `cut_pieces`: a text is cut into the pieces that a search finds.
* `Cut.join_eq`, `Cut.absent`: the pieces joined by the pattern are the text, and the pattern is
  in none of them.
* `replaceFirst_eq_weave`: replacing the first occurrences puts something else between the first
  pieces.
* `FirstAt.index?_eq`, `exists_lastIndex?`: where the first and the last occurrence are.
-/

namespace Conch.Text

variable {p s : Text}

/-! ### The first occurrence -/

/-- The first occurrence of a pattern in a text, by what is before it and behind it. -/
structure FirstAt (p s before after : Text) : Prop where
  eq : s = before ++ p ++ after
  first : ∀ x y, s = x ++ p ++ y → before.length ≤ x.length

theorem FirstAt.occurs {before after : Text} (h : FirstAt p s before after) : p <:+: s :=
  ⟨before, after, h.eq.symm⟩

theorem exists_firstAt (h : p <:+: s) : ∃ before after, FirstAt p s before after := by
  induction s with
  | nil =>
      obtain rfl := List.eq_nil_of_infix_nil h
      exact ⟨[], [], rfl, fun x y _ => Nat.zero_le _⟩
  | cons c s ih =>
      by_cases hstart : p <+: c :: s
      · obtain ⟨after, hafter⟩ := hstart
        exact ⟨[], after, hafter.symm, fun x y _ => Nat.zero_le _⟩
      · have hrest : p <:+: s := (List.infix_cons_iff.mp h).resolve_left hstart
        obtain ⟨before, after, heq, hfirst⟩ := ih hrest
        refine ⟨c :: before, after, by rw [heq]; rfl, fun x y hxy => ?_⟩
        cases x with
        | nil => exact absurd ⟨y, hxy.symm⟩ hstart
        | cons d x =>
            obtain ⟨rfl, hrest⟩ := List.cons_eq_cons.mp hxy
            exact Nat.succ_le_succ (hfirst x y hrest)

/-- The first occurrence behind a character at which there is none. -/
theorem FirstAt.tail {c : Char} {before after : Text} (h : FirstAt p (c :: s) (c :: before) after) :
    FirstAt p s before after where
  eq := (List.cons_eq_cons.mp h.eq).2
  first := fun x y hxy => Nat.le_of_succ_le_succ (h.first (c :: x) y (by rw [hxy]; rfl))

theorem FirstAt.not_at_start {c : Char} {before after : Text}
    (h : FirstAt p s (c :: before) after) : ¬ p <+: s := by
  rintro ⟨rest, hrest⟩
  have hle := h.first [] rest hrest.symm
  exact absurd hle (Nat.not_succ_le_zero _)

/-! ### Cutting -/

/-- A text cut at the occurrences of a pattern: the first piece goes up to the first occurrence, and
the others are cut out of what is behind it. -/
inductive Cut (p : Text) : Text → List Text → Prop
  | last {s : Text} : ¬ p <:+: s → Cut p s [s]
  | cons {s piece rest : Text} {pieces : List Text} : FirstAt p s piece rest → Cut p rest pieces →
      Cut p s (piece :: pieces)

theorem exists_cut (hp : p ≠ []) (s : Text) : ∃ pieces, Cut p s pieces := by
  induction hlength : s.length using Nat.strongRecOn generalizing s with
  | ind length ih =>
      by_cases h : p <:+: s
      · obtain ⟨before, after, hfirst⟩ := exists_firstAt h
        have hshorter : after.length < length := by
          have hpos := List.length_pos_iff.mpr hp
          rw [← hlength, hfirst.eq, List.length_append, List.length_append]
          omega
        obtain ⟨pieces, hpieces⟩ := ih _ hshorter after rfl
        exact ⟨before :: pieces, .cons hfirst hpieces⟩
      · exact ⟨[s], .last h⟩

theorem Cut.ne_nil {pieces : List Text} (h : Cut p s pieces) : pieces ≠ [] := by
  cases h <;> exact List.cons_ne_nil _ _

theorem join_cons (sep piece : Text) {pieces : List Text} (h : pieces ≠ []) :
    join sep (piece :: pieces) = piece ++ sep ++ join sep pieces := by
  cases pieces with
  | nil => exact absurd rfl h
  | cons next pieces => exact join_cons_cons sep piece next pieces

/-- **The pieces joined by the pattern are the text.** -/
theorem Cut.join_eq {pieces : List Text} (h : Cut p s pieces) : join p pieces = s := by
  induction h with
  | last _ => exact join_singleton p _
  | cons hfirst hrest ih => rw [join_cons p _ hrest.ne_nil, ih, hfirst.eq]

/-- **The pattern is in none of the pieces.** -/
theorem Cut.absent (hp : p ≠ []) {pieces : List Text} (h : Cut p s pieces) :
    ∀ piece ∈ pieces, ¬ p <:+: piece := by
  induction h with
  | last hnone => exact List.forall_mem_singleton.mpr hnone
  | @cons s piece rest pieces hfirst _ ih =>
      refine List.forall_mem_cons.mpr ⟨?_, ih⟩
      rintro ⟨x, y, rfl⟩
      have hpos := List.length_pos_iff.mpr hp
      have hle := hfirst.first x (y ++ p ++ rest) (by rw [hfirst.eq]; simp)
      rw [List.length_append, List.length_append] at hle
      omega

/-- There is more than one piece exactly if the pattern occurs. -/
theorem Cut.one_lt_length_iff {pieces : List Text} (h : Cut p s pieces) :
    1 < pieces.length ↔ p <:+: s := by
  cases h with
  | last hnone => exact ⟨fun hlength => absurd hlength (Nat.lt_irrefl 1), fun h => absurd h hnone⟩
  | cons hfirst hrest =>
      have hpos := List.length_pos_iff.mpr hrest.ne_nil
      exact ⟨fun _ => hfirst.occurs, fun _ => by rw [List.length_cons]; omega⟩

/-! ### Searching -/

theorem isPrefixOf_eq_false (h : ¬ p <+: s) : p.isPrefixOf s = false :=
  Bool.eq_false_iff.mpr fun hbegins => h (List.isPrefixOf_iff_prefix.mp hbegins)

theorem cutFrom_of_absent (hp : p ≠ []) (h : ¬ p <:+: s) (done : List Text) (piece : Text)
    {window : Window} (fits : window.Fits (Needle.ofText p) s) :
    cutFrom (Needle.ofText p) done piece 0 window s = done.reverse ++ [piece.reverse ++ s] := by
  induction s generalizing piece window with
  | nil => simp [cutFrom]
  | cons c s ih =>
      rw [List.infix_cons_iff, not_or] at h
      obtain ⟨hstart, hrest⟩ := h
      rw [cutFrom, Needle.startsAt_eq fits, isPrefixOf_eq_false hstart, if_neg nofun,
        ih hrest _ (Needle.fits_move hp fits)]
      simp

/-- What is left of an occurrence is passed over. -/
theorem exists_cutFrom_skip (hp : p ≠ []) (done : List Text) (skipped rest : Text)
    {window : Window} (fits : window.Fits (Needle.ofText p) (skipped ++ rest)) :
    ∃ next : Window, next.Fits (Needle.ofText p) rest ∧
      cutFrom (Needle.ofText p) done [] skipped.length window (skipped ++ rest) =
        cutFrom (Needle.ofText p) done [] 0 next rest := by
  induction skipped generalizing window with
  | nil => exact ⟨window, fits, rfl⟩
  | cons c skipped ih =>
      obtain ⟨next, hnext, hcut⟩ := ih (Needle.fits_move hp fits)
      exact ⟨next, hnext, hcut⟩

/-- A search goes on behind the first occurrence. -/
theorem exists_cutFrom_first (hp : p ≠ []) {before after : Text} (h : FirstAt p s before after)
    (done : List Text) (piece : Text) {window : Window}
    (fits : window.Fits (Needle.ofText p) s) :
    ∃ next : Window, next.Fits (Needle.ofText p) after ∧
      cutFrom (Needle.ofText p) done piece 0 window s =
        cutFrom (Needle.ofText p) ((piece.reverse ++ before) :: done) [] 0 next after := by
  induction before generalizing s piece window with
  | nil =>
      obtain ⟨c, more, rfl⟩ := List.exists_cons_of_ne_nil hp
      have hs : s = c :: (more ++ after) := h.eq
      subst hs
      have hstart : (c :: more).isPrefixOf (c :: (more ++ after)) = true :=
        List.isPrefixOf_iff_prefix.mpr ⟨after, rfl⟩
      obtain ⟨next, hnext, hcut⟩ := exists_cutFrom_skip hp (piece.reverse :: done) more after
        (Needle.fits_move hp fits)
      refine ⟨next, hnext, ?_⟩
      rw [cutFrom, Needle.startsAt_eq fits, hstart, if_pos rfl, List.append_nil, ← hcut]
      rfl
  | cons c before ih =>
      have hs : s = c :: (before ++ p ++ after) := h.eq
      subst hs
      obtain ⟨next, hnext, hcut⟩ := ih h.tail (c :: piece) (Needle.fits_move hp fits)
      refine ⟨next, hnext, ?_⟩
      rw [cutFrom, Needle.startsAt_eq fits, isPrefixOf_eq_false h.not_at_start, if_neg nofun, hcut]
      simp

theorem Cut.cutFrom_eq (hp : p ≠ []) {found : List Text} (h : Cut p s found) (done : List Text)
    {window : Window} (fits : window.Fits (Needle.ofText p) s) :
    cutFrom (Needle.ofText p) done [] 0 window s = done.reverse ++ found := by
  induction h generalizing done window with
  | last hnone => exact cutFrom_of_absent hp hnone done [] fits
  | @cons s piece rest found hfirst _ ih =>
      obtain ⟨next, hnext, hcut⟩ := exists_cutFrom_first hp hfirst done [] fits
      rw [hcut, ih _ hnext]
      simp

/-- **A search finds the pieces.** -/
theorem Cut.eq_pieces (hp : p ≠ []) {found : List Text} (h : Cut p s found) :
    pieces p s = found := by
  rw [pieces, if_neg (by simpa using hp)]
  exact h.cutFrom_eq hp [] (Needle.fits_atStart _ s)

theorem cut_pieces (hp : p ≠ []) (s : Text) : Cut p s (pieces p s) := by
  obtain ⟨found, hfound⟩ := exists_cut hp s
  rwa [hfound.eq_pieces hp]

theorem one_lt_length_pieces_iff : 1 < (pieces p s).length ↔ 0 < occurrences p s := by
  rw [occurrences]
  omega

/-! ### Places -/

theorem indexFrom?_of_absent (hp : p ≠ []) (h : ¬ p <:+: s) (offset : Nat) {window : Window}
    (fits : window.Fits (Needle.ofText p) s) :
    indexFrom? (Needle.ofText p) offset window s = none := by
  induction s generalizing offset window with
  | nil => rfl
  | cons c s ih =>
      rw [List.infix_cons_iff, not_or] at h
      obtain ⟨hstart, hrest⟩ := h
      rw [indexFrom?, Needle.startsAt_eq fits, isPrefixOf_eq_false hstart, if_neg nofun]
      exact ih hrest _ (Needle.fits_move hp fits)

theorem indexFrom?_first (hp : p ≠ []) {before after : Text} (h : FirstAt p s before after)
    (offset : Nat) {window : Window} (fits : window.Fits (Needle.ofText p) s) :
    indexFrom? (Needle.ofText p) offset window s = some (offset + byteLength before) := by
  induction before generalizing s offset window with
  | nil =>
      obtain ⟨c, more, rfl⟩ := List.exists_cons_of_ne_nil hp
      have hs : s = c :: (more ++ after) := h.eq
      subst hs
      have hstart : (c :: more).isPrefixOf (c :: (more ++ after)) = true :=
        List.isPrefixOf_iff_prefix.mpr ⟨after, rfl⟩
      rw [indexFrom?, Needle.startsAt_eq fits, hstart, if_pos rfl]
      rfl
  | cons c before ih =>
      have hs : s = c :: (before ++ p ++ after) := h.eq
      subst hs
      rw [indexFrom?, Needle.startsAt_eq fits, isPrefixOf_eq_false h.not_at_start, if_neg nofun,
        ih h.tail _ (Needle.fits_move hp fits), byteLength_cons, Nat.add_assoc]

theorem index?_of_absent (hp : p ≠ []) (h : ¬ p <:+: s) : index? p s = none := by
  rw [index?, if_neg (by simpa using hp)]
  exact indexFrom?_of_absent hp h 0 (Needle.fits_atStart _ s)

/-- **The first occurrence is behind the first piece.** -/
theorem FirstAt.index?_eq (hp : p ≠ []) {before after : Text} (h : FirstAt p s before after) :
    index? p s = some (byteLength before) := by
  rw [index?, if_neg (by simpa using hp)]
  exact (indexFrom?_first hp h 0 (Needle.fits_atStart _ s)).trans (by rw [Nat.zero_add])

theorem occursIn_eq_true_iff (hp : p ≠ []) : occursIn p s = true ↔ p <:+: s := by
  rw [occursIn]
  by_cases h : p <:+: s
  · obtain ⟨before, after, hfirst⟩ := exists_firstAt h
    rw [hfirst.index?_eq hp]
    exact ⟨fun _ => h, fun _ => rfl⟩
  · rw [index?_of_absent hp h]
    exact ⟨nofun, fun hoccurs => absurd hoccurs h⟩

theorem lastIndex?_of_absent (hp : p ≠ []) (h : ¬ p <:+: s) : lastIndex? p s = none := by
  have hreverse : ¬ p.reverse <:+: s.reverse := fun hoccurs => h (List.reverse_infix.mp hoccurs)
  rw [lastIndex?, index?_of_absent (by simpa using hp) hreverse]
  rfl

/-- The last occurrence is where the first one is that is found from the other end. -/
theorem exists_lastIndex? (hp : p ≠ []) (h : p <:+: s) :
    ∃ x y, s = x ++ p ++ y ∧ lastIndex? p s = some (byteLength x) ∧
      ∀ x' y', s = x' ++ p ++ y' → x'.length ≤ x.length := by
  obtain ⟨before, after, hfirst⟩ := exists_firstAt (List.reverse_infix.mpr h)
  have hs : s = after.reverse ++ p ++ before.reverse := by
    have heq := congrArg List.reverse hfirst.eq
    simpa using heq
  refine ⟨after.reverse, before.reverse, hs, ?_, fun x' y' hs' => ?_⟩
  · rw [lastIndex?, hfirst.index?_eq (by simpa using hp), hs]
    simp only [Option.map_some, byteLength_append, byteLength_reverse]
    congr 1
    omega
  · have hle := hfirst.first y'.reverse x'.reverse (by rw [hs']; simp)
    have hlength := congrArg List.length hs'
    rw [hs] at hlength
    simp only [List.length_append, List.length_reverse] at hle hlength ⊢
    omega

/-- No occurrence is before the first one. -/
theorem FirstAt.byteLength_le {before after x y : Text} (h : FirstAt p s before after)
    (hs : s = x ++ p ++ y) : byteLength before ≤ byteLength x := by
  have hbefore : before <+: s := ⟨p ++ after, by rw [h.eq, List.append_assoc]⟩
  have hx : x <+: s := ⟨p ++ y, by rw [hs, List.append_assoc]⟩
  obtain ⟨rest, rfl⟩ := List.prefix_of_prefix_length_le hbefore hx (h.first x y hs)
  rw [byteLength_append]
  exact Nat.le_add_right _ _

/-! ### Replacing -/

/-- Pieces with separators between them, one after another. -/
def weave : List Text → List Text → Text
  | piece :: pieces, sep :: seps => piece ++ sep ++ weave pieces seps
  | pieces, _ => pieces.flatten

theorem weave_replicate (sep : Text) (found : List Text) :
    weave found (List.replicate (found.length - 1) sep) = join sep found := by
  induction found with
  | nil => rfl
  | cons piece found ih =>
      cases found with
      | nil =>
          rw [join_singleton]
          exact List.append_nil piece
      | cons next found =>
          rw [join_cons_cons, ← ih]
          rfl

/-- Other separators between the first pieces than between the others. -/
theorem weave_replicate_append (new old : Text) {found : List Text} {count : Nat}
    (h : count < found.length) :
    weave found (List.replicate count new ++ List.replicate (found.length - 1 - count) old) =
      join new (found.take count ++ [join old (found.drop count)]) := by
  induction count generalizing found with
  | zero =>
      rw [List.take_zero, List.drop_zero, List.nil_append, join_singleton, ← weave_replicate]
      rfl
  | succ count ih =>
      cases found with
      | nil => cases h
      | cons piece found =>
          have hrest : count < found.length := Nat.lt_of_succ_lt_succ h
          have hlength : (piece :: found).length - 1 - (count + 1) = found.length - 1 - count := by
            rw [List.length_cons]
            omega
          rw [List.take_succ_cons, List.drop_succ_cons, List.cons_append,
            join_cons new piece (by simp), ← ih hrest, hlength]
          rfl

/-- **Replacing the first occurrences** puts something else between the first pieces. -/
theorem replaceFirst_eq_weave (old new s : Text) {count : Nat} (h : count < occurrences old s) :
    replaceFirst count old new s =
      weave (pieces old s)
        (List.replicate count new ++ List.replicate (occurrences old s - count) old) := by
  rw [occurrences] at h ⊢
  rw [replaceFirst, if_neg (by omega), weave_replicate_append new old (by omega)]

theorem replaceFirst_of_le (old new s : Text) {count : Nat} (h : occurrences old s ≤ count) :
    replaceFirst count old new s = replaceAll old new s := by
  rw [occurrences] at h
  rw [replaceFirst, if_pos (by omega), replaceAll]

end Conch.Text
