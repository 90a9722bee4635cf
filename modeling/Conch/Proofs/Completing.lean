import Mathlib.Data.List.DropRight
import Conch.Front.Completion
import Conch.Proofs.Tables
import Conch.Proofs.Utf8

/-!
Completing the name of a command. The cursor is a place in a line if it lies between two
characters, and what is completed there is the word behind the last break.

* `before?_eq_some_iff`, `before?_eq_none_iff`: which places there are.
* `complete?_of_word`: what is completed at a place, by the word in front of it.
* `mem_completions_iff`, `ascending_completions`: which names complete a word, and in which order.
* `completion_exact`: all of it together, with the places where nothing can be completed.
-/

namespace Conch.Front

open Text (byteLength)

/-! ### Places -/

/-- A place inside a character of a line. -/
def IsInside (line : Text) (place : Nat) : Prop :=
  ∃ front c back, line = front ++ c :: back ∧
    byteLength front < place ∧ place < byteLength front + c.utf8Size

theorem isInside_cons_iff {c : Char} {line : Text} {place : Nat} (h : c.utf8Size ≤ place) :
    IsInside (c :: line) place ↔ IsInside line (place - c.utf8Size) := by
  constructor
  · rintro ⟨front, d, back, hline, hless, hmore⟩
    cases front with
    | nil =>
        obtain ⟨rfl, rfl⟩ := List.cons_eq_cons.mp hline
        rw [Text.byteLength_nil] at hmore
        omega
    | cons e front =>
        obtain ⟨rfl, rfl⟩ := List.cons_eq_cons.mp hline
        rw [Text.byteLength_cons] at hless hmore
        exact ⟨front, d, back, rfl, by omega, by omega⟩
  · rintro ⟨front, d, back, rfl, hless, hmore⟩
    refine ⟨c :: front, d, back, rfl, ?_, ?_⟩ <;> rw [Text.byteLength_cons] <;> omega

/-- Exactly what lies in front of a place is before it. -/
theorem before?_eq_some_iff {place : Nat} {line typed : Text} :
    before? place line = some typed ↔ ∃ rest, line = typed ++ rest ∧ byteLength typed = place := by
  fun_induction before? place line generalizing typed with
  | case1 line =>
      rw [Option.some_inj]
      constructor
      · rintro rfl
        exact ⟨line, rfl, rfl⟩
      · rintro ⟨rest, -, hlength⟩
        exact (Text.byteLength_eq_zero_iff.mp hlength).symm
  | case2 place =>
      refine ⟨nofun, ?_⟩
      rintro ⟨rest, hline, hlength⟩
      rw [(List.append_eq_nil_iff.mp hline.symm).1] at hlength
      cases hlength
  | case3 place c line h hle ih =>
      rw [Option.map_eq_some_iff]
      constructor
      · rintro ⟨found, hfound, rfl⟩
        obtain ⟨rest, rfl, hlength⟩ := ih.mp hfound
        exact ⟨rest, rfl, by rw [Text.byteLength_cons]; omega⟩
      · rintro ⟨rest, hline, hlength⟩
        cases typed with
        | nil => exact absurd hlength.symm h
        | cons d typed =>
            obtain ⟨rfl, rfl⟩ := List.cons_eq_cons.mp hline
            rw [Text.byteLength_cons] at hlength
            exact ⟨typed, ih.mpr ⟨rest, rfl, by omega⟩, rfl⟩
  | case4 place c line h hle =>
      refine ⟨nofun, ?_⟩
      rintro ⟨rest, hline, hlength⟩
      cases typed with
      | nil => exact absurd hlength.symm h
      | cons d typed =>
          obtain ⟨rfl, -⟩ := List.cons_eq_cons.mp hline
          rw [Text.byteLength_cons] at hlength
          omega

/-- Nothing is before a place exactly if the place is behind the line or inside a character. -/
theorem before?_eq_none_iff {place : Nat} {line : Text} :
    before? place line = none ↔ byteLength line < place ∨ IsInside line place := by
  fun_induction before? place line with
  | case1 line =>
      refine ⟨nofun, ?_⟩
      rintro (hbehind | ⟨front, c, back, -, hless, -⟩)
      · exact absurd hbehind (Nat.not_lt_zero _)
      · exact absurd hless (Nat.not_lt_zero _)
  | case2 place => exact ⟨fun _ => .inl (Nat.succ_pos place), fun _ => rfl⟩
  | case3 place c line h hle ih =>
      rw [Option.map_eq_none_iff, ih, isInside_cons_iff hle, Text.byteLength_cons]
      have hshift : byteLength line < place - c.utf8Size ↔
          c.utf8Size + byteLength line < place := by omega
      rw [hshift]
  | case4 place c line h hle =>
      have hpos : 0 < place := Nat.pos_of_ne_zero h
      refine ⟨fun _ => .inr ⟨[], c, line, rfl, hpos, ?_⟩, fun _ => rfl⟩
      rw [Text.byteLength_nil]
      omega

/-! ### Words -/

/-- What was typed, cut behind the last break in it. -/
structure IsWordOf (typed front word : Text) : Prop where
  typed_eq : typed = front ++ word
  unbroken : ∀ c ∈ word, isWordBreak c = false
  breaks : ∀ c ∈ front.getLast?, isWordBreak c = true

theorem IsWordOf.takeEndWhile_eq {typed front word : Text} (h : IsWordOf typed front word) :
    Text.takeEndWhile (!isWordBreak ·) typed = word := by
  have hword : ∀ c ∈ word.reverse, (!isWordBreak c) = true := by
    intro c hc
    rw [h.unbroken c (List.mem_reverse.mp hc)]
    rfl
  have hfront : front.reverse.takeWhile (!isWordBreak ·) = [] := by
    cases hlast : front.reverse with
    | nil => rfl
    | cons c rest =>
        have hbreak : isWordBreak c = true :=
          h.breaks c (by rw [← List.head?_reverse, hlast]; rfl)
        rw [List.takeWhile_cons, hbreak]
        rfl
  rw [Text.takeEndWhile, h.typed_eq, List.reverse_append, List.takeWhile_append_of_pos hword,
    hfront, List.append_nil, List.reverse_reverse]

theorem exists_isWordOf (typed : Text) : ∃ front word, IsWordOf typed front word := by
  refine ⟨typed.rdropWhile (!isWordBreak ·), typed.rtakeWhile (!isWordBreak ·),
    List.rdropWhile_append_rtakeWhile.symm, fun c hc => ?_, fun c hc => ?_⟩
  · simpa using List.mem_rtakeWhile_imp hc
  · obtain ⟨hne, rfl⟩ := List.mem_getLast?_eq_getLast hc
    simpa using List.rdropWhile_last_not _ _ hne

/-- **What is completed at a place.** -/
theorem complete?_of_word (aliases : Table Text) {front word : Text}
    (h : IsWordOf (front ++ word) front word) (rest : Text) :
    complete? aliases (front ++ word ++ rest) (byteLength (front ++ word)) =
      if front.getLast?.all (·.utf8Size == 1) then some (byteLength front, completions aliases word)
      else none := by
  have htyped : before? (byteLength (front ++ word)) (front ++ word ++ rest) =
      some (front ++ word) := before?_eq_some_iff.mpr ⟨rest, rfl, rfl⟩
  have hfront : (front ++ word).take ((front ++ word).length - word.length) = front := by
    rw [List.length_append, Nat.add_sub_cancel, List.take_left]
  rw [complete?, htyped]
  simp only [Option.bind_eq_bind, Option.bind_some, h.takeEndWhile_eq, hfront]
  have hstart : byteLength (front ++ word) - byteLength word = byteLength front := by
    rw [Text.byteLength_append, Nat.add_sub_cancel]
  cases hlast : front.getLast? with
  | none =>
      rw [List.getLast?_eq_none_iff.mp hlast, Option.all_none, if_pos rfl]
      rfl
  | some c =>
      simp only [Option.all_some, beq_iff_eq, hstart]
      rfl

/-! ### Names -/

theorem contains_foldl_insert (names : List Text) (table : Table Unit) (name : Text) :
    (names.foldl (fun table name => table.insert name ()) table).contains name = true ↔
      name ∈ names ∨ table.contains name = true := by
  induction names generalizing table with
  | nil => simp
  | cons first names ih =>
      rw [List.foldl_cons, ih, Table.contains_insert, List.mem_cons, or_left_comm, or_assoc]

/-- **The names that complete a word** are those of commands and aliases that begin with it. -/
theorem mem_completions_iff {aliases : Table Text} {word name : Text} :
    name ∈ completions aliases word ↔
      word ≠ [] ∧ word <+: name ∧
        ((Builtin.ofName? name).isSome = true ∨ aliases.contains name = true) := by
  rw [completions]
  cases word with
  | nil => simp
  | cons c word =>
      simp only [List.isEmpty_cons, Bool.false_eq_true, if_false, List.mem_filter,
        Table.mem_keys_iff, contains_foldl_insert, List.mem_append, Table.contains_empty, or_false,
        List.isPrefixOf_iff_prefix]
      rw [and_comm, Builtin.ofName?, ← Table.contains]
      simp

/-- **Completions ascend,** byte by byte. -/
theorem ascending_completions (aliases : Table Text) (word : Text) :
    (completions aliases word).Pairwise fun a b => a.utf8 < b.utf8 := by
  rw [completions]
  split_ifs
  · exact .nil
  · refine List.Pairwise.filter _ ?_
    exact (Table.keys_ascending _).imp Text.utf8_lt_utf8

/-! ### The cursor in a line -/

/-- The cursor is behind a word that follows a break of several bytes. -/
def FollowsLongBreak (line : Text) (cursor : Nat) : Prop :=
  ∃ front c word rest, line = front ++ [c] ++ word ++ rest ∧
    byteLength (front ++ [c] ++ word) = cursor ∧
    IsWordOf (front ++ [c] ++ word) (front ++ [c]) word ∧ 1 < c.utf8Size

theorem complete?_of_no_place (aliases : Table Text) {line : Text} {cursor : Nat}
    (h : byteLength line < cursor ∨ IsInside line cursor) :
    complete? aliases line cursor = none := by
  rw [complete?, before?_eq_none_iff.mpr h]
  rfl

/-- A cursor is no place in the line, or is behind the word that is completed. -/
theorem cursor_cases (line : Text) (cursor : Nat) :
    (byteLength line < cursor ∨ IsInside line cursor) ∨
      ∃ front word rest, line = front ++ word ++ rest ∧ byteLength (front ++ word) = cursor ∧
        IsWordOf (front ++ word) front word := by
  cases hbefore : before? cursor line with
  | none => exact .inl (before?_eq_none_iff.mp hbefore)
  | some typed =>
      obtain ⟨rest, rfl, hlength⟩ := before?_eq_some_iff.mp hbefore
      obtain ⟨front, word, hword⟩ := exists_isWordOf typed
      obtain rfl := hword.typed_eq
      exact .inr ⟨front, word, rest, rfl, hlength, hword⟩

theorem complete?_eq_none_iff {aliases : Table Text} {line : Text} {cursor : Nat} :
    complete? aliases line cursor = none ↔
      byteLength line < cursor ∨ IsInside line cursor ∨ FollowsLongBreak line cursor := by
  rw [← or_assoc]
  constructor
  · intro h
    refine (cursor_cases line cursor).imp_right ?_
    rintro ⟨front, word, rest, rfl, rfl, hword⟩
    rw [complete?_of_word aliases hword] at h
    -- the break cannot be of one byte, or there would be a completion
    cases hlast : front.getLast? with
    | none =>
        rw [hlast, Option.all_none, if_pos rfl] at h
        cases h
    | some c =>
        have hsize : c.utf8Size ≠ 1 := by
          intro hone
          rw [hlast, Option.all_some, hone, if_pos (beq_self_eq_true 1)] at h
          cases h
        obtain ⟨before, rfl⟩ := List.getLast?_eq_some_iff.mp hlast
        have hpos := c.utf8Size_pos
        exact ⟨before, c, word, rest, rfl, rfl, hword, by omega⟩
  · rintro (hplace | ⟨front, c, word, rest, rfl, rfl, hword, hsize⟩)
    · exact complete?_of_no_place aliases hplace
    · rw [complete?_of_word aliases hword, List.getLast?_concat, Option.all_some, if_neg]
      rw [beq_iff_eq]
      omega

/-- **Completion is exact.** Nothing is completed exactly if the cursor is behind the line or inside
a character, or if the last break in front of it has several bytes. Otherwise a word is completed
that begins behind the last break, or with the line if there is none. Its completions are the names
of commands and aliases that begin with it, each of them once and in the order of their bytes; an
empty word has none. -/
theorem completion_exact (aliases : Table Text) (line : Text) (cursor : Nat) :
    (complete? aliases line cursor = none ↔
      byteLength line < cursor ∨ IsInside line cursor ∨ FollowsLongBreak line cursor) ∧
    ∀ start names, complete? aliases line cursor = some (start, names) →
      ∃ front word rest, line = front ++ word ++ rest ∧
        byteLength front = start ∧ byteLength (front ++ word) = cursor ∧
        IsWordOf (front ++ word) front word ∧
        (∀ name, name ∈ names ↔ word ≠ [] ∧ word <+: name ∧
          ((Builtin.ofName? name).isSome = true ∨ aliases.contains name = true)) ∧
        names.Pairwise fun a b => a.utf8 < b.utf8 := by
  refine ⟨complete?_eq_none_iff, fun start names h => ?_⟩
  rcases cursor_cases line cursor with hplace | ⟨front, word, rest, rfl, rfl, hword⟩
  · rw [complete?_of_no_place aliases hplace] at h
    cases h
  · rw [complete?_of_word aliases hword] at h
    split_ifs at h
    cases h
    exact ⟨front, word, rest, rfl, rfl, rfl, hword, fun _ => mem_completions_iff,
      ascending_completions aliases word⟩

/-- An alias that begins as some commands do. -/
def oneAlias : Table Text := Table.empty.insert "l-eé" "l-echo é"

theorem completion_exact_alias :
    let names : List Text := ["l-echo", "l-eval", "l-exit", "l-eé"]
    complete? oneAlias "é; (l-e" 8 = some (5, names) ∧
      (∃ front word rest, ("é; (l-e" : Text) = front ++ word ++ rest ∧
        byteLength front = 5 ∧ byteLength (front ++ word) = 8 ∧
        IsWordOf (front ++ word) front word ∧
        (∀ name, name ∈ names ↔ word ≠ [] ∧ word <+: name ∧
          ((Builtin.ofName? name).isSome = true ∨ oneAlias.contains name = true)) ∧
        names.Pairwise fun a b => a.utf8 < b.utf8) ∧
      FollowsLongBreak "é\u00a0l" 5 := by
  intro names
  have hnames : complete? oneAlias "é; (l-e" 8 = some (5, names) := by decide +kernel
  have hnone : complete? oneAlias "é\u00a0l" 5 = none := by decide +kernel
  have hlength : ¬ byteLength ("é\u00a0l" : Text) < 5 := by decide
  have hplace : before? 5 ("é\u00a0l" : Text) ≠ none := by decide
  refine ⟨hnames, (completion_exact oneAlias "é; (l-e" 8).2 _ _ hnames, ?_⟩
  rcases (completion_exact oneAlias "é\u00a0l" 5).1.mp hnone with hbehind | hinside | hlong
  · exact absurd hbehind hlength
  · exact absurd (before?_eq_none_iff.mpr (.inr hinside)) hplace
  · exact hlong

end Conch.Front
