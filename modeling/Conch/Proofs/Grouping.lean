import Conch.Token.Group
import Conch.Proofs.Lexing

/-!
Grouping as a run over tokens: `advance` says which tokens are complete behind a list of
tokens and which group is open then. Grouping succeeds exactly if none is open at the end
(`groupFrom_eq_advance`), and a run over two lists is the run over the second from where
the run over the first ended (`advance_append`).
-/

namespace Conch.Token.Delimiters

/-- The tokens that are complete behind a list of tokens, and the group that is open. -/
def advance (d : Delimiters) : Option Group → List Token → List Token × Option Group
  | pending, [] => ([], pending)
  | pending, token :: rest =>
    let step := d.step pending token
    let more := d.advance step.2 rest
    (step.1 ++ more.1, more.2)

@[simp] theorem advance_nil (d : Delimiters) (pending : Option Group) :
    d.advance pending [] = ([], pending) := rfl

theorem advance_cons (d : Delimiters) (pending : Option Group) (token : Token)
    (rest : List Token) :
    d.advance pending (token :: rest) =
      ((d.step pending token).1 ++ (d.advance (d.step pending token).2 rest).1,
        (d.advance (d.step pending token).2 rest).2) := rfl

theorem advance_append (d : Delimiters) (pending : Option Group) (first second : List Token) :
    d.advance pending (first ++ second) =
      ((d.advance pending first).1 ++ (d.advance (d.advance pending first).2 second).1,
        (d.advance (d.advance pending first).2 second).2) := by
  induction first generalizing pending with
  | nil => rfl
  | cons token rest ih => rw [List.cons_append, advance_cons, advance_cons, ih, List.append_assoc]

/-- Grouping fails exactly if a group is open at the end. -/
theorem groupFrom_eq_advance (d : Delimiters) (pending : Option Group) (tokens : List Token) :
    d.groupFrom pending tokens =
      match d.advance pending tokens with
      | (complete, none) => .ok complete
      | (_, some _) => .error (.unterminated d.opener d.closer) := by
  induction tokens generalizing pending with
  | nil => cases pending <;> rfl
  | cons token rest ih =>
      have hstep : d.groupFrom pending (token :: rest) =
          (d.groupFrom (d.step pending token).2 rest).map ((d.step pending token).1 ++ ·) := by
        cases pending <;> rfl
      rw [hstep, ih, advance_cons]
      rcases d.advance (d.step pending token).2 rest with ⟨complete, _ | group⟩ <;> rfl

theorem group_eq_ok_iff {d : Delimiters} {tokens complete : List Token} :
    d.group tokens = .ok complete ↔ d.advance none tokens = (complete, none) := by
  rw [group, groupFrom_eq_advance]
  rcases d.advance none tokens with ⟨out, _ | group⟩ <;> simp

/-- Behind tokens without an open group, grouping goes on as at the start. -/
theorem group_append {d : Delimiters} {first complete : List Token}
    (h : d.group first = .ok complete) (second : List Token) :
    d.group (first ++ second) = (d.group second).map (complete ++ ·) := by
  rw [group, group, groupFrom_eq_advance, groupFrom_eq_advance, advance_append,
    group_eq_ok_iff.mp h]
  rcases d.advance none second with ⟨out, _ | group⟩ <;> rfl

/-- A mark outside all groups stays where it is. -/
theorem group_mark (d : Delimiters) (rest : List Token) :
    d.group (split :: rest) = (d.group rest).map (split :: ·) := rfl

end Conch.Token.Delimiters

/-! ### Runs of delimiters -/

namespace Conch.Token

theorem not_closer_of_opener {c : Char} (h : isOpener c = true) : isCloser c = false := by
  simp only [isOpener, Bool.or_eq_true, beq_iff_eq] at h
  rcases h with rfl | rfl <;> decide

theorem not_opener_of_closer {c : Char} (h : isCloser c = true) : isOpener c = false := by
  simp only [isCloser, Bool.or_eq_true, beq_iff_eq] at h
  rcases h with rfl | rfl <;> decide

theorem takeWhile_append_neg {p : Char → Bool} {c : Char} (h : p c = false) (s t : Text) :
    (s ++ c :: t).takeWhile p = s.takeWhile p := by
  induction s with
  | nil => simp [h]
  | cons d s ih => simp only [List.cons_append, List.takeWhile_cons, ih]

theorem takeEndWhile_snoc_pos {p : Char → Bool} {c : Char} (h : p c = true) (s : Text) :
    Text.takeEndWhile p (s ++ [c]) = Text.takeEndWhile p s ++ [c] := by
  simp [Text.takeEndWhile, h]

namespace Delimiters

theorem opens_cons_opener (d : Delimiters) {c : Char} (h : isOpener c = true) (s : Text) :
    d.opens (c :: s) = d.opens s + if c = d.opener then 1 else 0 := by
  simp [opens, h, List.count_cons]

/-- An opener of another pair in front does not count. -/
theorem opens_cons_foreign (d : Delimiters) {c : Char} (h : isOpener c = true)
    (hforeign : c ≠ d.opener) (s : Text) : d.opens (c :: s) = d.opens s := by
  rw [d.opens_cons_opener h, if_neg hforeign, Nat.add_zero]

theorem opens_snoc_closer (d : Delimiters) {c : Char} (h : isCloser c = true) (s : Text) :
    d.opens (s ++ [c]) = d.opens s := by
  rw [opens, takeWhile_append_neg (not_opener_of_closer h), opens]

theorem closes_snoc_closer (d : Delimiters) {c : Char} (h : isCloser c = true) (s : Text) :
    d.closes (s ++ [c]) = d.closes s + if c = d.closer then 1 else 0 := by
  simp [closes, h, List.count_cons]

/-- A closer of another pair behind does not count. -/
theorem closes_snoc_foreign (d : Delimiters) {c : Char} (h : isCloser c = true)
    (hforeign : c ≠ d.closer) (s : Text) : d.closes (s ++ [c]) = d.closes s := by
  rw [d.closes_snoc_closer h, if_neg hforeign, Nat.add_zero]

theorem closes_cons_opener (d : Delimiters) {c : Char} (h : isOpener c = true) (s : Text) :
    d.closes (c :: s) = d.closes s := by
  rw [closes, List.reverse_cons, takeWhile_append_neg (not_closer_of_opener h), closes]

/-- What stands in front of an opener does not count for the closers. -/
theorem closes_append_opener (d : Delimiters) {c : Char} (h : isOpener c = true) (s t : Text) :
    d.closes (s ++ c :: t) = d.closes (c :: t) := by
  rw [d.closes_cons_opener h, closes, List.reverse_append, List.reverse_cons, List.append_assoc,
    List.singleton_append, takeWhile_append_neg (not_closer_of_opener h), closes]

theorem opens_eq_zero (d : Delimiters) {s : Text} (h : ∀ c ∈ s.head?, isOpener c = false) :
    d.opens s = 0 := by
  cases s with
  | nil => rfl
  | cons c s => simp [opens, h c rfl]

theorem closes_eq_zero (d : Delimiters) {s : Text} (h : ∀ c ∈ s.getLast?, isCloser c = false) :
    d.closes s = 0 := by
  rw [← List.head?_reverse] at h
  unfold closes
  generalize s.reverse = r at h
  cases r with
  | nil => rfl
  | cons c r => simp [h c rfl]

/-- Quotes hide the delimiters inside them. -/
theorem runs_of_quoted (d : Delimiters) {s : Text} (h : isFullyQuoted s = true) :
    d.opens s = 0 ∧ d.closes s = 0 := by
  simp only [isFullyQuoted, Bool.and_eq_true, beq_iff_eq] at h
  obtain ⟨⟨-, hhead⟩, hlast⟩ := h
  refine ⟨d.opens_eq_zero fun c hc => ?_, d.closes_eq_zero fun c hc => ?_⟩
  · rw [hhead] at hc
    cases hc
    decide
  · rw [hlast] at hc
    cases hc
    decide

end Delimiters

/-! ### Cutting behind closers -/

theorem cutAfter_append {closer : Char} {needed : Nat} {s head tail : Text}
    (h : cutAfter closer needed s = some (head, tail)) (more : Text) :
    cutAfter closer needed (s ++ more) = some (head, tail ++ more) := by
  induction s generalizing needed head with
  | nil => cases h
  | cons c s ih =>
      rw [cutAfter] at h
      rw [List.cons_append, cutAfter]
      split_ifs at h ⊢ with hcloser hlast
      · cases h
        rfl
      all_goals
        obtain ⟨⟨inner, rest⟩, hinner, hcut⟩ := Option.map_eq_some_iff.mp h
        cases hcut
        rw [ih hinner]
        rfl

theorem exists_cutAfter {closer : Char} {needed : Nat} {s : Text} (hpositive : 0 < needed)
    (h : needed ≤ s.count closer) : ∃ head tail, cutAfter closer needed s = some (head, tail) := by
  induction s generalizing needed with
  | nil => simp at h; omega
  | cons c s ih =>
      rw [cutAfter]
      by_cases hcloser : c = closer
      · subst hcloser
        rw [if_pos rfl]
        rw [List.count_cons_self] at h
        by_cases hlast : needed ≤ 1
        · exact ⟨[c], s, if_pos hlast⟩
        · have hmore : 0 < needed - 1 := by omega
          obtain ⟨head, tail, hcut⟩ := ih hmore (by omega)
          exact ⟨c :: head, tail, by rw [if_neg hlast, hcut]; rfl⟩
      · rw [List.count_cons_of_ne hcloser] at h
        obtain ⟨head, tail, hcut⟩ := ih hpositive h
        exact ⟨c :: head, tail, by rw [if_neg hcloser, hcut]; rfl⟩

theorem cutAfter_last (closer : Char) (s : Text) :
    cutAfter closer (s.count closer + 1) (s ++ [closer]) = some (s ++ [closer], []) := by
  induction s with
  | nil => simp [cutAfter]
  | cons c s ih =>
      rw [List.cons_append, cutAfter]
      by_cases hcloser : c = closer
      · subst hcloser
        simp [ih]
      · simp [hcloser, List.count_cons_of_ne hcloser, ih]

theorem exists_takeEndWhile (p : Char → Bool) (s : Text) :
    ∃ front, s = front ++ Text.takeEndWhile p s :=
  ⟨s.rdropWhile p, List.rdropWhile_append_rtakeWhile.symm⟩

theorem splitAfterCloses_of_cut {closer : Char} {needed : Nat} {s front head tail : Text}
    (hs : s = front ++ Text.takeEndWhile isCloser s)
    (hcut : cutAfter closer needed (Text.takeEndWhile isCloser s) = some (head, tail)) :
    splitAfterCloses closer needed s = (front ++ head, tail) := by
  have hlength : s.length - (Text.takeEndWhile isCloser s).length = front.length := by
    have := congrArg List.length hs
    rw [List.length_append] at this
    omega
  have htake : s.take front.length = front := by
    conv_lhs => rw [hs]
    exact List.take_left
  simp only [splitAfterCloses, hcut, hlength, htake]

theorem Delimiters.closes_eq_count (d : Delimiters) (s : Text) :
    d.closes s = (Text.takeEndWhile isCloser s).count d.closer := by
  rw [closes, Text.takeEndWhile, List.count_reverse]

theorem cutAfter_spec {closer : Char} {needed : Nat} {s head tail : Text}
    (h : cutAfter closer needed s = some (head, tail)) :
    ∃ inner, head = inner ++ [closer] ∧ s = inner ++ closer :: tail ∧
      inner.count closer = needed - 1 := by
  induction s generalizing needed head with
  | nil => cases h
  | cons c s ih =>
      rw [cutAfter] at h
      split_ifs at h with hcloser hlast
      · cases h
        exact ⟨[], by simp [hcloser], by simp [hcloser], by simp; omega⟩
      all_goals
        obtain ⟨⟨front, rest⟩, hcut, hhead⟩ := Option.map_eq_some_iff.mp h
        cases hhead
        obtain ⟨inner, rfl, rfl, hcount⟩ := ih hcut
        refine ⟨c :: inner, rfl, rfl, ?_⟩
      · rw [hcloser, List.count_cons_self, hcount]
        omega
      · rw [List.count_cons_of_ne hcloser, hcount]

theorem takeEndWhile_append {p : Char → Bool} {s t : Text}
    (hs : ∀ c ∈ s.getLast?, p c = false) (ht : ∀ c ∈ t, p c = true) :
    Text.takeEndWhile p (s ++ t) = t := by
  have hfront : s.reverse.takeWhile p = [] := by
    rw [← List.head?_reverse] at hs
    cases hreverse : s.reverse with
    | nil => rfl
    | cons c back => simp [hs c (by simp [hreverse])]
  have hrun : ∀ c ∈ t.reverse, p c = true := fun c hc => ht c (List.mem_reverse.mp hc)
  rw [Text.takeEndWhile, List.reverse_append, List.takeWhile_append_of_pos hrun, hfront,
    List.append_nil, List.reverse_reverse]

/-- What is cut off behind the closer that is needed: closers only. What is left in front of
that closer closes one less. -/
theorem Delimiters.splitAfterCloses_spec (d : Delimiters) (hcloser : isCloser d.closer = true)
    {needed : Nat} (hpositive : 0 < needed) {s : Text} (h : needed ≤ d.closes s) :
    ∃ inner tail, splitAfterCloses d.closer needed s = (inner ++ [d.closer], tail) ∧
      s = inner ++ d.closer :: tail ∧ (∀ c ∈ tail, isCloser c = true) ∧
      d.closes inner + 1 = needed ∧ d.opens inner = d.opens s := by
  rw [d.closes_eq_count] at h
  have hfront : s = s.rdropWhile isCloser ++ Text.takeEndWhile isCloser s :=
    List.rdropWhile_append_rtakeWhile.symm
  have hrun : ∀ c ∈ Text.takeEndWhile isCloser s, isCloser c = true :=
    fun _ => List.mem_rtakeWhile_imp
  have hlast : ∀ c ∈ (s.rdropWhile isCloser).getLast?, isCloser c = false := fun c hc => by
    have hnonempty : s.rdropWhile isCloser ≠ [] := by
      rintro hnil
      simp [hnil] at hc
    rw [List.getLast?_eq_some_getLast hnonempty] at hc
    have hstop := List.rdropWhile_last_not isCloser s hnonempty
    rw [Option.some.inj hc] at hstop
    simpa using hstop
  obtain ⟨head, tail, hcut⟩ := exists_cutAfter hpositive h
  obtain ⟨inner, rfl, hsplit, hcount⟩ := cutAfter_spec hcut
  rw [hsplit] at hrun
  have hinner : ∀ c ∈ inner, isCloser c = true := fun c hc => hrun c (by simp [hc])
  have hwhole : s = s.rdropWhile isCloser ++ inner ++ d.closer :: tail := by
    rw [List.append_assoc, ← hsplit]
    exact hfront
  refine ⟨s.rdropWhile isCloser ++ inner, tail, ?_, hwhole, fun c hc => hrun c (by simp [hc]), ?_,
    ?_⟩
  · rw [splitAfterCloses_of_cut hfront hcut, List.append_assoc]
  · rw [d.closes_eq_count, takeEndWhile_append hlast hinner, hcount]
    omega
  · conv_rhs => rw [hwhole]
    rw [opens, opens, takeWhile_append_neg (not_opener_of_closer hcloser)]

/-- Where the last closer is the one that is needed, nothing is cut off. -/
theorem Delimiters.splitAfterCloses_last (d : Delimiters) (hcloser : isCloser d.closer = true)
    (s : Text) :
    splitAfterCloses d.closer (d.closes s + 1) (s ++ [d.closer]) = (s ++ [d.closer], []) := by
  obtain ⟨front, hfront⟩ := exists_takeEndWhile isCloser s
  have hrun := takeEndWhile_snoc_pos hcloser s
  have hcut : cutAfter d.closer (d.closes s + 1)
      (Text.takeEndWhile isCloser (s ++ [d.closer])) =
        some (Text.takeEndWhile isCloser s ++ [d.closer], []) := by
    rw [hrun, d.closes_eq_count, cutAfter_last]
  have hwhole : s ++ [d.closer] = front ++ Text.takeEndWhile isCloser (s ++ [d.closer]) := by
    rw [hrun, ← List.append_assoc, ← hfront]
  rw [splitAfterCloses_of_cut hwhole hcut, ← List.append_assoc, ← hfront]

/-- One more closer at the end goes to the part that is cut off. -/
theorem Delimiters.splitAfterCloses_snoc (d : Delimiters) {needed : Nat} (hpositive : 0 < needed)
    {s : Text} (hneeded : needed ≤ d.closes s) {c : Char} (hc : isCloser c = true) :
    splitAfterCloses d.closer needed (s ++ [c]) =
      ((splitAfterCloses d.closer needed s).1, (splitAfterCloses d.closer needed s).2 ++ [c]) := by
  obtain ⟨front, hfront⟩ := exists_takeEndWhile isCloser s
  rw [d.closes_eq_count] at hneeded
  obtain ⟨head, tail, hcut⟩ := exists_cutAfter hpositive hneeded
  have hrun := takeEndWhile_snoc_pos hc s
  have hmore : cutAfter d.closer needed (Text.takeEndWhile isCloser (s ++ [c])) =
      some (head, tail ++ [c]) := by
    rw [hrun, cutAfter_append hcut]
  have hwhole : s ++ [c] = front ++ Text.takeEndWhile isCloser (s ++ [c]) := by
    rw [hrun, ← List.append_assoc, ← hfront]
  rw [splitAfterCloses_of_cut hwhole hmore, splitAfterCloses_of_cut hfront hcut]

end Conch.Token
