import Conch.Proofs.Rewrapping

/-!
Lengths. Grouping writes a text anew: it trims every word, puts one space between two words
and glues marks to the word before. All of this only makes a text shorter. So a group that is
as long as the tokens it was read from lost nothing on the way: no blank was trimmed, no word
went into a comment, and no token was left outside of the group.

* `length_writtenBehind_ofWords`: tokens take no more room than the words they come from.
* `keeps_step`: what one step can keep of a token and of the group in front of it.
* `length_le_of_mem_advance`: what a run can keep, and how it went if it kept everything.
-/

namespace Conch.Text

/-! ### Trimming -/

theorem trim_sublist (s : Text) : (trim s).Sublist s := by
  have hstart : trim s <+: s.dropWhile isBlank := List.rdropWhile_prefix isBlank _
  exact hstart.sublist.trans (List.dropWhile_suffix isBlank).sublist

theorem trim_eq_nil_or_tight (s : Text) : trim s = [] ∨ Tight (trim s) := by
  refine or_iff_not_imp_left.mpr fun hnonempty => ⟨hnonempty, ?_, ?_⟩
  · intro c hc
    have hmiddle : s.dropWhile isBlank ≠ [] := by
      intro hnil
      rw [trim, trimWhile, hnil] at hnonempty
      exact hnonempty rfl
    obtain ⟨rest, hrest⟩ : trim s <+: s.dropWhile isBlank := List.rdropWhile_prefix isBlank _
    rw [← List.head?_append_of_ne_nil _ hnonempty, hrest, List.head?_eq_some_head hmiddle] at hc
    cases hc
    simpa using List.head_dropWhile_not isBlank hmiddle
  · intro c hc
    rw [List.getLast?_eq_some_getLast hnonempty] at hc
    cases hc
    exact Bool.eq_false_iff.mpr (List.rdropWhile_last_not isBlank (s.dropWhile isBlank) hnonempty)

theorem tight_of_length_le_trim {s : Text} (hnonempty : s ≠ []) (h : s.length ≤ (trim s).length) :
    Tight s := by
  have hself : trim s = s := (trim_sublist s).eq_of_length_le h
  rw [← hself]
  exact (trim_eq_nil_or_tight s).resolve_left (by rwa [hself])

theorem tight_iff {s : Text} : Tight s ↔ s ≠ [] ∧ trim s = s :=
  ⟨fun h => ⟨h.nonempty, h.trim_eq⟩,
    fun h => tight_of_length_le_trim h.1 (by rw [h.2])⟩

instance (s : Text) : Decidable (Tight s) := decidable_of_iff _ tight_iff.symm

theorem trim_snoc {c : Char} (hc : isBlank c = false) (s : Text) :
    ∃ front, trim (s ++ [c]) = front ++ [c] := by
  have hdrop : ∃ front, (s ++ [c]).dropWhile isBlank = front ++ [c] := by
    rw [List.dropWhile_append]
    split_ifs
    · exact ⟨[], by simp [hc]⟩
    · exact ⟨_, rfl⟩
  obtain ⟨front, hfront⟩ := hdrop
  refine ⟨front, ?_⟩
  rw [trim, trimWhile, hfront]
  exact List.rdropWhile_concat_neg isBlank front c (by simp [hc])

theorem trim_cons {c : Char} (hc : isBlank c = false) (s : Text) :
    ∃ rest, trim (c :: s) = c :: rest := by
  have hdrop : (c :: s).dropWhile isBlank = c :: s := List.dropWhile_cons_of_neg (by simp [hc])
  obtain ⟨rest, hrest⟩ : trim (c :: s) <+: (c :: s).dropWhile isBlank :=
    List.rdropWhile_prefix isBlank _
  rw [hdrop] at hrest
  cases htrim : trim (c :: s) with
  | nil =>
      rw [trim, trimWhile, hdrop] at htrim
      have hblank : isBlank c = true := List.rdropWhile_eq_nil_iff.mp htrim c (by simp)
      rw [hc] at hblank
      cases hblank
  | cons d more =>
      rw [htrim] at hrest
      cases hrest
      exact ⟨more, rfl⟩

end Conch.Text

namespace Conch.Token

open Text (Tight)

instance (token : Token) : Decidable token.IsTight :=
  inferInstanceAs (Decidable (Tight token.source))

/-! ### Lengths of words and tokens -/

/-- The length of words with one separator behind each of them. -/
def spread : List Text → Nat
  | [] => 0
  | w :: rest => w.length + 1 + spread rest

theorem spread_append (first second : List Text) :
    spread (first ++ second) = spread first + spread second := by
  induction first with
  | nil => simp [spread]
  | cons w rest ih =>
      rw [List.cons_append, spread, spread, ih]
      omega

/-- Words stand apart in their text. -/
theorem Spaced.spread_le {s : Text} {words : List Text} (h : Spaced s words) :
    spread words ≤ s.length + 1 ∧ (Stops s → spread words ≤ s.length) := by
  induction h with
  | nil => simp [spread]
  | separator _ _ ih =>
      have hmore := ih.1
      rw [List.length_cons]
      exact ⟨by omega, fun _ => hmore⟩
  | @word w rest words hw hstop _ ih =>
      have hmore := ih.2 hstop
      rw [spread, List.length_append]
      refine ⟨by omega, fun hstart => ?_⟩
      cases w with
      | nil => exact absurd rfl hw.nonempty
      | cons c w =>
          have hsep : isSeparator c = true := stops_cons.mp hstart
          rw [hw.head_not_separator] at hsep
          cases hsep

theorem length_writtenBehind_word (w : Text) : (writtenBehind [word w]).length = w.length + 1 := by
  simp [writtenBehind, word, isSplit, source]

theorem length_writtenBehind_pos (token : Token) : 0 < (writtenBehind [token]).length := by
  cases hsplit : token.isSplit with
  | true =>
      have hkind : token.kind = .split := by simpa [isSplit] using hsplit
      simp [writtenBehind, hsplit, source, hkind]
  | false => simp [writtenBehind, hsplit]

theorem length_writtenBehind_ofWord (w : Text) :
    (writtenBehind (ofWord w)).length ≤ w.length + 1 := by
  have hbody := length_dropEndWhile_le (· == ';') w
  simp only [ofWord, writtenBehind_append, writtenBehind_marks, List.length_append,
    List.length_replicate]
  split_ifs
  · simp only [writtenBehind, List.length_nil]
    omega
  · rw [length_writtenBehind_word]
    omega

/-- Tokens take no more room than the words that they come from. -/
theorem length_writtenBehind_flatMap (words : List Text) :
    (writtenBehind (words.flatMap ofWord)).length ≤ spread words := by
  induction words with
  | nil => simp [writtenBehind, spread]
  | cons w rest ih =>
      have hfirst := length_writtenBehind_ofWord w
      rw [List.flatMap_cons, writtenBehind_append, List.length_append, spread]
      omega

/-- What a comment hides is lost. -/
theorem length_writtenBehind_ofWords (words : List Text) :
    (writtenBehind (ofWords words)).length ≤ spread words ∧
      (spread words ≤ (writtenBehind (ofWords words)).length →
        ∀ w ∈ words, w.head? ≠ some '#') := by
  have hwhole := List.takeWhile_append_dropWhile (p := fun w : Text => w.head? != some '#')
    (l := words)
  have hspread := spread_append (words.takeWhile fun w => w.head? != some '#')
    (words.dropWhile fun w => w.head? != some '#')
  have hshort := length_writtenBehind_flatMap (words.takeWhile fun w => w.head? != some '#')
  rw [hwhole] at hspread
  rw [ofWords]
  refine ⟨by omega, fun hlong => ?_⟩
  cases hdrop : words.dropWhile fun w => w.head? != some '#' with
  | nil =>
      rw [List.dropWhile_eq_nil_iff] at hdrop
      exact fun w hw => by simpa using hdrop w hw
  | cons w rest =>
      rw [hdrop, spread] at hspread
      omega

/-! ### Lengths of groups -/

/-- The length of the text of a group and of the space behind it, if there is a text. -/
def Group.size (group : Group) : Nat := if group.back.isEmpty then 0 else group.back.length + 1

theorem Group.size_of_ne_nil {group : Group} (h : group.back ≠ []) :
    group.size = group.back.length + 1 := by
  rw [size, if_neg (by simpa using h)]

/-- A piece of text adds to a group what is left of it without blanks, and a space. -/
theorem Group.size_push_le (group : Group) (piece : Text) :
    (group.push piece).size ≤ group.size + ((Text.trim piece).length + 1) := by
  have hdrop := (List.dropWhile_suffix (l := group.back) Text.isBlank).length_le
  simp only [push]
  split_ifs with hpiece hback
  · omega
  · have hnonempty : (Text.trim piece).reverse ≠ [] := by simpa using hpiece
    have hsize : size ⟨(Text.trim piece).reverse, group.depth⟩ = (Text.trim piece).length + 1 := by
      rw [size_of_ne_nil (by exact hnonempty), List.length_reverse]
    omega
  · have hkept : group.back ≠ [] := by simpa using hback
    rw [size_of_ne_nil (by simp), size_of_ne_nil hkept, List.length_append, List.length_reverse,
      List.length_cons]
    omega

theorem Group.length_text (group : Group) : group.text.length = group.back.length :=
  List.length_reverse

/-- A group whose opener has been read. -/
structure Group.Begun (group : Group) (d : Delimiters) : Prop where
  opener : ∃ rest, group.text = d.opener :: rest
  depth : 0 < group.depth

theorem Group.Begun.size_eq {group : Group} {d : Delimiters} (h : group.Begun d) :
    group.size = group.text.length + 1 := by
  obtain ⟨rest, hrest⟩ := h.opener
  have hback : group.back ≠ [] := by
    intro hnil
    simp [text, hnil] at hrest
  simp [size, hback, group.length_text]

theorem Group.text_push {group : Group} {opener : Char} (hopener : Text.isBlank opener = false)
    {rest : Text} (h : group.text = opener :: rest) {piece : Text} (hpiece : Text.trim piece ≠ []) :
    ∃ kept, (group.push piece).text = opener :: (kept ++ ' ' :: Text.trim piece) := by
  have hback : group.back = rest.reverse ++ [opener] := by
    have hreverse := congrArg List.reverse h
    rwa [text, List.reverse_reverse, List.reverse_cons] at hreverse
  have hdrop : ∃ front, group.back.dropWhile Text.isBlank = front ++ [opener] := by
    rw [hback, List.dropWhile_append]
    split_ifs
    · exact ⟨[], by simp [hopener]⟩
    · exact ⟨_, rfl⟩
  obtain ⟨front, hfront⟩ := hdrop
  refine ⟨front.reverse, ?_⟩
  simp only [push, List.isEmpty_iff, hpiece, if_false, text, hfront]
  simp [hback]

section

variable {group : Group} {d : Delimiters} (hopener : isOpener d.opener = true)

include hopener

/-- A piece of text leaves the opener of a group in front. -/
theorem Group.Begun.push (h : group.Begun d) (piece : Text) {depth : Nat} (hdepth : 0 < depth) :
    Begun { group.push piece with depth := depth } d where
  opener := by
    by_cases hpiece : Text.trim piece = []
    · have hsame : group.push piece = group := by simp [Group.push, hpiece]
      rw [hsame]
      exact h.opener
    · obtain ⟨rest, hrest⟩ := h.opener
      obtain ⟨kept, htext⟩ := Group.text_push (not_blank_of_opener hopener) hrest hpiece
      exact ⟨_, htext⟩
  depth := hdepth

/-- A piece of text that ends with the closer is the end of the group. -/
theorem Group.Begun.text_push_closer (hcloser : isCloser d.closer = true) (h : group.Begun d)
    (inner : Text) :
    ∃ kept, (group.push (inner ++ [d.closer])).text = d.opener :: kept ++ [d.closer] := by
  obtain ⟨rest, hrest⟩ := h.opener
  obtain ⟨front, htrim⟩ := Text.trim_snoc (not_blank_of_closer hcloser) inner
  have hpiece : Text.trim (inner ++ [d.closer]) ≠ [] := by simp [htrim]
  obtain ⟨kept, htext⟩ := Group.text_push (not_blank_of_opener hopener) hrest hpiece
  exact ⟨kept ++ ' ' :: front, by simp [htext, htrim]⟩

/-- The first piece of text of a group begins it. -/
theorem Group.begun_first (rest : Text) {depth : Nat} (hdepth : 0 < depth) :
    (Group.push ⟨[], depth⟩ (d.opener :: rest)).Begun d := by
  obtain ⟨trimmed, htrim⟩ := Text.trim_cons (not_blank_of_opener hopener) rest
  constructor
  · exact ⟨trimmed, by simp [Group.push, Group.text, htrim]⟩
  · rwa [Group.push_depth]

/-- A word that begins and ends a group. -/
theorem Group.text_whole (hcloser : isCloser d.closer = true) (inner : Text) (depth : Nat) :
    (Group.push ⟨[], depth⟩ (d.opener :: inner ++ [d.closer])).text =
      d.opener :: inner ++ [d.closer] := by
  have hfirst : Tight [d.opener] := Tight.cons (not_blank_of_opener hopener) (.inl rfl)
  have hlast : Tight [d.closer] := Tight.cons (not_blank_of_closer hcloser) (.inl rfl)
  have hpush := Group.push_first depth (hfirst.append hlast inner)
  exact (congrArg Group.text hpush).trans (Group.text_ofText _ _)

/-- A word that closes the group it opens is cut behind the closer of that group. -/
theorem Delimiters.splitAfterCloses_whole (hcloser : isCloser d.closer = true) {needed : Nat}
    (hpositive : 0 < needed) {rest : Text} (h : needed ≤ d.closes rest) :
    ∃ inner tail, rest = inner ++ d.closer :: tail ∧
      splitAfterCloses d.closer needed (d.opener :: rest) =
        (d.opener :: inner ++ [d.closer], tail) := by
  rw [← d.closes_cons_opener hopener] at h
  obtain ⟨front, tail, hsplit, hcut, -⟩ := d.splitAfterCloses_spec hcloser hpositive h
  cases front with
  | nil =>
      obtain ⟨hsame, -⟩ := List.cons.inj hcut
      have hnot := not_closer_of_opener hopener
      rw [hsame, hcloser] at hnot
      cases hnot
  | cons c inner =>
      obtain ⟨rfl, hrest⟩ := List.cons.inj hcut
      exact ⟨inner, tail, hrest, hsplit⟩

end

theorem Delimiters.body_enclosed (d : Delimiters) (inner : Text) :
    d.body (d.opener :: inner ++ [d.closer]) = Text.trim inner := by
  have hend : Text.beforeEnd? [d.closer] (inner ++ [d.closer]) = some inner :=
    Text.beforeEnd?_append _ _
  simp [body, Text.afterStart?, hend]

/-- A group that ends with a piece of text: how long its body can be, and when it is that
long. -/
theorem body_push {group : Group} {head : Text} (hhead : head ≠ [])
    (htext : ∃ inner, (group.push head).text = '{' :: inner ++ ['}']) {v : Text}
    (hv : v = braces.body (group.push head).text) :
    (v = [] ∨ Tight v) ∧ v.length + 3 ≤ group.size + (head.length + 1) ∧
      (group.size + (head.length + 1) ≤ v.length + 3 → Tight head) := by
  obtain ⟨inner, hinner⟩ := htext
  have hlength := (group.push head).length_text
  have htrim := (Text.trim_sublist inner).length_le
  have hpush := group.size_push_le head
  have hpiece := (Text.trim_sublist head).length_le
  have hbody : braces.body ('{' :: inner ++ ['}']) = Text.trim inner := braces.body_enclosed inner
  rw [hinner, hbody] at hv
  rw [hinner, List.length_append, List.length_cons, List.length_singleton] at hlength
  have hback : (group.push head).back ≠ [] := by
    intro hnil
    rw [hnil] at hlength
    cases hlength
  rw [Group.size_of_ne_nil hback] at hpush
  rw [hv]
  refine ⟨Text.trim_eq_nil_or_tight inner, by omega, fun hlong => ?_⟩
  exact Text.tight_of_length_le_trim hhead (by omega)

/-- What a step can keep of a token and of the group in front of it, of which `before`
characters count. -/
structure Keeps (before : Nat) (token : Token) (step : List Token × Option Group) : Prop where
  trimmed : ∀ v, raw v ∈ step.1 → v = [] ∨ Tight v
  yields : ∀ v, raw v ∈ step.1 → v.length + 3 ≤ before + (writtenBehind [token]).length
  yieldsAll : ∀ v, raw v ∈ step.1 → before + (writtenBehind [token]).length ≤ v.length + 3 →
    token.IsTight ∧ step.1 = [raw v]
  leaves : ∀ g ∈ step.2, g.Begun braces ∧ g.size ≤ before + (writtenBehind [token]).length
  leavesAll : ∀ g ∈ step.2, before + (writtenBehind [token]).length ≤ g.size →
    token.IsTight ∧ step.1 = []

/-- A word that ends a group. -/
theorem keeps_finish {group : Group} {w front head tail : Text} (hw : w = front ++ head ++ tail)
    (hhead : head ≠ []) (htext : ∃ inner, (group.push head).text = '{' :: inner ++ ['}']) :
    Keeps group.size (word w) (piece front ++ braces.finish group head tail, none) := by
  have hlength : (writtenBehind [word w]).length =
      front.length + head.length + tail.length + 1 := by
    rw [length_writtenBehind_word, hw, List.length_append, List.length_append]
  have hbody : ∀ v, raw v ∈ piece front ++ braces.finish group head tail →
      v = braces.body (group.push head).text := fun v hv =>
    mem_finish ((List.mem_append.mp hv).resolve_left not_mem_piece)
  refine ⟨fun v hv => (body_push hhead htext (hbody v hv)).1, fun v hv => ?_, fun v hv hlong => ?_,
    by simp, by simp⟩
  · have hshort := (body_push hhead htext (hbody v hv)).2.1
    omega
  · obtain ⟨-, hshort, htight⟩ := body_push hhead htext (hbody v hv)
    have hfront : front = [] := List.eq_nil_of_length_eq_zero (by omega)
    have htail : tail = [] := List.eq_nil_of_length_eq_zero (by omega)
    have hhead := htight (by omega)
    rw [hfront, htail, List.nil_append, List.append_nil] at hw
    rw [hw, hfront, htail, hbody v hv]
    exact ⟨hhead, rfl⟩

/-- A word that leaves a group open. -/
theorem keeps_open {group opened : Group} {w front body : Text} (hw : w = front ++ body)
    (hbody : body ≠ []) (hback : opened.back = (group.push body).back)
    (hbegun : opened.Begun braces) :
    Keeps group.size (word w) (piece front, some opened) := by
  have hlength : (writtenBehind [word w]).length = front.length + body.length + 1 := by
    rw [length_writtenBehind_word, hw, List.length_append]
  have hpush := group.size_push_le body
  have htrim := (Text.trim_sublist body).length_le
  have hsize : opened.size = (group.push body).size := by rw [Group.size, Group.size, hback]
  refine ⟨fun v hv => absurd hv not_mem_piece, fun v hv => absurd hv not_mem_piece,
    fun v hv => absurd hv not_mem_piece, ?_, ?_⟩
  · rintro g ⟨⟩
    exact ⟨hbegun, by omega⟩
  · rintro g ⟨⟩ hlong
    have hfront : front = [] := List.eq_nil_of_length_eq_zero (by omega)
    have htight := Text.tight_of_length_le_trim hbody (by omega)
    rw [hfront, List.nil_append] at hw
    rw [hw, hfront]
    exact ⟨htight, rfl⟩

/-- Inside a group, a token is kept at most as it is written behind the group. -/
theorem keeps_inside {group : Group} (h : group.Begun braces) {token : Token}
    (hlexed : token.IsLexed) : Keeps group.size token (braces.step (some group) token) := by
  rcases hlexed with rfl | ⟨w, rfl, hw⟩
  · obtain ⟨rest, hrest⟩ := h.opener
    have hstep : braces.step (some group) split = ([], some (group.pushToken split)) := rfl
    have htext : (group.pushToken split).text = group.text ++ [';'] := List.reverse_cons
    have hbegun : (group.pushToken split).Begun braces :=
      ⟨⟨rest ++ [';'], by rw [htext, hrest]; rfl⟩, h.depth⟩
    have hsize : (group.pushToken split).size = group.size + (writtenBehind [split]).length := by
      rw [hbegun.size_eq, h.size_eq, htext, List.length_append]
      rfl
    rw [hstep]
    refine ⟨by simp, by simp, by simp, ?_, ?_⟩
    · rintro g ⟨⟩
      exact ⟨hbegun, hsize.le⟩
    · rintro g ⟨⟩ -
      exact ⟨isTight_split, rfl⟩
  · have hdepth := h.depth
    show Keeps _ _ (braces.stepInside group (word w))
    rw [braces.stepInside_word hdepth]
    split_ifs with hopen
    · exact keeps_open (List.nil_append w).symm hw.isWord.nonempty rfl (h.push rfl w (by omega))
    · have hneeded : group.depth + braces.opens w ≤ braces.closes w := by omega
      obtain ⟨inner, tail, hsplit, hwhole, -⟩ :=
        braces.splitAfterCloses_spec (by decide) (by omega) hneeded
      have hcut : w = [] ++ (inner ++ ['}']) ++ tail := by
        rw [hwhole, List.nil_append, List.append_assoc]
        rfl
      rw [hsplit]
      exact keeps_finish hcut (by simp) (h.text_push_closer rfl rfl inner)

/-- Outside of groups, a token is kept at most as it is written. -/
theorem keeps_outside {token : Token} (hlexed : token.IsLexed) :
    Keeps 0 token (braces.step none token) := by
  obtain ⟨hself, hnone⟩ | ⟨w, rfl, -, hopens⟩ := step_none_cases hlexed
  · rw [hself]
    exact ⟨fun v hv => absurd hv (hnone v), fun v hv => absurd hv (hnone v),
      fun v hv => absurd hv (hnone v), by simp, by simp⟩
  have hsize : ∀ depth, Group.size ⟨[], depth⟩ = 0 := fun _ => rfl
  obtain ⟨before, rest, hwhole, -, hstep⟩ := exists_step_opening hopens
  rw [hstep]
  split_ifs with hclosed
  · obtain ⟨inner, tail, hrest, hsplit⟩ :=
      Delimiters.splitAfterCloses_whole (d := braces) rfl rfl (Nat.succ_pos _) hclosed
    have hsplit : splitAfterCloses braces.closer (braces.opens rest + 1) ('{' :: rest) =
        ('{' :: inner ++ ['}'], tail) := hsplit
    have hword : w = before ++ ('{' :: inner ++ ['}']) ++ tail := by
      rw [hwhole, hrest]
      simp [braces]
    rw [hsplit, ← hsize (braces.opens rest + 1)]
    exact keeps_finish hword (by simp) ⟨inner, Group.text_whole (d := braces) rfl rfl inner _⟩
  · have hdepth : 0 < braces.opens rest + 1 - braces.closes rest := by omega
    rw [← hsize (braces.opens rest + 1 - braces.closes rest)]
    exact keeps_open hwhole (by simp) rfl (Group.begun_first (d := braces) rfl rest hdepth)

/-! ### Runs that lose nothing -/

/-- How much of an open group counts, if there is one. -/
def pendingSize : Option Group → Nat
  | none => 0
  | some group => group.size

theorem keeps_step {pending : Option Group} (h : ∀ g ∈ pending, g.Begun braces) {token : Token}
    (hlexed : token.IsLexed) : Keeps (pendingSize pending) token (braces.step pending token) := by
  cases pending with
  | none => exact keeps_outside hlexed
  | some group => exact keeps_inside (h group rfl) hlexed

/-- The part of `Keeps` on what is pending behind a step. -/
theorem Keeps.pendingSize_le {before : Nat} {token : Token} {step : List Token × Option Group}
    (h : Keeps before token step) :
    pendingSize step.2 ≤ before + (writtenBehind [token]).length ∧
      (before + (writtenBehind [token]).length ≤ pendingSize step.2 →
        token.IsTight ∧ step.1 = []) := by
  have hpositive := length_writtenBehind_pos token
  cases hpending : step.2 with
  | none => exact ⟨Nat.zero_le _, fun hlong => absurd hlong (by simp only [pendingSize]; omega)⟩
  | some group => exact ⟨(h.leaves group hpending).2, h.leavesAll group hpending⟩

/-- **A raw group of a run is at most as long as its tokens are written**, braces and spaces
counted. If it is that long, nothing was trimmed, and the last token ended the group with
nothing before it and nothing behind it. -/
theorem length_le_of_mem_advance {pending : Option Group} (hpending : ∀ g ∈ pending, g.Begun braces)
    {tokens : List Token} (hlexed : ∀ t ∈ tokens, t.IsLexed) {v : Text}
    (h : raw v ∈ (braces.advance pending tokens).1) :
    (v = [] ∨ Tight v) ∧ v.length + 3 ≤ pendingSize pending + (writtenBehind tokens).length ∧
      (pendingSize pending + (writtenBehind tokens).length ≤ v.length + 3 →
        (∀ t ∈ tokens, t.IsTight) ∧ ∃ front last, tokens = front ++ [last] ∧
          (braces.advance pending front).1 = [] ∧
          (braces.step (braces.advance pending front).2 last).1 = [raw v]) := by
  induction tokens generalizing pending with
  | nil => cases h
  | cons token rest ih =>
      obtain ⟨hfirst, hrest⟩ := List.forall_mem_cons.mp hlexed
      have hkeeps := keeps_step hpending hfirst
      rw [Delimiters.advance_cons] at h
      rw [writtenBehind_cons, List.length_append]
      rcases List.mem_append.mp h with h | h
      · have hshort := hkeeps.yields v h
        refine ⟨hkeeps.trimmed v h, by omega, fun hlong => ?_⟩
        obtain ⟨htight, hstep⟩ := hkeeps.yieldsAll v h (by omega)
        cases rest with
        | nil => exact ⟨by simpa using htight, [], token, rfl, rfl, hstep⟩
        | cons next more =>
            have hpositive := length_writtenBehind_pos next
            rw [writtenBehind_cons next, List.length_append] at hlong
            omega
      · obtain ⟨hshort, hall⟩ := hkeeps.pendingSize_le
        obtain ⟨htrimmed, hle, hmore⟩ := ih (fun g hg => (hkeeps.leaves g hg).1) hrest h
        refine ⟨htrimmed, by omega, fun hlong => ?_⟩
        obtain ⟨htight, hstep⟩ := hall (by omega)
        obtain ⟨htights, front, last, rfl, hfront, hlast⟩ := hmore (by omega)
        refine ⟨List.forall_mem_cons.mpr ⟨htight, htights⟩, token :: front, last, rfl, ?_, hlast⟩
        rw [Delimiters.advance_cons, hstep, hfront, List.append_nil]

end Conch.Token
