import Conch.Proofs.Lengths

/-!
What parsing keeps. Reading an expression moves blanks and takes quotes off, and it leaves out
comments; everything else it keeps, once and in order. The characters that are neither blank
nor a quote are the ink of a text, and the ink of the tokens of an expression is the ink of
the expression up to its comment.

* `conserves_step`, `ink_advance`: a step of grouping moves ink from a token to the open group,
  or from both to the tokens that are complete; so does a run of steps.
* `ink_group`: a pass of grouping keeps the ink of its tokens.
* `ink_parse`: the tokens of an expression have its ink, but for a comment.
* `ink_body_lt`: the body of a substitution has less ink than the expression it stands in,
  since its parentheses are ink.
-/

namespace Conch.Text

/-- Whether a character is ink: neither blank nor a double quote. -/
def isInk (c : Char) : Bool := !isBlank c && c != '"'

/-- The ink of a text, in order. -/
def ink (s : Text) : Text := s.filter isInk

@[simp] theorem ink_nil : ink [] = [] := rfl

@[simp] theorem ink_append (s t : Text) : ink (s ++ t) = ink s ++ ink t := List.filter_append ..

theorem ink_cons_of_isInk {c : Char} (h : isInk c = true) (s : Text) : ink (c :: s) = c :: ink s :=
  List.filter_cons_of_pos h

theorem ink_cons_of_not_isInk {c : Char} (h : isInk c = false) (s : Text) : ink (c :: s) = ink s :=
  List.filter_cons_of_neg (by simp [h])

theorem isInk_of_isBlank {c : Char} (h : isBlank c = true) : isInk c = false := by
  simp [isInk, h]

theorem ink_dropWhile {p : Char → Bool} (hp : ∀ c, p c = true → isInk c = false) (s : Text) :
    ink (s.dropWhile p) = ink s := by
  induction s with
  | nil => rfl
  | cons c s ih =>
      cases hc : p c with
      | true => rw [List.dropWhile_cons_of_pos hc, ih, ink_cons_of_not_isInk (hp c hc)]
      | false => rw [List.dropWhile_cons_of_neg (by simp [hc])]

theorem ink_reverse (s : Text) : ink s.reverse = (ink s).reverse := List.filter_reverse ..

/-- Blanks at the ends of a text are not ink. -/
theorem ink_trim (s : Text) : ink (trim s) = ink s := by
  have hblank : ∀ c, isBlank c = true → isInk c = false := fun c hc => isInk_of_isBlank hc
  unfold trim trimWhile dropEndWhile
  rw [ink_reverse, ink_dropWhile hblank, ink_reverse, List.reverse_reverse, ink_dropWhile hblank]

end Conch.Text

namespace Conch.Token

open Text (ink isInk)

/-! ### The ink of tokens -/

theorem isInk_of_isOpener {c : Char} (h : isOpener c = true) : isInk c = true := by
  simp only [isOpener, Bool.or_eq_true, beq_iff_eq] at h
  rcases h with rfl | rfl <;> decide

/-- The tokens as they are written, without anything between them. -/
def sources (tokens : List Token) : Text := tokens.flatMap source

@[simp] theorem sources_nil : sources [] = [] := rfl

@[simp] theorem sources_cons (token : Token) (rest : List Token) :
    sources (token :: rest) = token.source ++ sources rest := rfl

@[simp] theorem sources_append (first second : List Token) :
    sources (first ++ second) = sources first ++ sources second := List.flatMap_append

theorem sources_piece (w : Text) : sources (piece w) = w := by
  unfold piece
  split_ifs with hempty
  · exact (List.isEmpty_iff.mp hempty).symm
  · exact List.append_nil w

/-- Quotes are not ink. -/
theorem ink_stripQuotes (s : Text) : ink (stripQuotes s) = ink s := by
  unfold stripQuotes
  split_ifs with hquoted
  · simp only [isFullyQuoted, Bool.and_eq_true, beq_iff_eq, decide_eq_true_eq] at hquoted
    obtain ⟨⟨hlength, hhead⟩, hlast⟩ := hquoted
    cases s with
    | nil => cases hhead
    | cons c rest =>
        cases hhead
        have hnonempty : rest ≠ [] := by
          rintro rfl
          simp at hlength
        rw [List.getLast?_cons_of_ne_nil hnonempty,
          List.getLast?_eq_some_getLast hnonempty] at hlast
        have hend : rest = rest.dropLast ++ ['"'] := by
          conv_lhs => rw [← List.dropLast_append_getLast hnonempty, Option.some.inj hlast]
        rw [Text.ink_cons_of_not_isInk (by decide), List.tail_cons]
        conv_rhs => rw [hend, Text.ink_append]
        exact (List.append_nil _).symm
  · rfl

theorem ink_unquote (token : Token) : ink token.unquote.source = ink token.source := by
  unfold unquote
  split_ifs with hquoted
  · simp only [isQuoted, Bool.and_eq_true, beq_iff_eq] at hquoted
    have hsource : token.source = token.value := by rw [source, hquoted.1]
    rw [hsource]
    exact ink_stripQuotes token.value
  · rfl

theorem ink_map_unquote (tokens : List Token) :
    ink (sources (tokens.map unquote)) = ink (sources tokens) := by
  induction tokens with
  | nil => rfl
  | cons token rest ih =>
      rw [List.map_cons, sources_cons, sources_cons, Text.ink_append, Text.ink_append, ih,
        ink_unquote]

/-! ### The ink of groups -/

/-- A piece of text adds its ink to a group. -/
theorem Group.ink_push (group : Group) (piece : Text) :
    ink (group.push piece).text = ink group.text ++ ink piece := by
  have hblank : ink (group.back.dropWhile Text.isBlank) = ink group.back :=
    Text.ink_dropWhile (fun c hc => Text.isInk_of_isBlank hc) _
  rw [← Text.ink_trim piece]
  simp only [push]
  split_ifs with hpiece hback
  · simp [List.isEmpty_iff.mp hpiece]
  · simp [text, List.isEmpty_iff.mp hback]
  · simp only [text, List.reverse_append, List.reverse_cons, List.reverse_reverse, Text.ink_append,
      Text.ink_reverse, hblank]
    rw [Text.ink_cons_of_not_isInk (by decide), Text.ink_nil, List.append_nil]

theorem Group.ink_pushToken (group : Group) (token : Token) :
    ink (group.pushToken token).text = ink group.text ++ ink token.source := by
  unfold pushToken
  split_ifs with hsplit
  · have hsource : token.source = [';'] := by
      simp only [isSplit, beq_iff_eq] at hsplit
      rw [source, hsplit]
    rw [hsource, ← Text.ink_append]
    simp [text]
  · exact group.ink_push token.source

/-- The text of the group that is open, if there is one. -/
def pendingText : Option Group → Text
  | none => []
  | some group => group.text

namespace Delimiters

/-- Delimiters with which their groups are written. -/
structure IsPair (d : Delimiters) : Prop where
  opener : isOpener d.opener = true
  closer : isCloser d.closer = true
  source : ∀ value, Token.source ⟨d.kind, value⟩ = d.opener :: value ++ [d.closer]

theorem isPair_braces : braces.IsPair := ⟨rfl, rfl, fun _ => rfl⟩

theorem isPair_parentheses : parentheses.IsPair := ⟨rfl, rfl, fun _ => rfl⟩

variable {d : Delimiters}

/-- A group that ends hands on its ink, and what is behind it. -/
theorem IsPair.ink_finish (hd : d.IsPair) {group : Group} {head : Text}
    (htext : ∃ inner, (group.push head).text = d.opener :: inner ++ [d.closer]) (tail : Text) :
    ink (sources (d.finish group head tail)) = ink group.text ++ ink (head ++ tail) := by
  obtain ⟨inner, hinner⟩ := htext
  have hpush := group.ink_push head
  have hgroup : ink (Token.source ⟨d.kind, d.body (group.push head).text⟩) =
      ink (group.push head).text := by
    rw [hinner, d.body_enclosed, hd.source, Text.ink_append, Text.ink_append,
      Text.ink_cons_of_isInk (isInk_of_isOpener hd.opener),
      Text.ink_cons_of_isInk (isInk_of_isOpener hd.opener), Text.ink_trim]
  have htail : sources (if tail.isEmpty then [] else [word tail]) = tail := sources_piece tail
  unfold finish
  rw [sources_cons, htail, Text.ink_append, hgroup, hpush, Text.ink_append, List.append_assoc]

/-- What a step keeps of a token and of the text of the group in front of it. -/
structure Conserves (d : Delimiters) (before : Text) (token : Token)
    (step : List Token × Option Group) : Prop where
  begun : ∀ group ∈ step.2, group.Begun d
  ink : ink (sources step.1) ++ ink (pendingText step.2) = ink before ++ ink token.source

theorem conserves_inside (hd : d.IsPair) {group : Group} (h : group.Begun d) (token : Token) :
    Conserves d group.text token (d.stepInside group token) := by
  by_cases hword : token.kind = .word
  · obtain ⟨w, rfl⟩ : ∃ w, token = word w := ⟨token.value, by rw [word, ← hword]⟩
    rw [d.stepInside_word h.depth]
    split_ifs with hopen
    · constructor
      · rintro g ⟨⟩
        exact h.push hd.opener w (by omega)
      · exact group.ink_push w
    · have hneeded : group.depth + d.opens w ≤ d.closes w := by omega
      have hpositive : 0 < group.depth + d.opens w := by
        have := h.depth
        omega
      obtain ⟨inner, tail, hsplit, hwhole, -⟩ := d.splitAfterCloses_spec hd.closer hpositive hneeded
      rw [hsplit]
      constructor
      · rintro g ⟨⟩
      · show Text.ink (sources _) ++ [] = Text.ink group.text ++ Text.ink w
        rw [hd.ink_finish (h.text_push_closer hd.opener hd.closer inner), hwhole, List.append_nil,
          List.append_assoc]
        rfl
  · have hstep : d.stepInside group token = ([], some (group.pushToken token)) := by
      rw [stepInside, if_pos (.inl hword)]
    rw [hstep]
    constructor
    · rintro g ⟨⟩
      unfold Group.pushToken
      split_ifs
      · obtain ⟨rest, hrest⟩ := h.opener
        constructor
        · exact ⟨rest ++ [';'], by rw [Group.text, List.reverse_cons, ← Group.text, hrest]; rfl⟩
        · exact h.depth
      · have hpush := h.push hd.opener token.source h.depth
        rwa [← Group.push_depth group token.source] at hpush
    · exact group.ink_pushToken token

/-- A word that is seen as `s`, with the ink of the word. -/
theorem conserves_word (hd : d.IsPair) {token : Token} {s : Text}
    (hs : ink s = ink token.source) : Conserves d [] token (d.stepWord token s) := by
  by_cases hnone : d.opens s = 0
  · rw [stepWord, if_pos hnone]
    constructor
    · rintro g ⟨⟩
    · simp [pendingText]
  obtain ⟨before, rest, hwhole, -, hstep⟩ := stepWord_opening (Nat.pos_of_ne_zero hnone) token
  rw [hstep]
  split_ifs with hclosed
  · obtain ⟨inner, tail, hrest, hsplit⟩ :=
      splitAfterCloses_whole hd.opener hd.closer (Nat.succ_pos _) hclosed
    rw [hsplit]
    constructor
    · rintro g ⟨⟩
    · show Text.ink (sources _) ++ [] = [] ++ Text.ink token.source
      rw [sources_append, sources_piece, Text.ink_append,
        hd.ink_finish ⟨inner, Group.text_whole hd.opener hd.closer inner _⟩, ← hs, hwhole, hrest]
      simp [Group.text]
  · constructor
    · rintro g ⟨⟩
      exact Group.begun_first hd.opener rest (by omega)
    · show Text.ink (sources (piece before)) ++ Text.ink (Group.text _) = [] ++ _
      rw [sources_piece, Group.ink_push, ← hs, hwhole, Text.ink_append]
      rfl

theorem conserves_outside (hd : d.IsPair) (token : Token) :
    Conserves d [] token (d.stepOutside token) := by
  have hself : Conserves d [] token ([token], none) := by
    constructor
    · rintro g ⟨⟩
    · simp [pendingText]
  unfold stepOutside
  split_ifs with hword hquoted hkind
  · exact hself
  · refine conserves_word hd ?_
    rw [source, not_not.mp hword]
  · refine conserves_word hd ?_
    rw [ink_stripQuotes, source, not_not.mp hword]
  · exact hself

/-- **A step of grouping keeps the ink**: what was open and the token have the ink of what is
complete and of what is open then. -/
theorem conserves_step (hd : d.IsPair) {pending : Option Group}
    (h : ∀ group ∈ pending, group.Begun d) (token : Token) :
    Conserves d (pendingText pending) token (d.step pending token) := by
  cases pending with
  | none => exact conserves_outside hd token
  | some group => exact conserves_inside hd (h group rfl) token

theorem ink_advance (hd : d.IsPair) {pending : Option Group}
    (h : ∀ group ∈ pending, group.Begun d) (tokens : List Token) :
    ink (sources (d.advance pending tokens).1) ++ ink (pendingText (d.advance pending tokens).2) =
      ink (pendingText pending) ++ ink (sources tokens) := by
  induction tokens generalizing pending with
  | nil => simp
  | cons token rest ih =>
      have hstep := conserves_step hd h token
      rw [advance_cons, sources_append, Text.ink_append, List.append_assoc, ih hstep.begun,
        ← List.append_assoc, hstep.ink, sources_cons, Text.ink_append, List.append_assoc]

/-- A pass of grouping keeps the ink of its tokens. -/
theorem ink_group (hd : d.IsPair) {tokens complete : List Token}
    (h : d.group tokens = .ok complete) : ink (sources complete) = ink (sources tokens) := by
  have hnone : ∀ group ∈ (none : Option Group), group.Begun d := by simp
  have hink := ink_advance hd hnone tokens
  rw [group_eq_ok_iff.mp h] at hink
  simpa [pendingText] using hink

end Delimiters

/-! ### The ink of an expression -/

theorem ink_of_separator {c : Char} (h : isSeparator c = true) (s : Text) :
    ink (c :: s) = ink s := by
  simp only [isSeparator, Bool.or_eq_true, beq_iff_eq] at h
  rcases h with ((rfl | rfl) | rfl) | rfl <;> exact Text.ink_cons_of_not_isInk (by decide) s

theorem Spaced.ink_eq {s : Text} {words : List Text} (h : Spaced s words) :
    ink s = ink words.flatten := by
  induction h with
  | nil => rfl
  | separator hsep _ ih => rw [ink_of_separator hsep, ih]
  | word _ _ _ ih => rw [Text.ink_append, ih, List.flatten_cons, Text.ink_append]

/-- A word is written as its tokens are. -/
theorem sources_ofWord (w : Text) : sources (ofWord w) = w := by
  have hmarks : ∀ n, sources (List.replicate n split) = List.replicate n ';' := by
    intro n
    induction n with
    | zero => rfl
    | succ n ih => rw [List.replicate_succ, sources_cons, ih]; rfl
  have hwhole : Text.dropEndWhile (· == ';') w ++ w.rtakeWhile (· == ';') = w :=
    List.rdropWhile_append_rtakeWhile
  have hrun : w.rtakeWhile (· == ';') =
      List.replicate (w.length - (Text.dropEndWhile (· == ';') w).length) ';' := by
    refine List.eq_replicate_iff.mpr ⟨?_, fun c hc => ?_⟩
    · have hlength := congrArg List.length hwhole
      rw [List.length_append] at hlength
      omega
    · simpa using List.mem_rtakeWhile_imp hc
  have hbody : sources (if (Text.dropEndWhile (· == ';') w).isEmpty then []
      else [word (Text.dropEndWhile (· == ';') w)]) = Text.dropEndWhile (· == ';') w :=
    sources_piece _
  unfold ofWord
  rw [sources_append, hbody, hmarks, ← hrun, hwhole]

theorem sources_ofWords (words : List Text) :
    sources (ofWords words) = (words.takeWhile fun w => w.head? != some '#').flatten := by
  unfold ofWords
  generalize words.takeWhile _ = kept
  induction kept with
  | nil => rfl
  | cons w rest ih => rw [List.flatMap_cons, sources_append, ih, sources_ofWord, List.flatten_cons]

/-- **Parsing keeps the ink of an expression**, in order, up to its comment. -/
theorem ink_parse {e : Text} {tokens : List Token} (h : parse e = .ok tokens) :
    ∃ words, Spaced e words ∧
      ink (sources tokens) = ink (words.takeWhile fun w => w.head? != some '#').flatten := by
  obtain ⟨lexed, hlex⟩ := exists_lex_of_parse h
  rw [parse_eq_grouped hlex] at h
  obtain ⟨braced, ready, hbraced, hready, rfl⟩ := exists_of_grouped h
  obtain ⟨words, hwords, rfl⟩ := lex_eq_ok_iff.mp hlex
  refine ⟨words, scan_eq_ok_iff.mp hwords, ?_⟩
  rw [ink_map_unquote,
    Delimiters.ink_group Delimiters.isPair_parentheses (Delimiters.group_eq_ok_iff.mpr hready),
    Delimiters.ink_group Delimiters.isPair_braces (Delimiters.group_eq_ok_iff.mpr hbraced),
    sources_ofWords]

theorem length_ink_parse {e : Text} {tokens : List Token} (h : parse e = .ok tokens) :
    (ink (sources tokens)).length ≤ (ink e).length := by
  obtain ⟨words, hspaced, hink⟩ := ink_parse h
  have hwhole := List.takeWhile_append_dropWhile (p := fun w : Text => w.head? != some '#')
    (l := words)
  rw [hink, hspaced.ink_eq]
  conv_rhs => rw [← hwhole, List.flatten_append, Text.ink_append, List.length_append]
  exact Nat.le_add_right _ _

/-- **The body of a substitution has less ink** than the expression it was parsed from. -/
theorem ink_body_lt {e : Text} {tokens : List Token} (h : parse e = .ok tokens) {body : Text}
    (hbody : substitution body ∈ tokens) : (ink body).length < (ink e).length := by
  obtain ⟨before, after, rfl⟩ := List.append_of_mem hbody
  have hink := length_ink_parse h
  have hsource : ink (substitution body).source = '(' :: ink body ++ [')'] := by
    rw [source]
    simp only [substitution]
    rw [Text.ink_append, Text.ink_cons_of_isInk (by decide), Text.ink_cons_of_isInk (by decide),
      Text.ink_nil]
  rw [sources_append, sources_cons, Text.ink_append, Text.ink_append, hsource] at hink
  simp only [List.length_append, List.length_cons] at hink
  omega

end Conch.Token
