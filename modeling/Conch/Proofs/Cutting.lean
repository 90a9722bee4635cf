import Conch.Proofs.Enclosing

/-!
Cutting words behind closers. A pass counts the closers of a word from its end, and cuts the run of
them from its front. The two agree (`IsCut`), wherever as many closers are needed as there are.

That grouping never asks for more is said by a twin of it (`groupBy`) that takes the cutting of
words and the lowering of depths from outside (`Means`). With the functions of the pass itself the
twin is grouping (`groupBy_plain`); with functions that have no answer where too many closers are
asked for it has the same results (`groupBy_guarded`).

* `splitAfterCloses_eq_iff`: what is cut is told by the two parts.
* `stepBy_guarded`: one step never asks for too much while the open group waits for a closer.
* `closer_cuts_exact`: so all cuts that grouping makes are of this kind.
-/

namespace Conch.Token

/-! ### The two parts of a word -/

namespace Delimiters

variable {d : Delimiters} {needed : Nat} {s head tail : Text}

/-- A word cut behind a closer: the part up to it closes as much as is needed, and the part behind
it, closers only, closes the rest. -/
structure IsCut (d : Delimiters) (needed : Nat) (s head tail : Text) : Prop where
  whole : head ++ tail = s
  last : head.getLast? = some d.closer
  closers : ∀ c ∈ tail, isCloser c = true
  head_closes : d.closes head = needed
  tail_closes : needed + d.closes tail = d.closes s

theorem isCloser_of_closes_pos (h : 0 < d.closes s) : isCloser d.closer = true :=
  List.mem_takeWhile_imp (List.count_pos_iff.mp h)

theorem closes_append_closers (d : Delimiters) (s : Text) (h : ∀ c ∈ tail, isCloser c = true) :
    d.closes (s ++ tail) = d.closes s + tail.count d.closer := by
  induction tail using List.reverseRecOn with
  | nil => simp
  | append_singleton front c ih =>
      have hfront : ∀ c ∈ front, isCloser c = true := fun c hc => h c (by simp [hc])
      rw [← List.append_assoc, d.closes_snoc_closer (h c (by simp)), ih hfront, List.count_append,
        List.count_singleton, Nat.add_assoc]
      simp only [beq_iff_eq]

theorem closes_of_closers (d : Delimiters) (h : ∀ c ∈ tail, isCloser c = true) :
    d.closes tail = tail.count d.closer := by
  have hnil : d.closes [] = 0 := rfl
  have hclosers := d.closes_append_closers [] h
  rwa [hnil, List.nil_append, Nat.zero_add] at hclosers

/-- Of two cuts at the same count, none lies behind the other. -/
theorem IsCut.append_eq_nil {more : Text} (h : d.IsCut needed s head (more ++ tail))
    (hmore : d.IsCut needed s (head ++ more) tail) : more = [] := by
  by_contra hnonempty
  have hclosers : ∀ c ∈ more, isCloser c = true := fun c hc => h.closers c (by simp [hc])
  -- the part between the two cuts ends with a closer that would count
  have hlast : more.getLast? = some d.closer := by
    have hwhole := hmore.last
    rwa [List.getLast?_append_of_ne_nil _ hnonempty] at hwhole
  have hcount : 0 < more.count d.closer := List.count_pos_iff.mpr (List.mem_of_getLast? hlast)
  have hcloses := d.closes_append_closers head hclosers
  rw [h.head_closes, hmore.head_closes] at hcloses
  omega

theorem IsCut.unique {head' tail' : Text} (h : d.IsCut needed s head tail)
    (h' : d.IsCut needed s head' tail') : (head, tail) = (head', tail') := by
  rcases List.append_eq_append_iff.mp (h.whole.trans h'.whole.symm) with
    ⟨more, rfl, rfl⟩ | ⟨more, rfl, rfl⟩
  · rw [h.append_eq_nil h', List.append_nil, List.nil_append]
  · rw [h'.append_eq_nil h, List.append_nil, List.nil_append]

theorem isCut_splitAfterCloses (hpositive : 1 ≤ needed) (h : needed ≤ d.closes s) :
    d.IsCut needed s (splitAfterCloses d.closer needed s).1
      (splitAfterCloses d.closer needed s).2 := by
  have hcloser : isCloser d.closer = true := isCloser_of_closes_pos (Nat.lt_of_lt_of_le hpositive h)
  obtain ⟨inner, tail, hsplit, hwhole, hclosers, hcount, -⟩ :=
    d.splitAfterCloses_spec hcloser hpositive h
  have happend : inner ++ [d.closer] ++ tail = s := by
    rw [hwhole, List.append_assoc, List.singleton_append]
  have hhead : d.closes (inner ++ [d.closer]) = needed := by
    rw [d.closes_snoc_closer hcloser, if_pos rfl, hcount]
  rw [hsplit]
  refine ⟨happend, List.getLast?_concat, hclosers, hhead, ?_⟩
  rw [← happend, d.closes_append_closers _ hclosers, hhead, d.closes_of_closers hclosers]

/-- **What is cut is told by the two parts.** -/
theorem splitAfterCloses_eq_iff (hpositive : 1 ≤ needed) (h : needed ≤ d.closes s) :
    splitAfterCloses d.closer needed s = (head, tail) ↔ d.IsCut needed s head tail := by
  have hcut := isCut_splitAfterCloses hpositive h
  constructor
  · intro hsplit
    rwa [hsplit] at hcut
  · intro hgiven
    exact hcut.unique hgiven

end Delimiters

/-! ### Grouping by given means -/

/-- How words are cut and depths are lowered. -/
structure Means (m : Type → Type) where
  /-- Cuts a word behind a number of closers. -/
  cut : Delimiters → Nat → Text → m (Text × Text)
  /-- Takes a number of closers from a depth. -/
  lower : Nat → Nat → m Nat

/-- The functions of a pass, which always have an answer: a word with too few closers is not cut,
and no depth is less than 0. -/
def Means.plain : Means Id where
  cut d needed s := splitAfterCloses d.closer needed s
  lower depth closes := depth - closes

/-- Functions that have an answer only where it means something: a word is cut behind the first or a
later closer of those that it ends with, and at most the whole depth is taken away. -/
def Means.guarded : Means Option where
  cut d needed s :=
    if 1 ≤ needed ∧ needed ≤ d.closes s then
      let run := Text.takeEndWhile isCloser s
      (cutAfter d.closer needed run).map fun (head, tail) =>
        (s.take (s.length - run.length) ++ head, tail)
    else none
  lower depth closes := if closes ≤ depth then some (depth - closes) else none

namespace Delimiters

section

variable {m : Type → Type} [Monad m] (means : Means m)

/-- Reads a token inside a group, as `stepInside` does. -/
def stepInsideBy (d : Delimiters) (group : Group) (token : Token) :
    m (List Token × Option Group) :=
  if token.kind ≠ .word ∨ token.isQuoted then pure ([], some (group.pushToken token))
  else
    let depth := group.depth + d.opens token.value
    let closes := d.closes token.value
    if closes < depth then do
      let left ← means.lower depth closes
      pure ([], some { group.push token.value with depth := left })
    else do
      let (head, tail) ← means.cut d depth token.value
      pure (d.finish group head tail, none)

/-- Reads a word that may open a group, as `stepWord` does. -/
def stepWordBy (d : Delimiters) (token : Token) (s : Text) : m (List Token × Option Group) :=
  let opens := d.opens s
  if opens = 0 then pure ([token], none)
  else
    let before := s.takeWhile (· != d.opener)
    let body := s.dropWhile (· != d.opener)
    let front := if before.isEmpty then [] else [word before]
    let closes := d.closes s
    if opens ≤ closes then do
      let (head, tail) ← means.cut d opens body
      pure (front ++ d.finish ⟨[], opens⟩ head tail, none)
    else do
      let left ← means.lower opens closes
      pure (front, some (Group.push ⟨[], left⟩ body))

/-- Reads a token outside all groups, as `stepOutside` does. -/
def stepOutsideBy (d : Delimiters) (token : Token) : m (List Token × Option Group) :=
  if token.kind ≠ .word then pure ([token], none)
  else if !token.isQuoted then d.stepWordBy means token token.value
  else if d.kind = .substitution then d.stepWordBy means token (stripQuotes token.value)
  else pure ([token], none)

/-- Reads a token, as `step` does. -/
def stepBy (d : Delimiters) : Option Group → Token → m (List Token × Option Group)
  | some group, token => d.stepInsideBy means group token
  | none, token => d.stepOutsideBy means token

/-- Groups the tokens that follow an open group, as `groupFrom` does. -/
def groupFromBy (d : Delimiters) :
    Option Group → List Token → m (Except ParseError (List Token))
  | none, [] => pure (.ok [])
  | some _, [] => pure (.error (.unterminated d.opener d.closer))
  | pending, token :: rest => do
    let (complete, pending) ← d.stepBy means pending token
    let grouped ← d.groupFromBy pending rest
    pure (grouped.map (complete ++ ·))

/-- Grouping by given means. -/
def groupBy (d : Delimiters) (tokens : List Token) : m (Except ParseError (List Token)) :=
  d.groupFromBy means none tokens

end

/-! ### The means of the pass itself -/

theorem stepWordBy_plain (d : Delimiters) (token : Token) (s : Text) :
    (d.stepWordBy .plain token s).run = d.stepWord token s := by
  unfold stepWordBy stepWord
  dsimp only
  split_ifs <;> rfl

theorem stepBy_plain (d : Delimiters) (pending : Option Group) (token : Token) :
    (d.stepBy .plain pending token).run = d.step pending token := by
  cases pending with
  | none =>
      show (d.stepOutsideBy .plain token).run = d.stepOutside token
      unfold stepOutsideBy stepOutside
      split_ifs
      · rfl
      · exact d.stepWordBy_plain token _
      · exact d.stepWordBy_plain token _
      · rfl
  | some group =>
      show (d.stepInsideBy .plain group token).run = d.stepInside group token
      unfold stepInsideBy stepInside
      dsimp only
      split_ifs <;> rfl

theorem groupFromBy_plain (d : Delimiters) (pending : Option Group) (tokens : List Token) :
    (d.groupFromBy .plain pending tokens).run = d.groupFrom pending tokens := by
  induction tokens generalizing pending with
  | nil => cases pending <;> rfl
  | cons token rest ih =>
      have hstep : (d.groupFromBy .plain pending (token :: rest)).run =
          (d.groupFromBy .plain (d.stepBy .plain pending token).run.2 rest).run.map
            ((d.stepBy .plain pending token).run.1 ++ ·) := by
        cases pending <;> rfl
      rw [hstep, ih, stepBy_plain]
      cases pending <;> rfl

theorem groupBy_plain (d : Delimiters) (tokens : List Token) :
    (d.groupBy .plain tokens).run = d.group tokens :=
  d.groupFromBy_plain none tokens

/-! ### Guarded means -/

theorem guarded_cut {d : Delimiters} {needed : Nat} {s : Text} (hpositive : 1 ≤ needed)
    (h : needed ≤ d.closes s) :
    Means.guarded.cut d needed s = some (splitAfterCloses d.closer needed s) := by
  have hcount : needed ≤ (Text.takeEndWhile isCloser s).count d.closer := d.closes_eq_count s ▸ h
  obtain ⟨head, tail, hcut⟩ := exists_cutAfter hpositive hcount
  simp only [Means.guarded, if_pos (And.intro hpositive h), splitAfterCloses, hcut, Option.map_some]

theorem guarded_lower {depth closes : Nat} (h : closes ≤ depth) :
    Means.guarded.lower depth closes = some (depth - closes) :=
  if_pos h

theorem stepInsideBy_guarded (d : Delimiters) {group : Group} (hdepth : 0 < group.depth)
    (token : Token) :
    d.stepInsideBy .guarded group token = some (d.stepInside group token) := by
  unfold stepInsideBy stepInside
  dsimp only
  split_ifs with hkept hopen
  · rfl
  · rw [guarded_lower (Nat.le_of_lt hopen)]
    rfl
  · rw [guarded_cut (by omega) (by omega)]
    rfl

/-- The closers of a word are counted before openers in front of it are cut off, which changes
nothing. -/
theorem stepWordBy_guarded (d : Delimiters) (token : Token) (s : Text) :
    d.stepWordBy .guarded token s = some (d.stepWord token s) := by
  unfold stepWordBy stepWord
  dsimp only
  by_cases hnone : d.opens s = 0
  · rw [if_pos hnone, if_pos hnone]
    rfl
  rw [if_neg hnone, if_neg hnone]
  by_cases hclosed : d.opens s ≤ d.closes s
  · have hpositive : 0 < d.opens s := Nat.pos_of_ne_zero hnone
    obtain ⟨hopener, before, rest, hs, hbefore⟩ := exists_opener hpositive
    have hbody : s.dropWhile (· != d.opener) = d.opener :: rest := by
      rw [hs]
      exact (cut_at_opener (fun c hc => (hbefore c hc).2) rest).2
    have hcloses : d.closes (s.dropWhile (· != d.opener)) = d.closes s := by
      rw [hbody, hs, d.closes_append_opener hopener]
    rw [if_pos hclosed, if_pos hclosed, guarded_cut hpositive (hcloses ▸ hclosed)]
    rfl
  · rw [if_neg hclosed, if_neg hclosed, guarded_lower (Nat.le_of_not_le hclosed)]
    rfl

/-- **One step never asks for too much** while the open group waits for a closer. -/
theorem stepBy_guarded (d : Delimiters) {pending : Option Group} (h : Waiting pending)
    (token : Token) : d.stepBy .guarded pending token = some (d.step pending token) := by
  cases pending with
  | none =>
      show d.stepOutsideBy .guarded token = some (d.stepOutside token)
      unfold stepOutsideBy stepOutside
      split_ifs
      · rfl
      · exact d.stepWordBy_guarded token _
      · exact d.stepWordBy_guarded token _
      · rfl
  | some group => exact d.stepInsideBy_guarded (h group rfl) token

theorem groupFromBy_guarded (d : Delimiters) {pending : Option Group} (h : Waiting pending)
    (tokens : List Token) :
    d.groupFromBy .guarded pending tokens = some (d.groupFrom pending tokens) := by
  induction tokens generalizing pending with
  | nil => cases pending <;> rfl
  | cons token rest ih =>
      have hstep : d.groupFromBy .guarded pending (token :: rest) =
          (d.stepBy .guarded pending token).bind fun step =>
            (d.groupFromBy .guarded step.2 rest).bind fun grouped =>
              some (grouped.map (step.1 ++ ·)) := by
        cases pending <;> rfl
      rw [hstep, d.stepBy_guarded h, Option.bind_some, ih (waiting_step h token)]
      cases pending <;> rfl

theorem groupBy_guarded (d : Delimiters) (tokens : List Token) :
    d.groupBy .guarded tokens = some (d.group tokens) :=
  d.groupFromBy_guarded (fun _ hnone => absurd hnone (Option.not_mem_none _)) tokens

/-- **Words are cut exactly.** Where a word ends with as many closers as are needed, it is cut into
the two parts of which the first ends with a closer and closes as much as is needed, and the second,
of closers only, closes the rest; there is one such cut. Grouping asks for a cut only where this is
so, and never takes more closers from a depth than there are: with means that have no answer
elsewhere, it has the same result for all tokens and all delimiters. -/
theorem closer_cuts_exact :
    (∀ (d : Delimiters) (needed : Nat) (s : Text), 1 ≤ needed → needed ≤ d.closes s →
      ∀ head tail,
        splitAfterCloses d.closer needed s = (head, tail) ↔ d.IsCut needed s head tail) ∧
    ∀ (d : Delimiters) (tokens : List Token),
      (d.groupBy .plain tokens).run = d.group tokens ∧
      d.groupBy .guarded tokens = some (d.group tokens) := by
  refine ⟨?_, ?_⟩
  · intro d needed s hpositive h head tail
    exact splitAfterCloses_eq_iff hpositive h
  · intro d tokens
    exact ⟨d.groupBy_plain tokens, d.groupBy_guarded tokens⟩

/-- A cut behind the second of three braces with parentheses in between; and a group behind a brace,
of which a word with mixed closers closes both parentheses and leaves one closer over. -/
theorem closer_cuts_exact_mixed :
    (1 ≤ 2 ∧ 2 ≤ braces.closes "a\x7db)\x7d)\x7d)\x7d)" ∧
      braces.IsCut 2 "a\x7db)\x7d)\x7d)\x7d)" "a\x7db)\x7d)\x7d" ")\x7d)") ∧
    parentheses.groupBy .guarded [word "\x7b((a", word "b)\x7d))"] =
      some (.ok [word "\x7b", substitution "(a b)\x7d", word ")"]) := by
  have hneeded : 2 ≤ braces.closes "a\x7db)\x7d)\x7d)\x7d)" := by decide
  have hsplit : splitAfterCloses braces.closer 2 "a\x7db)\x7d)\x7d)\x7d)" =
      (("a\x7db)\x7d)\x7d" : Text), (")\x7d)" : Text)) := by decide
  have hgroup : parentheses.group [word "\x7b((a", word "b)\x7d))"] =
      .ok [word "\x7b", substitution "(a b)\x7d", word ")"] := by decide
  refine ⟨⟨by decide, hneeded, ?_⟩, ?_⟩
  · exact (closer_cuts_exact.1 braces 2 _ (by decide) hneeded _ _).mp hsplit
  · rw [← hgroup]
    exact (closer_cuts_exact.2 parentheses _).2

end Delimiters

end Conch.Token
