import Conch.Proofs.Expression

/-!
Parsing a printed tree gives the tree back.

Grouping braces leaves a substitution as its tokens, with raw groups among them; grouping
parentheses then writes these tokens one behind the other. So a raw group holds the printed
text of its body, and a substitution holds a text with other spaces, `Expression.spelling`.

* `Expression.parse_print`, `Expression.parse_spelling` — both texts have the tokens of the
  tree.
* `Expression.print_round_trip` — parsing, and parsing again what groups hold, gives back
  the whole tree.
-/

namespace Conch

open Text (Tight)
open Token (LexedWord IsLexed written writtenBehind glueFront glueBack)

/-! ### Grouping braces -/

theorem QuotedText.opens_eq_zero (s : QuotedText) (d : Token.Delimiters) :
    d.opens ('"' :: s.text ++ ['"']) = 0 :=
  (d.runs_of_quoted s.fullyQuoted).1

theorem Expression.advance_enclose_lexed (body : Expression) :
    Token.braces.advance none (Token.braces.enclose body.lexed) = ([.raw body.print], none) := by
  have htight : ∀ t ∈ body.lexed, t.IsTight := fun t ht => (body.isSolid_lexed t ht).2
  rw [Token.Delimiters.advance_enclose (by decide) (by decide) htight
    (body.depthAfter_lexed 1 Nat.one_pos), body.written_lexed.2]
  rfl

/-- **Grouping braces** makes raw groups of the printed texts and leaves parentheses glued to
words. -/
theorem Expression.advance_lexed (e : Expression) :
    Token.braces.advance none e.lexed = (e.braced, none) := by
  refine Expression.nested_induction
    (P := fun item => Token.braces.advance none item.lexed = (item.braced, none))
    (Q := fun e => Token.braces.advance none e.lexed = (e.braced, none))
    ?plain ?quoted ?raw ?substitution ?expression e
  case plain =>
    intro w
    have hstep := Token.Delimiters.step_of_opens_eq_zero (by decide)
      (w.opens_eq_zero Token.braces)
    simp [Item.lexed, Item.braced, Token.Delimiters.advance_cons, hstep]
  case quoted =>
    intro s
    have hstep := Token.Delimiters.step_of_opens_eq_zero (by decide)
      (s.opens_eq_zero Token.braces)
    rw [Item.lexed, Token.Delimiters.advance_cons, hstep]
    rfl
  case raw =>
    intro body _
    exact body.advance_enclose_lexed
  case substitution =>
    intro body ih
    have hfront : Token.braces.advance none (glueFront '(' body.lexed) =
        (glueFront '(' body.braced, none) := by
      rw [Token.Delimiters.advance_glueFront (by decide) (by decide) (by decide) (by decide), ih]
    have hback := Token.Delimiters.advance_glueBack (d := Token.braces) (c := ')') (by decide)
      (by decide) (by decide) (by decide) (by simp [Token.Delimiters.Waiting]) (.inr rfl)
      (congrArg Prod.snd hfront)
    rw [hfront] at hback
    exact hback
  case expression =>
    intro e ih
    rw [Expression.lexed_eq, Expression.braced_eq]
    exact e.advance_collect ih

/-! ### Tokens that are left when braces are grouped -/

/-- A token of a tree in which braces are grouped. -/
def Token.IsBraced (token : Token) : Prop :=
  token = Token.split ∨
    (∃ w, token = Token.word w ∧ LexedWord w ∧ Tight w ∧ Token.braces.opens w = 0) ∨
    ∃ body : Expression, token = Token.raw body.print

namespace Token

theorem isBraced_word {w : Text} :
    (word w).IsBraced ↔ LexedWord w ∧ Tight w ∧ braces.opens w = 0 := by
  constructor
  · rintro (h | ⟨v, h, hv⟩ | ⟨body, h⟩)
    · cases h
    · cases h
      exact hv
    · cases h
  · exact fun h => .inr (.inl ⟨w, rfl, h⟩)

theorem IsBraced.tight {token : Token} (h : token.IsBraced) : token.IsTight := by
  rcases h with rfl | ⟨w, rfl, -, htight, -⟩ | ⟨body, rfl⟩
  · exact isSolid_split.2
  · exact htight
  · have hbody : body.print = [] ∨ Tight body.print := by
      rw [← body.written_lexed.2]
      exact tight_written fun t ht => (body.isSolid_lexed t ht).2
    exact Tight.snoc (by decide) (.inr (Tight.cons (by decide) hbody))

/-- Every such token is what grouping braces makes of tokens that are written the same. -/
theorem IsBraced.exists_lexed {token : Token} (h : token.IsBraced) :
    ∃ tokens, tokens ≠ [] ∧ (∀ t ∈ tokens, t.IsLexed) ∧ written tokens = token.source ∧
      writtenBehind tokens = writtenBehind [token] ∧
      braces.advance none tokens = ([token], none) := by
  rcases h with rfl | ⟨w, rfl, hlexed, -, hopens⟩ | ⟨body, rfl⟩
  · exact ⟨[split], by simp, by simp [IsLexed], rfl, rfl, rfl⟩
  · have hstep := Delimiters.step_of_opens_eq_zero (by decide) hopens
    refine ⟨[word w], by simp, ?_, by simp [written, writtenBehind], rfl, ?_⟩
    · exact List.forall_mem_singleton.mpr (.inr ⟨w, rfl, hlexed⟩)
    · rw [Delimiters.advance_cons, hstep]
      rfl
  · have hphrase := isPhrase_enclose braces body.lexed
    have hsolid := isSolid_enclose (d := braces) (by decide) (by decide) body.isSolid_lexed
    obtain ⟨hends, hprint⟩ := body.written_lexed
    have hwritten : written (braces.enclose body.lexed) = (raw body.print).source := by
      rw [braces.written_enclose (fun t ht => .inl (hends.head t ht)) hends.last, hprint]
      rfl
    refine ⟨braces.enclose body.lexed, hphrase.nonempty, fun t ht => (hsolid t ht).1, hwritten, ?_,
      body.advance_enclose_lexed⟩
    rw [hphrase.writtenBehind_eq, hwritten]
    simp [writtenBehind, raw, isSplit]

theorem exists_lexed_of_braced {tokens : List Token} (h : ∀ t ∈ tokens, t.IsBraced) :
    ∃ lexed, (∀ t ∈ lexed, t.IsLexed) ∧ written lexed = written tokens ∧
      writtenBehind lexed = writtenBehind tokens ∧
      braces.advance none lexed = (tokens, none) := by
  induction tokens with
  | nil => exact ⟨[], by simp, rfl, rfl, rfl⟩
  | cons token rest ih =>
      obtain ⟨hfirst, hrest⟩ := List.forall_mem_cons.mp h
      obtain ⟨first, hnonempty, hlexed, hwritten, hbehind, hadvance⟩ := hfirst.exists_lexed
      obtain ⟨more, hlexed', -, hbehind', hadvance'⟩ := ih hrest
      refine ⟨first ++ more, ?_, ?_, ?_, ?_⟩
      · exact List.forall_mem_append.mpr ⟨hlexed, hlexed'⟩
      · rw [written_append hnonempty, hwritten, hbehind', written]
      · rw [writtenBehind_append, hbehind, hbehind', ← writtenBehind_cons]
      · rw [Delimiters.advance_append, hadvance, hadvance']
        rfl

theorem isBraced_enclose {tokens : List Token} (h : ∀ t ∈ tokens, t.IsBraced) :
    ∀ t ∈ parentheses.enclose tokens, t.IsBraced := by
  have hfirst : IsInert '(' := isInert_of_isOpener (by decide)
  have hlast : IsInert ')' := isInert_of_isCloser (by decide)
  have hopens : ∀ w, braces.opens ('(' :: w) = braces.opens w := fun w => by
    rw [braces.opens_cons_opener (by decide), if_neg (by decide), Nat.add_zero]
  refine forall_mem_glueBack ?_ ?_ (forall_mem_glueFront ?_ ?_ h)
  · exact isBraced_word.mpr ⟨hlast.lexedWord, Tight.cons (by decide) (.inl rfl), by decide⟩
  · intro w hw
    obtain ⟨hlexed, htight, hnone⟩ := isBraced_word.mp hw
    exact isBraced_word.mpr ⟨hlast.lexedWord_snoc hlexed, Tight.snoc (by decide) (.inr htight),
      (braces.opens_snoc_closer (by decide) w).trans hnone⟩
  · exact isBraced_word.mpr ⟨hfirst.lexedWord, Tight.cons (by decide) (.inl rfl), by decide⟩
  · intro w hw
    obtain ⟨hlexed, htight, hnone⟩ := isBraced_word.mp hw
    exact isBraced_word.mpr ⟨hfirst.lexedWord_cons hlexed, Tight.cons (by decide) (.inr htight),
      (hopens w).trans hnone⟩

end Token

theorem Expression.isBraced_braced (e : Expression) : ∀ t ∈ e.braced, t.IsBraced := by
  refine Expression.nested_induction (P := fun item => ∀ t ∈ item.braced, t.IsBraced)
    (Q := fun e => ∀ t ∈ e.braced, t.IsBraced) ?plain ?quoted ?raw ?substitution ?expression e
  case plain =>
    intro w
    exact List.forall_mem_singleton.mpr
      (Token.isBraced_word.mpr ⟨w.lexedWord, w.tight, w.opens_eq_zero _⟩)
  case quoted =>
    intro s
    exact List.forall_mem_singleton.mpr
      (Token.isBraced_word.mpr ⟨s.lexedWord, s.tight, s.opens_eq_zero _⟩)
  case raw =>
    intro body _
    exact List.forall_mem_singleton.mpr (.inr (.inr ⟨body, rfl⟩))
  case substitution =>
    intro body ih
    exact Token.isBraced_enclose ih
  case expression =>
    intro e ih
    rw [Expression.braced_eq]
    exact e.forall_mem_collect (.inl rfl) ih

/-! ### Grouping parentheses -/

theorem Expression.depthAfter_braced (e : Expression) :
    ∀ depth, 0 < depth → Token.parentheses.depthAfter depth e.braced = some depth := by
  refine Expression.nested_induction
    (P := fun item =>
      ∀ depth, 0 < depth → Token.parentheses.depthAfter depth item.braced = some depth)
    (Q := fun e => ∀ depth, 0 < depth → Token.parentheses.depthAfter depth e.braced = some depth)
    ?plain ?quoted ?raw ?substitution ?expression e
  case plain =>
    intro w depth hdepth
    simp [Item.braced, Token.Delimiters.depthAfter_word, w.opens_eq_zero, w.closes_eq_zero, hdepth]
  case quoted =>
    intro s depth hdepth
    obtain ⟨hopens, hcloses⟩ := Token.parentheses.runs_of_quoted s.fullyQuoted
    rw [Item.braced, Token.Delimiters.depthAfter_word, hopens, hcloses, if_pos (by omega)]
    rfl
  case raw =>
    intro body _ depth _
    exact Token.Delimiters.depthAfter_other _ depth (by simp [Token.raw]) []
  case substitution =>
    intro body ih depth hdepth
    exact Token.Delimiters.depthAfter_enclose (by decide) (by decide) hdepth
      (ih (depth + 1) (by omega))
  case expression =>
    intro e ih depth hdepth
    rw [Expression.braced_eq]
    exact e.depthAfter_collect fun s hs i hi => ih s hs i hi depth hdepth

theorem Item.advance_braced (item : Item) :
    Token.parentheses.advance none item.braced = ([item.grouped], none) := by
  cases item with
  | plain w =>
      have hstep : Token.parentheses.step none (.word w.text) = ([.word w.text], none) := by
        show Token.parentheses.stepOutside _ = _
        rw [Token.parentheses.stepOutside_unquoted w.notFullyQuoted, Token.Delimiters.stepWord,
          w.opens_eq_zero, if_pos rfl]
      simp [Item.braced, Item.grouped, Token.Delimiters.advance_cons, hstep]
  | quoted s =>
      -- Quotes do not hide parentheses, but the text does not begin with one.
      have hopens : Token.parentheses.opens s.text = 0 := Token.parentheses.opens_eq_zero s.head
      have hstep : Token.parentheses.step none (.word ('"' :: s.text ++ ['"'])) =
          ([.word ('"' :: s.text ++ ['"'])], none) := by
        show Token.parentheses.stepOutside _ = _
        rw [Token.Delimiters.stepOutside, if_neg (by simp [Token.word]),
          if_neg (by simp only [Token.isQuoted, Token.word, s.fullyQuoted]; decide),
          if_pos (by decide)]
        simp only [Token.word, s.stripQuotes_eq, Token.Delimiters.stepWord, hopens, if_true]
      rw [Item.braced, Token.Delimiters.advance_cons, hstep]
      rfl
  | raw body => rfl
  | substitution body =>
      have htight : ∀ t ∈ body.braced, t.IsTight := fun t ht => (body.isBraced_braced t ht).tight
      exact Token.Delimiters.advance_enclose (by decide) (by decide) htight
        (body.depthAfter_braced 1 Nat.one_pos)

theorem Item.unquote_grouped (item : Item) : item.grouped.unquote = item.token := by
  cases item with
  | plain w => simp [Item.grouped, Item.token, Token.unquote, Token.isQuoted, Token.word,
      w.notFullyQuoted]
  | quoted s =>
      have hquoted : (Token.word ('"' :: s.text ++ ['"'])).isQuoted = true := by
        simp only [Token.isQuoted, Token.word, s.fullyQuoted]
        decide
      rw [Item.grouped, Token.unquote, if_pos hquoted]
      exact congrArg Token.word s.stripQuotes_eq
  | raw body => rfl
  | substitution body => rfl

theorem Expression.map_collect (g : Token → Token) (hmark : g Token.split = Token.split)
    (f : Item → Token) :
    ∀ e : Expression, (e.collect fun i => [f i]).map g = e.collect fun i => [g (f i)]
  | .empty => rfl
  | .cons first .empty => by simp [Expression.collect, List.map_flatMap]
  | .cons first (.cons next rest) => by
      have hmore := Expression.map_collect g hmark f (.cons next rest)
      simp [Expression.collect, List.map_flatMap, hmark, hmore]

theorem Expression.tokens_of_advance (e : Expression) {s : Text} {lexed : List Token}
    (hlex : Token.lex s = .ok lexed)
    (hbraces : Token.braces.advance none lexed = (e.braced, none)) :
    Token.parse s = .ok e.tokens := by
  have hparentheses : Token.parentheses.advance none e.braced =
      (e.collect fun i => [i.grouped], none) := by
    rw [Expression.braced_eq]
    exact e.advance_collect fun s _ i _ => i.advance_braced
  rw [Token.parse_eq_grouped hlex, Token.grouped, Token.Delimiters.group_eq_ok_iff.mpr hbraces]
  show (Token.parentheses.group e.braced >>= _) = _
  rw [Token.Delimiters.group_eq_ok_iff.mpr hparentheses]
  show Except.ok _ = _
  rw [e.map_collect Token.unquote rfl Item.grouped, Expression.tokens]
  simp only [Item.unquote_grouped]

/-- **The tokens of a printed tree**: one for each item, and a mark between statements. -/
theorem Expression.parse_print (e : Expression) : Token.parse e.print = .ok e.tokens :=
  e.tokens_of_advance e.lex_print e.advance_lexed

/-- **The text in a substitution** is not the printed tree, but has the same tokens. -/
theorem Expression.parse_spelling (e : Expression) : Token.parse e.spelling = .ok e.tokens := by
  obtain ⟨lexed, hlexed, hwritten, -, hadvance⟩ := Token.exists_lexed_of_braced e.isBraced_braced
  refine e.tokens_of_advance ?_ hadvance
  rw [Expression.spelling, ← hwritten]
  exact Token.lex_written hlexed

/-! ### Reading a tree back -/

/-- An item as parsing shows it: whether a word was quoted is lost. -/
inductive Reading where
  | word (s : Text)
  | raw (body : List (List Reading))
  | substitution (body : List (List Reading))

/-- Reads a token, and what it holds with `read`. -/
def Token.reading (read : Text → Option (List (List Reading))) (token : Token) : Option Reading :=
  match token.kind with
  | .word => some (.word token.value)
  | .raw => (read token.value).map .raw
  | .substitution => (read token.value).map .substitution
  | .literal | .split => none

/-- Parses a text, and again what its groups hold, `depth` times in all. -/
def readBack : Nat → Text → Option (List (List Reading))
  | 0, _ => none
  | depth + 1, s =>
    match Token.parse s with
    | .error _ => none
    | .ok tokens => (Token.statements tokens).mapM (·.mapM (Token.reading (readBack depth)))

mutual

/-- What is to be read of an item. -/
def Item.reading : Item → Reading
  | .plain w => .word w.text
  | .quoted s => .word s.text
  | .raw body => .raw body.readings
  | .substitution body => .substitution body.readings

/-- What is to be read of a statement. -/
def Statement.readings : Statement → List Reading
  | .single item => [item.reading]
  | .cons first rest => first.reading :: rest.readings

/-- What is to be read of an expression. -/
def Expression.readings : Expression → List (List Reading)
  | .empty => []
  | .cons first rest => first.readings :: rest.readings

end

mutual

/-- How often the text that an item holds has to be parsed. -/
def Item.depth : Item → Nat
  | .plain _ | .quoted _ => 0
  | .raw body | .substitution body => body.depth

/-- The greatest depth of an item. -/
def Statement.depth : Statement → Nat
  | .single item => item.depth
  | .cons first rest => max first.depth rest.depth

/-- How often an expression has to be parsed: once more than its items. -/
def Expression.depth : Expression → Nat
  | .empty => 1
  | .cons first rest => max (first.depth + 1) rest.depth

end

theorem Statement.readings_eq (s : Statement) : s.readings = s.items.map Item.reading := by
  cases s with
  | single item => rfl
  | cons first rest =>
      rw [Statement.readings, Statement.readings_eq rest, Statement.items, List.map_cons]

theorem Expression.readings_eq (e : Expression) :
    e.readings = e.statements.map fun s => s.items.map Item.reading := by
  cases e with
  | empty => rfl
  | cons first rest =>
      rw [Expression.readings, Expression.readings_eq rest, first.readings_eq,
        Expression.statements, List.map_cons]

theorem Statement.depth_item (s : Statement) : ∀ i ∈ s.items, i.depth ≤ s.depth := by
  cases s with
  | single item => simp [Statement.items, Statement.depth]
  | cons first rest =>
      refine List.forall_mem_cons.mpr ⟨le_max_left _ _, fun i hi => ?_⟩
      exact (rest.depth_item i hi).trans (le_max_right _ _)

theorem Expression.depth_item (e : Expression) :
    ∀ s ∈ e.statements, ∀ i ∈ s.items, i.depth < e.depth := by
  cases e with
  | empty => simp [Expression.statements]
  | cons first rest =>
      refine List.forall_mem_cons.mpr ⟨fun i hi => ?_, fun s hs i hi => ?_⟩
      · exact lt_of_lt_of_le (Nat.lt_succ_of_le (first.depth_item i hi)) (le_max_left _ _)
      · exact lt_of_lt_of_le (rest.depth_item s hs i hi) (le_max_right _ _)

theorem Expression.depth_pos (e : Expression) : 0 < e.depth := by
  cases e with
  | empty => exact Nat.one_pos
  | cons first rest => exact lt_of_lt_of_le (Nat.succ_pos _) (le_max_left _ _)

theorem Item.isSplit_token (item : Item) : item.token.isSplit = false := by
  cases item <;> rfl

theorem Statement.items_ne_nil (s : Statement) : s.items ≠ [] := by
  cases s <;> simp [Statement.items]

theorem Statement.statements_tokens (s : Statement) :
    Token.statements (s.items.flatMap fun i => [i.token]) = [s.items.map Item.token] := by
  have hnone : ∀ t ∈ s.items.map Item.token, t.isSplit = false := by simp [Item.isSplit_token]
  rw [← List.map_eq_flatMap, Token.statements, List.splitOnP_eq_singleton hnone]
  simp [s.items_ne_nil]

/-- The tokens of a tree fall into its statements. -/
theorem Expression.statements_tokens :
    ∀ e : Expression,
      Token.statements e.tokens = e.statements.map fun s => s.items.map Item.token
  | .empty => rfl
  | .cons first .empty => first.statements_tokens
  | .cons first (.cons next rest) => by
      have hmore := Expression.statements_tokens (.cons next rest)
      have htokens : (Expression.cons first (.cons next rest)).tokens =
          (first.items.flatMap fun i => [i.token]) ++ [Token.split] ++
            (Expression.cons next rest).tokens := by
        simp [Expression.tokens, Expression.collect]
      rw [htokens, Eval.tokenStatements_append_mark, first.statements_tokens, hmore]
      rfl

theorem mapM_map_eq_some {α β γ : Type} {f : α → β} {g : β → Option γ} {h : α → γ} {xs : List α}
    (hall : ∀ x ∈ xs, g (f x) = some (h x)) : (xs.map f).mapM g = some (xs.map h) := by
  induction xs with
  | nil => rfl
  | cons x xs ih =>
      obtain ⟨hfirst, hrest⟩ := List.forall_mem_cons.mp hall
      simp [List.mapM_cons, hfirst, ih hrest]

theorem Expression.readBack_of_parse {e : Expression} {s : Text} {depth : Nat}
    (hparse : Token.parse s = .ok e.tokens)
    (hitems : ∀ t ∈ e.statements, ∀ i ∈ t.items,
      Token.reading (readBack depth) i.token = some i.reading) :
    readBack (depth + 1) s = some e.readings := by
  rw [readBack, hparse]
  show (Token.statements e.tokens).mapM _ = _
  rw [e.statements_tokens, e.readings_eq]
  exact mapM_map_eq_some fun t ht => mapM_map_eq_some (hitems t ht)

/-- Both texts that stand for a tree are read as the tree. -/
theorem Expression.readBack_eq (e : Expression) :
    ∀ depth, e.depth ≤ depth →
      readBack depth e.print = some e.readings ∧ readBack depth e.spelling = some e.readings := by
  refine Expression.nested_induction
    (P := fun item => ∀ depth, item.depth ≤ depth →
      Token.reading (readBack depth) item.token = some item.reading)
    (Q := fun e => ∀ depth, e.depth ≤ depth →
      readBack depth e.print = some e.readings ∧ readBack depth e.spelling = some e.readings)
    ?plain ?quoted ?raw ?substitution ?expression e
  case plain =>
    intro w depth _
    rfl
  case quoted =>
    intro s depth _
    rfl
  case raw =>
    intro body ih depth hdepth
    simp [Token.reading, Item.token, Item.reading, Token.raw, (ih depth hdepth).1]
  case substitution =>
    intro body ih depth hdepth
    simp [Token.reading, Item.token, Item.reading, Token.substitution, (ih depth hdepth).2]
  case expression =>
    intro e ih depth hdepth
    cases depth with
    | zero => exact absurd hdepth (Nat.not_le_of_lt e.depth_pos)
    | succ depth =>
        have hitems : ∀ t ∈ e.statements, ∀ i ∈ t.items,
            Token.reading (readBack depth) i.token = some i.reading := fun t ht i hi =>
          ih t ht i hi depth (Nat.le_of_lt_succ ((e.depth_item t ht i hi).trans_le hdepth))
        exact ⟨Expression.readBack_of_parse e.parse_print hitems,
          Expression.readBack_of_parse e.parse_spelling hitems⟩

/-- **A printed tree is parsed into its items, and the whole tree can be read back.** The
token of a raw group holds the printed text of its body; that of a substitution holds a text
with other spaces that has the tokens of the body too. Parsing again what the groups hold,
as deep as they are nested, gives every item of the tree. -/
theorem Expression.print_round_trip (e : Expression) :
    Token.parse e.print = .ok e.tokens ∧ Token.parse e.spelling = .ok e.tokens ∧
      ∀ depth, e.depth ≤ depth → readBack depth e.print = some e.readings :=
  ⟨e.parse_print, e.parse_spelling, fun depth hdepth => (e.readBack_eq depth hdepth).1⟩

end Conch
