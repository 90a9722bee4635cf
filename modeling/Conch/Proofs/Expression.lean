import Conch.Proofs.Enclosing
import Conch.Proofs.Sequencing

/-!
Expressions as trees, how a tree is printed, and what the lexer makes of the printed text.

A tree is a list of statements; a statement is a list of items, at least one; an item is a
plain word, a quoted text, a raw group or a substitution, and the last two hold a tree.

* `Expression.nested_induction` — induction over trees.
* `Expression.depthAfter_lexed` — a tree does not close a group that it stands in.
* `Expression.lex_print` — the tokens of a printed tree, before anything is grouped.
-/

namespace Conch

open Text (Tight)
open Token (LexedWord IsLexed written writtenBehind glueFront glueBack)

/-! ### Trees -/

/-- A word that stands for itself wherever it is written. -/
structure PlainWord where
  text : Text
  nonempty : text ≠ []
  notBlank : ∀ c ∈ text, Text.isBlank c = false
  notQuote : '"' ∉ text
  head : ∀ c ∈ text.head?, c ≠ '#' ∧ Token.isOpener c = false
  last : ∀ c ∈ text.getLast?, c ≠ ';' ∧ Token.isCloser c = false

/-- A text that may stand in double quotes. -/
structure QuotedText where
  text : Text
  notQuote : '"' ∉ text
  notEscape : '\\' ∉ text
  head : ∀ c ∈ text.head?, Token.isOpener c = false

mutual

/-- One argument of a statement. -/
inductive Item where
  | plain (w : PlainWord)
  | quoted (s : QuotedText)
  | raw (body : Expression)
  | substitution (body : Expression)

/-- The items of a statement, which has at least one. -/
inductive Statement where
  | single (item : Item)
  | cons (first : Item) (rest : Statement)

/-- Statements in order. -/
inductive Expression where
  | empty
  | cons (first : Statement) (rest : Expression)

end

mutual

/-- An item as it is printed. -/
def Item.print : Item → Text
  | .plain w => w.text
  | .quoted s => '"' :: s.text ++ ['"']
  | .raw body => '{' :: body.print ++ ['}']
  | .substitution body => '(' :: body.print ++ [')']

/-- Items with one space between them. -/
def Statement.print : Statement → Text
  | .single item => item.print
  | .cons first rest => first.print ++ " " ++ rest.print

/-- Statements with a semicolon and a space between them. -/
def Expression.print : Expression → Text
  | .empty => []
  | .cons first .empty => first.print
  | .cons first (.cons next rest) =>
    first.print ++ "; " ++ (Expression.cons next rest).print

end

/-- The items of a statement in order. -/
def Statement.items : Statement → List Item
  | .single item => [item]
  | .cons first rest => first :: rest.items

/-- The statements of an expression in order. -/
def Expression.statements : Expression → List Statement
  | .empty => []
  | .cons first rest => first :: rest.statements

section Induction

-- The variables are used through the other theorems of the mutual block.
set_option linter.unusedSectionVars false

variable {P : Item → Prop} {Q : Expression → Prop}
  (plain : ∀ w, P (.plain w)) (quoted : ∀ s, P (.quoted s))
  (raw : ∀ body, Q body → P (.raw body))
  (substitution : ∀ body, Q body → P (.substitution body))
  (expression : ∀ e : Expression,
    (∀ s ∈ e.statements, ∀ i ∈ s.items, P i) → Q e)

include plain quoted raw substitution expression

mutual

theorem Item.nested_induction : ∀ item, P item
  | .plain w => plain w
  | .quoted s => quoted s
  | .raw body => raw body (expression body (Expression.items_induction body))
  | .substitution body => substitution body (expression body (Expression.items_induction body))

theorem Statement.items_induction : ∀ s : Statement, ∀ i ∈ s.items, P i
  | .single item => by simpa [Statement.items] using Item.nested_induction item
  | .cons first rest =>
      List.forall_mem_cons.mpr ⟨Item.nested_induction first, Statement.items_induction rest⟩

theorem Expression.items_induction :
    ∀ e : Expression, ∀ s ∈ e.statements, ∀ i ∈ s.items, P i
  | .empty => by simp [Expression.statements]
  | .cons first rest =>
      List.forall_mem_cons.mpr ⟨Statement.items_induction first, Expression.items_induction rest⟩

end

/-- **Induction over trees**: from the bodies of groups to the groups, and from all items of
an expression to the expression. -/
theorem Expression.nested_induction (e : Expression) : Q e :=
  expression e (Expression.items_induction plain quoted raw substitution expression e)

end Induction

/-! ### Tokens of a tree -/

/-- The tokens of all items, with a mark between statements. -/
def Expression.collect (f : Item → List Token) : Expression → List Token
  | .empty => []
  | .cons first .empty => first.items.flatMap f
  | .cons first (.cons next rest) =>
    first.items.flatMap f ++ Token.split :: (Expression.cons next rest).collect f

mutual

/-- The tokens that the lexer makes of an item: delimiters are glued to words. -/
def Item.lexed : Item → List Token
  | .plain w => [.word w.text]
  | .quoted s => [.word ('"' :: s.text ++ ['"'])]
  | .raw body => Token.braces.enclose body.lexed
  | .substitution body => Token.parentheses.enclose body.lexed

/-- The tokens that the lexer makes of a statement. -/
def Statement.lexed : Statement → List Token
  | .single item => item.lexed
  | .cons first rest => first.lexed ++ rest.lexed

/-- The tokens that the lexer makes of an expression. -/
def Expression.lexed : Expression → List Token
  | .empty => []
  | .cons first .empty => first.lexed
  | .cons first (.cons next rest) =>
    first.lexed ++ Token.split :: (Expression.cons next rest).lexed

end

mutual

/-- The tokens of an item when braces are grouped and parentheses are not. -/
def Item.braced : Item → List Token
  | .plain w => [.word w.text]
  | .quoted s => [.word ('"' :: s.text ++ ['"'])]
  | .raw body => [.raw body.print]
  | .substitution body => Token.parentheses.enclose body.braced

/-- The tokens of a statement when braces are grouped and parentheses are not. -/
def Statement.braced : Statement → List Token
  | .single item => item.braced
  | .cons first rest => first.braced ++ rest.braced

/-- The tokens of an expression when braces are grouped and parentheses are not. -/
def Expression.braced : Expression → List Token
  | .empty => []
  | .cons first .empty => first.braced
  | .cons first (.cons next rest) =>
    first.braced ++ Token.split :: (Expression.cons next rest).braced

end

/-- What a substitution holds whose body is the given expression: its tokens as grouping
braces leaves them, with one space between them. -/
def Expression.spelling (e : Expression) : Text := written e.braced

/-- The token of an item when both kinds of groups are made. -/
def Item.grouped : Item → Token
  | .plain w => .word w.text
  | .quoted s => .word ('"' :: s.text ++ ['"'])
  | .raw body => .raw body.print
  | .substitution body => .substitution body.spelling

/-- The token of an item. -/
def Item.token : Item → Token
  | .plain w => .word w.text
  | .quoted s => .word s.text
  | .raw body => .raw body.print
  | .substitution body => .substitution body.spelling

/-- The tokens of an expression: one for each item, and a mark between statements. -/
def Expression.tokens (e : Expression) : List Token := e.collect fun item => [item.token]

theorem Statement.lexed_eq : ∀ s : Statement, s.lexed = s.items.flatMap Item.lexed
  | .single item => by simp [Statement.lexed, Statement.items]
  | .cons first rest => by simp [Statement.lexed, Statement.items, Statement.lexed_eq rest]

theorem Expression.lexed_eq : ∀ e : Expression, e.lexed = e.collect Item.lexed
  | .empty => rfl
  | .cons first .empty => by simp [Expression.lexed, Expression.collect, Statement.lexed_eq]
  | .cons first (.cons next rest) => by
      rw [Expression.lexed, Expression.collect, Statement.lexed_eq, Expression.lexed_eq]

theorem Statement.braced_eq : ∀ s : Statement, s.braced = s.items.flatMap Item.braced
  | .single item => by simp [Statement.braced, Statement.items]
  | .cons first rest => by simp [Statement.braced, Statement.items, Statement.braced_eq rest]

theorem Expression.braced_eq : ∀ e : Expression, e.braced = e.collect Item.braced
  | .empty => rfl
  | .cons first .empty => by simp [Expression.braced, Expression.collect, Statement.braced_eq]
  | .cons first (.cons next rest) => by
      rw [Expression.braced, Expression.collect, Statement.braced_eq, Expression.braced_eq]

/-! ### From items to expressions -/

section Collect

variable {f g : Item → List Token}

/-- A property of tokens that marks have holds of all tokens if it holds of those of every
item. -/
theorem Expression.forall_mem_collect {P : Token → Prop} (hmark : P Token.split) :
    ∀ e : Expression, (∀ s ∈ e.statements, ∀ i ∈ s.items, ∀ t ∈ f i, P t) →
      ∀ t ∈ e.collect f, P t
  | .empty, _ => by simp [Expression.collect]
  | .cons first .empty, h => by
      obtain ⟨hfirst, -⟩ := List.forall_mem_cons.mp h
      rw [Expression.collect]
      intro t ht
      obtain ⟨i, hi, hmem⟩ := List.mem_flatMap.mp ht
      exact hfirst i hi t hmem
  | .cons first (.cons next rest), h => by
      obtain ⟨hfirst, hrest⟩ := List.forall_mem_cons.mp h
      have hmore := Expression.forall_mem_collect hmark (.cons next rest) hrest
      rw [Expression.collect]
      intro t ht
      rcases List.mem_append.mp ht with ht | ht
      · obtain ⟨i, hi, hmem⟩ := List.mem_flatMap.mp ht
        exact hfirst i hi t hmem
      · rcases List.mem_cons.mp ht with rfl | ht
        · exact hmark
        · exact hmore t ht

theorem advance_flatMap {d : Token.Delimiters} {items : List Item}
    (h : ∀ i ∈ items, d.advance none (f i) = (g i, none)) :
    d.advance none (items.flatMap f) = (items.flatMap g, none) := by
  induction items with
  | nil => rfl
  | cons item rest ih =>
      obtain ⟨hfirst, hrest⟩ := List.forall_mem_cons.mp h
      rw [List.flatMap_cons, Token.Delimiters.advance_append, hfirst, ih hrest,
        List.flatMap_cons]

/-- Grouping goes through an expression item by item. -/
theorem Expression.advance_collect {d : Token.Delimiters} :
    ∀ e : Expression,
      (∀ s ∈ e.statements, ∀ i ∈ s.items, d.advance none (f i) = (g i, none)) →
      d.advance none (e.collect f) = (e.collect g, none)
  | .empty, _ => rfl
  | .cons first .empty, h => by
      obtain ⟨hfirst, -⟩ := List.forall_mem_cons.mp h
      exact advance_flatMap hfirst
  | .cons first (.cons next rest), h => by
      obtain ⟨hfirst, hrest⟩ := List.forall_mem_cons.mp h
      have hmore := Expression.advance_collect (.cons next rest) hrest
      have hmark : d.step none Token.split = ([Token.split], none) := rfl
      rw [Expression.collect, Expression.collect, Token.Delimiters.advance_append,
        advance_flatMap hfirst, Token.Delimiters.advance_cons, hmark, hmore]
      rfl

theorem depthAfter_flatMap {d : Token.Delimiters} {items : List Item} {depth : Nat}
    (h : ∀ i ∈ items, d.depthAfter depth (f i) = some depth) :
    d.depthAfter depth (items.flatMap f) = some depth := by
  induction items with
  | nil => rfl
  | cons item rest ih =>
      obtain ⟨hfirst, hrest⟩ := List.forall_mem_cons.mp h
      rw [List.flatMap_cons, Token.Delimiters.depthAfter_append, hfirst]
      exact ih hrest

/-- An expression of which no item closes a group does not close one. -/
theorem Expression.depthAfter_collect {d : Token.Delimiters} {depth : Nat} :
    ∀ e : Expression,
      (∀ s ∈ e.statements, ∀ i ∈ s.items, d.depthAfter depth (f i) = some depth) →
      d.depthAfter depth (e.collect f) = some depth
  | .empty, _ => rfl
  | .cons first .empty, h => by
      obtain ⟨hfirst, -⟩ := List.forall_mem_cons.mp h
      exact depthAfter_flatMap hfirst
  | .cons first (.cons next rest), h => by
      obtain ⟨hfirst, hrest⟩ := List.forall_mem_cons.mp h
      have hmore := Expression.depthAfter_collect (.cons next rest) hrest
      rw [Expression.collect, Token.Delimiters.depthAfter_append, depthAfter_flatMap hfirst,
        Option.bind_some, Token.Delimiters.depthAfter_other d depth (by decide)]
      exact hmore

end Collect

/-! ### Words and quoted texts -/

/-- A text without quotes and separators is read outside quotes from end to end. -/
theorem unquoted_scan {s : Text} (hsep : ∀ c ∈ s, Token.isSeparator c = false) (hquote : '"' ∉ s) :
    Token.QuoteState.outside.unbroken s = true ∧
      Token.QuoteState.outside.after s = Token.QuoteState.outside := by
  induction s with
  | nil => exact ⟨rfl, rfl⟩
  | cons c s ih =>
      obtain ⟨hc, hrest⟩ := List.forall_mem_cons.mp hsep
      obtain ⟨hne, hquote⟩ := not_or.mp (List.mem_cons.not.mp hquote)
      obtain ⟨hunbroken, hclosed⟩ := ih hrest hquote
      have hnext := Token.QuoteState.next_outside (Ne.symm hne)
      exact ⟨by simpa [Token.QuoteState.unbroken, hc, hnext] using hunbroken,
        by rw [Token.QuoteState.after_cons, hnext, hclosed]⟩

/-- A text without quotes and backslashes is read inside quotes up to the quote behind it. -/
theorem quoted_scan {s : Text} (hquote : '"' ∉ s) (hescape : '\\' ∉ s) :
    Token.QuoteState.inside.unbroken (s ++ ['"']) = true ∧
      Token.QuoteState.inside.after (s ++ ['"']) = Token.QuoteState.outside := by
  induction s with
  | nil => exact ⟨rfl, rfl⟩
  | cons c s ih =>
      obtain ⟨hne, hquote⟩ := not_or.mp (List.mem_cons.not.mp hquote)
      obtain ⟨hne', hescape⟩ := not_or.mp (List.mem_cons.not.mp hescape)
      obtain ⟨hunbroken, hclosed⟩ := ih hquote hescape
      have hnext : Token.QuoteState.inside.next c = .inside := by
        simp [Token.QuoteState.next, Ne.symm hne, Ne.symm hne']
      refine ⟨?_, by rw [List.cons_append, Token.QuoteState.after_cons, hnext, hclosed]⟩
      simpa [Token.QuoteState.unbroken, hnext] using hunbroken

namespace PlainWord

theorem lexedWord (w : PlainWord) : LexedWord w.text where
  isWord :=
    have hsep : ∀ c ∈ w.text, Token.isSeparator c = false := fun c hc =>
      Token.not_separator_of_not_blank (w.notBlank c hc)
    ⟨w.nonempty, (unquoted_scan hsep w.notQuote).1, (unquoted_scan hsep w.notQuote).2⟩
  notComment := fun h => (w.head _ h).1 rfl
  notMarked := fun h => (w.last _ h).1 rfl

theorem tight (w : PlainWord) : Tight w.text where
  nonempty := w.nonempty
  head := fun c hc => w.notBlank c (List.mem_of_mem_head? hc)
  last := fun c hc => w.notBlank c (List.mem_of_mem_getLast? hc)

theorem opens_eq_zero (w : PlainWord) (d : Token.Delimiters) : d.opens w.text = 0 :=
  d.opens_eq_zero fun c hc => (w.head c hc).2

theorem closes_eq_zero (w : PlainWord) (d : Token.Delimiters) : d.closes w.text = 0 :=
  d.closes_eq_zero fun c hc => (w.last c hc).2

theorem notFullyQuoted (w : PlainWord) : Token.isFullyQuoted w.text = false := by
  cases h : Token.isFullyQuoted w.text with
  | false => rfl
  | true =>
      simp only [Token.isFullyQuoted, Bool.and_eq_true, beq_iff_eq] at h
      exact absurd (List.mem_of_mem_head? h.1.2) w.notQuote

end PlainWord

namespace QuotedText

theorem getLast?_eq (s : QuotedText) : ('"' :: s.text ++ ['"']).getLast? = some '"' :=
  List.getLast?_concat

theorem lexedWord (s : QuotedText) : LexedWord ('"' :: s.text ++ ['"']) where
  isWord := by
    obtain ⟨hunbroken, hclosed⟩ := quoted_scan s.notQuote s.notEscape
    refine ⟨by simp, ?_, ?_⟩
    · simpa [Token.QuoteState.unbroken, Token.not_separator_quote, Token.QuoteState.next] using
        hunbroken
    · simpa [Token.QuoteState.next] using hclosed
  notComment := by simp
  notMarked := by
    rw [s.getLast?_eq]
    decide

theorem tight (s : QuotedText) : Tight ('"' :: s.text ++ ['"']) where
  nonempty := by simp
  head := by simpa using show Text.isBlank '"' = false by decide
  last := by
    rw [s.getLast?_eq]
    simpa using show Text.isBlank '"' = false by decide

theorem fullyQuoted (s : QuotedText) : Token.isFullyQuoted ('"' :: s.text ++ ['"']) = true := by
  rw [Token.isFullyQuoted, s.getLast?_eq]
  simp

theorem stripQuotes_eq (s : QuotedText) : Token.stripQuotes ('"' :: s.text ++ ['"']) = s.text := by
  rw [Token.stripQuotes, if_pos s.fullyQuoted]
  simp

end QuotedText

/-! ### What the lexer makes of a printed tree -/

/-- A token that the lexer makes and that has no blanks at its ends. -/
def Token.IsSolid (token : Token) : Prop := token.IsLexed ∧ token.IsTight

theorem Token.isSolid_split : Token.split.IsSolid :=
  ⟨.inl rfl, isTight_split⟩

theorem Token.isSolid_word {w : Text} : (Token.word w).IsSolid ↔ LexedWord w ∧ Tight w := by
  constructor
  · rintro ⟨h | ⟨v, h, hv⟩, htight⟩
    · cases h
    · cases h
      exact ⟨hv, htight⟩
  · rintro ⟨hlexed, htight⟩
    exact ⟨.inr ⟨w, rfl, hlexed⟩, htight⟩

section Pair

variable {d : Token.Delimiters} (hopener : Token.isOpener d.opener = true)
  (hcloser : Token.isCloser d.closer = true)

include hopener hcloser in
theorem Token.isSolid_enclose {tokens : List Token} (h : ∀ t ∈ tokens, t.IsSolid) :
    ∀ t ∈ d.enclose tokens, t.IsSolid := by
  have hfirst := Token.isInert_of_isOpener hopener
  have hlast := Token.isInert_of_isCloser hcloser
  have hblank := Token.not_blank_of_opener hopener
  have hblank' := Token.not_blank_of_closer hcloser
  refine Token.forall_mem_glueBack ?_ ?_ (Token.forall_mem_glueFront ?_ ?_ h)
  · exact Token.isSolid_word.mpr ⟨hlast.lexedWord, Tight.cons hblank' (.inl rfl)⟩
  · intro w hw
    obtain ⟨hlexed, htight⟩ := Token.isSolid_word.mp hw
    exact Token.isSolid_word.mpr ⟨hlast.lexedWord_snoc hlexed, Tight.snoc hblank' (.inr htight)⟩
  · exact Token.isSolid_word.mpr ⟨hfirst.lexedWord, Tight.cons hblank (.inl rfl)⟩
  · intro w hw
    obtain ⟨hlexed, htight⟩ := Token.isSolid_word.mp hw
    exact Token.isSolid_word.mpr ⟨hfirst.lexedWord_cons hlexed, Tight.cons hblank (.inr htight)⟩

end Pair

theorem Expression.isSolid_lexed (e : Expression) : ∀ t ∈ e.lexed, t.IsSolid := by
  refine Expression.nested_induction (P := fun item => ∀ t ∈ item.lexed, t.IsSolid)
    (Q := fun e => ∀ t ∈ e.lexed, t.IsSolid)
    ?plain ?quoted ?raw ?substitution ?expression e
  case plain =>
    intro w
    simpa [Item.lexed] using Token.isSolid_word.mpr ⟨w.lexedWord, w.tight⟩
  case quoted =>
    intro s
    simpa [Item.lexed] using Token.isSolid_word.mpr ⟨s.lexedWord, s.tight⟩
  case raw =>
    intro body ih
    exact Token.isSolid_enclose (d := Token.braces) (by decide) (by decide) ih
  case substitution =>
    intro body ih
    exact Token.isSolid_enclose (d := Token.parentheses) (by decide) (by decide) ih
  case expression =>
    intro e ih
    rw [Expression.lexed_eq]
    exact e.forall_mem_collect Token.isSolid_split ih

/-- No item closes a group in which it stands. -/
theorem Expression.depthAfter_lexed (e : Expression) :
    ∀ depth, 0 < depth → Token.braces.depthAfter depth e.lexed = some depth := by
  refine Expression.nested_induction
    (P := fun item =>
      ∀ depth, 0 < depth → Token.braces.depthAfter depth item.lexed = some depth)
    (Q := fun e => ∀ depth, 0 < depth → Token.braces.depthAfter depth e.lexed = some depth)
    ?plain ?quoted ?raw ?substitution ?expression e
  case plain =>
    intro w depth hdepth
    simp [Item.lexed, Token.Delimiters.depthAfter_word, w.opens_eq_zero, w.closes_eq_zero, hdepth]
  case quoted =>
    intro s depth hdepth
    obtain ⟨hopens, hcloses⟩ := Token.braces.runs_of_quoted s.fullyQuoted
    rw [Item.lexed, Token.Delimiters.depthAfter_word, hopens, hcloses, if_pos (by omega)]
    rfl
  case raw =>
    intro body ih depth hdepth
    exact Token.Delimiters.depthAfter_enclose (by decide) (by decide) hdepth
      (ih (depth + 1) (by omega))
  case substitution =>
    intro body ih depth hdepth
    rw [Item.lexed, Token.Delimiters.enclose,
      Token.Delimiters.depthAfter_glueBack_foreign _ (by decide) (by decide) hdepth,
      Token.Delimiters.depthAfter_glueFront_foreign _ (by decide) (by decide) hdepth]
    exact ih depth hdepth
  case expression =>
    intro e ih depth hdepth
    rw [Expression.lexed_eq]
    exact e.depthAfter_collect fun s hs i hi => ih s hs i hi depth hdepth

theorem Statement.written_lexed :
    ∀ s : Statement, (∀ i ∈ s.items, Token.IsPhrase i.lexed ∧ written i.lexed = i.print) →
      Token.IsPhrase s.lexed ∧ written s.lexed = s.print
  | .single item, h => h item (by simp [Statement.items])
  | .cons first rest, h => by
      obtain ⟨⟨hfirst, hprint⟩, hmore⟩ := List.forall_mem_cons.mp h
      obtain ⟨hrest, hprint'⟩ := Statement.written_lexed rest hmore
      refine ⟨by simpa [Statement.lexed] using hfirst.append hrest [], ?_⟩
      rw [Statement.lexed, Statement.print, Token.written_append hfirst.nonempty,
        hrest.writtenBehind_eq, hprint, hprint']
      simp

theorem Expression.written_lexed_of_items :
    ∀ e : Expression,
      (∀ s ∈ e.statements, ∀ i ∈ s.items, Token.IsPhrase i.lexed ∧ written i.lexed = i.print) →
      (e.statements ≠ [] → Token.IsPhrase e.lexed) ∧ written e.lexed = e.print
  | .empty, _ => ⟨fun h => absurd rfl h, rfl⟩
  | .cons first .empty, h => by
      obtain ⟨hfirst, hprint⟩ := first.written_lexed (List.forall_mem_cons.mp h).1
      exact ⟨fun _ => hfirst, hprint⟩
  | .cons first (.cons next rest), h => by
      obtain ⟨hhead, htail⟩ := List.forall_mem_cons.mp h
      obtain ⟨hfirst, hprint⟩ := first.written_lexed hhead
      obtain ⟨hrest, hprint'⟩ := Expression.written_lexed_of_items (.cons next rest) htail
      have hphrase := hrest (List.cons_ne_nil _ _)
      refine ⟨fun _ => by simpa [Expression.lexed] using hfirst.append hphrase [Token.split], ?_⟩
      rw [Expression.lexed, Expression.print, Token.written_append hfirst.nonempty,
        Token.writtenBehind_cons, hphrase.writtenBehind_eq, hprint, hprint']
      simp [writtenBehind, Token.split, Token.isSplit, Token.source]

/-- The tokens of a printed expression, written one behind the other, are the printed
expression; they begin and end with words. -/
theorem Expression.written_lexed (e : Expression) :
    Token.WordEnds e.lexed ∧ written e.lexed = e.print := by
  refine Expression.nested_induction
    (P := fun item => Token.IsPhrase item.lexed ∧ written item.lexed = item.print)
    (Q := fun e => Token.WordEnds e.lexed ∧ written e.lexed = e.print)
    ?plain ?quoted ?raw ?substitution ?expression e
  case plain =>
    intro w
    exact ⟨Token.isPhrase_word _, by
      simp [Item.lexed, Item.print, written, writtenBehind, Token.word, Token.source]⟩
  case quoted =>
    intro s
    exact ⟨Token.isPhrase_word _, by
      simp [Item.lexed, Item.print, written, writtenBehind, Token.word, Token.source]⟩
  case raw =>
    rintro body ⟨hends, hprint⟩
    refine ⟨Token.isPhrase_enclose _ _, ?_⟩
    rw [Item.lexed, Token.braces.written_enclose (fun t ht => .inl (hends.head t ht)) hends.last,
      hprint]
    rfl
  case substitution =>
    rintro body ⟨hends, hprint⟩
    refine ⟨Token.isPhrase_enclose _ _, ?_⟩
    rw [Item.lexed,
      Token.parentheses.written_enclose (fun t ht => .inl (hends.head t ht)) hends.last, hprint]
    rfl
  case expression =>
    intro e h
    obtain ⟨hphrase, hprint⟩ := e.written_lexed_of_items h
    refine ⟨?_, hprint⟩
    cases e with
    | empty => exact ⟨by simp [Expression.lexed], by simp [Expression.lexed]⟩
    | cons first rest => exact (hphrase (List.cons_ne_nil _ _)).wordEnds

/-- **The lexer reads a printed tree.** -/
theorem Expression.lex_print (e : Expression) : Token.lex e.print = .ok e.lexed := by
  rw [← e.written_lexed.2]
  exact Token.lex_written fun t ht => (e.isSolid_lexed t ht).1

end Conch
