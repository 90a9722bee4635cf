import Conch.Eval
import Conch.Proofs.Grouping

/-!
Sequencing. Two expressions with `"; "` between them are parsed to the tokens of the one, a
mark, and the tokens of the other, and they are evaluated one after the other.
-/

namespace Conch

/-! ### Laws of actions -/

namespace Action

variable {α β γ : Type}

theorem pure_bind (value : α) (next : α → Action β) : bind (pure value) next = next value := rfl

theorem bind_pure (first : Action α) : bind first pure = first := by
  funext session
  simp only [bind, pure]
  cases h : (first session).outcome <;> simp [← h]

theorem bind_assoc (first : Action α) (second : α → Action β) (third : β → Action γ) :
    bind (bind first second) third = bind first fun value => bind (second value) third := by
  funext session
  simp only [bind]
  cases (first session).outcome with
  | done value =>
      cases h : (second value (first session).session).outcome <;> simp [h]
  | failed error => rfl
  | unfinished => rfl

instance : LawfulMonad Action :=
  LawfulMonad.mk' Action bind_pure pure_bind bind_assoc

/-- A run and then, if it yields a value, another. -/
theorem bind_of_done {a : Action α} {next : α → Action β} {s : Session} {value : α}
    (h : (a s).outcome = .done value) :
    (a >>= next) s = ⟨(next value (a s).session).outcome, (next value (a s).session).session,
      (a s).trace ++ (next value (a s).session).trace⟩ := by
  show bind a next s = _
  simp only [bind, h]

theorem bind_of_failed {a : Action α} {next : α → Action β} {s : Session} {error : ShellError}
    (h : (a s).outcome = .failed error) :
    (a >>= next) s = ⟨.failed error, (a s).session, (a s).trace⟩ := by
  show bind a next s = _
  simp only [bind, h]

theorem bind_of_unfinished {a : Action α} {next : α → Action β} {s : Session}
    (h : (a s).outcome = .unfinished) :
    (a >>= next) s = ⟨.unfinished, (a s).session, (a s).trace⟩ := by
  show bind a next s = _
  simp only [bind, h]

/-- What follows an action matters only where the action ends. -/
theorem bind_congr_at {a b : Action α} {next other : α → Action β} {s : Session}
    (h : a s = b s) (hnext : ∀ value, (b s).outcome = .done value →
      next value (b s).session = other value (b s).session) :
    (a >>= next) s = (b >>= other) s := by
  cases houtcome : (b s).outcome with
  | done value =>
      rw [bind_of_done houtcome, bind_of_done (by rw [h, houtcome]), h, hnext value houtcome]
  | failed error =>
      rw [bind_of_failed houtcome, bind_of_failed (by rw [h, houtcome]), h]
  | unfinished =>
      rw [bind_of_unfinished houtcome, bind_of_unfinished (by rw [h, houtcome]), h]

/-- What an action and the one behind it leave in the trace. -/
theorem mem_trace_bind {a : Action α} {next : α → Action β} {s : Session} {event : Event}
    (h : event ∈ ((a >>= next) s).trace) :
    event ∈ (a s).trace ∨ ∃ value, event ∈ (next value (a s).session).trace := by
  cases houtcome : (a s).outcome with
  | done value =>
      rw [bind_of_done houtcome] at h
      exact (List.mem_append.mp h).imp_right fun h => ⟨value, h⟩
  | failed error =>
      rw [bind_of_failed houtcome] at h
      exact .inl h
  | unfinished =>
      rw [bind_of_unfinished houtcome] at h
      exact .inl h

theorem world_bind (next : World → Action α) (s : Session) :
    (world >>= next) s = next s.world s := rfl

theorem checkCancelled_eq (ctx : Context) (session : Session) :
    checkCancelled ctx session =
      if session.world.tokens.isCancelled ctx.cancel then fail .cancelled session
      else pure () session := by
  cases hcancelled : session.world.tokens.isCancelled ctx.cancel <;>
    simp [checkCancelled, world, Action.session, Bind.bind, bind, Pure.pure, pure, hcancelled, fail]

theorem session_checkCancelled (ctx : Context) (s : Session) :
    (checkCancelled ctx s).session = s := by
  rw [checkCancelled_eq]
  split <;> rfl

end Action

namespace Token

/-! ### Tokens of a sequence -/

theorem lex_eq_ok_iff {s : Text} {tokens : List Token} :
    lex s = .ok tokens ↔ ∃ words, scan s = .ok words ∧ ofWords words = tokens := by
  unfold lex
  cases scan s <;> simp

/-- Tokens grouped by braces, then by parentheses, without their quotes. -/
def grouped (tokens : List Token) : Except ParseError (List Token) := do
  let tokens ← braces.group tokens
  let tokens ← parentheses.group tokens
  return tokens.map unquote

theorem parse_eq_grouped {s : Text} {tokens : List Token} (h : lex s = .ok tokens) :
    parse s = grouped tokens := by
  simp only [parse, h, grouped]

theorem exists_of_grouped {tokens complete : List Token} (h : grouped tokens = .ok complete) :
    ∃ braced ready, braces.advance none tokens = (braced, none) ∧
      parentheses.advance none braced = (ready, none) ∧ complete = ready.map unquote := by
  cases hbraces : braces.group tokens with
  | error error =>
      simp only [grouped, hbraces] at h
      cases h
  | ok braced =>
      simp only [grouped, hbraces] at h
      cases hparentheses : parentheses.group braced with
      | error error =>
          simp only [bind, Except.bind, hparentheses] at h
          cases h
      | ok ready =>
          simp only [bind, Except.bind, hparentheses] at h
          cases h
          exact ⟨braced, ready, Delimiters.group_eq_ok_iff.mp hbraces,
            Delimiters.group_eq_ok_iff.mp hparentheses, rfl⟩

/-- What grouping makes of tokens stands in front of what it makes of the tokens behind them. -/
theorem grouped_append {first complete : List Token} (h : grouped first = .ok complete)
    (second : List Token) :
    grouped (first ++ second) = (grouped second).map (complete ++ ·) := by
  obtain ⟨braced, ready, hbraced, hready, rfl⟩ := exists_of_grouped h
  simp only [grouped, Delimiters.group_append (Delimiters.group_eq_ok_iff.mpr hbraced)]
  cases braces.group second with
  | error error => rfl
  | ok rest =>
      simp only [Except.map, bind, Except.bind,
        Delimiters.group_append (Delimiters.group_eq_ok_iff.mpr hready)]
      cases parentheses.group rest with
      | error error => rfl
      | ok last => simp [pure, Except.pure]

/-- A mark outside all groups stays where it is. -/
theorem grouped_mark (rest : List Token) :
    grouped (split :: rest) = (grouped rest).map (split :: ·) := by
  simp only [grouped, Delimiters.group_mark]
  cases braces.group rest with
  | error error => rfl
  | ok braced =>
      simp only [Except.map, bind, Except.bind, Delimiters.group_mark]
      cases parentheses.group braced with
      | error error => rfl
      | ok ready => rfl

theorem grouped_append_mark {first complete : List Token} (h : grouped first = .ok complete)
    (second : List Token) :
    grouped (first ++ split :: second) = (grouped second).map (complete ++ [split] ++ ·) := by
  rw [grouped_append h, grouped_mark]
  cases grouped second with
  | error error => rfl
  | ok rest => simp [Except.map]

/-- The lexer reads two texts with `"; "` between them as their tokens with a mark between
them; if it cannot read the second, it cannot read the whole either. -/
theorem lex_sequence {x : Text} {words : List Text} (hx : scan x = .ok words)
    (hcomment : ∀ w ∈ words, w.head? ≠ some '#') (y : Text) :
    (∀ tokens, lex y = .ok tokens →
      lex (x ++ "; " ++ y) = .ok (ofWords words ++ split :: tokens)) ∧
    (∀ error, lex y = .error error → ∃ failure, lex (x ++ "; " ++ y) = .error failure) := by
  obtain ⟨marked, hmarked, hfree, htokens⟩ :=
    ofWords_snoc_semicolon (scan_eq_ok_iff.mp hx) hcomment
  have hscan : scan (x ++ "; " ++ y) = (scan y).map (marked ++ ·) := by
    have hspace := hmarked.scan_append (c := ' ') (by decide) y
    rwa [show x ++ [';'] ++ ' ' :: y = x ++ "; " ++ y by simp] at hspace
  refine ⟨fun tokens hy => ?_, fun error hy => ?_⟩
  · obtain ⟨more, hmore, rfl⟩ := lex_eq_ok_iff.mp hy
    refine lex_eq_ok_iff.mpr ⟨marked ++ more, by rw [hscan, hmore]; rfl, ?_⟩
    rw [ofWords_append hfree, htokens]
    simp
  · cases hmore : scan y with
    | ok more =>
        rw [lex, hmore] at hy
        cases hy
    | error rest =>
        rw [hmore] at hscan
        exact ⟨_, by rw [lex, hscan]; rfl⟩

end Token

/-- Whether two texts cannot be parsed for the same reason: neither can be cut into tokens,
or a group with the same delimiters is open at the end of both. -/
def ParseError.SameKind : ParseError → ParseError → Prop
  | .lex _, .lex _ => True
  | .unterminated opener closer, .unterminated opener' closer' =>
    opener = opener' ∧ closer = closer'
  | _, _ => False

namespace Token

/-- Parsing a sequence: the tokens of both parts with a mark between them, or the failure
of the second part. -/
theorem parse_sequence {x y : Text} {tokens : List Token} (hx : parse x = .ok tokens)
    (hcomment : ∀ words, scan x = .ok words → ∀ w ∈ words, w.head? ≠ some '#') :
    (∀ more, parse y = .ok more → parse (x ++ "; " ++ y) = .ok (tokens ++ [split] ++ more)) ∧
    (∀ error, parse y = .error error →
      ∃ failure, parse (x ++ "; " ++ y) = .error failure ∧ failure.SameKind error) := by
  cases hlex : lex x with
  | error error =>
      rw [parse, hlex] at hx
      cases hx
  | ok lexed =>
      obtain ⟨words, hwords, rfl⟩ := lex_eq_ok_iff.mp hlex
      rw [parse_eq_grouped hlex] at hx
      obtain ⟨hread, hfail⟩ := lex_sequence hwords (hcomment words hwords) y
      cases hy : lex y with
      | error fault =>
          obtain ⟨failure, hfailure⟩ := hfail fault hy
          have hparse : parse y = .error (.lex fault) := by rw [parse, hy]
          refine ⟨fun more hmore => ?_, fun error herror => ?_⟩
          · rw [hparse] at hmore
            cases hmore
          · rw [hparse] at herror
            cases herror
            exact ⟨.lex failure, by rw [parse, hfailure], trivial⟩
      | ok rest =>
          have hwhole := parse_eq_grouped (hread rest hy)
          rw [grouped_append_mark hx, ← parse_eq_grouped hy] at hwhole
          refine ⟨fun more hmore => ?_, fun error herror => ?_⟩
          · rw [hwhole, hmore]
            rfl
          · refine ⟨error, by rw [hwhole, herror]; rfl, ?_⟩
            -- Only the lexer reports faults of its own, and here it succeeds.
            cases error with
            | lex fault => trivial
            | unterminated opener closer => exact ⟨rfl, rfl⟩

end Token

/-! ### Evaluating a sequence -/

namespace Eval

/-- One evaluation and then, if it does not end the shell, another. -/
def andThen (first second : Action Flow) : Action Flow := do
  match ← first with
  | .exit => return .exit
  | .proceed => second

theorem andThen_assoc (first second third : Action Flow) :
    andThen (andThen first second) third = andThen first (andThen second third) := by
  unfold andThen
  rw [bind_assoc]
  congr 1
  funext flow
  cases flow <;> simp

theorem statements_cons (nested : TokenEvaluator) (run : Runner) (ctx : Context)
    (first : List Token) (rest : List (List Token)) :
    statements nested run ctx (first :: rest) =
      (do
        Action.checkCancelled ctx
        andThen (statement nested run ctx first) (statements nested run ctx rest)) := rfl

theorem statements_append (nested : TokenEvaluator) (run : Runner) (ctx : Context)
    (first second : List (List Token)) :
    statements nested run ctx (first ++ second) =
      andThen (statements nested run ctx first) (statements nested run ctx second) := by
  induction first with
  | nil => rfl
  | cons tokens rest ih =>
      rw [List.cons_append, statements_cons, statements_cons, ih, ← andThen_assoc]
      simp only [andThen, bind_assoc]

theorem tokenStatements_append_mark (first second : List Token) :
    Token.statements (first ++ [Token.split] ++ second) =
      Token.statements first ++ Token.statements second := by
  rw [Token.statements, List.append_assoc, List.singleton_append,
    List.splitOnP_append_cons _ _ rfl, List.filter_append]
  rfl

/-- Tokens on both sides of a mark are evaluated one side after the other. -/
theorem tokens_append_mark (run : Builtin.Evaluator → Runner) (depth : Nat) (ctx : Context)
    (first second : List Token) :
    tokens run depth ctx (first ++ [Token.split] ++ second) =
      andThen (tokens run depth ctx first) (tokens run depth ctx second) := by
  cases depth with
  | zero => rfl
  | succ depth =>
      show statements _ _ ctx (Token.statements (first ++ [Token.split] ++ second)) = _
      rw [tokenStatements_append_mark, statements_append]
      rfl

theorem text_of_parse {nested : TokenEvaluator} {ctx : Context} {expr : Text}
    {list : List Token} (h : Token.parse expr = .ok list) :
    text nested ctx expr = nested ctx list := by
  simp only [text, parse, h]
  rfl

theorem text_of_parse_error {nested : TokenEvaluator} {ctx : Context} {expr : Text}
    {error : ParseError} (h : Token.parse expr = .error error) :
    text nested ctx expr = Action.fail (.ofParse error) := by
  simp only [text, parse, h]
  rfl

/-- **Sequencing is compositional.** If `x` can be parsed and none of its words begins a
comment, then `x ++ "; " ++ y` has the tokens of both with a mark between them, and to
evaluate it is to evaluate `x` and then, unless that fails or ends the shell, `y`. If `y`
cannot be parsed, then neither can the whole, for the same reason, and nothing is run. -/
theorem sequencing_compositional {x y : Text} {list : List Token}
    (hx : Token.parse x = .ok list)
    (hcomment : ∀ words, Token.scan x = .ok words → ∀ w ∈ words, w.head? ≠ some '#') :
    (∀ more, Token.parse y = .ok more →
      Token.parse (x ++ "; " ++ y) = .ok (list ++ [Token.split] ++ more) ∧
      ∀ ctx, eval ctx (x ++ "; " ++ y) = andThen (eval ctx x) (eval ctx y)) ∧
    (∀ error, Token.parse y = .error error →
      ∃ failure, Token.parse (x ++ "; " ++ y) = .error failure ∧ failure.SameKind error ∧
        ∀ ctx session, eval ctx (x ++ "; " ++ y) session =
          ⟨.failed (.ofParse failure), session, [.failed]⟩) := by
  obtain ⟨hread, hfail⟩ := Token.parse_sequence (y := y) hx hcomment
  refine ⟨fun more hy => ⟨hread more hy, fun ctx => ?_⟩, fun error hy => ?_⟩
  · unfold eval
    rw [text_of_parse (hread more hy), text_of_parse hx, text_of_parse hy, tokens_append_mark]
  · obtain ⟨failure, hfailure, hkind⟩ := hfail error hy
    refine ⟨failure, hfailure, hkind, fun ctx session => ?_⟩
    unfold eval
    rw [text_of_parse_error hfailure]
    rfl

/-- A sequence whose first part ends in a group, with a second part that can be parsed and
with one that cannot. -/
theorem sequencing_compositional_group :
    (Token.parse ("l-echo \x7ba ; b\x7d" ++ "; " ++ "(l-echo c);") =
        .ok [.word "l-echo", .raw "a; b", .split, .substitution "l-echo c", .split] ∧
      ∀ ctx, eval ctx ("l-echo \x7ba ; b\x7d" ++ "; " ++ "(l-echo c);") =
        andThen (eval ctx "l-echo \x7ba ; b\x7d") (eval ctx "(l-echo c);")) ∧
    ∃ failure, Token.parse ("l-echo \x7ba ; b\x7d" ++ "; " ++ "l-echo (c") = .error failure ∧
      failure.SameKind (.unterminated '(' ')') ∧
      ∀ ctx session, eval ctx ("l-echo \x7ba ; b\x7d" ++ "; " ++ "l-echo (c") session =
        ⟨.failed (.ofParse failure), session, [.failed]⟩ := by
  have hx : Token.parse "l-echo \x7ba ; b\x7d" = .ok [.word "l-echo", .raw "a; b"] := by decide
  have hcomment : ∀ words, Token.scan "l-echo \x7ba ; b\x7d" = .ok words →
      ∀ w ∈ words, w.head? ≠ some '#' := by
    have hwords : Token.scan "l-echo \x7ba ; b\x7d" =
        .ok ["l-echo", "\x7ba", ";", "b\x7d"] := by decide
    intro words h
    cases hwords.symm.trans h
    decide
  exact ⟨(sequencing_compositional hx hcomment).1 [.substitution "l-echo c", .split] (by decide),
    (sequencing_compositional hx hcomment).2 (.unterminated '(' ')') (by decide)⟩

end Eval

end Conch
