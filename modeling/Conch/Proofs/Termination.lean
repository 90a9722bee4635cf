import Conch.Proofs.Conservation
import Conch.Proofs.Sequencing
import Conch.Proofs.Tables
import Conch.Eval
import Mathlib.Data.List.MinMax
import Mathlib.Data.List.Nodup
import Mathlib.Order.Nat

/-!
Evaluations that end by themselves. An evaluation nests others: the body of a substitution, and
the target of an alias with the arguments behind it. If commands return and leave the aliases
alone, neither nests without end, whatever the aliases are.

The measure of a configuration is `Configuration.rank`. An expansion takes a name away from the
aliases that are not being expanded, and no target has more ink than the largest one; a
substitution has less ink than the expression around it. So both go down (`Nests.rank_lt`),
and an evaluation that may nest as deep as its rank finishes, and more depth changes nothing
(`steady_tokens`).
-/

namespace Conch

open Text (ink)

/-! ### The largest of some numbers -/

namespace Text

/-- How much ink the text with the most of it has. -/
def mostInk (texts : List Text) : Nat := (texts.map fun s => (ink s).length).foldr max 0

theorem le_mostInk {s : Text} {texts : List Text} (h : s ∈ texts) :
    (ink s).length ≤ mostInk texts := by
  have hmem := List.mem_map_of_mem (f := fun s : Text => (ink s).length) h
  exact List.le_max_of_le hmem le_rfl

end Text

namespace Token

/-- How much ink the body of a substitution has, and one more. -/
def bodyInk (token : Token) : Nat :=
  if token.kind = .substitution then (ink token.value).length + 1 else 0

/-- The ink of the body with the most of it among the substitutions of a list, and one more;
nothing if there are no substitutions. -/
def weight (list : List Token) : Nat := (list.map bodyInk).foldr max 0

theorem lt_weight {body : Text} {list : List Token} (h : substitution body ∈ list) :
    (ink body).length < weight list := by
  have hself : bodyInk (substitution body) = (ink body).length + 1 := rfl
  have hmem := List.mem_map_of_mem (f := bodyInk) h
  have hle : bodyInk (substitution body) ≤ weight list := List.le_max_of_le hmem le_rfl
  omega

theorem weight_le {list : List Token} {n : Nat}
    (h : ∀ body, substitution body ∈ list → (ink body).length < n) : weight list ≤ n := by
  refine List.max_le_of_forall_le (list.map bodyInk) n fun m hm => ?_
  obtain ⟨token, htoken, rfl⟩ := List.mem_map.mp hm
  unfold bodyInk
  split_ifs with hkind
  · have hself : token = substitution token.value := by rw [substitution, ← hkind]
    rw [hself] at htoken
    exact h token.value htoken
  · exact Nat.zero_le n

/-- The substitutions of an expression weigh no more than its ink. -/
theorem weight_parse {e : Text} {tokens : List Token} (h : parse e = .ok tokens) :
    weight tokens ≤ (ink e).length :=
  weight_le fun _ hbody => ink_body_lt h hbody

theorem mem_of_mem_statements {list statement : List Token} (h : statement ∈ statements list)
    {token : Token} (htoken : token ∈ statement) : token ∈ list := by
  replace h : statement ∈ list.splitOnP isSplit := (List.mem_filter.mp h).1
  induction list generalizing statement with
  | nil =>
      rw [List.splitOnP_nil, List.mem_singleton] at h
      rw [h] at htoken
      cases htoken
  | cons first rest ih =>
      rw [List.splitOnP_cons_eq_if_modifyHead] at h
      split_ifs at h
      · rcases List.mem_cons.mp h with rfl | h
        · cases htoken
        · exact List.mem_cons_of_mem first (ih htoken h)
      · cases hparts : rest.splitOnP isSplit with
        | nil =>
            rw [hparts] at h
            cases h
        | cons part parts =>
            rw [hparts, List.modifyHead_cons] at h
            rw [hparts] at ih
            rcases List.mem_cons.mp h with rfl | h
            · rcases List.mem_cons.mp htoken with rfl | htoken
              · exact List.mem_cons_self
              · exact List.mem_cons_of_mem first (ih htoken List.mem_cons_self)
            · exact List.mem_cons_of_mem first (ih htoken (List.mem_cons_of_mem part h))

end Token

/-! ### Aliases that are left -/

namespace Context

/-- The aliases that are not being expanded. -/
def unexpanded (ctx : Context) (aliases : Table Text) : List Text :=
  aliases.keys.filter fun name => !ctx.isExpanding name

/-- An expansion takes a name away from the aliases that are not being expanded. -/
theorem unexpanded_expand {ctx : Context} {aliases : Table Text} {name : Text}
    (hfree : ctx.isExpanding name = false) (hname : name ∈ aliases.keys) :
    ((ctx.expand name).unexpanded aliases).length < (ctx.unexpanded aliases).length := by
  have hfilter : (ctx.expand name).unexpanded aliases =
      (ctx.unexpanded aliases).filter fun other => other != name := by
    unfold unexpanded
    rw [List.filter_filter]
    refine List.filter_congr fun other _ => ?_
    simp [isExpanding, expand, Bool.and_comm, bne, Bool.beq_eq_decide_eq]
  rw [hfilter]
  refine List.length_filter_lt_length_iff_exists.mpr ⟨name, ?_, by simp⟩
  exact List.mem_filter.mpr ⟨hname, by simp [hfree]⟩

theorem nodup_expand {ctx : Context} {name : Text} (hfree : ctx.isExpanding name = false)
    (h : ctx.expanding.Nodup) : (ctx.expand name).expanding.Nodup := by
  have hnew : name ∉ ctx.expanding := by simpa [isExpanding] using hfree
  have hconcat := List.Nodup.concat hnew h
  rwa [List.concat_eq_append] at hconcat

end Context

namespace Scope

theorem follow_mem {scope : Scope} {fuel : Nat} {visited : List Text} {start target : Text}
    (h : scope.follow fuel visited start = .ok target) :
    target = start ∨ ∃ key, scope.aliases.get? key = some target := by
  induction fuel generalizing visited start with
  | zero => cases h
  | succ fuel ih =>
      unfold follow at h
      cases hget : scope.aliases.get? start with
      | none =>
          rw [hget] at h
          exact .inl (Except.ok.inj h).symm
      | some next =>
          simp only [hget] at h
          split_ifs at h
          rcases ih h with rfl | hkey
          · exact .inr ⟨start, hget⟩
          · exact .inr hkey

/-- Only aliases stand for something, and what they stand for is the target of an alias. -/
theorem mem_of_resolve? {scope : Scope} {name target : Text}
    (h : scope.resolve? name = .ok (some target)) :
    name ∈ scope.aliases.keys ∧ target ∈ scope.aliases.entries.map Prod.snd := by
  unfold resolve? at h
  cases hget : scope.aliases.get? name with
  | none =>
      rw [hget] at h
      cases h
  | some first =>
      simp only [hget] at h
      cases hfollow : scope.follow (scope.aliases.size + 1) [name] first with
      | error chain =>
          rw [hfollow] at h
          cases h
      | ok last =>
          rw [hfollow] at h
          cases h
          constructor
          · exact List.mem_map.mpr ⟨_, Table.mem_of_get? hget, rfl⟩
          · rcases follow_mem hfollow with rfl | ⟨key, hkey⟩
            · exact List.mem_map.mpr ⟨_, Table.mem_of_get? hget, rfl⟩
            · exact List.mem_map.mpr ⟨_, Table.mem_of_get? hkey, rfl⟩

end Scope

namespace Eval

/-! ### What an evaluation nests -/

/-- Tokens, and the context in which they are evaluated. -/
structure Configuration where
  ctx : Context
  tokens : List Token

/-- A configuration substitutes the body of one of its substitutions. -/
inductive Substitutes : Configuration → Configuration → Prop where
  | body {ctx : Context} {list inner : List Token} {body : Text} :
      Token.substitution body ∈ list → Token.parse body = .ok inner →
      Substitutes ⟨ctx, list⟩ ⟨{ ctx with stdout := .outlet 1 }, inner⟩

/-- A configuration expands an alias: its target is evaluated with arguments behind it. -/
inductive Expands (aliases : Table Text) : Configuration → Configuration → Prop where
  | target {ctx : Context} {list inner : List Token} {scope : Scope} {name target : Text}
      (args : List Text) : scope.aliases = aliases →
      expansion? ctx scope name = .ok (some target) → Token.parse target = .ok inner →
      Expands aliases ⟨ctx, list⟩ ⟨ctx.expand name, inner ++ args.map .literal⟩

/-- A configuration nests another. -/
def Nests (aliases : Table Text) (outer inner : Configuration) : Prop :=
  Substitutes outer inner ∨ Expands aliases outer inner

/-- One configuration is nested in another, with a number of expansions on the way. -/
inductive Nested (aliases : Table Text) (outer : Configuration) : Nat → Configuration → Prop where
  | here : Nested aliases outer 0 outer
  | substitution {count : Nat} {middle inner : Configuration} :
      Nested aliases outer count middle → Substitutes middle inner →
      Nested aliases outer count inner
  | expansion {count : Nat} {middle inner : Configuration} :
      Nested aliases outer count middle → Expands aliases middle inner →
      Nested aliases outer (count + 1) inner

variable {aliases : Table Text}

theorem exists_of_expansion? {ctx : Context} {scope : Scope} {name target : Text}
    (h : expansion? ctx scope name = .ok (some target)) :
    ctx.isExpanding name = false ∧ name ∈ scope.aliases.keys ∧
      target ∈ scope.aliases.entries.map Prod.snd := by
  unfold expansion? at h
  split_ifs at h with hexpanding
  · cases h
  · cases hresolve : scope.resolve? name with
    | error chain =>
        rw [hresolve] at h
        cases h
    | ok found =>
        rw [hresolve] at h
        cases h
        exact ⟨by simpa using hexpanding, Scope.mem_of_resolve? hresolve⟩

/-- How deep evaluations can be nested in a configuration, itself counted. -/
def Configuration.rank (aliases : Table Text) (config : Configuration) : Nat :=
  Token.weight config.tokens + 1 +
    (config.ctx.unexpanded aliases).length *
      (Text.mostInk (aliases.entries.map Prod.snd) + 1)

theorem Substitutes.rank_lt {outer inner : Configuration} (h : Substitutes outer inner) :
    inner.rank aliases < outer.rank aliases := by
  obtain ⟨hbody, hparse⟩ := h
  rename_i ctx list tokens body
  have hless : Token.weight tokens < Token.weight list :=
    (Token.weight_parse hparse).trans_lt (Token.lt_weight hbody)
  have hsame : ({ ctx with stdout := .outlet 1 } : Context).unexpanded aliases =
      ctx.unexpanded aliases := rfl
  simp only [Configuration.rank, hsame]
  omega

theorem Expands.rank_lt {outer inner : Configuration} (h : Expands aliases outer inner) :
    inner.rank aliases < outer.rank aliases := by
  obtain ⟨args, rfl, hexpansion, hparse⟩ := h
  rename_i ctx list tokens scope name target
  obtain ⟨hfree, hname, htarget⟩ := exists_of_expansion? hexpansion
  have hleft := Context.unexpanded_expand hfree hname
  have hweight : Token.weight (tokens ++ args.map .literal) ≤
      Text.mostInk (scope.aliases.entries.map Prod.snd) := by
    refine Token.weight_le fun body hbody => ?_
    rcases List.mem_append.mp hbody with hbody | hbody
    · exact (Token.ink_body_lt hparse hbody).trans_le (Text.le_mostInk htarget)
    · obtain ⟨arg, -, hliteral⟩ := List.mem_map.mp hbody
      cases hliteral
  -- The name that is used up makes room for whatever the target weighs.
  simp only [Configuration.rank]
  generalize Text.mostInk (scope.aliases.entries.map Prod.snd) = most at hweight ⊢
  generalize ((ctx.expand name).unexpanded scope.aliases).length = left at hleft ⊢
  have hroom : (left + 1) * (most + 1) ≤ (ctx.unexpanded scope.aliases).length * (most + 1) :=
    Nat.mul_le_mul_right _ hleft
  rw [Nat.succ_mul] at hroom
  omega

theorem Nests.rank_lt {outer inner : Configuration} (h : Nests aliases outer inner) :
    inner.rank aliases < outer.rank aliases := by
  rcases h with h | h
  · exact h.rank_lt
  · exact h.rank_lt

/-- Along nested configurations no alias is expanded twice, and every expansion uses up an
alias that was not being expanded. -/
theorem Nested.expanding {outer inner : Configuration} {count : Nat}
    (h : Nested aliases outer count inner) (hnodup : outer.ctx.expanding.Nodup) :
    inner.ctx.expanding.Nodup ∧
      count + (inner.ctx.unexpanded aliases).length ≤ (outer.ctx.unexpanded aliases).length := by
  induction h with
  | here => exact ⟨hnodup, by omega⟩
  | substitution _ hstep ih =>
      obtain ⟨-, -⟩ := hstep
      exact ih
  | expansion _ hstep ih =>
      obtain ⟨args, rfl, hexpansion, -⟩ := hstep
      obtain ⟨hfree, hname, -⟩ := exists_of_expansion? hexpansion
      have hleft := Context.unexpanded_expand hfree hname
      have hcount := ih.2
      simp only at hcount ⊢
      exact ⟨Context.nodup_expand hfree ih.1, by omega⟩

/-! ### Evaluations that keep the aliases -/

/-- Two actions do the same wherever the aliases are the given ones, and keep them. If `ends`
holds, they also finish. -/
def Steady (aliases : Table Text) (ends : Prop) {α : Type} (a b : Action α) : Prop :=
  ∀ s : Session, s.scope.aliases = aliases →
    b s = a s ∧ (a s).session.scope.aliases = aliases ∧ (ends → (a s).outcome ≠ .unfinished)

namespace Steady

variable {α β : Type} {ends : Prop}

theorem pure (value : α) : Steady aliases ends (Pure.pure value : Action α) (Pure.pure value) := by
  intro s hs
  exact ⟨rfl, hs, fun _ => nofun⟩

theorem fail (error : ShellError) :
    Steady aliases ends (Action.fail error : Action α) (Action.fail error) := by
  intro s hs
  exact ⟨rfl, hs, fun _ => nofun⟩

theorem bind {a b : Action α} {f g : α → Action β} (h : Steady aliases ends a b)
    (hnext : ∀ value, Steady aliases ends (f value) (g value)) :
    Steady aliases ends (a >>= f) (b >>= g) := by
  intro s hs
  obtain ⟨hsame, hkept, hends⟩ := h s hs
  have hother : (b s).outcome = (a s).outcome := by rw [hsame]
  cases houtcome : (a s).outcome with
  | done value =>
      obtain ⟨hsame', hkept', hends'⟩ := hnext value (a s).session hkept
      rw [Action.bind_of_done houtcome, Action.bind_of_done (hother.trans houtcome), hsame, hsame']
      exact ⟨rfl, hkept', hends'⟩
  | failed error =>
      rw [Action.bind_of_failed houtcome, Action.bind_of_failed (hother.trans houtcome), hsame]
      exact ⟨rfl, hkept, by simp⟩
  | unfinished =>
      rw [Action.bind_of_unfinished houtcome, Action.bind_of_unfinished (hother.trans houtcome),
        hsame]
      exact ⟨rfl, hkept, fun h => absurd houtcome (hends h)⟩

/-- What goes on with the scope sees the given aliases. -/
theorem scope {f g : Scope → Action β}
    (hnext : ∀ scope : Scope, scope.aliases = aliases → Steady aliases ends (f scope) (g scope)) :
    Steady aliases ends (Action.scope >>= f) (Action.scope >>= g) := by
  intro s hs
  exact hnext s.scope hs s hs

theorem checkCancelled (ctx : Context) :
    Steady aliases ends (Action.checkCancelled ctx) (Action.checkCancelled ctx) := by
  intro s hs
  rw [Action.checkCancelled_eq]
  split_ifs
  · exact fail .cancelled s hs
  · exact pure () s hs

theorem mapError (f : ShellError → ShellError) {a b : Action α} (h : Steady aliases ends a b) :
    Steady aliases ends (Action.mapError f a) (Action.mapError f b) := by
  intro s hs
  obtain ⟨hsame, hkept, hends⟩ := h s hs
  simp only [Action.mapError, hsame, true_and]
  cases houtcome : (a s).outcome with
  | done value => exact ⟨hkept, fun _ => by simp [houtcome]⟩
  | failed error => exact ⟨hkept, fun _ => nofun⟩
  | unfinished => exact ⟨hkept, fun h => absurd houtcome (hends h)⟩

theorem capture (fd : Nat) {a b : Action α} (h : Steady aliases ends a b) :
    Steady aliases ends (Action.capture fd a) (Action.capture fd b) := by
  intro s hs
  obtain ⟨hsame, hkept, hends⟩ := h s hs
  simp only [Action.capture, hsame, true_and]
  cases houtcome : (a s).outcome with
  | done value => exact ⟨hkept, fun _ => nofun⟩
  | failed error => exact ⟨hkept, fun _ => nofun⟩
  | unfinished => exact ⟨hkept, fun h => absurd houtcome (hends h)⟩

variable {nested nested' : TokenEvaluator} {run : Runner} {ctx : Context}

theorem parse {f g : List Token → Action Flow} {expr : Text}
    (h : ∀ tokens, Token.parse expr = .ok tokens → Steady aliases ends (f tokens) (g tokens)) :
    Steady aliases ends (Eval.parse expr >>= f) (Eval.parse expr >>= g) := by
  unfold Eval.parse
  cases hparse : Token.parse expr with
  | ok tokens => exact h tokens hparse
  | error error =>
      intro s hs
      exact ⟨rfl, hs, fun _ => nofun⟩

theorem substitution {body : Text}
    (h : ∀ tokens, Token.parse body = .ok tokens →
      Steady aliases ends (nested { ctx with stdout := .outlet 1 } tokens)
        (nested' { ctx with stdout := .outlet 1 } tokens)) :
    Steady aliases ends (Eval.substitution nested ctx body) (Eval.substitution nested' ctx body) :=
  bind (mapError _ (capture 1 (parse h))) fun _ => pure _

theorem arguments {list : List Token}
    (h : ∀ config, Substitutes ⟨ctx, list⟩ config →
      Steady aliases ends (nested config.ctx config.tokens) (nested' config.ctx config.tokens)) :
    Steady aliases ends (Eval.arguments nested ctx list) (Eval.arguments nested' ctx list) := by
  induction list with
  | nil => exact pure _
  | cons token rest ih =>
      have hrest := ih fun config hsub => by
        obtain ⟨hbody, hparse⟩ := hsub
        exact h _ (.body (List.mem_cons_of_mem token hbody) hparse)
      unfold Eval.arguments
      split_ifs with hkind
      · have hself : token = Token.substitution token.value := by rw [Token.substitution, ← hkind]
        refine bind (substitution fun tokens hparse => ?_) fun result => ?_
        · exact h _ (.body (by rw [← hself]; exact List.mem_cons_self) hparse)
        · rcases result with ⟨value, flow⟩
          cases flow with
          | exit => exact pure none
          | proceed => exact bind hrest fun _ => pure _
      · exact bind hrest fun _ => pure _

theorem command {list : List Token} {name : Text} {args : List Text}
    (hrun : ∀ ctx name args, Steady aliases ends (run ctx name args) (run ctx name args))
    (h : ∀ config, Expands aliases ⟨ctx, list⟩ config →
      Steady aliases ends (nested config.ctx config.tokens) (nested' config.ctx config.tokens)) :
    Steady aliases ends (Eval.command nested run ctx name args)
      (Eval.command nested' run ctx name args) := by
  unfold Eval.command
  split_ifs
  · exact pure _
  · refine scope fun scope hscope => ?_
    cases hexpansion : expansion? ctx scope name with
    | error error =>
        intro s hs
        exact ⟨rfl, hs, fun _ => nofun⟩
    | ok found =>
        cases found with
        | none => exact hrun ctx name args
        | some target =>
            exact parse fun tokens hparse => h _ (.target args hscope hexpansion hparse)

theorem statement {list : List Token}
    (hrun : ∀ ctx name args, Steady aliases ends (run ctx name args) (run ctx name args))
    (h : ∀ config, Nests aliases ⟨ctx, list⟩ config →
      Steady aliases ends (nested config.ctx config.tokens) (nested' config.ctx config.tokens)) :
    Steady aliases ends (Eval.statement nested run ctx list)
      (Eval.statement nested' run ctx list) := by
  unfold Eval.statement
  refine bind (arguments fun config hsub => h config (.inl hsub)) fun result => ?_
  rcases result with _ | _ | ⟨name, args⟩
  · exact pure _
  · exact pure _
  · exact command hrun fun config hexpands => h config (.inr hexpands)

/-- **The evaluation of tokens depends on what it nests only**: on how the bodies of its
substitutions and the targets of its aliases are evaluated. -/
theorem statements {list : List Token}
    (hrun : ∀ ctx name args, Steady aliases ends (run ctx name args) (run ctx name args))
    (h : ∀ config, Nests aliases ⟨ctx, list⟩ config →
      Steady aliases ends (nested config.ctx config.tokens) (nested' config.ctx config.tokens)) :
    Steady aliases ends (Eval.statements nested run ctx (Token.statements list))
      (Eval.statements nested' run ctx (Token.statements list)) := by
  have hpart : ∀ part ∈ Token.statements list, ∀ config, Nests aliases ⟨ctx, part⟩ config →
      Nests aliases ⟨ctx, list⟩ config := by
    rintro part hpart config (⟨hbody, hparse⟩ | ⟨args, hscope, hexpansion, hparse⟩)
    · exact .inl (.body (Token.mem_of_mem_statements hpart hbody) hparse)
    · exact .inr (.target args hscope hexpansion hparse)
  generalize Token.statements list = parts at hpart
  induction parts with
  | nil => exact pure _
  | cons first rest ih =>
      obtain ⟨hfirst, hrest⟩ := List.forall_mem_cons.mp hpart
      unfold Eval.statements
      refine bind (checkCancelled ctx) fun _ => ?_
      refine bind (statement hrun fun config hnests => h config (hfirst config hnests))
        fun flow => ?_
      cases flow with
      | exit => exact pure _
      | proceed => exact ih hrest

end Steady

variable {run : Runner}

/-- **An evaluation that may nest as deep as its rank finishes**, and more depth does not
change it. -/
theorem steady_tokens
    (hrun : ∀ ctx name args, Steady aliases True (run ctx name args) (run ctx name args))
    {config : Configuration} {depth depth' : Nat} (h : config.rank aliases ≤ depth)
    (h' : config.rank aliases ≤ depth') :
    Steady aliases True (tokens (fun _ => run) depth config.ctx config.tokens)
      (tokens (fun _ => run) depth' config.ctx config.tokens) := by
  induction depth generalizing depth' config with
  | zero =>
      unfold Configuration.rank at h
      omega
  | succ depth ih =>
      cases depth' with
      | zero =>
          unfold Configuration.rank at h'
          omega
      | succ depth' =>
          refine Steady.statements hrun fun inner hnests => ?_
          have hless : inner.rank aliases < config.rank aliases := hnests.rank_lt
          exact ih (by omega) (by omega)

/-- The depth that is enough for an expression in a context. -/
def enough (aliases : Table Text) (ctx : Context) (expr : Text) : Nat :=
  (ink expr).length + 1 +
    (ctx.unexpanded aliases).length * (Text.mostInk (aliases.entries.map Prod.snd) + 1)

theorem rank_le_enough (aliases : Table Text) (ctx : Context) {expr : Text} {list : List Token}
    (h : Token.parse expr = .ok list) :
    Configuration.rank aliases ⟨ctx, list⟩ ≤ enough aliases ctx expr := by
  have hweight := Token.weight_parse h
  simp only [Configuration.rank, enough]
  omega

/-- **Expansions and substitutions cannot go on for ever.** Suppose that every command returns
and leaves the aliases as they are. Then, whatever the aliases are and however long a chain of
them may be, an evaluation

* finishes if it may nest to a depth that is computed from the expression, the aliases and the
  context, and more depth does not change it;
* depends only on the evaluations of what it nests: of the bodies of its substitutions and of
  the targets of aliases;
* never expands an alias inside of itself, so that expansions nest at most as deep as there
  are aliases that are not being expanded;
* substitutes bodies with less ink than the expression that they were parsed from. -/
theorem nesting_ends
    (hrun : ∀ ctx name args s, (run ctx name args s).outcome ≠ .unfinished ∧
      (run ctx name args s).session.scope.aliases = s.scope.aliases)
    (ctx : Context) (hnodup : ctx.expanding.Nodup) (expr : Text) (s : Session) :
    let evaluate := fun depth => text (tokens (fun _ => run) depth) ctx expr s
    (∀ depth, enough s.scope.aliases ctx expr ≤ depth →
      (evaluate depth).outcome ≠ .unfinished ∧
      evaluate depth = evaluate (enough s.scope.aliases ctx expr)) ∧
    (∀ (nested nested' : TokenEvaluator) (config : Configuration),
      (∀ inner, Nests s.scope.aliases config inner →
        Steady s.scope.aliases False (nested inner.ctx inner.tokens)
          (nested' inner.ctx inner.tokens)) →
      Steady s.scope.aliases False
        (statements nested run config.ctx (Token.statements config.tokens))
        (statements nested' run config.ctx (Token.statements config.tokens))) ∧
    (∀ list, Token.parse expr = .ok list → ∀ count inner,
      Nested s.scope.aliases ⟨ctx, list⟩ count inner →
      inner.ctx.expanding.Nodup ∧ count ≤ (ctx.unexpanded s.scope.aliases).length) ∧
    (∀ e list, Token.parse e = .ok list → ∀ body, Token.substitution body ∈ list →
      (ink body).length < (ink e).length) := by
  have hsteady : ∀ (ends : Prop) (ctx : Context) (name : Text) (args : List Text),
      Steady s.scope.aliases ends (run ctx name args) (run ctx name args) := by
    intro ends ctx name args t ht
    obtain ⟨hfinishes, hkept⟩ := hrun ctx name args t
    exact ⟨rfl, hkept.trans ht, fun _ => hfinishes⟩
  refine ⟨fun depth hdepth => ?_, fun nested nested' config hnested => ?_,
    fun list hparse count inner hnested => ?_, fun e list hparse body hbody => ?_⟩
  · have htext : Steady s.scope.aliases True
        (text (tokens (fun _ => run) (enough s.scope.aliases ctx expr)) ctx expr)
        (text (tokens (fun _ => run) depth) ctx expr) := by
      refine Steady.parse fun list hparse => ?_
      have hrank := rank_le_enough s.scope.aliases ctx hparse
      exact steady_tokens (hsteady True) hrank (hrank.trans hdepth)
    obtain ⟨hsame, -, hends⟩ := htext s rfl
    have hfinished := hends trivial
    rw [← hsame] at hfinished
    exact ⟨hfinished, hsame⟩
  · exact Steady.statements (hsteady False) hnested
  · obtain ⟨hexpanding, hcount⟩ := hnested.expanding hnodup
    exact ⟨hexpanding, (Nat.le_add_right _ _).trans hcount⟩
  · exact Token.ink_body_lt hparse hbody

/-- Two aliases that expand to each other, with a substitution of themselves behind. -/
def mutualAliases : Session where
  scope := ({ aliasDepth := 64 } : Scope).setAlias "a" "b (a)" |>.setAlias "b" "a (b)"
  world := {}

/-- Each of the two is expanded once on every way down; where it is met again it is run as a
command, which writes its name. -/
theorem nesting_ends_mutual :
    let run : Runner := fun _ name args s =>
      ⟨.done .proceed, s, [.started name args, .wrote 1 (Text.utf8 name)]⟩
    let evaluation := text (tokens (fun _ => run) depthLimit) {} "a (b)" mutualAliases
    evaluation.outcome = .done .proceed ∧
      evaluation.trace = [.started "b" [], .started "a" [], .started "b" ["a", "b"],
        .started "a" [], .started "b" [], .started "a" ["b", "a", "b"],
        .wrote 1 (Text.utf8 "a")] := by
  intro run evaluation
  have hrun : ∀ ctx name args s, (run ctx name args s).outcome ≠ .unfinished ∧
      (run ctx name args s).session.scope.aliases = s.scope.aliases :=
    fun _ _ _ _ => ⟨nofun, rfl⟩
  have henough : enough mutualAliases.scope.aliases {} "a (b)" = 15 := by decide
  have hends := nesting_ends hrun {} List.nodup_nil "a (b)" mutualAliases
  have hdepth : enough mutualAliases.scope.aliases {} "a (b)" ≤ depthLimit := by
    rw [henough]
    decide
  have hsame : evaluation = text (tokens (fun _ => run) 15) {} "a (b)" mutualAliases := by
    rw [← henough]
    exact (hends.1 depthLimit hdepth).2
  rw [hsame]
  decide +kernel

end Eval

end Conch
