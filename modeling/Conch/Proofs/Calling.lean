import Conch.Proofs.Sequencing
import Conch.Proofs.Tables

/-!
Calling a function. A function is an alias for an expression that evaluates its body as a
call. On the way from the name of the function to its body the arguments are handed on as
literal tokens, become the arguments of a built-in command and pass its flags.

* `function_call`: none of this looks into the arguments. The call has the effects of its body
  in a fresh frame that holds the arguments as they were given.
-/

namespace Conch

/-! ### Flags -/

namespace Flags

theorem body?_eq_none {arg : Text} (h : arg.head? ≠ some '-') : body? arg = none := by
  have hstart : ∀ more : Text, Text.afterStart? ('-' :: more) arg = none := by
    intro more
    unfold Text.afterStart?
    cases arg with
    | nil => rfl
    | cons c rest =>
        have hc : c ≠ '-' := fun hdash => h (by rw [hdash]; rfl)
        simp [List.isPrefixOf, Ne.symm hc]
  unfold body?
  rw [show ("--" : Text) = '-' :: ['-'] from rfl, show ("-" : Text) = '-' :: [] from rfl, hstart,
    hstart]
  rfl

/-- Flags end at an argument that does not begin with a dash. -/
theorem read_argument (known : List (Text × Kind)) {arg : Text} (h : arg.head? ≠ some '-')
    (args : List Text) : read known (arg :: args) = .ok { rest := arg :: args } := by
  have hend : arg ≠ "--" := by
    rintro rfl
    exact h rfl
  rw [read, if_neg hend, body?_eq_none h]

end Flags

/-! ### Statements without substitutions -/

theorem Token.statements_of_no_split {list : List Token} (hnonempty : list ≠ [])
    (h : ∀ token ∈ list, token.isSplit = false) : Token.statements list = [list] := by
  unfold Token.statements
  rw [List.splitOnP_eq_singleton (by simpa using h)]
  simp [hnonempty]

/-- An outcome as it is seen outside the built-in command `name`. -/
def Outcome.inBuiltin {α : Type} (name : Text) : Outcome α → Outcome α
  | .failed error => .failed (error.inBuiltin name)
  | outcome => outcome

theorem ShellError.inBuiltin_eq (name : Text) (error : ShellError) :
    error.inBuiltin name = if error = .cancelled then .cancelled else .builtin name error := by
  cases error <;> rfl

namespace Builtin

theorem mem_all (builtin : Builtin) : builtin ∈ all := by
  cases builtin with
  | utility u => cases u <;> decide
  | _ => decide

/-- Each command is called by the name under which it is listed. -/
theorem ofName?_name (builtin : Builtin) : ofName? builtin.name = some builtin := by
  have hall : ∀ listed ∈ all, ofName? listed.name = some listed := by decide +kernel
  exact hall builtin (mem_all builtin)

end Builtin

namespace Eval

variable {launcher : Process.Launcher}

/-- Tokens that are no substitutions are arguments as they are. -/
theorem arguments_of_no_substitution (nested : TokenEvaluator) (ctx : Context) {list : List Token}
    (h : ∀ token ∈ list, token.kind ≠ .substitution) :
    arguments nested ctx list = pure (some (list.map (·.value))) := by
  induction list with
  | nil => rfl
  | cons token rest ih =>
      obtain ⟨htoken, hrest⟩ := List.forall_mem_cons.mp h
      rw [arguments, if_neg htoken, ih hrest]
      rfl

/-- An alias whose target is no alias stands for its target. -/
theorem expansion?_of_target {ctx : Context} {scope : Scope} {name target : Text}
    (hexpanding : ctx.isExpanding name = false)
    (hname : scope.aliases.get? name = some target) (htarget : scope.aliases.get? target = none) :
    expansion? ctx scope name = .ok (some target) := by
  have hresolve : scope.resolve? name = .ok (some target) := by
    unfold Scope.resolve?
    rw [hname]
    dsimp only
    rw [Scope.follow, htarget]
    rfl
  unfold expansion?
  rw [hexpanding, hresolve]
  rfl

/-- A name that is no alias stands for itself. -/
theorem expansion?_of_none {ctx : Context} {scope : Scope} {name : Text}
    (hname : scope.aliases.get? name = none) : expansion? ctx scope name = .ok none := by
  unfold expansion? Scope.resolve?
  rw [hname]
  split_ifs <;> rfl

/-! ### From the name of a function to its body -/

/-- What the target of a function is parsed to, and the arguments behind it. -/
def callTokens (body : Text) (args : List Text) : List Token :=
  [.word "l-eval", .word "--fn", .raw body] ++ args.map .literal

theorem kind_of_mem_callTokens {body : Text} {args : List Text} {token : Token}
    (h : token ∈ callTokens body args) : token.kind ≠ .split ∧ token.kind ≠ .substitution := by
  simp only [callTokens, List.mem_append, List.mem_cons, List.mem_map, List.not_mem_nil,
    or_false] at h
  rcases h with (rfl | rfl | rfl) | ⟨arg, -, rfl⟩ <;> exact ⟨nofun, nofun⟩

theorem map_value_callTokens (body : Text) (args : List Text) :
    (callTokens body args).map (·.value) = ("l-eval" : Text) :: "--fn" :: body :: args := by
  simp only [callTokens, List.map_append, List.map_map]
  exact congrArg (("l-eval" : Text) :: "--fn" :: body :: ·) (List.map_id args)

theorem andThen_proceed (first : Action Flow) : andThen first (pure .proceed) = first := by
  unfold andThen
  conv_rhs => rw [← bind_pure first]
  congr 1
  funext flow
  cases flow <;> rfl

/-- Tokens that are neither marks nor substitutions are one statement, and their values are its
arguments. -/
theorem statements_of_plain (nested : TokenEvaluator) (run : Runner) (ctx : Context)
    {list : List Token} (h : ∀ token ∈ list, token.kind ≠ .split ∧ token.kind ≠ .substitution)
    {name : Text} {args : List Text} (hvalues : list.map (·.value) = name :: args) :
    statements nested run ctx (Token.statements list) =
      (do
        Action.checkCancelled ctx
        command nested run ctx name args) := by
  have hsplit : ∀ token ∈ list, token.isSplit = false := fun token htoken =>
    beq_false_of_ne (h token htoken).1
  have hnonempty : list ≠ [] := by
    rintro rfl
    cases hvalues
  rw [Token.statements_of_no_split hnonempty hsplit, statements_cons, statements, andThen_proceed,
    statement, arguments_of_no_substitution nested ctx fun token htoken => (h token htoken).2,
    hvalues, pure_bind]

/-- The tokens of a call are one statement, and their values are its arguments. -/
theorem statements_callTokens (nested : TokenEvaluator) (run : Runner) (ctx : Context)
    (body : Text) (args : List Text) :
    statements nested run ctx (Token.statements (callTokens body args)) =
      (do
        Action.checkCancelled ctx
        command nested run ctx "l-eval" ("--fn" :: body :: args)) :=
  statements_of_plain nested run ctx (fun _ htoken => kind_of_mem_callTokens htoken)
    (map_value_callTokens body args)

/-- The flags of a call, whose body does not begin with a dash. -/
theorem readFlags_call {body : Text} (hbody : body.head? ≠ some '-') (args : List Text) :
    Flags.read [("fn", .switch)] ("--fn" :: body :: args) =
      .ok ⟨[("fn", .switch true)], body :: args⟩ := by
  have hflag : ∀ rest, Flags.read [("fn", .switch)] ("--fn" :: rest) =
      (Flags.read [("fn", .switch)] rest).map (.prepend "fn" (.switch true)) := fun _ => rfl
  rw [hflag, Flags.read_argument _ hbody]
  rfl

/-- The built-in command of a call takes its arguments as they are. -/
theorem runEval_call (evaluate : Builtin.Evaluator) (ctx : Context) (name : Text) {body : Text}
    (hbody : body.head? ≠ some '-') (args : List Text) :
    Builtin.runEval evaluate ctx name ("--fn" :: body :: args) =
      Action.call args (evaluate ctx body) := by
  unfold Builtin.runEval Flags.parse
  rw [readFlags_call hbody]
  rfl

theorem ofName?_eval : Builtin.ofName? "l-eval" = some .eval := Builtin.ofName?_name .eval

/-- A built-in command that is started by a name does what it does, and its failures are seen
outside of it. -/
theorem dispatch_of_builtin {name : Text} {builtin : Builtin}
    (hname : Builtin.ofName? name = some builtin) (evaluate : Builtin.Evaluator) (ctx : Context)
    (args : List Text) (session : Session) :
    dispatch launcher evaluate ctx name args session =
      let run := builtin.run evaluate ctx name args session
      ⟨run.outcome.inBuiltin name, run.session, .started name args :: run.trace⟩ := by
  have hdispatch : dispatch launcher evaluate ctx name args = (do
      Action.emit (.started name args)
      Action.mapError (.inBuiltin name) (builtin.run evaluate ctx name args)) := by
    unfold dispatch
    rw [hname]
  have hwrap : Action.mapError (.inBuiltin name) (builtin.run evaluate ctx name args) session =
      let run := builtin.run evaluate ctx name args session
      ⟨run.outcome.inBuiltin name, run.session, run.trace⟩ := by
    simp only [Action.mapError]
    cases houtcome : (builtin.run evaluate ctx name args session).outcome <;>
      simp only [Outcome.inBuiltin, ← houtcome]
  rw [hdispatch]
  show Finished.mk (Action.mapError _ _ session).outcome (Action.mapError _ _ session).session
    (.started name args :: (Action.mapError _ _ session).trace) = _
  rw [hwrap]

/-- A command that is no built-in one starts a program. -/
theorem dispatch_of_program {name : Text} (hname : Builtin.ofName? name = none)
    (evaluate : Builtin.Evaluator) (ctx : Context) (args : List Text) :
    dispatch launcher evaluate ctx name args = (do
      Action.emit (.started name args)
      Process.launch launcher ctx name args
      return .proceed) := by
  unfold dispatch
  rw [hname]

theorem dispatch_eval (evaluate : Builtin.Evaluator) (ctx : Context) {body : Text}
    (hbody : body.head? ≠ some '-') (args : List Text) :
    dispatch launcher evaluate ctx "l-eval" ("--fn" :: body :: args) =
      (do
        Action.emit (.started "l-eval" ("--fn" :: body :: args))
        Action.mapError (.inBuiltin "l-eval") (Action.call args (evaluate ctx body))) := by
  unfold dispatch
  rw [ofName?_eval, ← runEval_call evaluate ctx "l-eval" hbody args]
  rfl

/-- A function can be called by its name: its name stands for its target, neither the target
nor the command of the call is an alias, and nothing is cancelled. -/
structure IsCallable (ctx : Context) (name body : Text) (session : Session) : Prop where
  free : ctx.isExpanding name = false
  defined : session.scope.aliases.get? name = some (Builtin.functionTarget body)
  target : session.scope.aliases.get? (Builtin.functionTarget body) = none
  command : session.scope.aliases.get? "l-eval" = none
  running : session.world.tokens.isCancelled ctx.cancel = false

theorem command_of_none {nested : TokenEvaluator} {run : Runner} {ctx : Context} {name : Text}
    (hname : name ≠ []) {session : Session} (h : session.scope.aliases.get? name = none)
    (args : List Text) : command nested run ctx name args session = run ctx name args session := by
  have hexpansion : expansion? ctx session.scope name = .ok none := expansion?_of_none h
  have hscope : ∀ next : Scope → Action Flow,
      (Action.scope >>= next) session = next session.scope session := fun _ => rfl
  rw [command, if_neg (by simpa using hname), hscope, hexpansion]
  rfl

theorem command_of_target {nested : TokenEvaluator} {run : Runner} {ctx : Context}
    {name target : Text} {list : List Token} (hname : name ≠ []) {session : Session}
    (hexpansion : expansion? ctx session.scope name = .ok (some target))
    (hparse : Token.parse target = .ok list) (args : List Text) :
    command nested run ctx name args session =
      nested (ctx.expand name) (list ++ args.map .literal) session := by
  have hscope : ∀ next : Scope → Action Flow,
      (Action.scope >>= next) session = next session.scope session := fun _ => rfl
  have hparsed : parse target = Action.pure list := by
    unfold parse
    rw [hparse]
  rw [command, if_neg (by simpa using hname), hscope, hexpansion]
  show (parse target >>= fun tokens => nested (ctx.expand name) (tokens ++ args.map .literal))
    session = _
  rw [hparsed]
  rfl

theorem checkCancelled_bind {ctx : Context} {session : Session}
    (h : session.world.tokens.isCancelled ctx.cancel = false) (next : Unit → Action Flow) :
    (Action.checkCancelled ctx >>= next) session = next () session := by
  have hcheck : Action.checkCancelled ctx session = Action.pure () session := by
    rw [Action.checkCancelled_eq, h]
    rfl
  have hdone : (Action.checkCancelled ctx session).outcome = .done () := by rw [hcheck]; rfl
  rw [Action.bind_of_done hdone, hcheck]
  rfl

/-- A command can be started by its name: the name is no alias, and nothing is cancelled. -/
structure CanStart (ctx : Context) (name : Text) (s : Session) : Prop where
  unaliased : s.scope.aliases.get? name = none
  running : s.world.tokens.isCancelled ctx.cancel = false

/-- Without depth, nothing is evaluated that was read. -/
theorem text_zero {run : Builtin.Evaluator → Runner} {expr : Text} {list : List Token}
    (hparse : Token.parse expr = .ok list) (ctx : Context) (s : Session) :
    text (tokens run 0) ctx expr s = ⟨.unfinished, s, []⟩ := by
  rw [text_of_parse hparse]
  rfl

/-- An expression of plain tokens runs the command that they name. -/
theorem text_of_plain {expr : Text} {list : List Token} (hparse : Token.parse expr = .ok list)
    (hplain : ∀ token ∈ list, token.kind ≠ .split ∧ token.kind ≠ .substitution) {name : Text}
    {args : List Text} (hvalues : list.map (·.value) = name :: args) (hname : name ≠ [])
    {ctx : Context} {s : Session} (hstart : CanStart ctx name s) (depth : Nat) :
    text (tokens (dispatch launcher) (depth + 1)) ctx expr s =
      dispatch launcher (text (tokens (dispatch launcher) depth)) ctx name args s := by
  rw [text_of_parse hparse]
  show statements (tokens (dispatch launcher) depth)
    (dispatch launcher (text (tokens (dispatch launcher) depth))) ctx (Token.statements list) s = _
  rw [statements_of_plain _ _ ctx hplain hvalues, checkCancelled_bind hstart.running,
    command_of_none hname hstart.unaliased]

/-- The name of a function starts the call of its body. -/
theorem command_function {name body : Text} (hname : name ≠ []) (hbody : body.head? ≠ some '-')
    (hparse : Token.parse (Builtin.functionTarget body) =
      .ok [.word "l-eval", .word "--fn", .raw body])
    (depth : Nat) (run : Runner) {ctx : Context} {session : Session}
    (h : IsCallable ctx name body session) (args : List Text) :
    command (tokens (dispatch launcher) (depth + 1)) run ctx name args session =
      (do
        Action.emit (.started "l-eval" ("--fn" :: body :: args))
        Action.mapError (.inBuiltin "l-eval")
          (Action.call args (text (tokens (dispatch launcher) depth) (ctx.expand name) body)) :
        Action Flow) session := by
  have hrunning : session.world.tokens.isCancelled (ctx.expand name).cancel = false := h.running
  rw [command_of_target hname (expansion?_of_target h.free h.defined h.target) hparse]
  show statements (tokens (dispatch launcher) depth)
    (dispatch launcher (text (tokens (dispatch launcher) depth))) (ctx.expand name)
    (Token.statements (callTokens body args)) session = _
  rw [statements_callTokens, checkCancelled_bind hrunning,
    command_of_none (by decide) h.command, dispatch_eval _ _ hbody]

/-- A statement does what the command does that its arguments name. -/
theorem statement_of_arguments {nested : TokenEvaluator} {run : Runner} {ctx : Context}
    {list : List Token} {session before : Session} {trace : Trace} {name : Text}
    {args : List Text}
    (h : arguments nested ctx list session = ⟨.done (some (name :: args)), before, trace⟩) :
    statement nested run ctx list session =
      ⟨(command nested run ctx name args before).outcome,
        (command nested run ctx name args before).session,
        trace ++ (command nested run ctx name args before).trace⟩ := by
  show Action.bind (arguments nested ctx list) _ session = _
  unfold Action.bind
  rw [h]

/-- How a call ends that is started as a command, by how what is called ends. -/
theorem started_call (event : Event) (wrap : ShellError → ShellError) (args : List Text)
    (action : Action Flow) (before : Session) :
    let run := action { before with scope := before.scope.enterCall args }
    let call :=
      (Action.emit event >>= fun _ => Action.mapError wrap (Action.call args action)) before
    call.session =
      { run.session with scope := run.session.scope.leaveCall before.scope.frame } ∧
    call.trace = event :: run.trace ∧
    (∀ flow, run.outcome = .done flow → call.outcome = .done flow) ∧
    (∀ error, run.outcome = .failed error → call.outcome = .failed (wrap error)) ∧
    (run.outcome = .unfinished → call.outcome = .unfinished) := by
  intro run call
  have hcall : call = ⟨(Action.mapError wrap (Action.call args action) before).outcome,
      (Action.mapError wrap (Action.call args action) before).session,
      event :: (Action.mapError wrap (Action.call args action) before).trace⟩ := rfl
  have hrun : (Action.call args action before).outcome = run.outcome := rfl
  rw [hcall, Action.mapError]
  cases houtcome : run.outcome <;> simp [hrun, houtcome] <;> exact ⟨rfl, rfl⟩

theorem ofName?_fn : Builtin.ofName? "l-fn" = some .fn := Builtin.ofName?_name .fn

/-- Defining a function stores its target and does nothing else. -/
theorem dispatch_fn (evaluate : Builtin.Evaluator) (ctx : Context) (name body : Text)
    (session : Session) :
    dispatch launcher evaluate ctx "l-fn" [name, body] session =
      ⟨.done .proceed,
        { session with scope := session.scope.setAlias name (Builtin.functionTarget body) },
        [.started "l-fn" [name, body]]⟩ := by
  unfold dispatch
  rw [ofName?_fn]
  rfl

/-- **Calling a function is evaluating its body with the arguments as they are.** To define a
function is to store its target under its name. From then on, while the function can be called
by its name, a statement whose arguments are the name of the function and any texts does what
the body does in a fresh frame with these texts as arguments, with the name being expanded.
Then the frame of the caller comes back and gets what the call returned. The call proceeds or
ends the shell as the body does, and a failure of the body is seen as one inside the command
that evaluates, a cancellation as what it is. -/
theorem function_call {name body : Text} (hname : name ≠ []) (hbody : body.head? ≠ some '-')
    (hparse : Token.parse (Builtin.functionTarget body) =
      .ok [.word "l-eval", .word "--fn", .raw body])
    (args : List Text) :
    (∀ evaluate ctx session, ∃ scope : Scope,
      dispatch launcher evaluate ctx "l-fn" [name, body] session =
        ⟨.done .proceed, { session with scope := scope }, [.started "l-fn" [name, body]]⟩ ∧
      scope = session.scope.setAlias name (Builtin.functionTarget body) ∧
      scope.aliases.get? name = some (Builtin.functionTarget body)) ∧
    ∀ depth ctx list session before trace,
      arguments (tokens (dispatch launcher) (depth + 1)) ctx list session =
        ⟨.done (some (name :: args)), before, trace⟩ →
      IsCallable ctx name body before →
      let run := text (tokens (dispatch launcher) depth) (ctx.expand name) body
        { before with scope := before.scope.enterCall args }
      let call := statement (tokens (dispatch launcher) (depth + 1))
        (dispatch launcher (text (tokens (dispatch launcher) (depth + 1)))) ctx list session
      call.session =
        { run.session with scope := run.session.scope.leaveCall before.scope.frame } ∧
      call.trace = trace ++ .started "l-eval" ("--fn" :: body :: args) :: run.trace ∧
      (∀ flow, run.outcome = .done flow → call.outcome = .done flow) ∧
      (∀ error, run.outcome = .failed error →
        call.outcome =
          .failed (if error = .cancelled then .cancelled else .builtin "l-eval" error)) ∧
      (run.outcome = .unfinished → call.outcome = .unfinished) := by
  constructor
  · intro evaluate ctx session
    refine ⟨_, dispatch_fn evaluate ctx name body session, rfl, ?_⟩
    exact (Table.get?_insert ..).trans (if_pos rfl)
  · intro depth ctx list session before trace harguments hcallable run call
    have hcall : call = _ := statement_of_arguments harguments
    rw [command_function hname hbody hparse depth _ hcallable args] at hcall
    rw [hcall]
    obtain ⟨hsession, htrace, hflow, hfailed, hunfinished⟩ :=
      started_call (.started "l-eval" ("--fn" :: body :: args)) (.inBuiltin "l-eval") args
        (text (tokens (dispatch launcher) depth) (ctx.expand name) body) before
    refine ⟨hsession, congrArg (trace ++ ·) htrace, hflow, fun error herror => ?_, hunfinished⟩
    rw [← ShellError.inBuiltin_eq]
    exact hfailed error herror

/-- A session in which a function is defined and nothing else. -/
def withFunction (name body : Text) : Session where
  scope := ({ aliasDepth := 64 } : Scope).setAlias name (Builtin.functionTarget body)
  world := {}

/-- A function that writes two of its arguments and returns the third. They look like a sequence,
a flag and an open group. -/
theorem function_call_verbatim :
    ∃ call,
      statement (tokens (dispatch Process.start) 4)
        (dispatch Process.start (text (tokens (dispatch Process.start) 4))) {}
        [.word "f", .word "a; b", .word "--fn", .word "(c"]
        (withFunction "f" "l-echo (l-arg 0) (l-arg 1); l-return k (l-arg 2)") = call ∧
      call.outcome = .done .proceed ∧
      Trace.output 1 call.trace = Text.utf8 "a; b --fn\n" ∧
      call.session.scope.frame.returns.get? "k" = some "(c" := by
  have harguments : arguments (tokens (dispatch Process.start) 4) {}
      [.word "f", .word "a; b", .word "--fn", .word "(c"]
      (withFunction "f" "l-echo (l-arg 0) (l-arg 1); l-return k (l-arg 2)") =
        ⟨.done (some ["f", "a; b", "--fn", "(c"]),
          withFunction "f" "l-echo (l-arg 0) (l-arg 1); l-return k (l-arg 2)", []⟩ := rfl
  have hcallable : IsCallable {} "f" "l-echo (l-arg 0) (l-arg 1); l-return k (l-arg 2)"
      (withFunction "f" "l-echo (l-arg 0) (l-arg 1); l-return k (l-arg 2)") :=
    ⟨rfl, by decide, by decide, by decide, rfl⟩
  obtain ⟨hsession, htrace, hflow, -, -⟩ :=
    (function_call (by decide) (by decide) (by decide) ["a; b", "--fn", "(c"]).2 3 {} _ _ _ _
      harguments hcallable
  refine ⟨_, rfl, hflow .proceed (by decide +kernel), ?_, ?_⟩
  · rw [htrace]
    decide +kernel
  · rw [hsession]
    decide +kernel

end Eval

end Conch
