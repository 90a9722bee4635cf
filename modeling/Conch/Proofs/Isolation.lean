import Conch.Proofs.Calling

/-!
Calls are isolated from the frame of their caller. A call gets a fresh frame, so nothing of the
frame of its caller goes into it, and when it ends, however it ends, that frame comes back with
the returns of the call on top of its own.

* `Scope.SharesShell`: scopes that differ in nothing but their frames. The scopes of two calls
  made from them are the same scope (`Scope.SharesShell.enterCall_eq`).
* `call_isolated`: two runs of one call from such scopes differ in the frames of the callers
  only, and each caller keeps its own.
-/

namespace Conch

/-- Scopes with the same aliases and global variables. Their frames may be any. -/
structure Scope.SharesShell (first second : Scope) : Prop where
  aliases : first.aliases = second.aliases
  aliasDepth : first.aliasDepth = second.aliasDepth
  globals : first.globals = second.globals

/-- Nothing of the frame of a caller goes into a call. -/
theorem Scope.SharesShell.enterCall_eq {first second : Scope} (h : first.SharesShell second)
    (args : List Text) : first.enterCall args = second.enterCall args := by
  unfold enterCall
  rw [h.aliases, h.aliasDepth, h.globals]

/-- A frame when a call has returned to it: the variables and the arguments that it had, and
the returns of the call over its own. -/
structure Frame.Receives (after before : Frame) (returned : Table Text) : Prop where
  vars : after.vars = before.vars
  args : after.args = before.args
  returns : ∀ key, after.returns.get? key = (returned.get? key).or (before.returns.get? key)

theorem Scope.receives_leaveCall (scope : Scope) (caller : Frame) :
    (scope.leaveCall caller).frame.Receives caller scope.frame.returns :=
  ⟨rfl, rfl, Table.get?_merge caller.returns scope.frame.returns⟩

namespace Eval

/-- An argument list of the command that evaluates by which it calls a body with arguments. -/
def Calls (line : List Text) (body : Text) (args : List Text) : Prop :=
  ∃ flags, Flags.read [("fn", .switch)] line = .ok flags ∧ flags.isOn "fn" = true ∧
    flags.rest = body :: args

/-- Behind `--` a body may begin with a dash. -/
theorem calls_marked (body : Text) (args : List Text) :
    Calls ("--fn" :: "--" :: body :: args) body args :=
  ⟨⟨[("fn", .switch true)], body :: args⟩, rfl, rfl, rfl⟩

theorem calls_plain {body : Text} (h : body.head? ≠ some '-') (args : List Text) :
    Calls ("--fn" :: body :: args) body args :=
  ⟨⟨[("fn", .switch true)], body :: args⟩, readFlags_call h args, rfl, rfl⟩

/-- The run of a body as a call of it with an argument list, which returns to a caller. -/
def returned (name : Text) (line : List Text) (caller : Frame) (callee : Finished Flow) :
    Finished Flow where
  outcome := callee.outcome.inBuiltin name
  session := { callee.session with scope := callee.session.scope.leaveCall caller }
  trace := .started name line :: callee.trace

/-- The command that evaluates makes the call that its arguments ask for. -/
theorem dispatch_of_calls (launcher : Process.Launcher) (evaluate : Builtin.Evaluator)
    (ctx : Context) {name : Text} (hname : Builtin.ofName? name = some .eval)
    {line args : List Text} {body : Text} (h : Calls line body args) (session : Session) :
    dispatch launcher evaluate ctx name line session =
      returned name line session.scope.frame
        (evaluate ctx body { session with scope := session.scope.enterCall args }) := by
  obtain ⟨⟨settings, _⟩, hread, hon, rfl⟩ := h
  have hrun : Builtin.runEval evaluate ctx name line = Action.call args (evaluate ctx body) := by
    unfold Builtin.runEval Flags.parse
    rw [hread]
    show (if !Flags.isOn ⟨settings, body :: args⟩ "fn" && args.isEmpty then evaluate ctx body
      else Action.call args (evaluate ctx body)) = _
    rw [hon]
    rfl
  have hstarted : Builtin.run evaluate ctx name line .eval = Action.call args (evaluate ctx body) :=
    hrun
  rw [dispatch_of_builtin hname, hstarted]
  rfl

/-- **A call neither sees nor disturbs the frame of its caller.** Every body can be called with
every list of arguments. Let two sessions have the same aliases, the same global variables and
the same world, and let the frames of their scopes be any. Then a call of a body ends in both in
the same way, with the same trace, and leaves the same aliases, global variables and world. In
each of them, however the call ends, the caller has the variables and the arguments that it had,
and the returns of the call, which are the same in both, over its own. -/
theorem call_isolated (body : Text) (args : List Text) :
    Calls ("--fn" :: "--" :: body :: args) body args ∧
    (body.head? ≠ some '-' → Calls ("--fn" :: body :: args) body args) ∧
    ∀ (launcher : Process.Launcher) (depth : Nat) (ctx : Context) (name : Text) (line : List Text)
      (first second : Session),
      Builtin.ofName? name = some .eval → Calls line body args →
      first.scope.SharesShell second.scope → first.world = second.world →
      let run := dispatch launcher (text (tokens (dispatch launcher) depth)) ctx name line
      let callee := text (tokens (dispatch launcher) depth) ctx body
        { first with scope := first.scope.enterCall args }
      (run first).outcome = (run second).outcome ∧
      (run first).trace = (run second).trace ∧
      (run first).session.world = (run second).session.world ∧
      (run first).session.scope.SharesShell (run second).session.scope ∧
      (run first).session.scope.frame.Receives first.scope.frame
        callee.session.scope.frame.returns ∧
      (run second).session.scope.frame.Receives second.scope.frame
        callee.session.scope.frame.returns := by
  refine ⟨calls_marked body args, fun h => calls_plain h args, ?_⟩
  intro launcher depth ctx name line first second hname hline hscope hworld run callee
  have hfirst : run first = returned name line first.scope.frame callee :=
    dispatch_of_calls launcher _ ctx hname hline first
  have hsecond : run second = returned name line second.scope.frame callee := by
    have hcallee := dispatch_of_calls launcher (text (tokens (dispatch launcher) depth)) ctx hname
      hline second
    rwa [← hscope.enterCall_eq args, ← hworld] at hcallee
  rw [hfirst, hsecond]
  exact ⟨rfl, rfl, rfl, ⟨rfl, rfl, rfl⟩, Scope.receives_leaveCall _ _,
    Scope.receives_leaveCall _ _⟩

/-- A session with nothing in it but a frame. -/
def inFrame (frame : Frame) : Session := ⟨{ aliasDepth := 0, frame := frame }, {}⟩

/-- A call that returns its argument, from a frame with arguments and a return of its own and from
an empty one. -/
theorem call_isolated_returning :
    ∃ caller other,
      dispatch Process.start (text (tokens (dispatch Process.start) 2)) {} "l-eval"
        ["--fn", "l-return k (l-arg 0)", "new"]
        (inFrame { args := ["p"], returns := Table.empty.insert "k" "old" }) = caller ∧
      dispatch Process.start (text (tokens (dispatch Process.start) 2)) {} "l-eval"
        ["--fn", "l-return k (l-arg 0)", "new"]
        (inFrame {}) = other ∧
      caller.outcome = other.outcome ∧
      caller.session.scope.frame.args = ["p"] ∧
      caller.session.scope.frame.returns.get? "k" = some ("new" : Text) := by
  have hcalls : Calls ["--fn", "l-return k (l-arg 0)", "new"] "l-return k (l-arg 0)" ["new"] :=
    calls_plain (by decide) ["new"]
  have hreturned : (text (tokens (dispatch Process.start) 2) {} "l-return k (l-arg 0)"
      { inFrame { args := ["p"], returns := Table.empty.insert "k" "old" } with
        scope := Scope.enterCall
          (inFrame { args := ["p"], returns := Table.empty.insert "k" "old" }).scope
          ["new"] }).session.scope.frame.returns.get? "k" = some ("new" : Text) := by
    decide +kernel
  obtain ⟨houtcome, -, -, -, hcaller, -⟩ := (call_isolated "l-return k (l-arg 0)" ["new"]).2.2 _ 2
    {} "l-eval" _ (inFrame { args := ["p"], returns := Table.empty.insert "k" "old" }) (inFrame {})
    ofName?_eval hcalls ⟨rfl, rfl, rfl⟩ rfl
  refine ⟨_, _, rfl, rfl, houtcome, hcaller.args, ?_⟩
  rw [hcaller.returns, hreturned, Option.some_or]

end Eval

end Conch
