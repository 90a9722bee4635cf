import Conch.Proofs.Sequencing
import Mathlib.Tactic.SplitIfs

/-!
Evaluations to a greater depth. An evaluation that finishes within a depth is the same at every
greater one, so what an expression yields does not depend on the depth that it was given.

* `Action.ExtendsTo`: an action does the same as another wherever that one finishes. Each way of
  putting actions together keeps it.
* `extendsTo_tokens`: an evaluation extends to every greater depth.
* `Yields`: an expression is evaluated to a run at some depth. There is one such run at most
  (`Yields.unique`), and it is the run at every depth that is great enough (`Yields.at_depth`).
-/

namespace Conch

variable {α β : Type}

/-- Wherever `a` finishes, `b` does the same. -/
def Action.ExtendsTo (a b : Action α) : Prop :=
  ∀ s, (a s).outcome ≠ .unfinished → b s = a s

namespace Action.ExtendsTo

theorem refl (a : Action α) : a.ExtendsTo a := fun _ _ => rfl

theorem unfinished (b : Action α) : Action.unfinished.ExtendsTo b := fun _ h => absurd rfl h

theorem bind {a b : Action α} {f g : α → Action β} (h : a.ExtendsTo b)
    (hnext : ∀ value, (f value).ExtendsTo (g value)) : (a >>= f).ExtendsTo (b >>= g) := by
  intro s hends
  cases houtcome : (a s).outcome with
  | done value =>
      have hsame := h s (by simp [houtcome])
      have hother : (b s).outcome = .done value := by rw [hsame, houtcome]
      rw [Action.bind_of_done houtcome] at hends ⊢
      rw [Action.bind_of_done hother, hsame, hnext value (a s).session hends]
  | failed error =>
      have hsame := h s (by simp [houtcome])
      have hother : (b s).outcome = .failed error := by rw [hsame, houtcome]
      rw [Action.bind_of_failed houtcome, Action.bind_of_failed hother, hsame]
  | unfinished =>
      rw [Action.bind_of_unfinished houtcome] at hends
      exact absurd rfl hends

/-- What the same action is followed by. -/
theorem andThen (a : Action α) {f g : α → Action β} (h : ∀ value, (f value).ExtendsTo (g value)) :
    (a >>= f).ExtendsTo (a >>= g) := (refl a).bind h

theorem mapError (f : ShellError → ShellError) {a b : Action α} (h : a.ExtendsTo b) :
    (Action.mapError f a).ExtendsTo (Action.mapError f b) := by
  intro s hends
  have hfinished : (a s).outcome ≠ .unfinished := fun houtcome =>
    hends (by simp only [Action.mapError, houtcome])
  simp only [Action.mapError, h s hfinished]

theorem capture (fd : Nat) {a b : Action α} (h : a.ExtendsTo b) :
    (Action.capture fd a).ExtendsTo (Action.capture fd b) := by
  intro s hends
  have hfinished : (a s).outcome ≠ .unfinished := fun houtcome =>
    hends (by simp only [Action.capture, houtcome])
  simp only [Action.capture, h s hfinished]

theorem withChannel (number : Nat) (channel : Channel) {a b : Action α} (h : a.ExtendsTo b) :
    (Action.withChannel number channel a).ExtendsTo (Action.withChannel number channel b) := by
  intro s hends
  simp only [Action.withChannel, h _ hends]

theorem call (args : List Text) {a b : Action α} (h : a.ExtendsTo b) :
    (Action.call args a).ExtendsTo (Action.call args b) := by
  intro s hends
  simp only [Action.call, h _ hends]

/-- What follows unless the shell is to end. -/
theorem unlessExit {a b next next' : Action Flow} (h : a.ExtendsTo b)
    (hnext : next.ExtendsTo next') :
    (a >>= fun flow => match flow with | .exit => pure .exit | .proceed => next).ExtendsTo
      (b >>= fun flow => match flow with | .exit => pure .exit | .proceed => next') := by
  refine h.bind fun flow => ?_
  cases flow with
  | exit => exact refl _
  | proceed => exact hnext

/-! ### Built-in commands -/

section Builtins

variable {evaluate evaluate' : Builtin.Evaluator}
  (heval : ∀ ctx expr, (evaluate ctx expr).ExtendsTo (evaluate' ctx expr))
  (ctx : Context) (name : Text) (args : List Text)

include heval

theorem runEval :
    (Builtin.runEval evaluate ctx name args).ExtendsTo
      (Builtin.runEval evaluate' ctx name args) := by
  refine andThen _ fun flags => ?_
  cases flags.rest with
  | nil => exact refl _
  | cons expr callArgs =>
      dsimp only
      split_ifs
      · exact heval ctx expr
      · exact call callArgs (heval ctx expr)

theorem runRoute (left right : Text) (route : Route) :
    (Builtin.runRoute evaluate ctx left right route).ExtendsTo
      (Builtin.runRoute evaluate' ctx left right route) := by
  refine andThen _ fun leftContext => ?_
  refine bind (capture route.source (heval leftContext left)) fun result => ?_
  rcases result with ⟨flow, written⟩
  cases flow with
  | exit => exact refl _
  | proceed => exact withChannel route.target _ (heval _ right)

theorem runRoutes (left right : Text) (routes : List Route) :
    (Builtin.runRoutes evaluate ctx left right routes).ExtendsTo
      (Builtin.runRoutes evaluate' ctx left right routes) := by
  induction routes with
  | nil => exact refl _
  | cons route routes ih => exact unlessExit (runRoute heval ctx left right route) ih

theorem runFrom (path expr : Text) :
    (Builtin.runFrom evaluate ctx path expr).ExtendsTo
      (Builtin.runFrom evaluate' ctx path expr) := by
  refine andThen _ fun w => andThen _ fun _ => ?_
  cases w.openRead path with
  | error error => exact refl _
  | ok channel => exact withChannel 0 channel (heval _ expr)

theorem runInto (path expr : Text) :
    (Builtin.runInto evaluate ctx path expr).ExtendsTo
      (Builtin.runInto evaluate' ctx path expr) := by
  refine andThen _ fun w => andThen _ fun _ => ?_
  cases w.openWrite path .write with
  | error error => exact refl _
  | ok opened => exact andThen _ fun _ => withChannel 1 opened.2 (heval _ expr)

theorem runPipe :
    (Builtin.runPipe evaluate ctx name args).ExtendsTo
      (Builtin.runPipe evaluate' ctx name args) := by
  refine andThen _ fun flags => ?_
  dsimp only
  have hfile : ∀ a b : Action Flow, a.ExtendsTo b → Action.ExtendsTo
      (if (flags.value? "p").isSome then Action.fail (.usage .pipeRouteAndFile)
      else Action.ofExcept (checkArguments Builtin.pipe.usage flags.rest 1) >>= fun _ => a)
      (if (flags.value? "p").isSome then Action.fail (.usage .pipeRouteAndFile)
      else Action.ofExcept (checkArguments Builtin.pipe.usage flags.rest 1) >>=
        fun _ => b) := by
    intro a b h
    split_ifs
    · exact refl _
    · exact andThen _ fun _ => h
  cases flags.value? "in" with
  | some input =>
      cases flags.value? "out" with
      | some output => exact refl _
      | none => exact hfile _ _ (runFrom heval ctx input _)
  | none =>
      cases flags.value? "out" with
      | some output => exact hfile _ _ (runInto heval ctx output _)
      | none =>
          refine andThen _ fun _ => ?_
          cases flags.value? "p" with
          | none => exact runRoutes heval ctx _ _ Route.standard
          | some spec => exact andThen _ fun routes => runRoutes heval ctx _ _ routes

/-- Only two of the built-in commands evaluate expressions. -/
theorem builtin_run (builtin : Builtin) :
    (builtin.run evaluate ctx name args).ExtendsTo (builtin.run evaluate' ctx name args) := by
  cases builtin with
  | eval => exact runEval heval ctx name args
  | pipe => exact runPipe heval ctx name args
  | _ => exact refl _

theorem dispatch (launcher : Process.Launcher) :
    (Eval.dispatch launcher evaluate ctx name args).ExtendsTo
      (Eval.dispatch launcher evaluate' ctx name args) := by
  refine andThen _ fun _ => ?_
  cases Builtin.ofName? name with
  | none => exact refl _
  | some builtin => exact mapError _ (builtin_run heval ctx name args builtin)

end Builtins

/-! ### The evaluator -/

section Evaluator

variable {nested nested' : TokenEvaluator}
  (hnested : ∀ ctx list, (nested ctx list).ExtendsTo (nested' ctx list))

include hnested

theorem text (ctx : Context) (expr : Text) :
    (Eval.text nested ctx expr).ExtendsTo (Eval.text nested' ctx expr) :=
  andThen _ fun list => hnested ctx list

theorem substitution (ctx : Context) (body : Text) :
    (Eval.substitution nested ctx body).ExtendsTo (Eval.substitution nested' ctx body) :=
  (mapError _ (capture 1 (text hnested _ body))).bind fun _ => refl _

theorem arguments (ctx : Context) (list : List Token) :
    (Eval.arguments nested ctx list).ExtendsTo (Eval.arguments nested' ctx list) := by
  induction list with
  | nil => exact refl _
  | cons token rest ih =>
      unfold Eval.arguments
      split_ifs
      · refine (substitution hnested ctx token.value).bind fun result => ?_
        rcases result with ⟨value, flow⟩
        cases flow with
        | exit => exact refl _
        | proceed => exact ih.bind fun _ => refl _
      · exact ih.bind fun _ => refl _

variable {run run' : Runner}
  (hrun : ∀ ctx name args, (run ctx name args).ExtendsTo (run' ctx name args))

include hrun

theorem command (ctx : Context) (name : Text) (args : List Text) :
    (Eval.command nested run ctx name args).ExtendsTo
      (Eval.command nested' run' ctx name args) := by
  unfold Eval.command
  split_ifs
  · exact refl _
  · refine andThen _ fun scope => andThen _ fun found => ?_
    cases found with
    | none => exact hrun ctx name args
    | some target => exact andThen _ fun list => hnested _ _

theorem statement (ctx : Context) (list : List Token) :
    (Eval.statement nested run ctx list).ExtendsTo (Eval.statement nested' run' ctx list) := by
  refine (arguments hnested ctx list).bind fun result => ?_
  rcases result with _ | _ | ⟨name, args⟩
  · exact refl _
  · exact refl _
  · exact command hnested hrun ctx name args

theorem statements (ctx : Context) (parts : List (List Token)) :
    (Eval.statements nested run ctx parts).ExtendsTo (Eval.statements nested' run' ctx parts) := by
  induction parts with
  | nil => exact refl _
  | cons first rest ih =>
      unfold Eval.statements
      exact andThen _ fun _ => unlessExit (statement hnested hrun ctx first) ih

end Evaluator

end Action.ExtendsTo

namespace Eval

variable {launcher : Process.Launcher}

/-- **An evaluation extends to every greater depth.** -/
theorem extendsTo_tokens {depth depth' : Nat} (h : depth ≤ depth') (ctx : Context)
    (list : List Token) :
    (tokens (dispatch launcher) depth ctx list).ExtendsTo
      (tokens (dispatch launcher) depth' ctx list) := by
  induction depth generalizing depth' ctx list with
  | zero => exact .unfinished _
  | succ depth ih =>
      obtain ⟨deeper, rfl⟩ := Nat.exists_eq_succ_of_ne_zero (Nat.ne_zero_of_lt h)
      have hnested := fun ctx list => ih (Nat.le_of_succ_le_succ h) ctx list
      exact .statements hnested
        (fun ctx name args => .dispatch (.text hnested) ctx name args launcher)
        ctx (Token.statements list)

/-- An expression is evaluated to a run that finishes, at some depth. -/
def Yields (launcher : Process.Launcher) (ctx : Context) (expr : Text) (s : Session)
    (run : Finished Flow) : Prop :=
  run.outcome ≠ .unfinished ∧ ∃ depth, text (tokens (dispatch launcher) depth) ctx expr s = run

variable {ctx : Context} {expr : Text} {s : Session}

/-- What an expression yields is its run at every depth that is great enough. -/
theorem Yields.at_depth {run : Finished Flow} (h : Yields launcher ctx expr s run) :
    ∃ depth, ∀ deeper, depth ≤ deeper →
      text (tokens (dispatch launcher) deeper) ctx expr s = run := by
  obtain ⟨hends, depth, rfl⟩ := h
  refine ⟨depth, fun deeper hdeeper => ?_⟩
  exact Action.ExtendsTo.text (fun ctx list => extendsTo_tokens hdeeper ctx list) ctx expr s hends

/-- An expression yields one run at most. -/
theorem Yields.unique {first second : Finished Flow} (hfirst : Yields launcher ctx expr s first)
    (hsecond : Yields launcher ctx expr s second) : first = second := by
  obtain ⟨depth, hdepth⟩ := hfirst.at_depth
  obtain ⟨depth', hdepth'⟩ := hsecond.at_depth
  rw [← hdepth (max depth depth') (Nat.le_max_left ..),
    hdepth' (max depth depth') (Nat.le_max_right ..)]

end Eval

end Conch
