import Conch.Proofs.Commands
import Conch.Proofs.Composition

/-!
What an evaluation is assembled from, and what its pieces do. Everything that the evaluator and
the commands do that evaluate is put together from modest actions, from programs, and from the
one action that returns a value (`Assembled`). It is kept apart whether a piece is inside of a
command or in an evaluation around the commands, since not the same failures arise there.

* `Assembled.builtin_run`: every built-in command is assembled, if the evaluator it is given is.
* `assembled_tokens`, `assembled_text`: so is every evaluation.

What holds of all runs of evaluations can then be shown by induction, one case for each way of
putting actions together.
-/

namespace Conch

variable {α β : Type}

/-- The key and the value that a command returns when it is started, if it returns one. -/
def Event.returned? : Event → Option (Text × Text)
  | .started name args =>
    if Builtin.ofName? name = some .return then Builtin.returned? args else none
  | _ => none

/-- Actions that are put together as evaluations are. The flow says which values end the shell. -/
inductive Assembled (launcher : Process.Launcher) :
    Site → {α : Type} → (α → Flow) → Action α → Prop where
  | modest {site : Site} {α : Type} {flow : α → Flow} {a : Action α} :
      a.IsModest site → Assembled launcher site flow a
  | unfinished {site : Site} {α : Type} {flow : α → Flow} :
      Assembled launcher site flow Action.unfinished
  /-- A program, which fails by itself only if it is cancelled. -/
  | program {α : Type} {flow : α → Flow} (a : Action α) :
      Assembled launcher .evaluation flow (Process.showingWrites
        (Process.withoutNames (Process.withoutTokens (Process.cancellable a))))
  /-- A command that is started and returns no value. -/
  | command {name : Text} {args : List Text} {body : Action Flow} :
      (Event.started name args).returned? = none → Assembled launcher .evaluation id body →
      Assembled launcher .evaluation id (Action.emit (.started name args) >>= fun _ => body)
  /-- A command that is started and returns a value. -/
  | returned {name : Text} {args : List Text} {key value : Text} {body : Action Flow} :
      (Event.started name args).returned? = some (key, value) →
      (∀ s, body s = ⟨.done .proceed, { s with scope := s.scope.setReturn key value }, []⟩) →
      Assembled launcher .evaluation id (Action.emit (.started name args) >>= fun _ => body)
  /-- An evaluation inside of a command. -/
  | nested {α : Type} {flow : α → Flow} {a : Action α} :
      Assembled launcher .evaluation flow a → Assembled launcher .command flow a
  | bind {site : Site} {α β : Type} {flow : α → Flow} {flow' : β → Flow} {a : Action α}
      {next : α → Action β} :
      Assembled launcher site flow a → HandsOn flow flow' next →
      (∀ value, flow value = .proceed → Assembled launcher site flow' (next value)) →
      Assembled launcher site flow' (a >>= next)
  | inBuiltin {α : Type} {flow : α → Flow} {a : Action α} {name : Text} {command : Builtin} :
      Builtin.ofName? name = some command → Assembled launcher .command flow a →
      Assembled launcher .evaluation flow (Action.mapError (.inBuiltin name) a)
  | inSubstitution {depth : Nat} {ctx : Context} {body : Text} :
      Assembled launcher .evaluation id
        (Eval.text (Eval.tokens (Eval.dispatch launcher) depth) { ctx with stdout := .outlet 1 }
          body) →
      Assembled launcher .evaluation (fun result => result.1)
        (Action.mapError (.inSubstitution body) (Action.capture 1
          (Eval.text (Eval.tokens (Eval.dispatch launcher) depth) { ctx with stdout := .outlet 1 }
            body)))
  | capture {site : Site} {α : Type} {flow : α → Flow} {a : Action α} (fd : Nat) :
      Assembled launcher site flow a →
      Assembled launcher site (fun result => flow result.1) (Action.capture fd a)
  | withChannel {site : Site} {α : Type} {flow : α → Flow} {a : Action α} (number : Nat)
      (channel : Channel) :
      Assembled launcher site flow a →
      Assembled launcher site flow (Action.withChannel number channel a)
  | call {site : Site} {α : Type} {flow : α → Flow} {a : Action α} (args : List Text) :
      Assembled launcher site flow a → Assembled launcher site flow (Action.call args a)

/-- Of an action and another behind it, either the first ended the run or it has handed on a value
that does not end the shell. -/
theorem HandsOn.bind_cases {flow : α → Flow} {flow' : β → Flow} {next : α → Action β}
    (hands : HandsOn flow flow' next) (a : Action α) (s : Session) :
    (((a >>= next) s).session = (a s).session ∧ ((a >>= next) s).trace = (a s).trace ∧
      ∀ error, ((a >>= next) s).outcome = .failed error → (a s).outcome = .failed error) ∨
    ∃ value, flow value = .proceed ∧ (a s).outcome = .done value := by
  cases houtcome : (a s).outcome with
  | done value =>
      cases hflow : flow value with
      | exit =>
          obtain ⟨value', -, hpure⟩ := hands value hflow
          rw [Action.bind_of_done houtcome, hpure]
          exact .inl ⟨rfl, List.append_nil _, nofun⟩
      | proceed => exact .inr ⟨value, hflow, rfl⟩
  | failed source =>
      rw [Action.bind_of_failed houtcome]
      refine .inl ⟨rfl, rfl, ?_⟩
      rintro error ⟨⟩
      rfl
  | unfinished =>
      rw [Action.bind_of_unfinished houtcome]
      exact .inl ⟨rfl, rfl, nofun⟩

/-! ### Putting actions together -/

namespace Builtin

/-- Opens a file that is to be written, which is emptied first. -/
def openInto (path : Text) : Action Channel := do
  let w ← Action.world
  Action.emit (.sought w.directory path)
  match w.openWrite path .write with
  | .error error => Action.fail (.io (.at path error))
  | .ok (w, channel) =>
    Action.setWorld w
    return channel

theorem runInto_eq_openInto (evaluate : Evaluator) (ctx : Context) (path expr : Text) :
    runInto evaluate ctx path expr =
      openInto path >>= fun channel =>
        Action.withChannel 1 channel (evaluate { ctx with stdout := .channel 1 } expr) := by
  unfold runInto openInto
  rw [bind_assoc]
  refine bind_congr fun w => ?_
  rw [bind_assoc]
  refine bind_congr fun _ => ?_
  cases w.openWrite path .write with
  | error error => rfl
  | ok opened => rfl

end Builtin

theorem Action.IsModest.openInto (path : Text) : (Builtin.openInto path).IsModest .command := by
  refine world fun s => Finished.IsModest.emitted rfl ?_
  cases hopen : s.world.openWrite path .write with
  | error error => exact fail rfl s
  | ok opened =>
      obtain ⟨w, channel⟩ := opened
      obtain ⟨volume, rfl⟩ := World.eq_of_openWrite hopen
      exact changeWorld rfl rfl (pure _)

namespace Assembled

variable {launcher : Process.Launcher} {site : Site}

/-- An action that does not end the shell, and then another. -/
theorem onward {flow : β → Flow} {a : Action α} {next : α → Action β}
    (ha : Assembled launcher site Flow.onward a)
    (hnext : ∀ value, Assembled launcher site flow (next value)) :
    Assembled launcher site flow (a >>= next) :=
  bind ha handsOn_onward fun value _ => hnext value

/-- A modest action, and then another. -/
theorem andThen {flow : β → Flow} {a : Action α} {next : α → Action β} (ha : a.IsModest site)
    (hnext : ∀ value, Assembled launcher site flow (next value)) :
    Assembled launcher site flow (a >>= next) :=
  onward (modest ha) hnext

/-- An evaluation, and then another action unless the shell is to end. -/
theorem unlessExit {a : Action Flow} {next : Flow → Action Flow} (ha : Assembled launcher site id a)
    (hexit : next .exit = Action.pure .exit)
    (hproceed : Assembled launcher site id (next .proceed)) :
    Assembled launcher site id (a >>= next) := by
  refine bind ha ?_ ?_
  · rintro flow rfl
    exact ⟨.exit, rfl, hexit⟩
  · rintro flow rfl
    exact hproceed

theorem pure {flow : α → Flow} (value : α) : Assembled launcher site flow (Action.pure value) :=
  modest (.pure value)

theorem fail {flow : α → Flow} {error : ShellError} (h : error.arisesAt site = true) :
    Assembled launcher site flow (Action.fail error) :=
  modest (.fail h)

/-! ### Commands that evaluate -/

section

variable {evaluate : Builtin.Evaluator} (ctx : Context) (name : Text) (args : List Text)
  (heval : ∀ ctx expr, Assembled launcher .evaluation id (evaluate ctx expr))

include heval

theorem runEval : Assembled launcher .command id (Builtin.runEval evaluate ctx name args) := by
  refine andThen (.ofExcept (Raises.flags _ _ _ _)) fun flags => ?_
  cases flags.rest with
  | nil => exact fail rfl
  | cons expr callArgs =>
      dsimp only
      split_ifs
      · exact nested (heval ctx expr)
      · exact call callArgs (nested (heval ctx expr))

theorem runRoute (left right : Text) (route : Route) :
    Assembled launcher .command id (Builtin.runRoute evaluate ctx left right route) := by
  refine andThen (.ofExcept (Raises.redirect _ _ _)) fun leftContext => ?_
  refine bind (capture route.source (nested (heval leftContext left))) ?_ ?_
  · rintro ⟨flow, written⟩ hexit
    cases hexit
    exact ⟨.exit, rfl, rfl⟩
  · rintro ⟨flow, written⟩ hproceed
    cases hproceed
    exact withChannel route.target _ (nested (heval _ right))

theorem runRoutes (left right : Text) (routes : List Route) :
    Assembled launcher .command id (Builtin.runRoutes evaluate ctx left right routes) := by
  induction routes with
  | nil => exact pure _
  | cons route routes ih => exact unlessExit (runRoute ctx heval left right route) rfl ih

theorem runFrom (path expr : Text) :
    Assembled launcher .command id (Builtin.runFrom evaluate ctx path expr) := by
  refine andThen .getWorld fun w => andThen (.emit rfl) fun _ => ?_
  cases w.openRead path with
  | error error => exact fail rfl
  | ok channel => exact withChannel 0 channel (nested (heval _ expr))

/-- A file is opened, and then an expression is evaluated that writes it. -/
theorem runInto (path expr : Text) :
    Assembled launcher .command id (Builtin.runInto evaluate ctx path expr) := by
  rw [Builtin.runInto_eq_openInto]
  exact andThen (.openInto path) fun channel => withChannel 1 channel (nested (heval _ expr))

theorem runPipe : Assembled launcher .command id (Builtin.runPipe evaluate ctx name args) := by
  refine andThen (.ofExcept (Raises.flags _ _ _ _)) fun flags => ?_
  dsimp only
  have hfile : ∀ a : Action Flow, Assembled launcher .command id a → Assembled launcher .command id
      (if (flags.value? "p").isSome then Action.fail (.usage .pipeRouteAndFile)
      else Action.ofExcept (checkArguments Builtin.pipe.usage flags.rest 1) >>= fun _ => a) := by
    intro a ha
    split_ifs
    · exact fail rfl
    · exact andThen (.ofExcept (Raises.checkArguments _ _ _)) fun _ => ha
  cases flags.value? "in" with
  | some input =>
      cases flags.value? "out" with
      | some output => exact fail rfl
      | none => exact hfile _ (runFrom ctx heval input _)
  | none =>
      cases flags.value? "out" with
      | some output => exact hfile _ (runInto ctx heval output _)
      | none =>
          refine andThen (.ofExcept (Raises.checkArguments _ _ _)) fun _ => ?_
          cases flags.value? "p" with
          | none => exact runRoutes ctx heval _ _ Route.standard
          | some spec =>
              exact andThen (.ofExcept (Raises.routes spec)) fun routes =>
                runRoutes ctx heval _ _ routes

/-- **Every built-in command is assembled**, unless it returns a value. -/
theorem builtin_run {command : Builtin}
    (hreturn : command = .return → Builtin.returned? args = none) :
    Assembled launcher .command id (command.run evaluate ctx name args) := by
  by_cases hevaluates : command = .eval
  · subst hevaluates
    exact runEval ctx name args heval
  by_cases hpipes : command = .pipe
  · subst hpipes
    exact runPipe ctx name args heval
  exact modest (.builtin_run evaluate ctx name args hevaluates hpipes hreturn)

end

/-! ### Evaluation -/

theorem launch (ctx : Context) (name : Text) (args : List Text) :
    Assembled launcher .evaluation Flow.onward (Process.launch launcher ctx name args) := by
  refine andThen (.checkCancelled ctx) fun _ => ?_
  refine onward (program _) fun result => ?_
  rcases result with fault | status
  · cases fault with
    | os error => cases error <;> exact fail rfl
    | _ => exact fail rfl
  · rcases status with code | signal
    · cases code with
      | zero => exact pure _
      | succ code => exact fail rfl
    · exact fail rfl

theorem dispatch {depth : Nat} (ctx : Context) (name : Text) (args : List Text)
    (heval : ∀ ctx expr,
      Assembled launcher .evaluation id
        (Eval.text (Eval.tokens (Eval.dispatch launcher) depth) ctx expr)) :
    Assembled launcher .evaluation id
      (Eval.dispatch launcher (Eval.text (Eval.tokens (Eval.dispatch launcher) depth)) ctx name
        args) := by
  unfold Eval.dispatch
  cases hname : Builtin.ofName? name with
  | none =>
      refine command ?_ (onward (launch ctx name args) fun _ => pure _)
      simp [Event.returned?, hname]
  | some builtin =>
      cases hreturned : (Event.started name args).returned? with
      | none =>
          refine command hreturned (inBuiltin hname (builtin_run ctx name args heval ?_))
          rintro rfl
          simpa [Event.returned?, hname] using hreturned
      | some entry =>
          obtain ⟨key, value⟩ := entry
          by_cases hreturn : builtin = .return
          · subst hreturn
            refine returned hreturned fun s => ?_
            have hargs : Builtin.returned? args = some (key, value) := by
              simpa [Event.returned?, hname] using hreturned
            have hrun := Builtin.runReturn_of_some hargs ctx name s
            simp only [Action.mapError, Builtin.run, hrun]
          · simp [Event.returned?, hname, hreturn] at hreturned

theorem parse (expr : Text) : Assembled launcher .evaluation Flow.onward (Eval.parse expr) := by
  unfold Eval.parse
  cases Token.parse expr with
  | ok tokens => exact pure _
  | error error => cases error <;> exact fail rfl

section

variable {depth : Nat} (ctx : Context)
  (hnested : ∀ ctx list,
    Assembled launcher .evaluation id (Eval.tokens (Eval.dispatch launcher) depth ctx list))

include hnested

theorem text (expr : Text) :
    Assembled launcher .evaluation id
      (Eval.text (Eval.tokens (Eval.dispatch launcher) depth) ctx expr) :=
  onward (parse expr) fun list => hnested ctx list

theorem substitution (body : Text) :
    Assembled launcher .evaluation Prod.snd
      (Eval.substitution (Eval.tokens (Eval.dispatch launcher) depth) ctx body) := by
  refine bind (inSubstitution (text { ctx with stdout := .outlet 1 } hnested body)) ?_ ?_
  · rintro ⟨flow, written⟩ hexit
    cases hexit
    exact ⟨_, rfl, rfl⟩
  · rintro ⟨flow, written⟩ hproceed
    exact pure _

theorem arguments (list : List Token) :
    Assembled launcher .evaluation Composed.argumentsFlow
      (Eval.arguments (Eval.tokens (Eval.dispatch launcher) depth) ctx list) := by
  induction list with
  | nil => exact pure _
  | cons token rest ih =>
      have hmore : ∀ value : Text, Assembled launcher .evaluation Composed.argumentsFlow (do
          return (← Eval.arguments (Eval.tokens (Eval.dispatch launcher) depth) ctx rest).map
            (value :: ·)) := by
        intro value
        refine bind ih ?_ fun _ _ => pure _
        rintro (_ | args) hexit
        · exact ⟨none, rfl, rfl⟩
        · cases hexit
      unfold Eval.arguments
      split_ifs
      · refine bind (substitution ctx hnested token.value) ?_ ?_
        · rintro ⟨value, flow⟩ hexit
          cases hexit
          exact ⟨none, rfl, rfl⟩
        · rintro ⟨value, flow⟩ hproceed
          cases hproceed
          exact hmore value
      · exact hmore token.value

theorem evalCommand (name : Text) (args : List Text) :
    Assembled launcher .evaluation id (Eval.command (Eval.tokens (Eval.dispatch launcher) depth)
      (Eval.dispatch launcher (Eval.text (Eval.tokens (Eval.dispatch launcher) depth))) ctx
      name args) := by
  unfold Eval.command
  split_ifs
  · exact pure _
  · refine andThen .getScope fun scope => ?_
    refine andThen (.ofExcept (Raises.expansion ctx scope name)) fun expansion => ?_
    cases expansion with
    | some target => exact onward (parse target) fun list => hnested _ _
    | none => exact dispatch ctx name args fun ctx expr => text ctx hnested expr

theorem statement (list : List Token) :
    Assembled launcher .evaluation id (Eval.statement (Eval.tokens (Eval.dispatch launcher) depth)
      (Eval.dispatch launcher (Eval.text (Eval.tokens (Eval.dispatch launcher) depth))) ctx
      list) := by
  refine bind (arguments ctx hnested list) ?_ ?_
  · rintro (_ | args) hexit
    · exact ⟨.exit, rfl, rfl⟩
    · cases hexit
  · rintro (_ | _ | ⟨name, args⟩) hproceed
    · cases hproceed
    · exact pure _
    · exact evalCommand ctx hnested name args

theorem statements (parts : List (List Token)) :
    Assembled launcher .evaluation id (Eval.statements (Eval.tokens (Eval.dispatch launcher) depth)
      (Eval.dispatch launcher (Eval.text (Eval.tokens (Eval.dispatch launcher) depth))) ctx
      parts) := by
  induction parts with
  | nil => exact pure _
  | cons first rest ih =>
      refine andThen (.checkCancelled ctx) fun _ => ?_
      exact unlessExit (statement ctx hnested first) rfl ih

end

end Assembled

variable {launcher : Process.Launcher}

/-- **Evaluation to any depth is assembled.** -/
theorem assembled_tokens (depth : Nat) (ctx : Context) (list : List Token) :
    Assembled launcher .evaluation id (Eval.tokens (Eval.dispatch launcher) depth ctx list) := by
  induction depth generalizing ctx list with
  | zero => exact .unfinished
  | succ depth ih => exact .statements ctx ih _

theorem assembled_text (depth : Nat) (ctx : Context) (expr : Text) :
    Assembled launcher .evaluation id
      (Eval.text (Eval.tokens (Eval.dispatch launcher) depth) ctx expr) :=
  .text ctx (assembled_tokens depth) expr

end Conch
