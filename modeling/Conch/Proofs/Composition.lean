import Conch.Eval
import Mathlib.Tactic.SplitIfs

/-!
What an evaluation is made of. Everything that the evaluator and the built-in commands do is
composed of a few actions by a few ways to put actions together (`Composed`). Some values of an
action end the shell; its flow says which. When one action follows another, a value that ends
the shell is handed on at once, so that what follows does nothing (`HandsOn`).

* `Composed.builtin_run`: every built-in command but the one that ends the shell is composed, if the
  evaluator it is given is. That one is among the actions of which evaluations are made.
* `composed_tokens`, `composed_text`: so is every evaluation.

What holds of all evaluations can then be shown for each way of composing actions.
-/

namespace Conch

variable {α β : Type}

/-- The flow of an action none of whose values ends the shell. -/
abbrev Flow.onward : α → Flow := fun _ => .proceed

/-- Whether an event is a write, or the search for a path. -/
def Event.isPlain : Event → Bool
  | .wrote .. | .shown .. | .sought .. => true
  | _ => false

/-- What follows an action does nothing if its value ends the shell, and yields a value that
ends the shell as well. -/
def HandsOn (flow : α → Flow) (flow' : β → Flow) (next : α → Action β) : Prop :=
  ∀ value, flow value = .exit → ∃ value', flow' value' = .exit ∧ next value = Action.pure value'

theorem handsOn_onward {flow : β → Flow} {next : α → Action β} : HandsOn Flow.onward flow next :=
  nofun

/-- Actions that an evaluation is made of. The flow says which values end the shell. -/
inductive Composed (launcher : Process.Launcher) :
    {α : Type} → (α → Flow) → Action α → Prop where
  /-- A value that does not end the shell. -/
  | pure {α : Type} {flow : α → Flow} {value : α} :
      flow value = .proceed → Composed launcher flow (Action.pure value)
  | fail {α : Type} {flow : α → Flow} (error : ShellError) :
      Composed launcher flow (Action.fail error)
  | unfinished {α : Type} {flow : α → Flow} : Composed launcher flow Action.unfinished
  | session : Composed launcher Flow.onward Action.session
  | setScope (scope : Scope) : Composed launcher Flow.onward (Action.setScope scope)
  | setWorld (world : World) : Composed launcher Flow.onward (Action.setWorld world)
  | emit {event : Event} :
      event.isPlain = true → Composed launcher Flow.onward (Action.emit event)
  /-- The command that ends the shell. -/
  | exit {depth : Nat} {ctx : Context} {name : Text} (args : List Text) :
      Builtin.ofName? name = some .exit →
      Composed launcher id (Eval.dispatch launcher
        (Eval.text (Eval.tokens (Eval.dispatch launcher) depth)) ctx name args)
  /-- A program, whatever it does. -/
  | program {α : Type} (action : Action α) :
      Composed launcher Flow.onward (Process.showingWrites action)
  /-- A command that is started. -/
  | command {depth : Nat} {ctx : Context} {name : Text} {args : List Text} {body : Action Flow} :
      Eval.dispatch launcher (Eval.text (Eval.tokens (Eval.dispatch launcher) depth)) ctx name
        args = (Action.emit (.started name args) >>= fun _ => body) →
      Composed launcher id body →
      Composed launcher id (Eval.dispatch launcher
        (Eval.text (Eval.tokens (Eval.dispatch launcher) depth)) ctx name args)
  | bind {α β : Type} {flow : α → Flow} {flow' : β → Flow} {a : Action α}
      {next : α → Action β} :
      Composed launcher flow a → HandsOn flow flow' next →
      (∀ value, flow value = .proceed → Composed launcher flow' (next value)) →
      Composed launcher flow' (a >>= next)
  | inBuiltin {α : Type} {flow : α → Flow} {a : Action α} (name : Text) :
      Composed launcher flow a → Composed launcher flow (Action.mapError (.inBuiltin name) a)
  | inSubstitution {α : Type} {flow : α → Flow} {a : Action α} (body : Text) :
      Composed launcher flow a → Composed launcher flow (Action.mapError (.inSubstitution body) a)
  | capture {α : Type} {flow : α → Flow} {a : Action α} (fd : Nat) :
      Composed launcher flow a →
      Composed launcher (fun result => flow result.1) (Action.capture fd a)
  | withChannel {α : Type} {flow : α → Flow} {a : Action α} (number : Nat) (channel : Channel) :
      Composed launcher flow a → Composed launcher flow (Action.withChannel number channel a)
  | call {α : Type} {flow : α → Flow} {a : Action α} (args : List Text) :
      Composed launcher flow a → Composed launcher flow (Action.call args a)

namespace Composed

variable {launcher : Process.Launcher}

/-! ### Actions that do not end the shell -/

/-- An action that does not end the shell, and then another. -/
theorem andThen {flow : β → Flow} {a : Action α} {next : α → Action β}
    (ha : Composed launcher Flow.onward a)
    (hnext : ∀ value, Composed launcher flow (next value)) :
    Composed launcher flow (a >>= next) :=
  bind ha handsOn_onward fun value _ => hnext value

/-- An evaluation, and then another action unless the shell is to end. -/
theorem unlessExit {a : Action Flow} {next : Flow → Action Flow} (ha : Composed launcher id a)
    (hexit : next .exit = Action.pure .exit) (hproceed : Composed launcher id (next .proceed)) :
    Composed launcher id (a >>= next) := by
  refine bind ha ?_ ?_
  · rintro flow rfl
    exact ⟨.exit, rfl, hexit⟩
  · rintro flow rfl
    exact hproceed

theorem ofExcept (result : Except ShellError α) :
    Composed launcher Flow.onward (Action.ofExcept result) := by
  cases result with
  | ok value => exact pure rfl
  | error error => exact fail error

theorem scope : Composed launcher Flow.onward Action.scope := session.andThen fun _ => pure rfl

theorem world : Composed launcher Flow.onward Action.world := session.andThen fun _ => pure rfl

theorem checkCancelled (ctx : Context) :
    Composed launcher Flow.onward (Action.checkCancelled ctx) := by
  refine world.andThen fun w => ?_
  split_ifs
  · exact fail _
  · exact pure rfl

theorem tryWrite (endpoint : Endpoint) (bytes : Bytes) :
    Composed launcher Flow.onward (Action.tryWrite endpoint bytes) := by
  cases endpoint with
  | terminal => exact pure rfl
  | outlet fd => exact (emit rfl).andThen fun _ => pure rfl
  | standard fd => exact (emit rfl).andThen fun _ => pure rfl
  | channel number =>
      refine world.andThen fun w => ?_
      cases w.volume.write (w.channels number) bytes with
      | ok result => exact (setWorld _).andThen fun _ => pure rfl
      | error error => exact pure rfl

theorem tryRead (endpoint : Endpoint) :
    Composed launcher Flow.onward (Action.tryRead endpoint) := by
  refine world.andThen fun w => ?_
  cases endpoint with
  | terminal => exact (setWorld _).andThen fun _ => pure rfl
  | outlet fd => exact pure rfl
  | standard fd => exact pure rfl
  | channel number =>
      dsimp only
      cases w.volume.readAll (w.channels number) with
      | ok result => exact (setWorld _).andThen fun _ => pure rfl
      | error error => exact pure rfl

theorem write (endpoint : Endpoint) (bytes : Bytes) :
    Composed launcher Flow.onward (Action.write endpoint bytes) := by
  refine (tryWrite endpoint bytes).andThen fun result => ?_
  cases result with
  | ok _ => exact pure rfl
  | error error => exact fail _

theorem writeLine (endpoint : Endpoint) (line : Text) :
    Composed launcher Flow.onward (Action.writeLine endpoint line) := write endpoint _

theorem read (endpoint : Endpoint) : Composed launcher Flow.onward (Action.read endpoint) := by
  refine (tryRead endpoint).andThen fun result => ?_
  cases result with
  | ok bytes => exact pure rfl
  | error error => exact fail _

theorem launch (ctx : Context) (name : Text) (args : List Text) :
    Composed launcher Flow.onward (Process.launch launcher ctx name args) := by
  refine (checkCancelled ctx).andThen fun _ => (program _).andThen fun result => ?_
  rcases result with fault | status
  · cases fault with
    | os error => cases error <;> exact fail _
    | _ => exact fail _
  · rcases status with code | signal
    · cases code with
      | zero => exact pure rfl
      | succ code => exact fail _
    · exact fail _

/-! ### Built-in commands that read, write and define names -/

theorem writeLines (endpoint : Endpoint) (lines : List Text) :
    Composed launcher Flow.onward (Builtin.writeLines endpoint lines) := by
  induction lines with
  | nil => exact pure rfl
  | cons line rest ih => exact (writeLine endpoint line).andThen fun _ => ih

variable (ctx : Context) (name : Text) (args : List Text)

theorem runHelp : Composed launcher id (Builtin.runHelp ctx args) :=
  (ofExcept _).andThen fun _ => (writeLines _ _).andThen fun _ => pure rfl

theorem runEcho : Composed launcher id (Builtin.runEcho ctx name args) :=
  (ofExcept _).andThen fun _ => (ofExcept _).andThen fun _ => (ofExcept _).andThen fun _ =>
    (writeLine _ _).andThen fun _ => pure rfl

theorem runCat : Composed launcher id (Builtin.runCat ctx name args) :=
  (ofExcept _).andThen fun _ => (ofExcept _).andThen fun _ => (ofExcept _).andThen fun _ =>
    (ofExcept _).andThen fun _ => (read _).andThen fun _ => (write _ _).andThen fun _ => pure rfl

theorem runUtility (u : Utility) : Composed launcher id (Builtin.runUtility u ctx args) :=
  (ofExcept _).andThen fun _ => (writeLines _ _).andThen fun _ => pure rfl

theorem runJoin : Composed launcher id (Builtin.runJoin ctx name args) :=
  (ofExcept _).andThen fun _ => (writeLine _ _).andThen fun _ => pure rfl

theorem runRepeat : Composed launcher id (Builtin.runRepeat ctx args) := by
  refine (ofExcept _).andThen fun _ => ?_
  dsimp only
  cases Text.toNat? (args.getD 1 []) with
  | none => exact fail _
  | some count =>
      dsimp only
      split
      · exact fail _
      · exact (writeLine _ _).andThen fun _ => pure rfl

theorem runReplace : Composed launcher id (Builtin.runReplace ctx name args) :=
  (ofExcept _).andThen fun _ => (ofExcept _).andThen fun _ => (ofExcept _).andThen fun _ =>
    (writeLine _ _).andThen fun _ => pure rfl

theorem runAlias : Composed launcher id (Builtin.runAlias ctx name args) := by
  refine (ofExcept _).andThen fun flags => ?_
  cases flags.isOn "unset" with
  | true =>
      cases flags.isOn "show" with
      | true => exact fail _
      | false =>
          exact (ofExcept _).andThen fun _ => scope.andThen fun _ =>
            (setScope _).andThen fun _ => pure rfl
  | false =>
      cases flags.isOn "show" with
      | true =>
          exact (ofExcept _).andThen fun _ => scope.andThen fun _ =>
            (writeLines _ _).andThen fun _ => pure rfl
      | false =>
          exact (ofExcept _).andThen fun _ => scope.andThen fun _ =>
            (setScope _).andThen fun _ => pure rfl

theorem runFn : Composed launcher id (Builtin.runFn args) :=
  (ofExcept _).andThen fun _ => scope.andThen fun _ => (setScope _).andThen fun _ => pure rfl

theorem keepScope (result : Except VariableError Scope) :
    Composed launcher Flow.onward (Builtin.keepScope result) := by
  cases result with
  | ok scope => exact setScope scope
  | error error => exact fail _

theorem runDefine (level : Level) (isMutable : Bool) :
    Composed launcher Flow.onward (Builtin.runDefine level isMutable args) :=
  (ofExcept _).andThen fun _ => scope.andThen fun _ => keepScope _

theorem runVariableOperation (level : Level) (operation : Option Builtin.VariableOperation) :
    Composed launcher Flow.onward (Builtin.runVariableOperation ctx level args operation) := by
  rcases operation with _ | operation
  · exact runDefine args level false
  cases operation with
  | defineMutable => exact runDefine args level true
  | ref =>
      refine (ofExcept _).andThen fun _ => scope.andThen fun scope => ?_
      cases scope.lookup? (args.getD 0 []) with
      | some value => exact writeLine _ _
      | none => exact fail _
  | change => exact (ofExcept _).andThen fun _ => scope.andThen fun _ => keepScope _
  | delete => exact (ofExcept _).andThen fun _ => scope.andThen fun _ => setScope _
  | list => exact (ofExcept _).andThen fun _ => scope.andThen fun _ => write _ _
  | check => exact (ofExcept _).andThen fun _ => scope.andThen fun _ => writeLines _ _

theorem runVar : Composed launcher id (Builtin.runVar ctx name args) := by
  refine (ofExcept _).andThen fun flags => ?_
  dsimp only
  generalize (Builtin.VariableOperation.all.filter fun op => flags.isOn op.flag) = operations
  rcases operations with _ | ⟨operation, _ | ⟨second, rest⟩⟩
  · exact (runVariableOperation ctx _ _ _).andThen fun _ => pure rfl
  · dsimp only
    split
    · exact (fail _).andThen fun _ => pure rfl
    · exact (runVariableOperation ctx _ _ _).andThen fun _ => pure rfl
  · exact (fail _).andThen fun _ => pure rfl

theorem runArg : Composed launcher id (Builtin.runArg ctx name args) := by
  refine (ofExcept _).andThen fun flags => scope.andThen fun scope => ?_
  dsimp only
  split_ifs
  · exact (ofExcept _).andThen fun _ => (writeLine _ _).andThen fun _ => pure rfl
  · refine (ofExcept _).andThen fun _ => ?_
    cases Text.toNat? (flags.rest.getD 0 []) with
    | none => exact fail _
    | some index =>
        dsimp only
        split
        · exact fail _
        · exact (writeLine _ _).andThen fun _ => pure rfl

theorem runReturn : Composed launcher id (Builtin.runReturn ctx name args) := by
  refine (ofExcept _).andThen fun flags => ?_
  cases flags.isOn "ref" with
  | true =>
      cases flags.isOn "show" with
      | true => exact fail _
      | false =>
          refine (ofExcept _).andThen fun _ => scope.andThen fun scope => ?_
          cases scope.frame.returns.get? (flags.rest.getD 0 []) with
          | none => exact fail _
          | some value => exact (writeLine _ _).andThen fun _ => pure rfl
  | false =>
      cases flags.isOn "show" with
      | true =>
          exact (ofExcept _).andThen fun _ => scope.andThen fun _ =>
            (writeLines _ _).andThen fun _ => pure rfl
      | false =>
          exact (ofExcept _).andThen fun _ => scope.andThen fun _ =>
            (setScope _).andThen fun _ => pure rfl

/-! ### Built-in commands that go elsewhere or evaluate -/

theorem enterDirectory (w : World) (directory : Text) :
    Composed launcher id (Builtin.enterDirectory w directory) := by
  refine (emit rfl).andThen fun _ => ?_
  cases w.changeDirectory directory with
  | ok w => exact (setWorld w).andThen fun _ => pure rfl
  | error error => exact fail _

theorem runCd : Composed launcher id (Builtin.runCd args) := by
  refine world.andThen fun w => ?_
  rcases args with _ | ⟨directory, _ | ⟨second, rest⟩⟩
  · cases w.home with
    | none => exact fail _
    | some home => exact enterDirectory w home
  · exact enterDirectory w directory
  · exact fail _

section

variable {evaluate : Builtin.Evaluator}
  (heval : ∀ ctx expr, Composed launcher id (evaluate ctx expr))

include heval

theorem runEval : Composed launcher id (Builtin.runEval evaluate ctx name args) := by
  refine (ofExcept _).andThen fun flags => ?_
  cases flags.rest with
  | nil => exact fail _
  | cons expr callArgs =>
      dsimp only
      split_ifs
      · exact heval ctx expr
      · exact call callArgs (heval ctx expr)

theorem runRoute (left right : Text) (route : Route) :
    Composed launcher id (Builtin.runRoute evaluate ctx left right route) := by
  refine (ofExcept _).andThen fun leftContext => ?_
  refine bind (capture route.source (heval leftContext left)) ?_ ?_
  · rintro ⟨flow, written⟩ hexit
    cases hexit
    exact ⟨.exit, rfl, rfl⟩
  · rintro ⟨flow, written⟩ hproceed
    cases hproceed
    exact withChannel route.target _ (heval _ right)

theorem runRoutes (left right : Text) (routes : List Route) :
    Composed launcher id (Builtin.runRoutes evaluate ctx left right routes) := by
  induction routes with
  | nil => exact pure rfl
  | cons route routes ih => exact unlessExit (runRoute ctx heval left right route) rfl ih

theorem runFrom (path expr : Text) :
    Composed launcher id (Builtin.runFrom evaluate ctx path expr) := by
  refine world.andThen fun w => (emit rfl).andThen fun _ => ?_
  cases w.openRead path with
  | error error => exact fail _
  | ok channel => exact withChannel 0 channel (heval _ expr)

theorem runInto (path expr : Text) :
    Composed launcher id (Builtin.runInto evaluate ctx path expr) := by
  refine world.andThen fun w => (emit rfl).andThen fun _ => ?_
  cases w.openWrite path .write with
  | error error => exact fail _
  | ok opened => exact (setWorld _).andThen fun _ => withChannel 1 opened.2 (heval _ expr)

theorem runPipe : Composed launcher id (Builtin.runPipe evaluate ctx name args) := by
  refine (ofExcept _).andThen fun flags => ?_
  dsimp only
  have hfile : ∀ a : Action Flow, Composed launcher id a → Composed launcher id
      (if (flags.value? "p").isSome then Action.fail (.usage .pipeRouteAndFile)
      else Action.ofExcept (checkArguments Builtin.pipe.usage flags.rest 1) >>= fun _ => a) := by
    intro a ha
    split_ifs
    · exact fail _
    · exact (ofExcept _).andThen fun _ => ha
  cases flags.value? "in" with
  | some input =>
      cases flags.value? "out" with
      | some output => exact fail _
      | none => exact hfile _ (runFrom ctx heval input _)
  | none =>
      cases flags.value? "out" with
      | some output => exact hfile _ (runInto ctx heval output _)
      | none =>
          refine (ofExcept _).andThen fun _ => ?_
          cases flags.value? "p" with
          | none => exact runRoutes ctx heval _ _ Route.standard
          | some spec => exact (ofExcept _).andThen fun routes => runRoutes ctx heval _ _ routes

/-- **Every built-in command but the one that ends the shell is composed.** -/
theorem builtin_run {command : Builtin} (hexit : command ≠ .exit) :
    Composed launcher id (command.run evaluate ctx name args) := by
  cases command with
  | help => exact runHelp ctx args
  | echo => exact runEcho ctx name args
  | cat => exact runCat ctx name args
  | cd => exact runCd args
  | exit => exact absurd rfl hexit
  | «alias» => exact runAlias ctx name args
  | var => exact runVar ctx name args
  | fn => exact runFn args
  | arg => exact runArg ctx name args
  | «return» => exact runReturn ctx name args
  | eval => exact runEval ctx name args heval
  | pipe => exact runPipe ctx name args heval
  | utility u => exact runUtility ctx args u
  | join => exact runJoin ctx name args
  | «repeat» => exact runRepeat ctx args
  | replace => exact runReplace ctx name args

end

/-! ### Evaluation -/

/-- A command ends the shell, or is composed of its start and of what the built-in command or the
program does. -/
theorem dispatch {depth : Nat} (heval : ∀ ctx expr,
      Composed launcher id (Eval.text (Eval.tokens (Eval.dispatch launcher) depth) ctx expr)) :
    Composed launcher id (Eval.dispatch launcher
      (Eval.text (Eval.tokens (Eval.dispatch launcher) depth)) ctx name args) := by
  by_cases hexit : Builtin.ofName? name = some .exit
  · exact exit args hexit
  refine command rfl ?_
  cases hname : Builtin.ofName? name with
  | some builtin =>
      rw [hname] at hexit
      exact inBuiltin name (builtin_run ctx name args heval (mt (congrArg some) hexit))
  | none => exact (launch ctx name args).andThen fun _ => pure rfl

theorem parse (expr : Text) : Composed launcher Flow.onward (Eval.parse expr) := by
  unfold Eval.parse
  cases Token.parse expr with
  | ok tokens => exact pure rfl
  | error error => exact fail _

section

variable {nested : TokenEvaluator} (hnested : ∀ ctx list, Composed launcher id (nested ctx list))

include hnested

theorem text (expr : Text) : Composed launcher id (Eval.text nested ctx expr) :=
  (parse expr).andThen fun list => hnested ctx list

theorem substitution (body : Text) :
    Composed launcher Prod.snd (Eval.substitution nested ctx body) := by
  refine bind (inSubstitution body (capture 1 (text _ hnested body))) ?_ ?_
  · rintro ⟨flow, written⟩ hexit
    cases hexit
    exact ⟨_, rfl, rfl⟩
  · rintro ⟨flow, written⟩ hproceed
    cases hproceed
    exact pure rfl

/-- The flow of the arguments of a statement: there are none if the shell is to end. -/
def argumentsFlow : Option (List Text) → Flow
  | none => .exit
  | some _ => .proceed

theorem arguments (list : List Token) :
    Composed launcher argumentsFlow (Eval.arguments nested ctx list) := by
  induction list with
  | nil => exact pure rfl
  | cons token rest ih =>
      have hmore : ∀ value : Text, Composed launcher argumentsFlow (do
          return (← Eval.arguments nested ctx rest).map (value :: ·)) := by
        intro value
        refine bind ih ?_ ?_
        · rintro (_ | args) hexit
          · exact ⟨none, rfl, rfl⟩
          · cases hexit
        · rintro (_ | args) hproceed
          · cases hproceed
          · exact pure rfl
      unfold Eval.arguments
      split_ifs
      · refine bind (substitution ctx hnested token.value) ?_ ?_
        · rintro ⟨value, flow⟩ hexit
          cases hexit
          exact ⟨none, rfl, rfl⟩
        · rintro ⟨value, flow⟩ hproceed
          cases hproceed
          exact hmore value
      · exact hmore token.value

variable {run : Runner} (hrun : ∀ ctx name args, Composed launcher id (run ctx name args))

include hrun

theorem evalCommand : Composed launcher id (Eval.command nested run ctx name args) := by
  unfold Eval.command
  split_ifs
  · exact pure rfl
  · refine scope.andThen fun scope => (ofExcept _).andThen fun expansion => ?_
    cases expansion with
    | some target => exact (parse target).andThen fun list => hnested _ _
    | none => exact hrun ctx name args

theorem statement (list : List Token) :
    Composed launcher id (Eval.statement nested run ctx list) := by
  refine bind (arguments ctx hnested list) ?_ ?_
  · rintro (_ | args) hexit
    · exact ⟨.exit, rfl, rfl⟩
    · cases hexit
  · rintro (_ | _ | ⟨name, args⟩) hproceed
    · cases hproceed
    · exact pure rfl
    · exact evalCommand ctx name args hnested hrun

theorem statements (parts : List (List Token)) :
    Composed launcher id (Eval.statements nested run ctx parts) := by
  induction parts with
  | nil => exact pure rfl
  | cons first rest ih =>
      refine (checkCancelled ctx).andThen fun _ => ?_
      exact unlessExit (statement ctx hnested hrun first) rfl ih

end

end Composed

variable {launcher : Process.Launcher}

/-- **Evaluation to any depth is composed.** -/
theorem composed_tokens (depth : Nat) (ctx : Context) (list : List Token) :
    Composed launcher id (Eval.tokens (Eval.dispatch launcher) depth ctx list) := by
  induction depth generalizing ctx list with
  | zero => exact .unfinished
  | succ depth ih =>
      refine .statements ctx ih (fun ctx name args => .dispatch ctx name args ?_) _
      exact fun ctx expr => .text ctx ih expr

theorem composed_text (depth : Nat) (ctx : Context) (expr : Text) :
    Composed launcher id (Eval.text (Eval.tokens (Eval.dispatch launcher) depth) ctx expr) :=
  .text ctx (composed_tokens depth) expr

end Conch
