import Conch.Proofs.Launching

/-!
Evaluation does not look at what descriptor 1 is bound to. Every command writes only through
the descriptors of its context, and a command that binds descriptors anew binds them alike in
both runs, so a direct run follows a captured one:

* `Sim.builtin`: every built-in command is followed;
* `followedTokens`: evaluation to any depth is followed, if the launcher is.

A run spares the sink (`Sink.Spares`) if it looks for no path that leads there and leaves no mark,
which stands for a program that is not indifferent to the sink.
-/

namespace Conch.Sink

variable {sink : Sink} {origin : World} {spares : Event → Prop} {mark : Bytes} {binding : Binding}
  {live : Bool}

/-! ### Commands that read and write -/

namespace Sim

variable {ctx other : Context} (h : Contexts sink binding live ctx other)

include h

theorem writeLines (lines : List Text) :
    Sim sink origin spares binding live (Builtin.writeLines ctx.stdout lines)
      (Builtin.writeLines other.stdout lines) := by
  induction lines with
  | nil => exact pure ()
  | cons line rest ih => exact bind (writeLine h.stdout line) fun _ => ih

theorem runHelp (args : List Text) :
    Sim sink origin spares binding live (Builtin.runHelp ctx args) (Builtin.runHelp other args) :=
  bind (ofExcept _) fun _ => bind (writeLines h _) fun _ => pure _

theorem runEcho (name : Text) (args : List Text) :
    Sim sink origin spares binding live (Builtin.runEcho ctx name args)
      (Builtin.runEcho other name args) := by
  refine bind (ofExcept _) fun flags => bind (ofExcept _) fun fd => ?_
  refine bindAlike (h.writer fd) fun endpoint otherEndpoint hlinked => ?_
  exact bind (writeLine hlinked _) fun _ => pure _

theorem runCat (name : Text) (args : List Text) :
    Sim sink origin spares binding live (Builtin.runCat ctx name args)
      (Builtin.runCat other name args) := by
  refine bind (ofExcept _) fun flags => bind (ofExcept _) fun _ => bind (ofExcept _) fun fd => ?_
  refine bindAlike (h.reader fd) fun endpoint otherEndpoint hsame => ?_
  obtain ⟨rfl, helse⟩ := hsame
  exact bind (read helse) fun bytes => bind (write h.stdout bytes) fun _ => pure _

theorem runUtility (u : Utility) (args : List Text) :
    Sim sink origin spares binding live (Builtin.runUtility u ctx args)
      (Builtin.runUtility u other args) :=
  bind (ofExcept _) fun _ => bind (writeLines h _) fun _ => pure _

theorem runJoin (name : Text) (args : List Text) :
    Sim sink origin spares binding live (Builtin.runJoin ctx name args)
      (Builtin.runJoin other name args) :=
  bind (ofExcept _) fun _ => bind (writeLine h.stdout _) fun _ => pure _

theorem runRepeat (args : List Text) :
    Sim sink origin spares binding live (Builtin.runRepeat ctx args)
      (Builtin.runRepeat other args) := by
  refine bind (ofExcept _) fun _ => ?_
  dsimp only
  cases Text.toNat? (args.getD 1 []) with
  | none => exact fail _
  | some count =>
      dsimp only
      by_cases hlong : Builtin.longestRepeat < Text.byteLength (args.getD 0 []) * count
      · rw [if_pos hlong, if_pos hlong]
        exact fail _
      · rw [if_neg hlong, if_neg hlong]
        exact bind (writeLine h.stdout _) fun _ => pure _

theorem runReplace (name : Text) (args : List Text) :
    Sim sink origin spares binding live (Builtin.runReplace ctx name args)
      (Builtin.runReplace other name args) :=
  bind (ofExcept _) fun _ => bind (ofExcept _) fun _ => bind (ofExcept _) fun _ =>
    bind (writeLine h.stdout _) fun _ => pure _

/-! ### Commands that define names -/

theorem runAlias (name : Text) (args : List Text) :
    Sim sink origin spares binding live (Builtin.runAlias ctx name args)
      (Builtin.runAlias other name args) := by
  refine bind (ofExcept _) fun flags => ?_
  cases flags.isOn "unset" with
  | true =>
      cases flags.isOn "show" with
      | true => exact fail _
      | false =>
          exact bind (ofExcept _) fun _ => bind scope fun _ => bind (setScope _) fun _ => pure _
  | false =>
      cases flags.isOn "show" with
      | true =>
          exact bind (ofExcept _) fun _ => bind scope fun _ => bind (writeLines h _) fun _ => pure _
      | false =>
          exact bind (ofExcept _) fun _ => bind scope fun _ => bind (setScope _) fun _ => pure _

omit h in
theorem runFn (args : List Text) :
    Sim sink origin spares binding live (Builtin.runFn args) (Builtin.runFn args) :=
  bind (ofExcept _) fun _ => bind scope fun _ => bind (setScope _) fun _ => pure _

omit h in
theorem keepScope (result : Except VariableError Scope) :
    Sim sink origin spares binding live (Builtin.keepScope result) (Builtin.keepScope result) := by
  cases result with
  | ok scope => exact setScope scope
  | error error => exact fail _

omit h in
theorem runDefine (level : Level) (isMutable : Bool) (args : List Text) :
    Sim sink origin spares binding live (Builtin.runDefine level isMutable args)
      (Builtin.runDefine level isMutable args) :=
  bind (ofExcept _) fun _ => bind scope fun _ => keepScope _

theorem runVariableOperation (level : Level) (args : List Text)
    (operation : Option Builtin.VariableOperation) :
    Sim sink origin spares binding live (Builtin.runVariableOperation ctx level args operation)
      (Builtin.runVariableOperation other level args operation) := by
  cases operation with
  | none => exact runDefine level false args
  | some operation =>
      cases operation with
      | defineMutable => exact runDefine level true args
      | ref =>
          refine bind (ofExcept _) fun _ => bind scope fun scope => ?_
          cases scope.lookup? (args.getD 0 []) with
          | some value => exact writeLine h.stdout value
          | none => exact fail _
      | change => exact bind (ofExcept _) fun _ => bind scope fun _ => keepScope _
      | delete => exact bind (ofExcept _) fun _ => bind scope fun _ => setScope _
      | list => exact bind (ofExcept _) fun _ => bind scope fun _ => write h.stdout _
      | check => exact bind (ofExcept _) fun _ => bind scope fun _ => writeLines h _

theorem runVar (name : Text) (args : List Text) :
    Sim sink origin spares binding live (Builtin.runVar ctx name args)
      (Builtin.runVar other name args) := by
  refine bind (ofExcept _) fun flags => ?_
  dsimp only
  generalize (Builtin.VariableOperation.all.filter fun op => flags.isOn op.flag) = operations
  cases operations with
  | nil => exact bind (runVariableOperation h _ _ _) fun _ => pure _
  | cons operation rest =>
      cases rest with
      | nil =>
          dsimp only
          by_cases hglobal : (flags.isOn "global" && operation.isLevelless) = true
          · simp only [if_pos hglobal]
            exact bind (fail _) fun _ => pure _
          · simp only [if_neg hglobal]
            exact bind (runVariableOperation h _ _ _) fun _ => pure _
      | cons second rest => exact bind (fail _) fun _ => pure _

theorem runArg (name : Text) (args : List Text) :
    Sim sink origin spares binding live (Builtin.runArg ctx name args)
      (Builtin.runArg other name args) := by
  refine bind (ofExcept _) fun flags => bind scope fun scope => ?_
  dsimp only
  cases flags.isOn "len" with
  | true => exact bind (ofExcept _) fun _ => bind (writeLine h.stdout _) fun _ => pure _
  | false =>
      refine bind (ofExcept _) fun _ => ?_
      cases Text.toNat? (flags.rest.getD 0 []) with
      | none => exact fail _
      | some index =>
          cases hvalue : scope.frame.args[index]? with
          | none =>
              simp only [hvalue]
              exact fail _
          | some value =>
              simp only [hvalue]
              exact bind (writeLine h.stdout value) fun _ => pure _

theorem runReturn (name : Text) (args : List Text) :
    Sim sink origin spares binding live (Builtin.runReturn ctx name args)
      (Builtin.runReturn other name args) := by
  refine bind (ofExcept _) fun flags => ?_
  cases flags.isOn "ref" with
  | true =>
      cases flags.isOn "show" with
      | true => exact fail _
      | false =>
          refine bind (ofExcept _) fun _ => bind scope fun scope => ?_
          cases scope.frame.returns.get? (flags.rest.getD 0 []) with
          | none => exact fail _
          | some value => exact bind (writeLine h.stdout value) fun _ => pure _
  | false =>
      cases flags.isOn "show" with
      | true =>
          exact bind (ofExcept _) fun _ => bind scope fun _ => bind (writeLines h _) fun _ => pure _
      | false =>
          exact bind (ofExcept _) fun _ => bind scope fun _ => bind (setScope _) fun _ => pure _

end Sim

/-! ### What spares the sink -/

/-- An event that does not touch the sink: a path that was looked for does not lead there or past
it. Nor is it the mark of a program that is not indifferent to the sink. -/
def Spares (sink : Sink) (mark : Bytes) : Event → Prop
  | .sought directory written =>
    ∀ path ∈ Volume.wayOf directory written, some path ≠ sink.path?
  | .shown fd bytes => ¬(fd = 0 ∧ bytes = mark)
  | _ => True

/-- An evaluator is followed by another in all contexts. -/
def Followed (sink : Sink) (origin : World) (mark : Bytes)
    (evaluate evaluate' : Builtin.Evaluator) : Prop :=
  ∀ binding live ctx other expr, Contexts sink binding live ctx other →
    Sim sink origin (sink.Spares mark) binding live (evaluate ctx expr) (evaluate' other expr)

theorem spares_wrote (sink : Sink) (mark : Bytes) (fd : Nat) (bytes : Bytes) :
    sink.Spares mark (.wrote fd bytes) :=
  trivial

theorem isForeign_started (name : Text) (args : List Text) :
    sink.isForeign (.started name args) = false := by
  cases sink <;> rfl

theorem isForeign_sought (directory : Path) (written : Text) :
    sink.isForeign (.sought directory written) = false := by
  cases sink <;> rfl

/-! ### Commands that go elsewhere or evaluate -/

namespace Sim

/-- Both runs look for the same path, and go on knowing that it misses the sink. -/
theorem seeking {α : Type} {bytes : Bytes} {s t : Session} {written : Text} {a b : Action α}
    (hagree : sink.Agree origin live bytes s t)
    (hspares : ∀ event ∈ ((Action.emit (.sought t.world.directory written) >>= fun _ => b) t).trace,
      sink.Spares mark event)
    (h : (∀ path ∈ Volume.wayOf t.world.directory written, some path ≠ sink.path?) →
      (∀ event ∈ (b t).trace, sink.Spares mark event) →
      Follows sink origin binding live bytes (a s) (b t)) :
    Follows sink origin binding live bytes
      ((Action.emit (.sought s.world.directory written) >>= fun _ => a) s)
      ((Action.emit (.sought t.world.directory written) >>= fun _ => b) t) := by
  rw [hagree.world.directory]
  exact emitting rfl (isForeign_sought _ _) hspares h

theorem enterDirectory_follows {bytes : Bytes} {s t : Session}
    (hagree : sink.Agree origin live bytes s t) (directory : Text)
    (hspares : ∀ event ∈ (Builtin.enterDirectory t.world directory t).trace,
      sink.Spares mark event) :
    Follows sink origin binding live bytes (Builtin.enterDirectory s.world directory s)
      (Builtin.enterDirectory t.world directory t) := by
  refine seeking hagree hspares fun hway hrest => ?_
  obtain ⟨error, hdirect, hother⟩ | ⟨path, hdirect, hother⟩ := hagree.world.changeDirectory hway
  · rw [hother] at hrest
    rw [hdirect, hother]
    exact fail _ bytes s t hagree hrest
  · rw [hdirect, hother]
    exact .of_silent ⟨hagree.scope, hagree.world.setDirectory path⟩

theorem runCd (args : List Text) :
    Sim sink origin (sink.Spares mark) binding live (Builtin.runCd args) (Builtin.runCd args) := by
  apply world
  intro bytes s t hagree hspares
  rw [hagree.world.home]
  match args with
  | [] =>
      cases hhome : t.world.home with
      | none =>
          simp only [hhome] at hspares
          exact fail _ bytes s t hagree hspares
      | some home =>
          simp only [hhome] at hspares
          exact enterDirectory_follows hagree home hspares
  | [directory] => exact enterDirectory_follows hagree directory hspares
  | _ :: _ :: _ => exact fail _ bytes s t hagree hspares

theorem runExit (args : List Text) :
    Sim sink origin spares binding live (Builtin.runExit args) (Builtin.runExit args) :=
  bind (ofExcept _) fun _ => bind (emit rfl (by cases sink <;> rfl)) fun _ => pure _

variable {ctx other : Context} {evaluate evaluate' : Builtin.Evaluator}

theorem runEval (heval : sink.Followed origin mark evaluate evaluate')
    (h : Contexts sink binding live ctx other) (name : Text) (args : List Text) :
    Sim sink origin (sink.Spares mark) binding live (Builtin.runEval evaluate ctx name args)
      (Builtin.runEval evaluate' other name args) := by
  refine bind (ofExcept _) fun flags => ?_
  cases flags.rest with
  | nil => exact fail _
  | cons expr callArgs =>
      dsimp only
      by_cases hplain : (!flags.isOn "fn" && callArgs.isEmpty) = true
      · rw [if_pos hplain, if_pos hplain]
        exact heval _ _ _ _ expr h
      · rw [if_neg hplain, if_neg hplain]
        exact call (heval _ _ _ _ expr h) callArgs

/-- A route on which the left side writes descriptor 1 captures it in both runs; on any other
route descriptor 1 stays bound as it is. -/
theorem runRoute (heval : sink.Followed origin mark evaluate evaluate')
    (h : Contexts sink binding live ctx other) (left right : Text) {route : Route}
    (htarget : route.target ≠ 1) :
    Sim sink origin (sink.Spares mark) binding live (Builtin.runRoute evaluate ctx left right route)
      (Builtin.runRoute evaluate' other left right route) := by
  obtain ⟨source, target⟩ := route
  have hright : ∀ written : Bytes, Sim sink origin (sink.Spares mark) binding live
      (Action.withChannel target (.pipe written)
        (evaluate (Builtin.rightContext ctx target) right))
      (Action.withChannel target (.pipe written)
        (evaluate' (Builtin.rightContext other target) right)) := by
    intro written
    have hoff : (Channel.pipe written).IsOff sink.path? := trivial
    exact withChannel htarget hoff (heval _ _ _ _ right (h.rightContext htarget))
  by_cases hsource : source = 1
  · subst hsource
    show Sim sink origin (sink.Spares mark) binding live (Action.capture 1 _ >>= _)
      (Action.capture 1 _ >>= _)
    refine bind (captureOut (spares_wrote sink mark) (heval _ _ _ _ left h.captured)) ?_
    rintro ⟨flow, written⟩
    cases flow with
    | exit => exact pure _
    | proceed => exact hright written
  · refine bindAlike (h.redirect hsource) fun leftContext otherContext hleft => ?_
    refine bind (capture (spares_wrote sink mark) hsource (heval _ _ _ _ left hleft)) ?_
    rintro ⟨flow, written⟩
    cases flow with
    | exit => exact pure _
    | proceed => exact hright written

theorem runRoutes (heval : sink.Followed origin mark evaluate evaluate')
    (h : Contexts sink binding live ctx other) (left right : Text) {routes : List Route}
    (hroutes : ∀ route ∈ routes, route.target ≠ 1) :
    Sim sink origin (sink.Spares mark) binding live
      (Builtin.runRoutes evaluate ctx left right routes)
      (Builtin.runRoutes evaluate' other left right routes) := by
  induction routes with
  | nil => exact pure _
  | cons route routes ih =>
      obtain ⟨hroute, hrest⟩ := List.forall_mem_cons.mp hroutes
      refine bind (runRoute heval h left right hroute) fun flow => ?_
      cases flow with
      | exit => exact pure _
      | proceed => exact ih hrest

theorem runFrom (heval : sink.Followed origin mark evaluate evaluate')
    (h : Contexts sink binding live ctx other) (path expr : Text) :
    Sim sink origin (sink.Spares mark) binding live (Builtin.runFrom evaluate ctx path expr)
      (Builtin.runFrom evaluate' other path expr) := by
  apply world
  intro bytes s t hagree hspares
  refine seeking hagree hspares fun hway hrest => ?_
  rw [hagree.world.openRead hway]
  cases hopen : t.world.openRead path with
  | error error =>
      rw [hopen] at hrest
      exact fail _ bytes s t hagree hrest
  | ok channel =>
      rw [hopen] at hrest
      have hcontexts := h.setStdin (isElsewhere_channel (show 0 ≠ 1 by decide))
      exact withChannel (by decide) (Apart.openRead_isOff hway hopen)
        (heval _ _ _ _ expr hcontexts) bytes s t hagree hrest

theorem runInto (heval : sink.Followed origin mark evaluate evaluate')
    (h : Contexts sink binding live ctx other) (path expr : Text) :
    Sim sink origin (sink.Spares mark) binding live (Builtin.runInto evaluate ctx path expr)
      (Builtin.runInto evaluate' other path expr) := by
  apply world
  intro bytes s t hagree hspares
  refine seeking hagree hspares fun hway hrest => ?_
  obtain ⟨error, hdirect, hother⟩ | ⟨found, after, otherAfter, hfound, hdirect, hother, hworld⟩ :=
    hagree.world.openWrite .write hway
  · rw [hother] at hrest
    rw [hdirect, hother]
    exact fail _ bytes s t hagree hrest
  · rw [hother] at hrest
    rw [hdirect, hother]
    have hoff : (Channel.file found 0 .write).IsOff sink.path? := hfound
    exact withOpened hoff (heval _ _ _ _ expr h.opened) bytes ⟨s.scope, after⟩
      ⟨t.scope, otherAfter⟩ ⟨hagree.scope, hworld⟩ hrest

end Sim

/-- What each of some computations promises of its value holds of all values together. -/
theorem forall_of_mapM {α β ε : Type} {f : α → Except ε β} {holds : β → Prop}
    (hf : ∀ a b, f a = .ok b → holds b) :
    ∀ (list : List α) (values : List β), list.mapM f = .ok values → ∀ b ∈ values, holds b := by
  intro list
  induction list with
  | nil =>
      intro values h
      rw [List.mapM_nil] at h
      cases h
      exact fun b hb => absurd hb List.not_mem_nil
  | cons a rest ih =>
      intro values h
      rw [List.mapM_cons] at h
      cases ha : f a with
      | error error =>
          rw [ha] at h
          cases h
      | ok b =>
          rw [ha] at h
          cases hrest : rest.mapM f with
          | error error =>
              rw [hrest] at h
              cases h
          | ok bs =>
              rw [hrest] at h
              cases h
              exact List.forall_mem_cons.mpr ⟨hf a b ha, ih bs hrest⟩

theorem target_of_ofPart {part : Text} {route : Route} (h : Route.ofPart part = .ok route) :
    route.target ≠ 1 := by
  rw [Route.ofPart] at h
  generalize Route.descriptor (Route.sides part).1 = first at h
  generalize ((Route.sides part).2.map Route.descriptor).getD (.ok 0) = second at h
  cases first with
  | error fault => cases h
  | ok source =>
      cases second with
      | error fault => cases h
      | ok target =>
          change (if source = 0 then .error RouteFault.fromInput
            else if target = 1 ∨ target = 2 then .error RouteFault.toOutput
            else .ok ⟨source, target⟩) = Except.ok route at h
          split_ifs at h with hsource htarget
          cases h
          exact fun hone => htarget (Or.inl hone)

/-- No route that can be written leads to descriptor 1. -/
theorem target_of_parse {spec : Text} {routes : List Route} (h : Route.parse spec = .ok routes) :
    ∀ route ∈ routes, route.target ≠ 1 := by
  rw [Route.parse] at h
  cases hparts : (spec.splitOnP (· == ',')).mapM Route.ofPart with
  | error fault =>
      rw [hparts] at h
      cases h
  | ok found =>
      rw [hparts] at h
      cases h
      exact forall_of_mapM (fun _ _ => target_of_ofPart) _ _ hparts

theorem Alike.refl_of {α : Type} {related : α → α → Prop} {x : Except ShellError α}
    (h : ∀ value, x = .ok value → related value value) : Alike related x x := by
  cases x with
  | error error => exact .error error
  | ok value => exact .ok (h value rfl)

namespace Sim

variable {ctx other : Context} {evaluate evaluate' : Builtin.Evaluator}

theorem runPipe (heval : sink.Followed origin mark evaluate evaluate')
    (h : Contexts sink binding live ctx other) (name : Text) (args : List Text) :
    Sim sink origin (sink.Spares mark) binding live (Builtin.runPipe evaluate ctx name args)
      (Builtin.runPipe evaluate' other name args) := by
  refine bind (ofExcept _) fun flags => ?_
  dsimp only
  have hfile : ∀ a b : Action Flow, Sim sink origin (sink.Spares mark) binding live a b →
      Sim sink origin (sink.Spares mark) binding live
        (if (flags.value? "p").isSome then Action.fail (.usage .pipeRouteAndFile)
        else Action.ofExcept (checkArguments Builtin.pipe.usage flags.rest 1) >>= fun _ => a)
        (if (flags.value? "p").isSome then Action.fail (.usage .pipeRouteAndFile)
        else Action.ofExcept (checkArguments Builtin.pipe.usage flags.rest 1) >>= fun _ => b) := by
    intro a b hab
    by_cases hp : (flags.value? "p").isSome
    · rw [if_pos hp, if_pos hp]
      exact fail _
    · rw [if_neg hp, if_neg hp]
      exact bind (ofExcept _) fun _ => hab
  cases flags.value? "in" with
  | some input =>
      cases flags.value? "out" with
      | some output => exact fail _
      | none => exact hfile _ _ (runFrom heval h input _)
  | none =>
      cases flags.value? "out" with
      | some output => exact hfile _ _ (runInto heval h output _)
      | none =>
          refine bind (ofExcept _) fun _ => ?_
          cases flags.value? "p" with
          | none =>
              have hstandard : ∀ route ∈ Route.standard, route.target ≠ 1 := by decide
              exact runRoutes heval h _ _ hstandard
          | some spec =>
              have hparse : Alike (fun u v => u = v ∧ ∀ route ∈ u, route.target ≠ 1)
                  (Route.parse spec) (Route.parse spec) :=
                .refl_of fun routes hroutes => ⟨rfl, target_of_parse hroutes⟩
              refine bindAlike hparse ?_
              rintro routes _ ⟨rfl, hroutes⟩
              exact runRoutes heval h _ _ hroutes

/-- **Every built-in command is followed.** -/
theorem builtin (heval : sink.Followed origin mark evaluate evaluate')
    (h : Contexts sink binding live ctx other) (name : Text) (args : List Text)
    (command : Builtin) :
    Sim sink origin (sink.Spares mark) binding live (command.run evaluate ctx name args)
      (command.run evaluate' other name args) := by
  match command with
  | .help => exact runHelp h args
  | .echo => exact runEcho h name args
  | .cat => exact runCat h name args
  | .cd => exact runCd args
  | .exit => exact runExit args
  | .alias => exact runAlias h name args
  | .var => exact runVar h name args
  | .fn => exact runFn args
  | .arg => exact runArg h name args
  | .return => exact runReturn h name args
  | .eval => exact runEval heval h name args
  | .pipe => exact runPipe heval h name args
  | .utility u => exact runUtility h u args
  | .join => exact runJoin h name args
  | .repeat => exact runRepeat h args
  | .replace => exact runReplace h name args

/-! ### Evaluation -/

/-- A command is followed: a program if the launcher is. -/
theorem dispatch {launcher launcher' : Process.Launcher}
    (hlaunch : sink.LaunchesAlike origin (sink.Spares mark) launcher launcher')
    (heval : sink.Followed origin mark evaluate evaluate')
    (h : Contexts sink binding live ctx other) (name : Text) (args : List Text) :
    Sim sink origin (sink.Spares mark) binding live (Eval.dispatch launcher evaluate ctx name args)
      (Eval.dispatch launcher' evaluate' other name args) := by
  refine bind (emit rfl (isForeign_started name args)) fun _ => ?_
  cases Builtin.ofName? name with
  | some command => exact mapError (builtin heval h name args command) _
  | none => exact bind (launch hlaunch h name args) fun _ => pure _

theorem parse (expr : Text) :
    Sim sink origin spares binding live (Eval.parse expr) (Eval.parse expr) := by
  rw [Eval.parse]
  cases Token.parse expr with
  | ok tokens => exact pure tokens
  | error error => exact fail _

end Sim

/-- How tokens are evaluated is followed in all contexts. -/
def FollowedTokens (sink : Sink) (origin : World) (mark : Bytes)
    (nested nested' : TokenEvaluator) : Prop :=
  ∀ binding live ctx other tokens, Contexts sink binding live ctx other →
    Sim sink origin (sink.Spares mark) binding live (nested ctx tokens) (nested' other tokens)

namespace Sim

variable {ctx other : Context} {launcher launcher' : Process.Launcher}
  {nested nested' : TokenEvaluator}

theorem text (hnested : sink.FollowedTokens origin mark nested nested') :
    sink.Followed origin mark (Eval.text nested) (Eval.text nested') := by
  intro binding live ctx other expr h
  exact bind (parse expr) fun tokens => hnested _ _ _ _ tokens h

/-- A substitution captures descriptor 1 in both runs. -/
theorem substitution (hnested : sink.FollowedTokens origin mark nested nested')
    (h : Contexts sink binding live ctx other) (body : Text) :
    Sim sink origin (sink.Spares mark) binding live (Eval.substitution nested ctx body)
      (Eval.substitution nested' other body) := by
  refine bind ?_ fun written => pure _
  exact mapError (captureOut (spares_wrote sink mark) (text hnested _ _ _ _ body h.captured)) _

theorem arguments (hnested : sink.FollowedTokens origin mark nested nested')
    (h : Contexts sink binding live ctx other) (tokens : List Token) :
    Sim sink origin (sink.Spares mark) binding live (Eval.arguments nested ctx tokens)
      (Eval.arguments nested' other tokens) := by
  induction tokens with
  | nil => exact pure _
  | cons token rest ih =>
      rw [Eval.arguments, Eval.arguments]
      by_cases hkind : token.kind = .substitution
      · rw [if_pos hkind, if_pos hkind]
        refine bind (substitution hnested h token.value) ?_
        rintro ⟨value, flow⟩
        cases flow with
        | exit => exact pure _
        | proceed => exact bind ih fun _ => pure _
      · rw [if_neg hkind, if_neg hkind]
        exact bind ih fun _ => pure _

theorem command (hlaunch : sink.LaunchesAlike origin (sink.Spares mark) launcher launcher')
    (hnested : sink.FollowedTokens origin mark nested nested')
    (h : Contexts sink binding live ctx other) (name : Text) (args : List Text) :
    Sim sink origin (sink.Spares mark) binding live
      (Eval.command nested (Eval.dispatch launcher (Eval.text nested)) ctx name args)
      (Eval.command nested' (Eval.dispatch launcher' (Eval.text nested')) other name args) := by
  rw [Eval.command, Eval.command]
  by_cases hempty : name.isEmpty
  · rw [if_pos hempty, if_pos hempty]
    exact pure _
  · rw [if_neg hempty, if_neg hempty]
    refine bind scope fun scope => ?_
    have hexpansion : Eval.expansion? ctx scope name = Eval.expansion? other scope name := by
      rw [Eval.expansion?, Eval.expansion?, h.isExpanding]
    rw [hexpansion]
    refine bind (ofExcept _) fun expansion => ?_
    cases expansion with
    | some target =>
        exact bind (parse target) fun tokens => hnested _ _ _ _ _ (h.expand name)
    | none => exact dispatch hlaunch (text hnested) h name args

theorem statement (hlaunch : sink.LaunchesAlike origin (sink.Spares mark) launcher launcher')
    (hnested : sink.FollowedTokens origin mark nested nested')
    (h : Contexts sink binding live ctx other) (tokens : List Token) :
    Sim sink origin (sink.Spares mark) binding live
      (Eval.statement nested (Eval.dispatch launcher (Eval.text nested)) ctx tokens)
      (Eval.statement nested' (Eval.dispatch launcher' (Eval.text nested')) other tokens) := by
  refine bind (arguments hnested h tokens) fun arguments => ?_
  match arguments with
  | none => exact pure _
  | some [] => exact pure _
  | some (name :: args) => exact command hlaunch hnested h name args

theorem statements (hlaunch : sink.LaunchesAlike origin (sink.Spares mark) launcher launcher')
    (hnested : sink.FollowedTokens origin mark nested nested')
    (h : Contexts sink binding live ctx other) (list : List (List Token)) :
    Sim sink origin (sink.Spares mark) binding live
      (Eval.statements nested (Eval.dispatch launcher (Eval.text nested)) ctx list)
      (Eval.statements nested' (Eval.dispatch launcher' (Eval.text nested')) other list) := by
  induction list with
  | nil => exact pure _
  | cons first rest ih =>
      refine bind (checkCancelled ctx other h.cancel) fun _ => ?_
      refine bind (statement hlaunch hnested h first) fun flow => ?_
      cases flow with
      | exit => exact pure _
      | proceed => exact ih

end Sim

/-- **Evaluation to any depth is followed in all contexts**, if the launcher is. -/
theorem followedTokens {launcher launcher' : Process.Launcher}
    (hlaunch : sink.LaunchesAlike origin (sink.Spares mark) launcher launcher') (depth : Nat) :
    sink.FollowedTokens origin mark (Eval.tokens (Eval.dispatch launcher) depth)
      (Eval.tokens (Eval.dispatch launcher') depth) := by
  induction depth with
  | zero => exact fun _ _ _ _ _ _ => Sim.unfinished
  | succ depth ih =>
      intro binding live ctx other tokens h
      exact Sim.statements hlaunch ih h (Token.statements tokens)

end Conch.Sink
