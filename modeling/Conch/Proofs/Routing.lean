import Conch.Proofs.Bindings
import Conch.Proofs.Channels
import Conch.Proofs.Commands
import Conch.Proofs.Routes

/-!
Routing descriptors. A pipe with routes runs its left side once for each of them, with the left
descriptor bound to a sink of its own, and hands what the sink got to the right side. If the right
side copies the descriptor that all routes share, this is appending to the output what the left side
wrote, turn by turn.

* `withChannel_copy`: the copy appends what it is given.
* `runRoute_copy`, `runRoutes_copy`: one turn, and all turns one after another.
* `routing_exact`: the call with the flag, for all routes and in all contexts.

Between the left side and the copy a cancellation is looked for: `routing_cancelled` is a pipe that
fails for it although its left side does not.
-/

namespace Conch

namespace Action

theorem done_of_capture {α : Type} {fd : Nat} {a : Action α} {s : Session} {value : α}
    {written : Bytes} (h : (capture fd a s).outcome = .done (value, written)) :
    (a s).outcome = .done value := by
  rw [outcome_capture] at h
  cases houtcome : (a s).outcome with
  | done found =>
      rw [houtcome] at h
      cases h
      rfl
  | failed error =>
      rw [houtcome] at h
      cases h
  | unfinished =>
      rw [houtcome] at h
      cases h

end Action

/-! ### Expressions -/

namespace Builtin

/-- The expression that copies a descriptor. -/
def copyText (fd : Nat) : Text := "l-cat" ++ ' ' :: ("--fd" ++ ' ' :: Text.ofNat fd)

/-- The arguments of the copy. -/
def copyArgs (fd : Nat) : List Text := ["--fd", Text.ofNat fd]

/-- The expression that connects two others by routes, both of them in braces. -/
def routedText (routes : List Route) (left right : Text) : Text :=
  "l-pipe" ++ ' ' :: ("-p" ++ ' ' ::
    (Route.print routes ++ ' ' :: ((Token.raw left).source ++ ' ' :: (Token.raw right).source)))

end Builtin

open Builtin (copyText copyArgs routedText)

/-- A plain word is part of bodies. -/
theorem PlainWord.isPart (w : PlainWord) : Token.IsPart w.text [.word w.text] :=
  Token.isPart_word w.lexedWord w.tight (w.opens_eq_zero _) (w.closes_eq_zero _)

theorem parse_copyText (fd : Nat) :
    Token.parse (copyText fd) = .ok [.word "l-cat", .word "--fd", .word (Text.ofNat fd)] := by
  have hname : Token.parse "l-cat" = .ok [.word "l-cat"] := by decide
  have hflag : Token.parse "--fd" = .ok [.word "--fd"] := by decide
  exact Token.parse_append_space hname (by decide)
    (Token.parse_append_space hflag (by decide) (PlainWord.ofNat fd).parse_text)

theorem isBody_copyText (fd : Nat) : Token.IsBody (copyText fd) := by
  have hname : Token.IsPart "l-cat" [.word "l-cat"] :=
    Token.isPart_word ⟨by decide, by decide, by decide⟩ (by decide) (by decide) (by decide)
  have hflag : Token.IsPart "--fd" [.word "--fd"] :=
    Token.isPart_word ⟨by decide, by decide, by decide⟩ (by decide) (by decide) (by decide)
  exact (hname.append (hflag.append (PlainWord.ofNat fd).isPart)).isBody

theorem parse_routedText {routes : List Route} (hroutes : routes ≠ []) {left right : Text}
    (hleft : Token.IsBody left) (hright : Token.IsBody right) :
    Token.parse (routedText routes left right) =
      .ok [.word "l-pipe", .word "-p", .word (Route.print routes), .raw left, .raw right] := by
  have hname : Token.parse "l-pipe" = .ok [.word "l-pipe"] := by decide
  have hflag : Token.parse "-p" = .ok [.word "-p"] := by decide
  have hspec : Token.parse (Route.print routes) = .ok [.word (Route.print routes)] :=
    (Route.word routes hroutes).parse_text
  have hink : Text.ink (Token.sources [.word (Route.print routes)]) =
      Text.ink (Route.print routes) := by
    rw [Token.sources_cons, Token.sources_nil, List.append_nil]
    rfl
  exact Token.parse_append_space hname (by decide) (Token.parse_append_space hflag (by decide)
    (Token.parse_append_space hspec hink
      (Token.parse_append_space hleft (Token.ink_raw left) hright)))

/-! ### Copying -/

namespace Eval

variable {launcher : Process.Launcher} {ctx : Context} {s : Session} {target : Nat}

/-- The copy of a descriptor that is bound to a channel. -/
theorem runCat_copy (hle : target ≤ Text.largestNat) (htarget : target ≠ 1 ∧ target ≠ 2)
    (hbound : ctx.endpoint? target = some (.channel target)) :
    Builtin.runCat ctx "l-cat" (copyArgs target) = (do
      let bytes ← Action.read (.channel target)
      Action.write ctx.stdout bytes
      return .proceed) := by
  have hname : Flags.IsName "fd" := ⟨by decide, by decide, by decide⟩
  have hread : Flags.read [("fd", .valued)] (copyArgs target) =
      .ok ⟨[("fd", .value (Text.ofNat target))], []⟩ := by
    have hknown : Flags.Written.IsOf [("fd", .valued)]
        ⟨.two, "fd", .separate (Text.ofNat target)⟩ := rfl
    refine (Flags.read_written hname hknown []).trans ?_
    rw [Flags.read]
    rfl
  have hparse : Flags.parse "l-cat" Builtin.cat.usage [("fd", .valued)] (copyArgs target) =
      .ok ⟨[("fd", .value (Text.ofNat target))], []⟩ := by
    rw [Flags.parse, hread]
    rfl
  have hnumber : Flags.number ⟨[("fd", .value (Text.ofNat target))], []⟩ Text.toNat? "fd" 0 =
      .ok target := by
    have hvalue : Flags.value? ⟨[("fd", .value (Text.ofNat target))], []⟩ "fd" =
        some (Text.ofNat target) := rfl
    simp only [Flags.number, hvalue, Text.toNat?_ofNat hle]
  have hchecked : checkArguments Builtin.cat.usage [] 0 = .ok () := rfl
  unfold Builtin.runCat
  simp only [hparse, Action.liftM_ok_bind, hchecked, hnumber,
    Context.reader_eq_ok_iff.mpr ⟨htarget, hbound⟩]

/-- Appending bytes to the output, as the copy of a descriptor does it. -/
def append (ctx : Context) (target : Nat) (written : Bytes) : Action Flow := do
  Action.checkCancelled ctx
  Action.emit (.started "l-cat" (copyArgs target))
  Action.mapError (.inBuiltin "l-cat") do
    Action.write ctx.stdout written
    return .proceed

theorem dispatch_cat (evaluate : Builtin.Evaluator) (ctx : Context) (args : List Text) :
    dispatch launcher evaluate ctx "l-cat" args = (do
      Action.emit (.started "l-cat" args)
      Action.mapError (.inBuiltin "l-cat") (Builtin.runCat ctx "l-cat" args)) := by
  unfold dispatch
  rw [ofName?_cat]
  rfl

/-- The expression that copies a descriptor, as long as the command is no alias. -/
theorem text_copy (htarget : target ≠ 1 ∧ target ≠ 2) (hle : target ≤ Text.largestNat)
    (hbound : ctx.endpoint? target = some (.channel target))
    (hcat : s.scope.aliases.get? "l-cat" = none) (depth : Nat) :
    text (tokens (dispatch launcher) (depth + 1)) ctx (copyText target) s =
      (do
        Action.checkCancelled ctx
        Action.emit (.started "l-cat" (copyArgs target))
        Action.mapError (.inBuiltin "l-cat") do
          let bytes ← Action.read (.channel target)
          Action.write ctx.stdout bytes
          return .proceed : Action Flow) s := by
  have hplain : ∀ token ∈ [Token.word "l-cat", .word "--fd", .word (Text.ofNat target)],
      token.kind ≠ .split ∧ token.kind ≠ .substitution := by
    simp only [List.forall_mem_cons]
    exact ⟨⟨nofun, nofun⟩, ⟨nofun, nofun⟩, ⟨nofun, nofun⟩,
      fun _ hmem => absurd hmem List.not_mem_nil⟩
  have hvalues : [Token.word "l-cat", .word "--fd", .word (Text.ofNat target)].map (·.value) =
      ("l-cat" : Text) :: copyArgs target := rfl
  rw [text_of_parse (parse_copyText target)]
  show statements (tokens (dispatch launcher) depth)
    (dispatch launcher (text (tokens (dispatch launcher) depth))) ctx
    (Token.statements _) s = _
  rw [statements_of_plain _ _ ctx hplain hvalues]
  refine Action.bind_congr_at rfl fun _ _ => ?_
  rw [Action.session_checkCancelled, command_of_none (by decide) hcat, dispatch_cat,
    runCat_copy hle htarget hbound]

/-- The copy of a descriptor that is bound to a channel with bytes appends them. -/
theorem withChannel_copy (htarget : target ≠ 1 ∧ target ≠ 2) (hle : target ≤ Text.largestNat)
    (hstdout : ctx.stdout ≠ .channel target) (hcat : s.scope.aliases.get? "l-cat" = none)
    (depth : Nat) (written : Bytes) :
    Action.withChannel target (.pipe written)
      (text (tokens (dispatch launcher) (depth + 1)) (Builtin.rightContext ctx target)
        (copyText target)) s =
        append ctx target written s := by
  have hbound : (ctx.rebind target (.channel target)).endpoint? target =
      some (.channel target) := by
    rw [Context.endpoint?_rebind, if_pos rfl]
  have hcheck : Action.checkCancelled (ctx.rebind target (.channel target)) =
      Action.checkCancelled ctx := by
    unfold Action.checkCancelled
    rw [Context.cancel_rebind]
  have hwrite : Action.Spares target (do Action.write ctx.stdout written; return Flow.proceed) :=
    (Action.spares_write hstdout written).bind fun _ _ _ => rfl
  have hscope : (s.setChannel target (.pipe written)).scope.aliases.get? "l-cat" = none := hcat
  -- the replaced channel moves inwards up to where it is read, and no further
  rw [Context.rightContext_eq_rebind htarget,
    Action.withChannel_congr (text_copy htarget hle hbound hscope depth), hcheck,
    Context.stdout_rebind htarget.1, (Action.spares_checkCancelled ctx).withChannel_bind]
  refine congrFun (bind_congr fun _ => ?_) s
  rw [(Action.spares_emit _).withChannel_bind]
  refine bind_congr fun _ => ?_
  rw [Action.withChannel_mapError, Action.withChannel_read, hwrite.withChannel_eq_self]

/-! ### Turns -/

/-- Runs an expression with a descriptor bound to a sink, and then, if it proceeds, appends to the
output what the sink got. -/
def appendFrom (evaluate : Builtin.Evaluator) (ctx : Context) (left : Text) (target fd : Nat) :
    Action Flow := do
  let (flow, written) ← Action.capture fd (evaluate (ctx.rebind fd (.outlet fd)) left)
  match flow with
  | .exit => return .exit
  | .proceed => append ctx target written

/-- Does so for each of the descriptors, until one of the runs ends the shell. -/
def appendEach (evaluate : Builtin.Evaluator) (ctx : Context) (left : Text) (target : Nat) :
    List Nat → Action Flow
  | [] => pure .proceed
  | fd :: fds =>
    andThen (appendFrom evaluate ctx left target fd) (appendEach evaluate ctx left target fds)

/-- The command that copies is no alias whenever the left side has proceeded. -/
def CopiesPlainly (evaluate : Builtin.Evaluator) (ctx : Context) (left : Text) (target : Nat) :
    List Nat → Session → Prop
  | [], _ => True
  | fd :: fds, s =>
    let run := evaluate (ctx.rebind fd (.outlet fd)) left s
    let turn := appendFrom evaluate ctx left target fd s
    (run.outcome = .done .proceed → run.session.scope.aliases.get? "l-cat" = none) ∧
      (turn.outcome = .done .proceed → CopiesPlainly evaluate ctx left target fds turn.session)

/-- The routes from some descriptors to the same one. -/
def routesTo (target : Nat) (fds : List Nat) : List Route := fds.map (⟨·, target⟩)

/-- Without depth nothing is evaluated. -/
theorem text_zero_ne_done (ctx : Context) (expr : Text) (s : Session) (flow : Flow) :
    (text (tokens (dispatch launcher) 0) ctx expr s).outcome ≠ .done flow := by
  cases hparse : Token.parse expr with
  | ok list =>
      rw [text_zero hparse]
      nofun
  | error error =>
      rw [text_of_parse_error hparse]
      nofun

/-- **One turn.** A route to a copy appends to the output what the left side wrote. -/
theorem runRoute_copy {fd depth : Nat} {left : Text} (hfd : fd ≠ 0)
    (htarget : target ≠ 1 ∧ target ≠ 2) (hle : target ≤ Text.largestNat)
    (hstdout : ctx.stdout ≠ .channel target)
    (hcat : (text (tokens (dispatch launcher) depth) (ctx.rebind fd (.outlet fd)) left s).outcome =
        .done .proceed →
      (text (tokens (dispatch launcher) depth) (ctx.rebind fd (.outlet fd)) left
        s).session.scope.aliases.get? "l-cat" = none) :
    Builtin.runRoute (text (tokens (dispatch launcher) depth)) ctx left (copyText target)
        ⟨fd, target⟩ s =
      appendFrom (text (tokens (dispatch launcher) depth)) ctx left target fd s := by
  unfold Builtin.runRoute
  simp only [Context.redirect_eq_rebind hfd, Action.liftM_ok_bind]
  refine Action.bind_congr_at rfl fun result hdone => ?_
  obtain ⟨flow, written⟩ := result
  have hflow := Action.done_of_capture hdone
  cases flow with
  | exit => rfl
  | proceed =>
      rw [Action.session_capture]
      -- the right side needs some depth, which the left side has needed as well
      cases depth with
      | zero => exact absurd hflow (text_zero_ne_done _ _ _ _)
      | succ depth => exact withChannel_copy htarget hle hstdout (hcat hflow) depth written

/-- **All turns.** -/
theorem runRoutes_copy {fds : List Nat} {depth : Nat} {left : Text} (hfds : ∀ fd ∈ fds, fd ≠ 0)
    (htarget : target ≠ 1 ∧ target ≠ 2) (hle : target ≤ Text.largestNat)
    (hstdout : ctx.stdout ≠ .channel target)
    (hcat : CopiesPlainly (text (tokens (dispatch launcher) depth)) ctx left target fds s) :
    Builtin.runRoutes (text (tokens (dispatch launcher) depth)) ctx left (copyText target)
        (routesTo target fds) s =
      appendEach (text (tokens (dispatch launcher) depth)) ctx left target fds s := by
  induction fds generalizing s with
  | nil => rfl
  | cons fd fds ih =>
      obtain ⟨hfd, hrest⟩ := List.forall_mem_cons.mp hfds
      have hturn := runRoute_copy hfd htarget hle hstdout hcat.1
      refine Action.bind_congr_at hturn fun flow hdone => ?_
      cases flow with
      | exit => rfl
      | proceed => exact ih hrest (hcat.2 hdone)

/-! ### The call -/

/-- The arguments of a pipe with routes. -/
def routedArgs (routes : List Route) (left right : Text) : List Text :=
  ["-p", Route.print routes, left, right]

/-- With routes for a flag, a pipe runs both sides for each of them. -/
theorem runPipe_routed {routes : List Route} (hroutes : routes ≠ [])
    (hvalid : ∀ route ∈ routes, route.IsValid) (evaluate : Builtin.Evaluator) (ctx : Context)
    {left : Text} (hleft : left.head? ≠ some '-') (right : Text) :
    Builtin.runPipe evaluate ctx "l-pipe" (routedArgs routes left right) =
      Builtin.runRoutes evaluate ctx left right routes := by
  have hname : Flags.IsName "p" := ⟨by decide, by decide, by decide⟩
  have hknown : Flags.Written.IsOf [("p", .valued), ("in", .valued), ("out", .valued)]
      ⟨.one, "p", .separate (Route.print routes)⟩ := rfl
  have hparse : Flags.parse "l-pipe" Builtin.pipe.usage
      [("p", .valued), ("in", .valued), ("out", .valued)] (routedArgs routes left right) =
        .ok ⟨[("p", .value (Route.print routes))], [left, right]⟩ := by
    have hread := Flags.read_written hname hknown [left, right]
    rw [Flags.read_argument _ hleft] at hread
    exact congrArg (Except.mapError _) hread
  unfold Builtin.runPipe
  rw [hparse]
  show (Action.ofExcept (Route.parse (Route.print routes)) >>= fun found =>
    Builtin.runRoutes evaluate ctx left right found) = _
  rw [Route.parse_print hroutes hvalid]
  rfl

theorem kind_of_mem_routed {spec left right : Text} :
    ∀ token ∈ [Token.word "l-pipe", .word "-p", .word spec, .raw left, .raw right],
      token.kind ≠ .split ∧ token.kind ≠ .substitution := by
  simp only [List.forall_mem_cons]
  exact ⟨⟨nofun, nofun⟩, ⟨nofun, nofun⟩, ⟨nofun, nofun⟩, ⟨nofun, nofun⟩, ⟨nofun, nofun⟩,
    fun _ hmem => absurd hmem List.not_mem_nil⟩

/-- A pipe with routes runs both sides for each of them. -/
theorem text_routed {routes : List Route} (hroutes : routes ≠ [])
    (hvalid : ∀ route ∈ routes, route.IsValid) {left right : Text} (hleft : Token.IsBody left)
    (hdash : left.head? ≠ some '-') (hright : Token.IsBody right)
    (hstart : CanStart ctx "l-pipe" s) (depth : Nat) {run : Finished Flow}
    (hrun : Builtin.runRoutes (text (tokens (dispatch launcher) depth)) ctx left right routes s =
      run) :
    text (tokens (dispatch launcher) (depth + 1)) ctx (routedText routes left right) s =
      ⟨run.outcome.inBuiltin "l-pipe", run.session,
        .started "l-pipe" (routedArgs routes left right) :: run.trace⟩ := by
  have hpipe : Builtin.run (text (tokens (dispatch launcher) depth)) ctx "l-pipe"
      (routedArgs routes left right) .pipe =
        Builtin.runRoutes (text (tokens (dispatch launcher) depth)) ctx left right routes :=
    runPipe_routed hroutes hvalid _ ctx hdash right
  rw [text_of_plain (parse_routedText hroutes hleft hright) kind_of_mem_routed rfl (by decide)
    hstart]
  show dispatch _ _ ctx "l-pipe" (routedArgs routes left right) s = _
  rw [dispatch_of_builtin ofName?_pipe, hpipe, hrun]

/-- An expression of plain tokens is not begun when it is cancelled. -/
theorem text_of_plain_cancelled {expr : Text} {list : List Token}
    (hparse : Token.parse expr = .ok list)
    (hplain : ∀ token ∈ list, token.kind ≠ .split ∧ token.kind ≠ .substitution) {name : Text}
    {args : List Text} (hvalues : list.map (·.value) = name :: args)
    (hcancelled : s.world.tokens.isCancelled ctx.cancel = true) (depth : Nat) :
    text (tokens (dispatch launcher) (depth + 1)) ctx expr s =
      ⟨.failed .cancelled, s, [.failed]⟩ := by
  have hcheck : Action.checkCancelled ctx s = ⟨.failed .cancelled, s, [.failed]⟩ := by
    rw [Action.checkCancelled_eq, if_pos hcancelled]
    rfl
  rw [text_of_parse hparse]
  show statements (tokens (dispatch launcher) depth)
    (dispatch launcher (text (tokens (dispatch launcher) depth))) ctx
    (Token.statements list) s = _
  rw [statements_of_plain _ _ ctx hplain hvalues,
    Action.bind_of_failed (congrArg Finished.outcome hcheck), hcheck]

/-! ### What is left alone -/

/-- What is routed from a descriptor is not written on it: only the right side writes there. -/
theorem output_runRoute (evaluate : Builtin.Evaluator) (ctx : Context) (left right : Text)
    {fd : Nat} (hfd : fd ≠ 0) (target : Nat) (s : Session) {first : Finished Flow}
    (hfirst : evaluate (ctx.rebind fd (.outlet fd)) left s = first) :
    Trace.output fd (Builtin.runRoute evaluate ctx left right ⟨fd, target⟩ s).trace =
      if first.outcome = .done .proceed then
        Trace.output fd (Action.withChannel target (.pipe (Trace.output fd first.trace))
          (evaluate (Builtin.rightContext ctx target) right) first.session).trace
      else [] := by
  have hleft : ctx.redirect fd (.outlet fd) = .ok (ctx.rebind fd (.outlet fd)) :=
    Context.redirect_eq_rebind hfd ctx (.outlet fd)
  have hself := Trace.output_without_self fd first.trace
  have hrun : Builtin.runRoute evaluate ctx left right ⟨fd, target⟩ s = _ :=
    Builtin.runRoute_at evaluate left right hleft s hfirst
  cases houtcome : first.outcome with
  | done flow =>
      rw [houtcome] at hrun
      cases flow with
      | proceed =>
          rw [hrun, if_pos rfl, Finished.behind, Trace.output_append, hself]
          rfl
      | exit =>
          rw [hrun, if_neg nofun]
          exact hself
  | failed error =>
      rw [houtcome] at hrun
      rw [hrun, if_neg nofun]
      exact hself
  | unfinished =>
      rw [houtcome] at hrun
      rw [hrun, if_neg nofun]
      exact hself

theorem output_substitution (nested : TokenEvaluator) (ctx : Context) (body : Text) (s : Session) :
    Trace.output 1 (substitution nested ctx body s).trace = [] := by
  rw [substitution_eq nested ctx body s rfl]
  exact Trace.output_without_self ..

theorem spares_append {number : Nat} (h : ctx.stdout ≠ .channel number) (target : Nat)
    (written : Bytes) : Action.Spares number (append ctx target written) := by
  have hwrite : Action.Spares number (do Action.write ctx.stdout written; return Flow.proceed) :=
    (Action.spares_write h written).bind fun _ _ _ => rfl
  exact (Action.spares_checkCancelled ctx).bind fun _ =>
    (Action.spares_emit _).bind fun _ => hwrite.mapError _

/-- A turn leaves all channels as the left side leaves them, but for that of the output. -/
theorem channels_appendFrom (evaluate : Builtin.Evaluator) (left : Text) (target fd : Nat)
    (s : Session) {number : Nat} (h : ctx.stdout ≠ .channel number) :
    (appendFrom evaluate ctx left target fd s).session.world.channels number =
      (evaluate (ctx.rebind fd (.outlet fd)) left s).session.world.channels number := by
  rw [← Action.session_capture fd (evaluate (ctx.rebind fd (.outlet fd)) left) s, appendFrom]
  cases houtcome : (Action.capture fd (evaluate (ctx.rebind fd (.outlet fd)) left) s).outcome with
  | done result =>
      obtain ⟨flow, written⟩ := result
      rw [Action.bind_of_done houtcome]
      cases flow with
      | proceed => exact (spares_append h target written).channels_eq _
      | exit => rfl
  | failed error => rw [Action.bind_of_failed houtcome]
  | unfinished => rw [Action.bind_of_unfinished houtcome]

/-! ### All routes -/

theorem isValid_of_mem_routesTo {fds : List Nat}
    (hsources : ∀ fd ∈ fds, fd ≠ 0 ∧ fd ≤ Text.largestNat) (htarget : target ≠ 1 ∧ target ≠ 2)
    (hle : target ≤ Text.largestNat) : ∀ route ∈ routesTo target fds, route.IsValid := by
  intro route hroute
  obtain ⟨fd, hfd, rfl⟩ := List.mem_map.mp hroute
  exact ⟨(hsources fd hfd).1, (hsources fd hfd).2, htarget, hle⟩

/-- **Routing is exact.** Let a pipe route some descriptors to one that its right side copies. As
long as neither of the two commands is an alias, the pipe does what appending these descriptors in
order does, and a failure is seen as one inside the pipe. A pipe that is cancelled from the
beginning does nothing.

In each turn the left side has the descriptors of the caller but for the one that is routed, and
that one alone is bound to the sink. The right side has those of the caller but for the one that it
copies. What the left side routes from the descriptor itself, or substitutes, does not get into the
sink unless it is written there again. The copy leaves all channels but that of the output as the
left side left them. -/
theorem routing_exact {fds : List Nat} (hfds : fds ≠ [])
    (hsources : ∀ fd ∈ fds, fd ≠ 0 ∧ fd ≤ Text.largestNat) {target : Nat}
    (htarget : target ≠ 1 ∧ target ≠ 2) (hle : target ≤ Text.largestNat) {left : Text}
    (hleft : Token.IsBody left) (hdash : left.head? ≠ some '-') {ctx : Context}
    (hwired : ctx.IsWired) :
    (∀ launcher depth s,
      let call := text (tokens (dispatch launcher) (depth + 1)) ctx
        (routedText (routesTo target fds) left (copyText target)) s
      let each := appendEach (text (tokens (dispatch launcher) depth)) ctx left target fds s
      (CanStart ctx "l-pipe" s →
        CopiesPlainly (text (tokens (dispatch launcher) depth)) ctx left target fds s →
        call = ⟨each.outcome.inBuiltin "l-pipe", each.session,
          .started "l-pipe" (routedArgs (routesTo target fds) left (copyText target)) ::
            each.trace⟩) ∧
      (s.world.tokens.isCancelled ctx.cancel = true →
        call = ⟨.failed .cancelled, s, [.failed]⟩)) ∧
    (∀ fd ∈ fds, ∀ other,
      (ctx.rebind fd (.outlet fd)).endpoint? other =
        (if other = fd then some (.outlet fd) else ctx.endpoint? other) ∧
      (other ≠ fd → ctx.endpoint? other ≠ some (.outlet fd)) ∧
      (Builtin.rightContext ctx target).endpoint? other =
        (if other = target then some (.channel target) else ctx.endpoint? other)) ∧
    (∀ evaluate inner a b s, ∀ fd ∈ fds, ∀ input,
      let first := evaluate (inner.rebind fd (.outlet fd)) a s
      Trace.output fd (Builtin.runRoute evaluate inner a b ⟨fd, input⟩ s).trace =
        if first.outcome = .done .proceed then
          Trace.output fd (Action.withChannel input (.pipe (Trace.output fd first.trace))
            (evaluate (Builtin.rightContext inner input) b) first.session).trace
        else []) ∧
    (∀ nested inner body s, Trace.output 1 (substitution nested inner body s).trace = []) ∧
    ∀ evaluate fd s number, number ≠ 1 →
      (appendFrom evaluate ctx left target fd s).session.world.channels number =
        (evaluate (ctx.rebind fd (.outlet fd)) left s).session.world.channels number := by
  have hvalid := isValid_of_mem_routesTo hsources htarget hle
  have hroutes : routesTo target fds ≠ [] := by simpa [routesTo] using hfds
  have hstdout : ∀ number, number ≠ 1 → ctx.stdout ≠ .channel number := by
    intro number hnumber hbound
    exact hnumber (hwired 1 (.channel number) (congrArg some hbound))
  refine ⟨fun launcher depth s => ⟨fun hstart hcat => ?_, fun hcancelled => ?_⟩, ?_, ?_, ?_, ?_⟩
  · have hrun := runRoutes_copy (fun fd hfd => (hsources fd hfd).1) htarget hle
      (hstdout target htarget.1) hcat
    exact text_routed hroutes hvalid hleft hdash (isBody_copyText target) hstart depth hrun
  · exact text_of_plain_cancelled (parse_routedText hroutes hleft (isBody_copyText target))
      kind_of_mem_routed rfl hcancelled depth
  · intro fd hfd other
    refine ⟨Context.endpoint?_rebind .., ?_, ?_⟩
    · intro hother hbound
      exact hother (hwired other (.outlet fd) hbound).symm
    · rw [Context.rightContext_eq_rebind htarget]
      exact Context.endpoint?_rebind ..
  · intro evaluate inner a b s fd hfd input
    exact output_runRoute evaluate inner a b (hsources fd hfd).1 input s rfl
  · exact output_substitution
  · intro evaluate fd s number hnumber
    exact channels_appendFrom evaluate left target fd s (hstdout number hnumber)

/-- An expression that writes on descriptors 1 and 3, and routes descriptor 3 itself. -/
def twoWriters : Text :=
  "l-echo --fd 3 a; l-pipe -p 3:0 \x7bl-echo --fd 3 b; l-echo c\x7d l-cat"

/-- A context with descriptor 3 bound besides. -/
def threeOutputs : Context := ({} : Context).rebind 3 (.outlet 3)

/-- The session of a shell that has just begun. -/
def atStart : Session := ⟨{ aliasDepth := 64 }, {}⟩

theorem routing_exact_nested :
    ∃ call,
      text (tokens (dispatch Process.start) 4) threeOutputs
        (routedText (routesTo 5 [3, 1]) twoWriters (copyText 5)) atStart = call ∧
      call.outcome.value? = some .proceed ∧
      Trace.output 1 call.trace = Text.utf8 "c\nb\na\nc\nb\n" ∧
      Trace.output 3 call.trace = Text.utf8 "a\n" := by
  have hwired : threeOutputs.IsWired :=
    (Context.isWired_of_no_extra rfl rfl rfl rfl).rebind rfl
  have hstart : CanStart threeOutputs "l-pipe" atStart := ⟨by decide, rfl⟩
  have hcat : CopiesPlainly (text (tokens (dispatch Process.start) 3)) threeOutputs twoWriters 5
      [3, 1] atStart :=
    ⟨fun _ => by decide +kernel, fun _ => ⟨fun _ => by decide +kernel, fun _ => trivial⟩⟩
  have hbody : Token.IsBody twoWriters := by decide +kernel
  have hcall := ((routing_exact (by decide) (by decide) (by decide) (by decide) hbody (by decide)
    hwired).1 Process.start 3 atStart).1 hstart hcat
  exact ⟨_, hcall, by decide +kernel⟩

/-- **A cancelled pipe does not begin.** Its left side alone would proceed, since it has nothing to
do. -/
theorem routing_cancelled :
    let s : Session := ⟨{ aliasDepth := 64 }, { tokens := { made := 1, cancelled := [0] } }⟩
    (text (tokens (dispatch Process.start) 1) (({} : Context).rebind 1 (.outlet 1)) [] s).outcome =
      .done .proceed ∧
    (text (tokens (dispatch Process.start) 2) {} (routedText (routesTo 0 [1]) [] (copyText 0))
      s).outcome = .failed .cancelled := by
  decide +kernel

end Eval

end Conch
