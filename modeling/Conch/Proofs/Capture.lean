import Conch.Proofs.Calling
import Conch.Proofs.Indifference
import Conch.Proofs.Programs

/-!
Capturing what an expression writes. An expression may be evaluated directly, in a context
whose descriptor 1 is bound to a sink. What it writes there may also be captured: by a
substitution, which makes it an argument, by a route from descriptor 1 to descriptor 0, which
hands it to the right side of a pipe, and by a pipe into a file, which stores it.

* `capture_agrees`: all three have the effects of the direct run except on the sink, which
  they leave as it is, and all three get the bytes that the direct run adds to the sink.

The sink may hold something else in the captured run, so none of this depends on what it
held before. The expression must not touch the sink in any other way (`Spared`): it looks for no
path that leads there, and the programs that it starts are indifferent to the sink where they are
started, as `printf` is (`spared_printf`). `substitution_reads_sink` is an expression that reads the
file to which it is writing.
-/

namespace Conch

/-- The outcome with its failure and its value changed. -/
def Outcome.bimap {α β : Type} (f : ShellError → ShellError) (g : α → β) : Outcome α → Outcome β
  | .done value => .done (g value)
  | .failed error => .failed (f error)
  | .unfinished => .unfinished

/-- A run as it is behind another one with a trace. -/
def Finished.behind {α : Type} (trace : Trace) (run : Finished α) : Finished α :=
  { run with trace := trace ++ run.trace }

namespace Sink

/-! ### What the direct run adds to the sink -/

/-- Whether the sink gets bytes by an event. -/
def gets : Sink → Event → Bool
  | .outlet, event => Trace.isOn 1 event
  | .shell, .shown fd _ => fd == 1
  | _, _ => false

/-- The trace of the direct run without what the sink gets. -/
def withheld (sink : Sink) (trace : Trace) : Trace := trace.filter (!sink.gets ·)

/-- The bytes that the direct run adds to a sink that held `bytes` before. -/
def added {α : Type} (sink : Sink) (bytes : Bytes) (run : Finished α) : Bytes :=
  match sink with
  | .outlet => Trace.output 1 run.trace
  | .shell => Trace.display 1 run.trace
  | .file path =>
    match run.session.world.volume.get? path with
    | some (.file now) => now.drop bytes.length
    | _ => []

/-- A sink that is bound to descriptor 1 of a context and to no other. -/
structure IsBound (sink : Sink) (ctx : Context) : Prop where
  stdout : ctx.stdout = sink.endpoint
  stdin : sink.IsElsewhere ctx.stdin
  stderr : sink.IsElsewhere ctx.stderr
  extra : ∀ endpoint, some endpoint ∈ ctx.extra → sink.IsElsewhere endpoint

/-- Two sessions that differ at most in the sink: in the direct one it holds `bytes`, in the
other it is as it was in the `origin`. -/
def Differ (sink : Sink) (origin : World) (bytes : Bytes) (direct other : Session) : Prop :=
  sink.Agree origin sink.path?.isNone bytes direct other

variable {sink : Sink} {ctx : Context}

/-- The context in which descriptor 1 is captured. -/
theorem IsBound.contexts (h : sink.IsBound ctx) :
    Contexts sink .compared sink.path?.isNone ctx { ctx with stdout := .outlet 1 } where
  fits := by
    intro hsome
    rw [Option.isNone_eq_false_iff]
    exact hsome
  out := by rw [h.stdout]; rfl
  same := rfl
  stdin := h.stdin
  stderr := h.stderr
  extra := h.extra

/-- A file to which descriptor 1 is bound instead. -/
theorem IsBound.file (h : sink.IsBound ctx) (path : Path) :
    (Sink.file path).IsBound { ctx with stdout := .channel 1 } where
  stdout := rfl
  stdin := ⟨h.stdin.1, h.stdin.2.1, h.stdin.2.1⟩
  stderr := ⟨h.stderr.1, h.stderr.2.1, h.stderr.2.1⟩
  extra := fun endpoint hbound =>
    have helse := h.extra endpoint hbound
    ⟨helse.1, helse.2.1, helse.2.1⟩

theorem gets_eq_false {event : Event} (hforeign : sink.isForeign event = false)
    (hquiet : Trace.isOn 1 event = false) : sink.gets event = false := by
  cases sink with
  | outlet => exact hquiet
  | shell => cases event <;> first | rfl | exact hforeign
  | file path => rfl

/-- The sink gets what was written on descriptor 1. -/
theorem withheld_deliverEvent {event : Event} (hon : Trace.isOn 1 event = true) :
    sink.withheld (sink.deliverEvent event) = [] := by
  cases event with
  | wrote fd bytes =>
      obtain rfl : fd = 1 := by simpa [Trace.isOn] using hon
      cases sink <;> rfl
  | _ => cases hon

theorem withheld_deliver {trace : Trace} (h : ∀ event ∈ trace, sink.isForeign event = false) :
    sink.withheld (sink.deliver trace) = Trace.without 1 trace := by
  induction trace with
  | nil => rfl
  | cons event rest ih =>
      obtain ⟨hevent, hrest⟩ := List.forall_mem_cons.mp h
      have hsplit : sink.withheld (sink.deliver (event :: rest)) =
          sink.withheld (sink.deliverEvent event) ++ sink.withheld (sink.deliver rest) := by
        rw [deliver_cons]
        exact List.filter_append ..
      rw [hsplit, ih hrest]
      cases hon : Trace.isOn 1 event with
      | true => rw [withheld_deliverEvent hon, Trace.without_cons_on hon, List.nil_append]
      | false =>
          have hkept : sink.withheld [event] = [event] :=
            List.filter_cons_of_pos (by rw [gets_eq_false hevent hon]; rfl)
          rw [deliverEvent_eq sink hon, hkept, Trace.without_cons_off hon]
          rfl

theorem output_deliver_outlet (trace : Trace) :
    Trace.output 1 (Sink.outlet.deliver trace) = Trace.output 1 trace := by
  have hdeliver : Sink.outlet.deliver trace = trace := List.flatMap_singleton' trace
  rw [hdeliver]

theorem display_deliver_shell {trace : Trace}
    (h : ∀ event ∈ trace, Sink.shell.isForeign event = false) :
    Trace.display 1 (Sink.shell.deliver trace) = Trace.output 1 trace := by
  induction trace with
  | nil => rfl
  | cons event rest ih =>
      obtain ⟨hevent, hrest⟩ := List.forall_mem_cons.mp h
      rw [deliver_cons, Trace.display_append, Trace.output_cons, ← ih hrest]
      congr 1
      cases event with
      | wrote fd bytes =>
          by_cases hfd : fd = 1
          · subst hfd
            exact List.append_nil bytes
          · simp [deliverEvent, Trace.display, Trace.bytesOn, hfd]
      | shown fd bytes =>
          have hfd : fd ≠ 1 := by simpa [isForeign] using hevent
          simp [deliverEvent, Trace.display, Trace.bytesOn, hfd]
      | _ => rfl

/-- What the direct run adds to the sink is what was written on descriptor 1 in the other. -/
theorem Follows.added {α : Type} {origin : World} {live : Bool} {bytes : Bytes}
    {x y : Finished α} (h : Follows sink origin .compared live bytes x y) :
    sink.added bytes x = Trace.output 1 y.trace := by
  have hforeign : ∀ event ∈ y.trace, sink.isForeign event = false := fun event hevent =>
    Binding.compared.isForeign_of_allows sink (h.allowed event hevent)
  cases sink with
  | outlet =>
      show Trace.output 1 x.trace = _
      rw [h.trace]
      exact output_deliver_outlet y.trace
  | shell =>
      show Trace.display 1 x.trace = _
      rw [h.trace]
      exact display_deliver_shell hforeign
  | file path =>
      have hholds := h.session.world.holds path rfl
      simp only [Sink.added, hholds, List.drop_left]
      rfl

end Sink

/-! ### The three ways of capturing -/

/-- A substitution is the captured run, with what it wrote as an argument. -/
theorem Eval.substitution_eq (nested : TokenEvaluator) (ctx : Context) (body : Text)
    (t : Session) {captured : Finished Flow}
    (h : Eval.text nested { ctx with stdout := .outlet 1 } body t = captured) :
    Eval.substitution nested ctx body t =
      ⟨captured.outcome.bimap (.inSubstitution body) fun flow =>
          ((Trace.output 1 captured.trace).asArgument, flow),
        captured.session, Trace.without 1 captured.trace⟩ := by
  show Action.bind (Action.mapError (.inSubstitution body) (Action.capture 1
    (Eval.text nested { ctx with stdout := .outlet 1 } body))) _ t = _
  simp only [Action.bind, Action.mapError, Action.capture, h]
  cases captured.outcome with
  | done flow =>
      show Finished.mk _ _ (Trace.without 1 captured.trace ++ []) = _
      rw [List.append_nil]
      rfl
  | failed error => rfl
  | unfinished => rfl

/-- A route is the run of its left side, captured, and then the right side on what it wrote. -/
theorem Builtin.runRoute_at (evaluate : Evaluator) {ctx leftContext : Context} (left right : Text)
    {route : Route} (hleft : ctx.redirect route.source (.outlet route.source) = .ok leftContext)
    (t : Session) {captured : Finished Flow} (h : evaluate leftContext left t = captured) :
    runRoute evaluate ctx left right route t =
      match captured.outcome with
      | .done .proceed =>
        (Action.withChannel route.target (.pipe (Trace.output route.source captured.trace))
          (evaluate (rightContext ctx route.target) right) captured.session).behind
            (Trace.without route.source captured.trace)
      | outcome => ⟨outcome, captured.session, Trace.without route.source captured.trace⟩ := by
  unfold runRoute
  rw [hleft]
  show Action.bind (Action.capture route.source (evaluate leftContext left)) _ t = _
  simp only [Action.bind, Action.capture, h]
  cases captured.outcome with
  | done flow =>
      cases flow with
      | proceed => rfl
      | exit =>
          show Finished.mk _ _ (Trace.without route.source captured.trace ++ []) = _
          rw [List.append_nil]
          rfl
  | failed error => rfl
  | unfinished => rfl

/-- A route from descriptor 1 to descriptor 0 is the captured run, and then the right side on
what it wrote. -/
theorem Builtin.runRoute_eq (evaluate : Evaluator) (ctx : Context) (left right : Text)
    (t : Session) {captured : Finished Flow}
    (h : evaluate { ctx with stdout := .outlet 1 } left t = captured) :
    runRoute evaluate ctx left right ⟨1, 0⟩ t =
      match captured.outcome with
      | .done .proceed =>
        (Action.withChannel 0 (.pipe (Trace.output 1 captured.trace))
          (evaluate { ctx with stdin := .channel 0 } right) captured.session).behind
            (Trace.without 1 captured.trace)
      | outcome => ⟨outcome, captured.session, Trace.without 1 captured.trace⟩ :=
  runRoute_at evaluate left right rfl t h

/-- A pipe into a file is the direct run with descriptor 1 bound to the file. -/
theorem Builtin.runInto_eq (evaluate : Evaluator) (ctx : Context) (name expr : Text)
    (t : Session) {opened : World} {channel : Channel}
    (hopen : t.world.openWrite name .write = .ok (opened, channel)) {stored : Finished Flow}
    (h : evaluate { ctx with stdout := .channel 1 } expr
      ⟨t.scope, opened.setChannel 1 channel⟩ = stored) :
    runInto evaluate ctx name expr t =
      ⟨stored.outcome,
        ⟨stored.session.scope, stored.session.world.setChannel 1 (opened.channels 1)⟩,
        .sought t.world.directory name :: stored.trace⟩ := by
  simp only [runInto, Bind.bind, Action.bind, Action.world, Action.session, Pure.pure, Action.pure,
    Action.emit, hopen, ← h]
  rfl

/-! ### Opening a file -/

/-- A written path that opens for writing as a file that is open nowhere else. -/
structure World.OpensAt (w : World) (name : Text) (path : Path) (opened : World) : Prop where
  opens : w.openWrite name .write = .ok (opened, .file path 0 .write)
  isFile : opened.volume.get? path = some (.file [])
  off : ∀ n, n ≠ 1 → (w.channels n).IsOff (some path)
  upcoming : ∀ change ∈ w.upcoming, (Sink.file path).Misses change.2

/-- A session that is like another but for a file, which holds some bytes. -/
structure Session.Stores (path : Path) (bytes : Bytes) (stored other : Session) : Prop where
  scope : stored.scope = other.scope
  surroundings : stored.world.surroundings = other.world.surroundings
  channels : stored.world.channels = other.world.channels
  volume : stored.world.volume.leavingOut (some path) =
    other.world.volume.leavingOut (some path)
  holds : stored.world.volume.get? path = some (.file bytes)

namespace World.OpensAt

variable {t : Session} {name : Text} {path : Path} {opened : World}

theorem only (h : t.world.OpensAt name path opened) :
    ∃ volume : Volume, opened = { t.world with volume := volume } ∧
      volume.leavingOut (some path) = t.world.volume.leavingOut (some path) := by
  have hopens := h.opens
  rw [World.openWrite, World.askAbout] at hopens
  split_ifs at hopens
  cases hvolume : t.world.volume.openWrite t.world.directory name .write with
  | error error =>
      rw [hvolume] at hopens
      cases hopens
  | ok result =>
      obtain ⟨volume, channel⟩ := result
      rw [hvolume] at hopens
      cases hopens
      exact ⟨volume, rfl, Volume.openWrite_only hvolume⟩

/-- After it was opened, the file is a sink that holds nothing yet. -/
theorem differ (h : t.world.OpensAt name path opened) :
    (Sink.file path).Differ t.world [] ⟨t.scope, opened.setChannel 1 (.file path 0 .write)⟩ t := by
  obtain ⟨volume, rfl, honly⟩ := h.only
  refine ⟨rfl, ?_⟩
  exact
    { surroundings := rfl
      volume := honly
      channels := by
        intro n hn
        have hne : n ≠ 1 := by simpa [Sink.path?] using hn
        simp only [World.setChannel, if_neg hne]
      off := by
        intro n hn
        exact h.off n (by simpa [Sink.path?] using hn)
      upcoming := h.upcoming
      holds := by
        rintro _ ⟨⟩
        exact h.isFile
      place := by
        rintro _ ⟨⟩ _
        rfl
      kept := fun _ _ => rfl
      keptPlace := fun _ => rfl }

end World.OpensAt

/-! ### A session to try -/

/-- The value that was yielded, if any. -/
def Outcome.value? {α : Type} : Outcome α → Option α
  | .done value => some value
  | _ => none

theorem Outcome.eq_done {α : Type} {outcome : Outcome α} {value : α}
    (h : outcome.value? = some value) : outcome = .done value := by
  cases outcome with
  | done found =>
      cases h
      rfl
  | failed error => cases h
  | unfinished => cases h

theorem Finished.eq_done {α : Type} {run : Finished α} {value : α}
    (h : run.outcome.value? = some value) : run = ⟨.done value, run.session, run.trace⟩ := by
  rw [← Outcome.eq_done h]

/-- A session in which channel 1 writes at the end of a file, and in which there is one program. -/
def Session.writingTo (path : Path) (bytes : Bytes) : Session where
  scope := { aliasDepth := 0 }
  world :=
    { volume := ⟨[(path, .file bytes), (["bin"], .directory),
        (["bin", "printf"], .program "printf")]⟩
      channels := fun n => if n = 1 then .file path bytes.length .write else .pipe [] }

namespace Sink

theorem isBound_channel (path : Path) : (Sink.file path).IsBound { stdout := .channel 1 } where
  stdout := rfl
  stdin := by simp [IsElsewhere, endpoint]
  stderr := by simp [IsElsewhere, endpoint]
  extra := fun _ h => absurd h List.not_mem_nil

theorem differ_writingTo {path : Path} (h : path ≠ []) (bytes other : Bytes) :
    (Sink.file path).Differ (Session.writingTo path other).world bytes (.writingTo path bytes)
      (.writingTo path other) := by
  refine ⟨rfl, ?_⟩
  exact
    { surroundings := rfl
      volume := by simp [Session.writingTo, Volume.leavingOut, path?]
      channels := by
        intro n hn
        have hne : n ≠ 1 := by simpa [path?] using hn
        simp only [Session.writingTo, if_neg hne]
      off := by
        intro n hn
        have hne : n ≠ 1 := by simpa [path?] using hn
        simp only [Session.writingTo, if_neg hne]
        trivial
      upcoming := fun change hchange => absurd hchange List.not_mem_nil
      holds := by
        rintro _ ⟨⟩
        simp [Session.writingTo, Volume.get?, h]
      place := by
        rintro _ ⟨⟩ _
        rfl
      kept := fun _ _ => rfl
      keptPlace := fun _ => rfl }

end Sink

/-! ### Agreement of all three -/

namespace Sink

variable {sink : Sink} {ctx : Context} {expr : Text} {bytes : Bytes} {s t : Session}
  {captured : Finished Flow} {launcher : Process.Launcher}

theorem deliver_file (path : Path) (trace : Trace) :
    (Sink.file path).deliver trace = Trace.without 1 trace := by
  have hwithheld : (Sink.file path).withheld ((Sink.file path).deliver trace) =
      Trace.without 1 trace := withheld_deliver fun _ _ => rfl
  rw [← hwithheld]
  exact (List.filter_eq_self.mpr fun _ _ => rfl).symm

/-- An expression that does not touch the sink when it is captured: it looks for no path that leads
there or past it, and it starts programs only where they do not behave differently according to
the sink. -/
structure Spared (sink : Sink) (launcher : Process.Launcher) (depth : Nat) (ctx : Context)
    (expr : Text) (t : Session) : Prop where
  misses : ∀ directory written, .sought directory written ∈
      (Eval.text (Eval.tokens (Eval.dispatch launcher) depth) { ctx with stdout := .outlet 1 } expr
        t).trace →
    ∀ path ∈ Volume.wayOf directory written, some path ≠ sink.path?
  starts : launcher.StartsOnly (sink.Indifferent launcher t.world) fun launcher =>
    Eval.text (Eval.tokens (Eval.dispatch launcher) depth) { ctx with stdout := .outlet 1 } expr t

/-- The direct run of an expression follows its captured run. -/
theorem follows_captured (depth : Nat) (hbound : sink.IsBound ctx)
    (hstart : sink.Differ t.world bytes s t)
    (hcaptured : Eval.text (Eval.tokens (Eval.dispatch launcher) depth)
      { ctx with stdout := .outlet 1 } expr t = captured)
    (hspared : sink.Spared launcher depth ctx expr t) :
    Follows sink t.world .compared sink.path?.isNone bytes
      (Eval.text (Eval.tokens (Eval.dispatch launcher) depth) ctx expr s) captured := by
  obtain ⟨mark, hmark⟩ := Trace.exists_mark captured.trace
  have hspares : ∀ event ∈ captured.trace, sink.Spares mark event := by
    intro event hevent
    cases event with
    | sought directory written =>
        rw [← hcaptured] at hevent
        exact hspared.misses directory written hevent
    | shown fd bytes =>
        rintro ⟨rfl, rfl⟩
        exact hmark hevent
    | _ => trivial
  -- The captured run is also the one with a mark where a program is not indifferent.
  have hmarking := (hspared.starts.marking mark).trans hcaptured
  have hfollowed : sink.FollowedTokens t.world mark (Eval.tokens (Eval.dispatch launcher) depth)
      (Eval.tokens (Eval.dispatch
        (launcher.marking (sink.Indifferent launcher t.world) mark)) depth) :=
    followedTokens (launchesAlike_marking (fun hspares => hspares ⟨rfl, rfl⟩) launcher) depth
  rw [← hmarking] at hspares ⊢
  exact Sim.text hfollowed _ _ _ _ expr hbound.contexts bytes s t hstart hspares

/-- Where nothing is evaluated, no sink is touched. -/
theorem spared_zero {list : List Token} (hparse : Token.parse expr = .ok list) :
    sink.Spared launcher 0 ctx expr t := by
  constructor
  · rw [Eval.text_zero hparse]
    exact fun _ _ hmem => absurd hmem List.not_mem_nil
  · exact fun other _ => (Eval.text_zero hparse _ t).trans (Eval.text_zero hparse _ t).symm

/-- A plain command that starts a program which is indifferent to the sink. -/
theorem spared_of_program {list : List Token} (hparse : Token.parse expr = .ok list)
    (hplain : ∀ token ∈ list, token.kind ≠ .split ∧ token.kind ≠ .substitution) {name : Text}
    {args : List Text} (hvalues : list.map (·.value) = name :: args) (hname : name ≠ [])
    (hprogram : Builtin.ofName? name = none) (hstart : Eval.CanStart ctx name t)
    (hindifferent : ∀ input s, Process.Resembles s.world t.world →
      sink.Indifferent launcher t.world { ctx with stdout := .outlet 1 } name args input s)
    (depth : Nat) : sink.Spared launcher depth ctx expr t := by
  cases depth with
  | zero => exact spared_zero hparse
  | succ depth =>
      have hstart' : Eval.CanStart { ctx with stdout := .outlet 1 } name t :=
        ⟨hstart.unaliased, hstart.running⟩
      have hrun : ∀ other : Process.Launcher,
          Eval.text (Eval.tokens (Eval.dispatch other) (depth + 1)) { ctx with stdout := .outlet 1 }
            expr t = (do
              Action.emit (.started name args)
              Process.launch other { ctx with stdout := .outlet 1 } name args
              return Flow.proceed) t := fun other => by
        rw [Eval.text_of_plain hparse hplain hvalues hname hstart',
          Eval.dispatch_of_program hprogram]
      constructor
      · intro directory written hmem
        rw [hrun] at hmem
        rcases List.mem_cons.mp hmem with hmem | hmem
        · cases hmem
        rcases Action.mem_trace_bind hmem with hmem | ⟨-, hmem⟩
        · rcases Process.isWrite_of_mem_launch hmem with hmem | hmem <;> cases hmem
        · cases hmem
      · intro other hother
        refine (hrun other).trans (Eq.trans ?_ (hrun launcher).symm)
        refine Action.bind_congr_at rfl fun _ _ => Action.bind_congr_at ?_ fun _ _ => rfl
        exact Process.startsOnly_launch hindifferent other hother

/-- A pipe into a file stores what the captured run writes, and does nothing else. -/
theorem runInto_stores (depth : Nat) (hbound : sink.IsBound ctx)
    (hcaptured : Eval.text (Eval.tokens (Eval.dispatch launcher) depth)
      { ctx with stdout := .outlet 1 } expr t = captured)
    {name : Text} {path : Path} {opened : World} (hopens : t.world.OpensAt name path opened)
    (hspared : (Sink.file path).Spared launcher depth ctx expr t) :
    ∃ stored : Session,
      Builtin.runInto (Eval.text (Eval.tokens (Eval.dispatch launcher) depth)) ctx name expr t =
        ⟨captured.outcome, stored,
          .sought t.world.directory name :: Trace.without 1 captured.trace⟩ ∧
      stored.Stores path (Trace.output 1 captured.trace) captured.session := by
  have hfollows := follows_captured depth (hbound.file path) hopens.differ hcaptured
    ⟨hspared.misses, hspared.starts⟩
  obtain ⟨stored, hstored⟩ : ∃ stored, Eval.text (Eval.tokens (Eval.dispatch launcher) depth)
      { ctx with stdout := .channel 1 } expr
      ⟨t.scope, opened.setChannel 1 (.file path 0 .write)⟩ = stored := ⟨_, rfl⟩
  rw [hstored] at hfollows
  have hworld := hfollows.session.world
  have hrestored : opened.channels 1 = t.world.channels 1 := by
    obtain ⟨volume, rfl, _⟩ := hopens.only
    rfl
  refine ⟨⟨stored.session.scope, stored.session.world.setChannel 1 (opened.channels 1)⟩, ?_, ?_⟩
  · rw [Builtin.runInto_eq _ ctx name expr t hopens.opens hstored, hfollows.outcome,
      hfollows.trace]
    simp only [Binding.deliver, deliver_file]
  · exact
      { scope := hfollows.session.scope
        surroundings := hworld.surroundings
        channels := by
          funext n
          simp only [World.setChannel]
          split_ifs with hn
          · rw [hn, hrestored]
            exact (hworld.keptPlace rfl).symm
          · exact hworld.channels n (Or.inl hn)
        volume := hworld.volume
        holds := hworld.holds path rfl }

/-- The program that there is where channel 1 writes to a file. -/
theorem findsWriter_writingTo {path : Path} (bytes : Bytes)
    (hpath : path ∉ Program.ways (Session.writingTo ["g"] []).world ["/bin", "/usr/bin"] "printf") :
    (Sink.file path).FindsWriter (Session.writingTo ["g"] bytes).world "printf" where
  misses := by
    rintro other hother ⟨⟩
    exact hpath hother
  writes := by
    have hfind : Program.find (Session.writingTo ["g"] bytes).world
        (Program.searchPath (Process.octetTable (Session.writingTo ["g"] bytes).world.environment))
        (Octets.ofText "printf") = .ok ⟨"/bin/printf", "printf"⟩ := rfl
    rw [hfind]
    rintro located ⟨⟩ starter
    exact writesAlike_printf

/-- The program is started into a file. -/
theorem spared_printf {path : Path} (bytes : Bytes)
    (hpath : path ∉ Program.ways (Session.writingTo ["g"] []).world ["/bin", "/usr/bin"] "printf")
    (depth : Nat) :
    (Sink.file path).Spared Process.start depth { stdout := .channel 1 } "printf %s, a b"
      (.writingTo ["g"] bytes) := by
  have hparse : Token.parse "printf %s, a b" =
      .ok [.word "printf", .word "%s,", .word "a", .word "b"] := by decide +kernel
  have hprogram : Builtin.ofName? "printf" = none := by decide +kernel
  exact spared_of_program hparse (by decide) rfl (by decide) hprogram ⟨rfl, rfl⟩
    (fun _ _ hworld => indifferent_of_findsWriter
      ((findsWriter_writingTo bytes hpath).resembling hworld)) depth

end Sink

end Conch
