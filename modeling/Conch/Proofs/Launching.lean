import Conch.Proofs.Following
import Mathlib.Data.Set.Finite.Basic

/-!
Programs that are started in two runs side by side. What becomes of a program is up to the
launcher. What the shell does around it, in order to give it its input and to see of it only
what it writes, is followed (`Sim.launch`), so a direct run follows a captured one if the
launcher does the same for both.

That is asked of the launcher only for the programs that are started in the captured run, and
there only for sessions that differ from that run in the sink:

* `Process.Launcher.StartsOnly`: a run starts programs at some places only, since it is the
  same whatever a launcher does anywhere else;
* `Sink.Indifferent`: the places at which a program does not behave differently according to
  the sink;
* `Sink.launchesAlike_marking`: a launcher is followed by the one that does the same at these
  places and leaves a mark anywhere else. A run without the mark is the run of both.
-/

namespace Conch

variable {α : Type}

/-! ### What the trace shows of a program -/

namespace Trace

theorem isOn_of_not_isWrite {fd : Nat} {event : Event} (h : Process.isWrite event = false) :
    isOn fd event = false := by
  cases event <;> first | rfl | cases h

theorem output_writes (fd : Nat) (trace : Trace) :
    output fd (trace.filter Process.isWrite) = output fd trace :=
  flatMap_filter (fun _ hwrite => bytesOn_eq_nil (isOn_of_not_isWrite hwrite)) trace

end Trace

namespace Sink

variable {sink : Sink} {origin : World} {spares : Event → Prop} {binding : Binding} {live : Bool}
  {bytes : Bytes}

/-- What is delivered to a sink is written, as it was in the captured run. -/
theorem isWrite_of_mem_deliverEvent {event delivered : Event}
    (hwrite : Process.isWrite event = true) (h : delivered ∈ sink.deliverEvent event) :
    Process.isWrite delivered = true := by
  cases event with
  | wrote fd bytes =>
      cases sink <;> simp only [deliverEvent] at h
      · rw [List.mem_singleton.mp h]
        rfl
      · split_ifs at h <;> rw [List.mem_singleton.mp h] <;> rfl
      · split_ifs at h
        · cases h
        · rw [List.mem_singleton.mp h]
          rfl
  | shown fd bytes =>
      rw [deliverEvent_eq sink rfl, List.mem_singleton] at h
      rw [h]
      rfl
  | _ => cases hwrite

theorem deliver_writes (sink : Sink) (trace : Trace) :
    sink.deliver (trace.filter Process.isWrite) =
      (sink.deliver trace).filter Process.isWrite := by
  induction trace with
  | nil => rfl
  | cons event rest ih =>
      rw [deliver_cons, List.filter_append, ← ih]
      cases hwrite : Process.isWrite event with
      | true =>
          have hkept : (sink.deliverEvent event).filter Process.isWrite =
              sink.deliverEvent event :=
            List.filter_eq_self.mpr fun _ h => isWrite_of_mem_deliverEvent hwrite h
          rw [List.filter_cons_of_pos hwrite, deliver_cons, hkept]
      | false =>
          have hdropped : ¬Process.isWrite event = true := by simp [hwrite]
          rw [List.filter_cons_of_neg hdropped,
            deliverEvent_eq sink (Trace.isOn_of_not_isWrite hwrite),
            List.filter_cons_of_neg hdropped]
          rfl

namespace Binding

theorem deliver_writes (sink : Sink) (binding : Binding) (trace : Trace) :
    binding.deliver sink (trace.filter Process.isWrite) =
      (binding.deliver sink trace).filter Process.isWrite := by
  cases binding with
  | compared => exact sink.deliver_writes trace
  | captured => rfl
  | opened => rfl

theorem gained_writes (binding : Binding) (trace : Trace) :
    binding.gained (trace.filter Process.isWrite) = binding.gained trace := by
  cases binding with
  | compared => exact Trace.output_writes 1 trace
  | captured => rfl
  | opened => rfl

end Binding

/-! ### What the shell does around a program -/

/-- The alarm goes off in both worlds or in none of them. -/
theorem Apart.withTokensOf {direct other after otherAfter : World} {more : Bytes}
    (h : sink.Apart origin live bytes direct other)
    (hafter : sink.Apart origin live more after otherAfter) :
    sink.Apart origin live more (Process.withTokensOf direct after)
      (Process.withTokensOf other otherAfter) := by
  unfold Process.withTokensOf
  rw [h.alarm, hafter.alarm, h.tokens]
  split
  · next _ _ due token _ _ =>
    exact
      { hafter with
        surroundings := congrArg (fun w : World =>
          { w with tokens := other.tokens.cancel token, alarm := none }) hafter.surroundings }
  · exact
      { hafter with
        surroundings := congrArg (fun w : World =>
          { w with tokens := other.tokens, alarm := other.alarm }) hafter.surroundings }

/-- What is asked of the writes in a trace. -/
def OfWrites (spares : Event → Prop) (event : Event) : Prop :=
  Process.isWrite event = true → spares event

namespace Sim

variable {a b : Action α}

theorem keepingDirectory (h : Sim sink origin spares binding live a b) :
    Sim sink origin spares binding live (Process.keepingDirectory a)
      (Process.keepingDirectory b) := by
  intro bytes s t hagree hspares
  have hx := h bytes s t hagree hspares
  refine ⟨hx.outcome, hx.trace, hx.allowed, hx.session.scope, ?_⟩
  show sink.Apart origin live _ { (a s).session.world with directory := s.world.directory } _
  rw [hagree.world.directory]
  exact hx.session.world.setDirectory _

theorem withoutTokens (h : Sim sink origin spares binding live a b) :
    Sim sink origin spares binding live (Process.withoutTokens a) (Process.withoutTokens b) := by
  intro bytes s t hagree hspares
  have hx := h bytes s t hagree hspares
  exact ⟨hx.outcome, hx.trace, hx.allowed, hx.session.scope,
    hagree.world.withTokensOf hx.session.world⟩

theorem withoutNames (h : Sim sink origin spares binding live a b) :
    Sim sink origin spares binding live (Process.withoutNames a) (Process.withoutNames b) := by
  intro bytes s t hagree hspares
  have hx := h bytes { s with scope := { aliasDepth := 0 } } { t with scope := { aliasDepth := 0 } }
    ⟨rfl, hagree.world⟩ hspares
  exact ⟨hx.outcome, hx.trace, hx.allowed, hagree.scope, hx.session.world⟩

/-- Only what a program writes is seen of it, so only that has to spare the sink. -/
theorem showingWrites (h : Sim sink origin (OfWrites spares) binding live a b) :
    Sim sink origin spares binding live (Process.showingWrites a) (Process.showingWrites b) := by
  intro bytes s t hagree hspares
  have hx := h bytes s t hagree fun event hevent hwrite =>
    hspares event (List.mem_append_left _ (List.mem_filter.mpr ⟨hevent, hwrite⟩))
  -- What stands behind the writes is a failure of both runs or nothing.
  obtain ⟨failure, hfailure, hdirect, hother⟩ : ∃ failure : Trace,
      (∀ event ∈ failure, event = .failed) ∧
      Process.showingWrites a s =
        ⟨(a s).outcome, (a s).session, (a s).trace.filter Process.isWrite ++ failure⟩ ∧
      Process.showingWrites b t =
        ⟨(b t).outcome, (b t).session, (b t).trace.filter Process.isWrite ++ failure⟩ := by
    simp only [Process.showingWrites, hx.outcome]
    cases (b t).outcome <;> exact ⟨_, by simp, rfl, rfl⟩
  have hquiet : ∀ event ∈ failure, Trace.isOn 1 event = false := fun event hevent => by
    rw [hfailure event hevent]
    rfl
  rw [hdirect, hother]
  constructor
  · exact hx.outcome
  · simp only [binding.deliver_append, binding.deliver_writes, binding.deliver_eq sink hquiet,
      hx.trace]
  · intro event hevent
    rcases List.mem_append.mp hevent with hevent | hevent
    · exact hx.allowed event (List.mem_of_mem_filter hevent)
    · rw [hfailure event hevent]
      exact binding.allows_of_quiet sink (by cases sink <;> rfl) rfl
  · simp only [binding.gained_append, binding.gained_writes, binding.gained_eq hquiet,
      List.append_nil]
    exact hx.session

/-- The world is changed alike in both runs, and then more is done. -/
theorem setWorld {w w' : World} {a b : Unit → Action α} {s t : Session}
    (hagree : sink.Agree origin live bytes s t) (hworld : sink.Apart origin live bytes w w')
    (hnext : Sim sink origin spares binding live (a ()) (b ()))
    (hspares : ∀ event ∈ ((Action.setWorld w' >>= b) t).trace, spares event) :
    Follows sink origin binding live bytes ((Action.setWorld w >>= a) s)
      ((Action.setWorld w' >>= b) t) :=
  hnext bytes ⟨s.scope, w⟩ ⟨t.scope, w'⟩ ⟨hagree.scope, hworld⟩ hspares

end Sim

/-! ### Input -/

theorem le_freshNumber (most : Nat) (endpoints : List (Nat × Endpoint)) :
    most ≤ endpoints.foldl
      (fun most binding => max most (Process.endpointNumber binding.2 + 1)) most := by
  induction endpoints generalizing most with
  | nil => exact Nat.le_refl most
  | cons binding rest ih => exact (Nat.le_max_left ..).trans (ih _)

namespace Contexts

variable {ctx other : Context}

theorem endpointNumber_stdout (h : Contexts sink binding live ctx other) :
    Process.endpointNumber ctx.stdout = 1 ∧ Process.endpointNumber other.stdout = 1 := by
  obtain ⟨hout, hother⟩ := Prod.ext_iff.mp h.out
  rw [show ctx.stdout = _ from hout, show other.stdout = _ from hother]
  cases binding with
  | compared => cases sink <;> exact ⟨rfl, rfl⟩
  | captured => exact ⟨rfl, rfl⟩
  | opened => exact ⟨rfl, rfl⟩

/-- What the shell makes for a program has the same number in both runs, and it is not 1. -/
theorem freshNumber (h : Contexts sink binding live ctx other) (input : Endpoint) :
    Process.freshNumber (Process.endpointsOf ctx input) =
        Process.freshNumber (Process.endpointsOf other input) ∧
      1 < Process.freshNumber (Process.endpointsOf other input) := by
  obtain ⟨hout, hother⟩ := h.endpointNumber_stdout
  have hstderr : ctx.stderr = other.stderr := by rw [h.same]
  have hextra : ctx.extra = other.extra := by rw [h.same]
  simp only [Process.freshNumber, Process.endpointsOf, List.cons_append, List.foldl_cons, hout,
    hother, hstderr, hextra, true_and]
  exact lt_of_lt_of_le (by omega) (le_freshNumber _ _)

end Contexts

namespace Sim

variable {ctx other : Context}

/-- A program reads the same bytes from memory in both runs, and leaves the same. -/
theorem feed (h : Contexts sink binding live ctx other) (input : Bytes)
    {run run' : Endpoint → Action α}
    (hrun : ∀ input, Sim sink origin spares binding live (run input) (run' input)) :
    Sim sink origin spares binding live (Process.feed ctx input run)
      (Process.feed other input run') := by
  obtain ⟨hsame, hnumber⟩ := h.freshNumber .terminal
  unfold Process.feed
  rw [hsame]
  have hoff : (Channel.pipe input).IsOff sink.path? := trivial
  refine withChannel (Nat.ne_of_gt hnumber) hoff (bind (hrun _) fun value => world ?_)
  intro bytes s t hagree _
  rw [hagree.world.channels _ (.inl (Nat.ne_of_gt hnumber))]
  cases t.world.channels (Process.freshNumber (Process.endpointsOf other .terminal)) with
  | pipe unread => exact .of_silent hagree
  | file path offset access => exact .of_silent hagree

/-- **Giving a program its input is followed.** -/
theorem withInput (h : Contexts sink binding live ctx other) {run run' : Endpoint → Action α}
    (hrun : ∀ input, Sim sink origin spares binding live (run input) (run' input)) :
    Sim sink origin spares binding live (Process.withInput ctx run)
      (Process.withInput other run') := by
  have hstdin : ctx.stdin = other.stdin := by rw [h.same]
  have helse := h.stdin
  refine world fun bytes s t hagree hspares => ?_
  rw [hstdin]
  cases hinput : other.stdin with
  | terminal =>
      simp only [hinput, ← hagree.world.terminal] at hspares ⊢
      refine setWorld hagree (hagree.world.setTerminal _) (bind (feed h _ hrun) fun result => ?_)
        hspares
      refine world fun bytes s t hagree hspares => ?_
      rw [← hagree.world.terminal] at hspares ⊢
      exact setWorld hagree (hagree.world.setTerminal _) (pure _) hspares
  | channel number =>
      rw [hinput] at helse
      have hnumber : number ≠ 1 := fun hone => helse.2.1 (by rw [hone])
      simp only [hinput, hagree.world.channels number (.inl hnumber)] at hspares ⊢
      cases hchannel : t.world.channels number with
      | pipe held =>
          simp only [hchannel] at hspares ⊢
          exact setWorld hagree (hagree.world.setChannel (.inl hnumber) trivial)
            (bind (feed h held hrun) fun result => pure _) hspares
      | file path offset access =>
          simp only [hchannel] at hspares ⊢
          exact hrun _ bytes s t hagree hspares
  | outlet fd =>
      simp only [hinput] at hspares ⊢
      exact hrun _ bytes s t hagree hspares
  | standard fd =>
      simp only [hinput] at hspares ⊢
      exact hrun _ bytes s t hagree hspares

end Sim

/-! ### Starting a program -/

/-- A launcher is followed by another: it starts programs alike in contexts of the two runs,
provided that everything a program writes in the other run spares the sink. -/
def LaunchesAlike (sink : Sink) (origin : World) (spares : Event → Prop)
    (launcher launcher' : Process.Launcher) : Prop :=
  ∀ binding live ctx other name args input, Contexts sink binding live ctx other →
    Sim sink origin (OfWrites spares) binding live (launcher ctx name args input)
      (launcher' other name args input)

/-- **A program that is started is followed if the launcher is.** -/
theorem Sim.launch {launcher launcher' : Process.Launcher}
    (hlaunch : sink.LaunchesAlike origin spares launcher launcher') {ctx other : Context}
    (h : Contexts sink binding live ctx other) (name : Text) (args : List Text) :
    Sim sink origin spares binding live (Process.launch launcher ctx name args)
      (Process.launch launcher' other name args) := by
  refine bind (checkCancelled ctx other h.cancel) fun _ => ?_
  refine bind (showingWrites (withoutNames (withoutTokens (mapError (keepingDirectory
    (withInput h fun input => hlaunch _ _ _ _ name args input h)) _)))) fun result => ?_
  rcases result with fault | status
  · cases fault with
    | os error => cases error <;> exact fail _
    | _ => exact fail _
  · rcases status with code | signal
    · cases code with
      | zero => exact pure _
      | succ code => exact fail _
    · exact fail _

end Sink

/-! ### The starts of a run -/

namespace Process

/-- Places at which programs are started: in a context, by a name and arguments, with an input
and in a session. -/
abbrev Starts := Context → Text → List Text → Endpoint → Session → Prop

/-- A run, by the launcher that it is given, starts programs at some places only: it is the same
whatever another launcher does anywhere else. -/
def Launcher.StartsOnly (launcher : Launcher) (starts : Starts) (run : Launcher → Finished α) :
    Prop :=
  ∀ other : Launcher,
    (∀ ctx name args input s, starts ctx name args input s →
      other ctx name args input s = launcher ctx name args input s) →
    run other = run launcher

open Classical in
/-- The launcher that does the same as another at some places. Anywhere else it leaves a mark. -/
noncomputable def Launcher.marking (launcher : Launcher) (starts : Starts) (mark : Bytes) :
    Launcher := fun ctx name args input s =>
  if starts ctx name args input s then launcher ctx name args input s
  else ⟨.done (.ok .success), s, [.shown 0 mark]⟩

/-- A run that starts programs at some places only is the run with a mark anywhere else. -/
theorem Launcher.StartsOnly.marking {launcher : Launcher} {starts : Starts}
    {run : Launcher → Finished α} (h : launcher.StartsOnly starts run) (mark : Bytes) :
    run (launcher.marking starts mark) = run launcher :=
  h _ fun _ _ _ _ _ hstarts => if_pos hstarts

/-- Worlds with the same files and variables, in which the same programs are found. -/
structure Resembles (w other : World) : Prop where
  volume : w.volume = other.volume
  directory : w.directory = other.directory
  environment : w.environment = other.environment

theorem feed_congr {ctx : Context} {bytes : Bytes} {run run' : Endpoint → Action α} {s : Session}
    (h : ∀ input t, Resembles t.world s.world → run input t = run' input t) :
    feed ctx bytes run s = feed ctx bytes run' s := by
  have hrun := h (.channel (freshNumber (endpointsOf ctx .terminal)))
    { s with world := s.world.setChannel (freshNumber (endpointsOf ctx .terminal)) (.pipe bytes) }
    ⟨rfl, rfl, rfl⟩
  simp only [feed, Action.withChannel]
  rw [Action.bind_congr_at hrun fun _ _ => rfl]

/-- Giving a program its input leaves the files as they are. -/
theorem withInput_congr {ctx : Context} {run run' : Endpoint → Action α} {s : Session}
    (h : ∀ input t, Resembles t.world s.world → run input t = run' input t) :
    withInput ctx run s = withInput ctx run' s := by
  have hfeed : ∀ bytes t, Resembles t.world s.world →
      feed ctx bytes run t = feed ctx bytes run' t :=
    fun bytes t ht => feed_congr fun input u hu => h input u
      ⟨hu.volume.trans ht.volume, hu.directory.trans ht.directory,
        hu.environment.trans ht.environment⟩
  unfold withInput
  rw [Action.world_bind, Action.world_bind]
  cases ctx.stdin with
  | terminal =>
      exact Action.bind_congr_at rfl fun _ _ =>
        Action.bind_congr_at (hfeed _ _ ⟨rfl, rfl, rfl⟩) fun _ _ => rfl
  | channel number =>
      dsimp only
      cases s.world.channels number with
      | pipe bytes =>
          exact Action.bind_congr_at rfl fun _ _ =>
            Action.bind_congr_at (hfeed _ _ ⟨rfl, rfl, rfl⟩) fun _ _ => rfl
      | file path offset access => exact h _ s ⟨rfl, rfl, rfl⟩
  | outlet fd => exact h _ s ⟨rfl, rfl, rfl⟩
  | standard fd => exact h _ s ⟨rfl, rfl, rfl⟩

/-- **A program is started once**, in a session with the same files. -/
theorem startsOnly_launch {launcher : Launcher} {starts : Starts} {ctx : Context} {name : Text}
    {args : List Text} {s : Session}
    (h : ∀ input t, Resembles t.world s.world → starts ctx name args input t) :
    launcher.StartsOnly starts fun launcher => launch launcher ctx name args s := by
  intro other hother
  have hinput : withInput ctx (other ctx name args) { s with scope := { aliasDepth := 0 } } =
      withInput ctx (launcher ctx name args) { s with scope := { aliasDepth := 0 } } :=
    withInput_congr fun input t ht => hother _ _ _ _ _ (h input t ht)
  refine Action.bind_congr_at rfl fun _ _ => ?_
  rw [Action.session_checkCancelled]
  refine Action.bind_congr_at ?_ fun _ _ => rfl
  simp only [showingWrites, withoutNames, withoutTokens, cancellable, Action.mapError,
    keepingDirectory, hinput]

/-- Of a program nothing is seen but what it writes, and a failure. -/
theorem isWrite_of_mem_launch {launcher : Launcher} {ctx : Context} {name : Text} {args : List Text}
    {s : Session} {event : Event} (h : event ∈ (launch launcher ctx name args s).trace) :
    isWrite event = true ∨ event = .failed := by
  rcases Action.mem_trace_bind h with h | ⟨-, h⟩
  · rw [Action.checkCancelled_eq] at h
    split at h
    · exact .inr (List.mem_singleton.mp h)
    · cases h
  rcases Action.mem_trace_bind h with h | ⟨result, h⟩
  · rcases List.mem_append.mp h with h | h
    · exact .inl (List.mem_filter.mp h).2
    · split at h
      · exact .inr (List.mem_singleton.mp h)
      · cases h
  · refine .inr (List.mem_singleton.mp ?_)
    rcases result with fault | status
    · cases fault with
      | os error => cases error <;> exact h
      | _ => exact h
    · rcases status with code | signal
      · cases code with
        | zero => cases h
        | succ code => exact h
      · exact h

end Process

/-- Some mark is not in a trace. -/
theorem Trace.exists_mark (trace : Trace) : ∃ mark, Event.shown 0 mark ∉ trace := by
  have hmany : (Set.range fun mark : Bytes => Event.shown 0 mark).Infinite :=
    Set.infinite_range_of_injective fun _ _ h => (Event.shown.inj h).2
  obtain ⟨_, ⟨mark, rfl⟩, hmark⟩ := hmany.exists_notMem_finset trace.toFinset
  exact ⟨mark, by simpa using hmark⟩

namespace Sink

/-- The places in a captured run at which a program does not behave differently according to the
sink: a direct run that starts it there, in a session that differs in the sink only, follows the
captured run. -/
def Indifferent (sink : Sink) (launcher : Process.Launcher) (origin : World) : Process.Starts :=
  fun other name args input t =>
    ∀ binding live ctx bytes s, Contexts sink binding live ctx other →
      sink.Agree origin live bytes s t →
      Follows sink origin binding live bytes (launcher ctx name args input s)
        (launcher other name args input t)

/-- **A launcher is followed by the one that leaves a mark where a program is not indifferent to
the sink**, as long as there is no mark. -/
theorem launchesAlike_marking {sink : Sink} {origin : World} {spares : Event → Prop} {mark : Bytes}
    (hmark : ¬spares (.shown 0 mark)) (launcher : Process.Launcher) :
    sink.LaunchesAlike origin spares launcher
      (launcher.marking (sink.Indifferent launcher origin) mark) := by
  intro binding live ctx other name args input h bytes s t hagree hspares
  simp only [Process.Launcher.marking] at hspares ⊢
  split_ifs at hspares ⊢ with hindifferent
  · exact hindifferent binding live ctx bytes s h hagree
  · exact absurd (hspares _ List.mem_cons_self rfl) hmark

end Sink

end Conch
