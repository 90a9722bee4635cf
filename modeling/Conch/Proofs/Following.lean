import Conch.Proofs.Sequencing
import Conch.Proofs.Sinks

/-!
Two runs side by side, a direct one and a captured one. The direct run follows the other if
both end in the same way, if its trace is the other one with what was written on descriptor
1 delivered to the sink, and if the sessions still differ only in the sink
(`Sink.Follows`). An action is followed if that is so wherever the other run spares the sink
(`Sink.Sim`). Everything that actions are made of is followed:

* `Sim.bind`, `Sim.mapError`, `Sim.call`: by composition;
* `Sim.captureOut`, `Sim.capture`, `Sim.withChannel`, `Sim.withOpened`: what binds
  descriptors anew;
* `Sim.write`, `Sim.read`: through endpoints that are linked.

The contexts of the two runs differ in descriptor 1 only (`Contexts`), and so do those that are made
from them.
-/

namespace Conch

namespace Action

variable {α : Type}

theorem trace_capture (fd : Nat) (a : Action α) (s : Session) :
    (capture fd a s).trace = Trace.without fd (a s).trace := by
  simp only [capture]
  cases (a s).outcome <;> rfl

theorem session_capture (fd : Nat) (a : Action α) (s : Session) :
    (capture fd a s).session = (a s).session := by
  simp only [capture]
  cases (a s).outcome <;> rfl

theorem outcome_capture (fd : Nat) (a : Action α) (s : Session) :
    (capture fd a s).outcome =
      match (a s).outcome with
      | .done value => .done (value, Trace.output fd (a s).trace)
      | .failed error => .failed error
      | .unfinished => .unfinished := by
  simp only [capture]
  cases (a s).outcome <;> rfl

end Action

namespace Sink

variable {α β : Type} {sink : Sink} {origin : World} {spares : Event → Prop}
  {binding : Binding} {live : Bool} {bytes : Bytes}

/-! ### Following -/

/-- The direct run `x` follows the other run `y`. The sink held `bytes` before. -/
structure Follows (sink : Sink) (origin : World) (binding : Binding) (live : Bool) (bytes : Bytes)
    (x y : Finished α) : Prop where
  outcome : x.outcome = y.outcome
  trace : x.trace = binding.deliver sink y.trace
  allowed : ∀ event ∈ y.trace, binding.allows sink event = true
  session : sink.Agree origin live (bytes ++ binding.gained y.trace) x.session y.session

/-- An action is followed by another: started in sessions that differ only in the sink, the
direct run follows the other, provided that everything in its trace spares the sink. -/
def Sim (sink : Sink) (origin : World) (spares : Event → Prop) (binding : Binding) (live : Bool)
    (a b : Action α) : Prop :=
  ∀ (bytes : Bytes) (s t : Session), sink.Agree origin live bytes s t →
    (∀ event ∈ (b t).trace, spares event) →
    Follows sink origin binding live bytes (a s) (b t)

/-- Runs that leave nothing on descriptor 1 and the sink as it was follow each other under
every binding. -/
theorem Follows.of_quiet {x y : Finished α} (houtcome : x.outcome = y.outcome)
    (htrace : x.trace = y.trace) (hquiet : ∀ event ∈ y.trace, Trace.isOn 1 event = false)
    (hforeign : ∀ event ∈ y.trace, sink.isForeign event = false)
    (hsession : sink.Agree origin live bytes x.session y.session) :
    Follows sink origin binding live bytes x y where
  outcome := houtcome
  trace := by rw [binding.deliver_eq sink hquiet, htrace]
  allowed := fun event hevent =>
    binding.allows_of_quiet sink (hforeign event hevent) (hquiet event hevent)
  session := by
    rw [binding.gained_eq hquiet, List.append_nil]
    exact hsession

/-- A run that leaves no trace. -/
theorem Follows.of_silent {outcome : Outcome α} {s t : Session}
    (h : sink.Agree origin live bytes s t) :
    Follows sink origin binding live bytes ⟨outcome, s, []⟩ ⟨outcome, t, []⟩ :=
  .of_quiet rfl rfl (fun _ hevent => absurd hevent List.not_mem_nil)
    (fun _ hevent => absurd hevent List.not_mem_nil) h

/-! ### Linked endpoints -/

/-- An endpoint that is neither the sink nor what descriptor 1 may be bound to anew. -/
def IsElsewhere (sink : Sink) (endpoint : Endpoint) : Prop :=
  endpoint ≠ .outlet 1 ∧ endpoint ≠ .channel 1 ∧ endpoint ≠ sink.endpoint

/-- Whether channel 1 is in use as a binding of descriptor 1 says: the file of the sink is in
use in the direct run only, and a file that was opened in both is in use in both. -/
def Binding.Fits (sink : Sink) (live : Bool) : Binding → Prop
  | .compared => sink.path?.isSome → live = false
  | .captured => True
  | .opened => live = true

/-- The endpoints of one descriptor in the direct run and in the other. -/
inductive Linked (sink : Sink) (binding : Binding) (live : Bool) : Endpoint → Endpoint → Prop
  | out (h : binding.Fits sink live) :
      Linked sink binding live (binding.endpoints sink).1 (binding.endpoints sink).2
  | elsewhere {endpoint : Endpoint} (h : sink.IsElsewhere endpoint) :
      Linked sink binding live endpoint endpoint

namespace Sim

theorem pure (value : α) :
    Sim sink origin spares binding live (Action.pure value) (Action.pure value) :=
  fun _ _ _ h _ => .of_silent h

theorem unfinished :
    Sim sink origin spares binding live (Action.unfinished : Action α) Action.unfinished :=
  fun _ _ _ h _ => .of_silent h

/-- Events other than writes can be left in both runs. -/
theorem emit {event : Event} (hquiet : Trace.isOn 1 event = false)
    (hforeign : sink.isForeign event = false) :
    Sim sink origin spares binding live (Action.emit event) (Action.emit event) :=
  fun _ _ _ h _ => .of_quiet rfl rfl (by simpa [Action.emit] using hquiet)
    (by simpa [Action.emit] using hforeign) h

theorem fail (error : ShellError) :
    Sim sink origin spares binding live (Action.fail error : Action α) (Action.fail error) :=
  fun _ _ _ h _ => .of_quiet rfl rfl (by simp [Action.fail, Trace.isOn])
    (by cases sink <;> simp [Action.fail, isForeign]) h

theorem ofExcept (result : Except ShellError α) :
    Sim sink origin spares binding live (Action.ofExcept result) (Action.ofExcept result) := by
  cases result with
  | ok value => exact pure value
  | error error => exact fail error

theorem scope : Sim sink origin spares binding live Action.scope Action.scope := by
  intro bytes s t h _
  have hscope : Action.scope s = ⟨.done t.scope, s, []⟩ := by rw [← h.scope]; rfl
  rw [hscope]
  exact .of_silent h

theorem setScope (scope : Scope) :
    Sim sink origin spares binding live (Action.setScope scope) (Action.setScope scope) :=
  fun _ _ _ h _ => .of_silent ⟨rfl, h.world⟩

/-! ### Composition -/

/-- One action and then another. What the first run spares is the first part of what both
spare, so the second starts in sessions that differ only in the sink. -/
theorem bind {a b : Action α} {f g : α → Action β} (h : Sim sink origin spares binding live a b)
    (hnext : ∀ value, Sim sink origin spares binding live (f value) (g value)) :
    Sim sink origin spares binding live (a >>= f) (b >>= g) := by
  intro bytes s t hagree hspares
  change ∀ event ∈ (Action.bind b g t).trace, spares event at hspares
  show Follows sink origin binding live bytes (Action.bind a f s) (Action.bind b g t)
  have hfirst : (∀ event ∈ (b t).trace, spares event) →
      Follows sink origin binding live bytes (a s) (b t) := h bytes s t hagree
  simp only [Action.bind] at hspares ⊢
  cases hb : (b t).outcome with
  | failed error =>
      simp only [hb] at hspares
      have hx := hfirst hspares
      simp only [hx.outcome, hb]
      exact ⟨rfl, hx.trace, hx.allowed, hx.session⟩
  | unfinished =>
      simp only [hb] at hspares
      have hx := hfirst hspares
      simp only [hx.outcome, hb]
      exact ⟨rfl, hx.trace, hx.allowed, hx.session⟩
  | done value =>
      simp only [hb, List.forall_mem_append] at hspares
      obtain ⟨hspares, hrest⟩ := hspares
      have hx := hfirst hspares
      have hy := hnext value _ _ _ hx.session hrest
      simp only [hx.outcome, hb]
      exact
        { outcome := hy.outcome
          trace := by rw [binding.deliver_append, hx.trace, hy.trace]
          allowed := List.forall_mem_append.mpr ⟨hx.allowed, hy.allowed⟩
          session := by
            rw [binding.gained_append, ← List.append_assoc]
            exact hy.session }

/-- An event that both runs leave, and what the other run does then if the event spares the
sink. -/
theorem emitting {event : Event} (hquiet : Trace.isOn 1 event = false)
    (hforeign : sink.isForeign event = false) {a b : Action α} {s t : Session}
    (hspares : ∀ e ∈ ((Action.emit event >>= fun _ => b) t).trace, spares e)
    (h : spares event → (∀ e ∈ (b t).trace, spares e) →
      Follows sink origin binding live bytes (a s) (b t)) :
    Follows sink origin binding live bytes ((Action.emit event >>= fun _ => a) s)
      ((Action.emit event >>= fun _ => b) t) := by
  obtain ⟨hevent, hrest⟩ := List.forall_mem_cons.mp hspares
  have hx := h hevent hrest
  have hsingle : ∀ e ∈ [event], Trace.isOn 1 e = false := by simpa using hquiet
  constructor
  · exact hx.outcome
  · show [event] ++ (a s).trace = binding.deliver sink ([event] ++ (b t).trace)
    rw [binding.deliver_append, binding.deliver_eq sink hsingle, hx.trace]
  · exact List.forall_mem_cons.mpr ⟨binding.allows_of_quiet sink hforeign hquiet, hx.allowed⟩
  · show sink.Agree origin live (bytes ++ binding.gained ([event] ++ (b t).trace)) _ _
    rw [binding.gained_append, binding.gained_eq hsingle, List.nil_append]
    exact hx.session

theorem mapError {a b : Action α} (h : Sim sink origin spares binding live a b)
    (f : ShellError → ShellError) :
    Sim sink origin spares binding live (Action.mapError f a) (Action.mapError f b) := by
  intro bytes s t hagree hspares
  simp only [Action.mapError] at hspares ⊢
  have htrace : ∀ event ∈ (b t).trace, spares event := by
    cases hb : (b t).outcome <;> simpa only [hb] using hspares
  have hx := h bytes s t hagree htrace
  rw [hx.outcome]
  cases (b t).outcome with
  | done value => exact hx
  | failed error => exact ⟨rfl, hx.trace, hx.allowed, hx.session⟩
  | unfinished => exact hx

/-- A call sees the same arguments in both runs, and leaves the same to its caller. -/
theorem call {a b : Action α} (h : Sim sink origin spares binding live a b) (args : List Text) :
    Sim sink origin spares binding live (Action.call args a) (Action.call args b) := by
  intro bytes s t hagree hspares
  have hentered : sink.Agree origin live bytes { s with scope := s.scope.enterCall args }
      { t with scope := t.scope.enterCall args } :=
    ⟨by rw [hagree.scope], hagree.world⟩
  have hx := h bytes _ _ hentered hspares
  exact
    { outcome := hx.outcome
      trace := hx.trace
      allowed := hx.allowed
      session := by
        refine ⟨?_, hx.session.world⟩
        show Scope.leaveCall _ s.scope.frame = Scope.leaveCall _ t.scope.frame
        rw [hx.session.scope, hagree.scope] }

/-! ### Binding descriptors anew -/

/-- Only writes are taken out of a trace. -/
theorem spares_of_without (hwrote : ∀ fd bytes, spares (.wrote fd bytes)) {fd : Nat}
    {trace : Trace} (h : ∀ event ∈ Trace.without fd trace, spares event) :
    ∀ event ∈ trace, spares event := by
  intro event hevent
  cases hon : Trace.isOn fd event with
  | true =>
      cases event with
      | wrote written bytes => exact hwrote written bytes
      | _ => cases hon
  | false => exact h event (List.mem_filter.mpr ⟨hevent, by rw [hon]; rfl⟩)

/-- What is captured on descriptor 1 in both runs is not seen outside. -/
theorem captureOut (hwrote : ∀ fd bytes, spares (.wrote fd bytes)) {a b : Action α}
    (h : Sim sink origin spares .captured live a b) :
    Sim sink origin spares binding live (Action.capture 1 a) (Action.capture 1 b) := by
  intro bytes s t hagree hspares
  rw [Action.trace_capture] at hspares
  have hx := h bytes s t hagree (spares_of_without hwrote hspares)
  have htrace : (a s).trace = (b t).trace := hx.trace
  apply Follows.of_quiet
  · rw [Action.outcome_capture, Action.outcome_capture, hx.outcome, htrace]
  · rw [Action.trace_capture, Action.trace_capture, htrace]
  · rw [Action.trace_capture]
    exact fun event => Trace.isOn_of_mem_without
  · rw [Action.trace_capture]
    intro event hevent
    exact Binding.captured.isForeign_of_allows sink
      (hx.allowed event (List.mem_of_mem_filter hevent))
  · rw [Action.session_capture, Action.session_capture]
    simpa only [Binding.gained, List.append_nil] using hx.session

/-- What is captured on another descriptor is the same in both runs. -/
theorem capture (hwrote : ∀ fd bytes, spares (.wrote fd bytes)) {fd : Nat} (hfd : fd ≠ 1)
    {a b : Action α} (h : Sim sink origin spares binding live a b) :
    Sim sink origin spares binding live (Action.capture fd a) (Action.capture fd b) := by
  intro bytes s t hagree hspares
  rw [Action.trace_capture] at hspares
  have hx := h bytes s t hagree (spares_of_without hwrote hspares)
  constructor
  · rw [Action.outcome_capture, Action.outcome_capture, hx.outcome, hx.trace,
      binding.output_deliver sink hfd]
  · rw [Action.trace_capture, Action.trace_capture, hx.trace, binding.without_deliver sink hfd]
  · rw [Action.trace_capture]
    exact fun event hevent => hx.allowed event (List.mem_of_mem_filter hevent)
  · rw [Action.session_capture, Action.session_capture, Action.trace_capture,
      binding.gained_without hfd]
    exact hx.session

/-- A channel that is in use in both runs is replaced for a while. -/
theorem withChannel {number : Nat} (hnumber : number ≠ 1) {channel : Channel}
    (hchannel : channel.IsOff sink.path?) {a b : Action α}
    (h : Sim sink origin spares binding live a b) :
    Sim sink origin spares binding live (Action.withChannel number channel a)
      (Action.withChannel number channel b) := by
  intro bytes s t hagree hspares
  have hbound : sink.Agree origin live bytes
      { s with world := s.world.setChannel number channel }
      { t with world := t.world.setChannel number channel } :=
    ⟨hagree.scope, hagree.world.setChannel (Or.inl hnumber) hchannel⟩
  have hx := h bytes _ _ hbound hspares
  constructor
  · exact hx.outcome
  · exact hx.trace
  · exact hx.allowed
  · refine ⟨hx.session.scope, ?_⟩
    simp only [Action.withChannel]
    rw [hagree.world.channels number (Or.inl hnumber)]
    exact hx.session.world.setChannel (Or.inl hnumber) (hagree.world.off number (Or.inl hnumber))

/-- Channel 1 is a file that was opened in both runs, for a while. Then nothing is written
on descriptor 1, and the sink gets nothing. -/
theorem withOpened {channel : Channel} (hchannel : channel.IsOff sink.path?) {a b : Action α}
    (h : Sim sink origin spares .opened true a b) :
    Sim sink origin spares binding live (Action.withChannel 1 channel a)
      (Action.withChannel 1 channel b) := by
  intro bytes s t hagree hspares
  have hbound : sink.Agree origin true bytes { s with world := s.world.setChannel 1 channel }
      { t with world := t.world.setChannel 1 channel } :=
    ⟨hagree.scope, hagree.world.openChannel hchannel⟩
  have hx := h bytes _ _ hbound hspares
  have hsession := hx.session
  simp only [Binding.gained, List.append_nil] at hsession
  apply Follows.of_quiet
  · exact hx.outcome
  · exact hx.trace
  · exact fun event hevent => Binding.isOn_of_opened_allows sink (hx.allowed event hevent)
  · exact fun event hevent => Binding.opened.isForeign_of_allows sink (hx.allowed event hevent)
  · exact ⟨hsession.scope, hagree.world.closeChannel hsession.world⟩

/-! ### Reading and writing -/

/-- What is done with the world at this moment. -/
theorem world {f g : World → Action α}
    (h : ∀ bytes s t, sink.Agree origin live bytes s t →
      (∀ event ∈ (g t.world t).trace, spares event) →
      Follows sink origin binding live bytes (f s.world s) (g t.world t)) :
    Sim sink origin spares binding live (Action.world >>= f) (Action.world >>= g) :=
  h

theorem checkCancelled (ctx other : Context) (hcancel : ctx.cancel = other.cancel) :
    Sim sink origin spares binding live (Action.checkCancelled ctx)
      (Action.checkCancelled other) := by
  apply world
  intro bytes s t hagree hspares
  rw [hagree.world.tokens, hcancel] at *
  split_ifs at hspares ⊢ with hcancelled
  · exact fail .cancelled bytes s t hagree hspares
  · exact pure () bytes s t hagree hspares

theorem tryWrite_channel {number : Nat} (hnumber : number ≠ 1 ∨ live = true) (more : Bytes) :
    Sim sink origin spares binding live (Action.tryWrite (.channel number) more)
      (Action.tryWrite (.channel number) more) := by
  apply world
  intro bytes s t hagree _
  obtain ⟨error, hdirect, hother⟩ | ⟨volume, otherVolume, channel, hdirect, hother, hworld⟩ :=
    hagree.world.write hnumber more
  · rw [hdirect, hother]
    exact .of_silent hagree
  · rw [hdirect, hother]
    exact .of_silent ⟨hagree.scope, hworld⟩

/-- Writing to the sink in the direct run, and on descriptor 1 in the other. -/
theorem tryWrite_sink (hfile : sink.path?.isSome → live = false) (more : Bytes) :
    Sim sink origin spares .compared live (Action.tryWrite sink.endpoint more)
      (Action.tryWrite (.outlet 1) more) := by
  intro bytes s t hagree _
  cases sink with
  | outlet =>
      refine ⟨rfl, rfl, ?_, ⟨hagree.scope, hagree.world.of_no_path rfl _⟩⟩
      rintro event ⟨⟩
      · rfl
      · contradiction
  | shell =>
      refine ⟨rfl, rfl, ?_, ⟨hagree.scope, hagree.world.of_no_path rfl _⟩⟩
      rintro event ⟨⟩
      · rfl
      · contradiction
  | file path =>
      obtain rfl : live = false := hfile rfl
      obtain ⟨volume, channel, hwrite, hworld⟩ := hagree.world.writeSink more
      have hdirect : Action.tryWrite (Sink.file path).endpoint more s =
          ⟨.done (.ok ()), ⟨s.scope, { s.world with volume := volume }.setChannel 1 channel⟩,
            []⟩ := by
        simp only [endpoint, Action.tryWrite, Bind.bind, Action.bind, Action.world, Action.session,
          Pure.pure, Action.pure, hwrite]
        rfl
      rw [hdirect]
      refine ⟨rfl, rfl, ?_, ⟨hagree.scope, ?_⟩⟩
      · rintro event ⟨⟩
        · rfl
        · contradiction
      · show (Sink.file path).Apart origin false (bytes ++ (more ++ [])) _ t.world
        rw [List.append_nil]
        exact hworld

theorem tryWrite_elsewhere {endpoint : Endpoint} (h : sink.IsElsewhere endpoint) (more : Bytes) :
    Sim sink origin spares binding live (Action.tryWrite endpoint more)
      (Action.tryWrite endpoint more) := by
  obtain ⟨houtlet, hchannel, hsink⟩ := h
  cases endpoint with
  | terminal => exact pure _
  | channel number =>
      exact tryWrite_channel (Or.inl fun hone => hchannel (by rw [hone])) more
  | outlet fd =>
      have hfd : fd ≠ 1 := fun hone => houtlet (by rw [hone])
      refine bind (emit ?_ ?_) fun _ => pure _
      · simpa [Trace.isOn] using hfd
      · cases sink <;> rfl
  | standard fd =>
      refine bind (emit rfl ?_) fun _ => pure _
      cases sink with
      | outlet => rfl
      | shell =>
          have hfd : fd ≠ 1 := fun hone => hsink (by rw [hone]; rfl)
          simpa [isForeign] using hfd
      | file path => rfl

/-- **Writing through linked endpoints is followed.** -/
theorem tryWrite {endpoint other : Endpoint} (h : Linked sink binding live endpoint other)
    (more : Bytes) :
    Sim sink origin spares binding live (Action.tryWrite endpoint more)
      (Action.tryWrite other more) := by
  cases h with
  | elsewhere h => exact tryWrite_elsewhere h more
  | out h =>
      cases binding with
      | compared => exact tryWrite_sink h more
      | opened => exact tryWrite_channel (Or.inr h) more
      | captured =>
          intro bytes s t hagree _
          refine ⟨rfl, rfl, ?_, ⟨hagree.scope, ?_⟩⟩
          · rintro event ⟨⟩
            · cases sink <;> rfl
            · contradiction
          · show sink.Apart origin live (bytes ++ []) s.world t.world
            rw [List.append_nil]
            exact hagree.world

theorem write {endpoint other : Endpoint} (h : Linked sink binding live endpoint other)
    (more : Bytes) :
    Sim sink origin spares binding live (Action.write endpoint more)
      (Action.write other more) := by
  refine bind (tryWrite h more) fun result => ?_
  cases result with
  | ok _ => exact pure ()
  | error error => exact fail _

theorem writeLine {endpoint other : Endpoint} (h : Linked sink binding live endpoint other)
    (line : Text) :
    Sim sink origin spares binding live (Action.writeLine endpoint line)
      (Action.writeLine other line) :=
  write h _

/-- **Reading elsewhere is followed.** -/
theorem tryRead {endpoint : Endpoint} (h : sink.IsElsewhere endpoint) :
    Sim sink origin spares binding live (Action.tryRead endpoint) (Action.tryRead endpoint) := by
  apply world
  intro bytes s t hagree _
  cases endpoint with
  | terminal =>
      simp only [hagree.world.terminal]
      exact .of_silent ⟨hagree.scope, hagree.world.setTerminal _⟩
  | outlet fd => exact .of_silent hagree
  | standard fd => exact .of_silent hagree
  | channel number =>
      have hnumber : number ≠ 1 ∨ live = true := Or.inl fun hone => h.2.1 (by rw [hone])
      have hoff := hagree.world.off number hnumber
      simp only [hagree.world.channels number hnumber,
        Volume.readAll_congr hagree.world.volume hoff]
      cases hread : t.world.volume.readAll (t.world.channels number) with
      | error error => exact .of_silent hagree
      | ok result =>
          obtain ⟨read, channel⟩ := result
          exact .of_silent ⟨hagree.scope,
            hagree.world.setChannel hnumber (Volume.readAll_isOff hoff hread)⟩

theorem read {endpoint : Endpoint} (h : sink.IsElsewhere endpoint) :
    Sim sink origin spares binding live (Action.read endpoint) (Action.read endpoint) := by
  refine bind (tryRead h) fun result => ?_
  cases result with
  | ok _ => exact pure _
  | error error => exact fail _

end Sim

/-! ### Contexts of the two runs -/

/-- Results that the two runs compute: the same failure, or values that are related. -/
inductive Alike {α : Type} (related : α → α → Prop) :
    Except ShellError α → Except ShellError α → Prop
  | error (error : ShellError) : Alike related (.error error) (.error error)
  | ok {value other : α} (h : related value other) : Alike related (.ok value) (.ok other)

theorem Alike.mono {α : Type} {first second : α → α → Prop} {x y : Except ShellError α}
    (h : Alike first x y) (himp : ∀ value other, first value other → second value other) :
    Alike second x y := by
  cases h with
  | error error => exact .error error
  | ok h => exact .ok (himp _ _ h)

theorem Sim.bindAlike {α β : Type} {related : α → α → Prop} {x y : Except ShellError α}
    (h : Alike related x y) {f g : α → Action β}
    (hnext : ∀ value other, related value other →
      Sim sink origin spares binding live (f value) (g other)) :
    Sim sink origin spares binding live (Action.ofExcept x >>= f) (Action.ofExcept y >>= g) := by
  cases h with
  | error error => exact fail error
  | ok h => exact hnext _ _ h

/-- The contexts of the direct run and of the other: they differ in descriptor 1 only, and no
other descriptor is bound to the sink. -/
structure Contexts (sink : Sink) (binding : Binding) (live : Bool) (ctx other : Context) :
    Prop where
  fits : binding.Fits sink live
  out : (ctx.stdout, other.stdout) = binding.endpoints sink
  same : ctx = { other with stdout := ctx.stdout }
  stdin : sink.IsElsewhere other.stdin
  stderr : sink.IsElsewhere other.stderr
  extra : ∀ endpoint, some endpoint ∈ other.extra → sink.IsElsewhere endpoint

theorem isElsewhere_channel {number : Nat} (h : number ≠ 1) :
    sink.IsElsewhere (.channel number) := by
  refine ⟨by simp, by simpa using h, ?_⟩
  cases sink <;> simp [endpoint, h]

theorem isElsewhere_outlet {fd : Nat} (h : fd ≠ 1) : sink.IsElsewhere (.outlet fd) := by
  refine ⟨by simpa using h, by simp, ?_⟩
  cases sink <;> simp [endpoint, h]

namespace Contexts

variable {ctx other : Context}

theorem stdout (h : Contexts sink binding live ctx other) :
    Linked sink binding live ctx.stdout other.stdout := by
  have hout := h.out
  rw [Prod.ext_iff] at hout
  obtain ⟨hfirst, hsecond⟩ := hout
  rw [show ctx.stdout = _ from hfirst, show other.stdout = _ from hsecond]
  exact .out h.fits

theorem extraEndpoint? (h : Contexts sink binding live ctx other) (fd : Nat) :
    ctx.extraEndpoint? fd = other.extraEndpoint? fd := by
  rw [h.same]
  rfl

theorem isElsewhere_extra (h : Contexts sink binding live ctx other) {fd : Nat}
    {endpoint : Endpoint} (hfd : other.extraEndpoint? fd = some endpoint) :
    sink.IsElsewhere endpoint := by
  rw [Context.extraEndpoint?] at hfd
  split_ifs at hfd
  apply h.extra
  rw [Option.join_eq_some_iff] at hfd
  exact List.mem_of_getElem? hfd

theorem extraEndpoint (h : Contexts sink binding live ctx other) (fd : Nat) :
    Alike (fun e f => e = f ∧ sink.IsElsewhere e) (ctx.extraEndpoint fd)
      (other.extraEndpoint fd) := by
  have hextra : ctx.extra = other.extra := by rw [h.same]
  rw [Context.extraEndpoint, Context.extraEndpoint, h.extraEndpoint? fd, hextra]
  cases hfd : other.extraEndpoint? fd with
  | none => exact .error _
  | some endpoint => exact .ok ⟨rfl, h.isElsewhere_extra hfd⟩

theorem writer (h : Contexts sink binding live ctx other) (fd : Nat) :
    Alike (Linked sink binding live) (ctx.writer fd) (other.writer fd) := by
  match fd with
  | 0 => exact .error _
  | 1 => exact .ok h.stdout
  | 2 =>
      have hstderr : ctx.stderr = other.stderr := by rw [h.same]
      rw [Context.writer, Context.writer, hstderr]
      exact .ok (.elsewhere h.stderr)
  | fd + 3 =>
      refine (h.extraEndpoint (fd + 3)).mono ?_
      rintro endpoint _ ⟨rfl, helse⟩
      exact .elsewhere helse

theorem reader (h : Contexts sink binding live ctx other) (fd : Nat) :
    Alike (fun e f => e = f ∧ sink.IsElsewhere e) (ctx.reader fd) (other.reader fd) := by
  match fd with
  | 0 =>
      have hstdin : ctx.stdin = other.stdin := by rw [h.same]
      rw [Context.reader, Context.reader, hstdin]
      exact .ok ⟨rfl, h.stdin⟩
  | 1 => exact .error _
  | 2 => exact .error _
  | fd + 3 => exact h.extraEndpoint (fd + 3)

theorem cancel (h : Contexts sink binding live ctx other) : ctx.cancel = other.cancel := by
  rw [h.same]

theorem isExpanding (h : Contexts sink binding live ctx other) (name : Text) :
    ctx.isExpanding name = other.isExpanding name := by
  rw [h.same]
  rfl

/-- Descriptor 1 is captured in both runs. -/
theorem captured (h : Contexts sink binding live ctx other) :
    Contexts sink .captured live { ctx with stdout := .outlet 1 }
      { other with stdout := .outlet 1 } where
  fits := trivial
  out := rfl
  same := by rw [h.same]
  stdin := h.stdin
  stderr := h.stderr
  extra := h.extra

/-- Descriptor 1 is bound to a file that is opened in both runs. -/
theorem opened (h : Contexts sink binding live ctx other) :
    Contexts sink .opened true { ctx with stdout := .channel 1 }
      { other with stdout := .channel 1 } where
  fits := rfl
  out := rfl
  same := by rw [h.same]
  stdin := h.stdin
  stderr := h.stderr
  extra := h.extra

theorem expand (h : Contexts sink binding live ctx other) (name : Text) :
    Contexts sink binding live (ctx.expand name) (other.expand name) where
  fits := h.fits
  out := h.out
  same := by
    rw [h.same]
    rfl
  stdin := h.stdin
  stderr := h.stderr
  extra := h.extra

theorem setStdin (h : Contexts sink binding live ctx other) {endpoint : Endpoint}
    (helse : sink.IsElsewhere endpoint) :
    Contexts sink binding live { ctx with stdin := endpoint } { other with stdin := endpoint } where
  fits := h.fits
  out := h.out
  same := by rw [h.same]
  stdin := helse
  stderr := h.stderr
  extra := h.extra

theorem setStderr (h : Contexts sink binding live ctx other) {endpoint : Endpoint}
    (helse : sink.IsElsewhere endpoint) :
    Contexts sink binding live { ctx with stderr := endpoint }
      { other with stderr := endpoint } where
  fits := h.fits
  out := h.out
  same := by rw [h.same]
  stdin := h.stdin
  stderr := helse
  extra := h.extra

theorem bind (h : Contexts sink binding live ctx other) (fd : Nat) {endpoint : Endpoint}
    (helse : sink.IsElsewhere endpoint) :
    Contexts sink binding live (ctx.bind fd endpoint) (other.bind fd endpoint) where
  fits := h.fits
  out := h.out
  same := by
    rw [h.same]
    rfl
  stdin := h.stdin
  stderr := h.stderr
  extra := by
    intro bound hbound
    simp only [Context.bind] at hbound
    split_ifs at hbound
    · rcases List.mem_or_eq_of_mem_set hbound with hold | hnew
      · exact h.extra bound hold
      · rw [Option.some_inj.mp hnew]
        exact helse
    · rw [List.mem_append, List.mem_append, List.mem_singleton, List.mem_replicate] at hbound
      rcases hbound with (hold | ⟨_, hnone⟩) | hnew
      · exact h.extra bound hold
      · cases hnone
      · rw [Option.some_inj.mp hnew]
        exact helse

/-- The right side of a route reads a channel that is not channel 1. -/
theorem rightContext (h : Contexts sink binding live ctx other) {fd : Nat} (hfd : fd ≠ 1) :
    Contexts sink binding live (Builtin.rightContext ctx fd) (Builtin.rightContext other fd) := by
  simp only [Builtin.rightContext]
  split_ifs with hzero
  · exact h.setStdin (isElsewhere_channel (by decide))
  · exact h.bind fd (isElsewhere_channel hfd)

/-- The left side of a route writes another descriptor on a new writing end. -/
theorem redirect (h : Contexts sink binding live ctx other) {fd : Nat} (hfd : fd ≠ 1) :
    Alike (Contexts sink binding live) (ctx.redirect fd (.outlet fd))
      (other.redirect fd (.outlet fd)) := by
  have helse : sink.IsElsewhere (.outlet fd) := isElsewhere_outlet hfd
  match fd with
  | 0 => exact .error _
  | 1 => exact absurd rfl hfd
  | 2 => exact .ok (h.setStderr helse)
  | fd + 3 => exact .ok (h.bind (fd + 3) helse)

end Contexts

end Sink

end Conch
