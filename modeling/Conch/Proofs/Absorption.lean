import Conch.Proofs.Calling
import Conch.Proofs.Composition
import Conch.Proofs.Following

/-!
Failures and the end of the shell are absorbing. An evaluation is a tree: substitutions, the
sides of pipes, redirected expressions, expansions and function calls are evaluations inside of
it. Once anything in the tree fails or ends the shell, nothing else is started in the whole
tree; all that is left to do is to leave what encloses the place where that happened.

* `Composed.isOrderly`: a failure, or the success of the command that ends the shell, is the
  last event of a trace, and the trace shows how the run ended.
* `Reaches`: an action gets to a step, inside of enclosures; `Reaches.ends` says what becomes of
  the whole run if the step fails or ends the shell.
* `Composed.reaches_started`: every command that a trace shows was reached.
* `Composed.originates`: a run that ended early got to where that arose.
* `Exits`, `Composed.reaches_exit`: a run ends the shell exactly if it got to the command that does,
  started without arguments.
-/

namespace Conch

variable {α β γ : Type} {launcher : Process.Launcher}

/-! ### How runs end early -/

/-- How a run ends before all is done. -/
inductive Ending where
  | failed (error : ShellError)
  /-- The shell is to end. -/
  | exit
  deriving DecidableEq, Repr

/-- What an ending leaves in the trace. -/
def Ending.mark : Ending → Event
  | .failed _ => .failed
  | .exit => .exited

/-- The ending with its failure changed. -/
def Ending.map (f : ShellError → ShellError) : Ending → Ending
  | .failed error => .failed (f error)
  | .exit => .exit

/-- The outcome of an evaluation that ends so. -/
def Ending.outcome : Ending → Outcome Flow
  | .failed error => .failed error
  | .exit => .done .exit

/-- How an outcome ends a run early, if it does. The flow says which values end the shell. -/
def Outcome.ending? (flow : α → Flow) : Outcome α → Option Ending
  | .done value =>
    match flow value with
    | .exit => some .exit
    | .proceed => none
  | .failed error => some (.failed error)
  | .unfinished => none

/-- Whether an event is a failure, or the success of the command that ends the shell. -/
def Event.isMark : Event → Bool
  | .failed | .exited => true
  | _ => false

namespace Outcome

variable {flow : α → Flow} {value : α}

theorem ending?_of_exit (h : flow value = .exit) : (done value).ending? flow = some .exit := by
  simp only [ending?, h]

theorem ending?_of_proceed (h : flow value = .proceed) : (done value).ending? flow = none := by
  simp only [ending?, h]

theorem ending?_eq_some {outcome : Outcome α} {ending : Ending}
    (h : outcome.ending? flow = some ending) :
    (∃ error, outcome = .failed error ∧ ending = .failed error) ∨
      ∃ value, outcome = .done value ∧ flow value = .exit ∧ ending = .exit := by
  cases outcome with
  | done value =>
      cases hflow : flow value with
      | exit =>
          rw [ending?_of_exit hflow] at h
          exact .inr ⟨value, rfl, hflow, (Option.some.inj h).symm⟩
      | proceed =>
          rw [ending?_of_proceed hflow] at h
          cases h
  | failed error => exact .inl ⟨error, rfl, (Option.some.inj h).symm⟩
  | unfinished => cases h

theorem eq_of_ending? {outcome : Outcome Flow} {ending : Ending}
    (h : outcome.ending? id = some ending) : outcome = ending.outcome := by
  rcases ending?_eq_some h with ⟨error, rfl, rfl⟩ | ⟨flow, rfl, hexit, rfl⟩
  · rfl
  · cases hexit
    rfl

/-- The mark that an evaluation leaves says how it ended. -/
theorem mark_iff (outcome : Outcome Flow) :
    (outcome = .done .exit ↔ (outcome.ending? id).map Ending.mark = some .exited) ∧
      ((∃ error, outcome = .failed error) ↔
        (outcome.ending? id).map Ending.mark = some .failed) := by
  cases outcome with
  | done flow => cases flow <;> simp [ending?, Ending.mark]
  | failed error => simp [ending?, Ending.mark]
  | unfinished => simp [ending?]

end Outcome

/-! ### Orderly traces -/

/-- A run whose trace is marked exactly if it ended early, at its end. -/
def Finished.IsOrderly (flow : α → Flow) (x : Finished α) : Prop :=
  ∃ calm : Trace, (∀ event ∈ calm, event.isMark = false) ∧
    x.trace = calm ++ ((x.outcome.ending? flow).map Ending.mark).toList

theorem Event.not_isMark_of_isPlain {event : Event} (h : event.isPlain = true) :
    event.isMark = false := by
  cases event <;> first | rfl | cases h

namespace Action

theorem trace_mapError (f : ShellError → ShellError) (a : Action α) (s : Session) :
    (mapError f a s).trace = (a s).trace := by
  simp only [mapError]
  cases (a s).outcome <;> rfl

theorem session_mapError (f : ShellError → ShellError) (a : Action α) (s : Session) :
    (mapError f a s).session = (a s).session := by
  simp only [mapError]
  cases (a s).outcome <;> rfl

/-- How an ending is seen outside of an action whose failures are changed. -/
theorem ending?_mapError (f : ShellError → ShellError) (flow : α → Flow) (a : Action α)
    (s : Session) :
    (mapError f a s).outcome.ending? flow = ((a s).outcome.ending? flow).map (Ending.map f) := by
  simp only [mapError]
  cases houtcome : (a s).outcome with
  | done value => cases hflow : flow value <;> simp [Outcome.ending?, Ending.map, houtcome, hflow]
  | failed error => rfl
  | unfinished => simp [Outcome.ending?, houtcome]

theorem ending?_capture (fd : Nat) (flow : α → Flow) (a : Action α) (s : Session) :
    (capture fd a s).outcome.ending? (fun result => flow result.1) =
      (a s).outcome.ending? flow := by
  rw [outcome_capture]
  cases (a s).outcome <;> rfl

end Action

theorem Trace.without_mark (fd : Nat) (ending : Option Ending) :
    Trace.without fd (ending.map Ending.mark).toList = (ending.map Ending.mark).toList := by
  rcases ending with _ | _ | _ <;> rfl

theorem mem_of_cut {trace before after : Trace} {event : Event}
    (h : trace = before ++ event :: after) : event ∈ trace := by
  rw [h]
  exact List.mem_append_right before List.mem_cons_self

/-- An event of two traces in a row stands in the one or in the other. -/
theorem cut_of_append {first second before after : Trace} {event : Event}
    (h : first ++ second = before ++ event :: after) :
    (∃ more, first = before ++ event :: more ∧ after = more ++ second) ∨
      ∃ more, second = more ++ event :: after := by
  rcases List.append_eq_append_iff.mp h with ⟨more, -, hsecond⟩ | ⟨more, hfirst, hafter⟩
  · exact .inr ⟨more, hsecond⟩
  · cases more with
    | nil => exact .inr ⟨[], hafter.symm⟩
    | cons head more =>
        obtain ⟨rfl, hmore⟩ := List.cons.inj hafter
        exact .inl ⟨more, hfirst, hmore⟩

namespace Finished.IsOrderly

variable {flow : α → Flow} {a : Action α} {s : Session}

theorem mapError (h : (a s).IsOrderly flow) (f : ShellError → ShellError) :
    (Action.mapError f a s).IsOrderly flow := by
  obtain ⟨calm, hcalm, htrace⟩ := h
  refine ⟨calm, hcalm, ?_⟩
  rw [Action.trace_mapError, Action.ending?_mapError, htrace]
  rcases (a s).outcome.ending? flow with _ | _ | _ <;> rfl

theorem capture (h : (a s).IsOrderly flow) (fd : Nat) :
    (Action.capture fd a s).IsOrderly fun result => flow result.1 := by
  obtain ⟨calm, hcalm, htrace⟩ := h
  refine ⟨Trace.without fd calm,
    fun event hevent => hcalm event (List.mem_of_mem_filter hevent), ?_⟩
  rw [Action.trace_capture, Action.ending?_capture, htrace, Trace.without_append,
    Trace.without_mark]

/-- One run and another behind it. A run that ended early has nothing behind it. -/
theorem bind {flow' : β → Flow} {next : α → Action β} (h : (a s).IsOrderly flow)
    (hands : HandsOn flow flow' next)
    (hnext : ∀ value, flow value = .proceed → ∀ s, (next value s).IsOrderly flow') :
    ((a >>= next) s).IsOrderly flow' := by
  obtain ⟨calm, hcalm, htrace⟩ := h
  cases houtcome : (a s).outcome with
  | done value =>
      rw [Action.bind_of_done houtcome]
      rw [houtcome] at htrace
      cases hflow : flow value with
      | exit =>
          obtain ⟨value', hexit, hpure⟩ := hands value hflow
          rw [Outcome.ending?_of_exit hflow] at htrace
          refine ⟨calm, hcalm, ?_⟩
          rw [hpure]
          simp only [Action.pure, Outcome.ending?_of_exit hexit, htrace, List.append_nil]
      | proceed =>
          obtain ⟨more, hmore, hrest⟩ := hnext value hflow (a s).session
          rw [Outcome.ending?_of_proceed hflow] at htrace
          refine ⟨calm ++ more, ?_, ?_⟩
          · intro event hevent
            rcases List.mem_append.mp hevent with hevent | hevent
            · exact hcalm event hevent
            · exact hmore event hevent
          · simp only [htrace, hrest, Option.map_none, Option.toList_none, List.append_nil,
              List.append_assoc]
  | failed error =>
      rw [Action.bind_of_failed houtcome]
      rw [houtcome] at htrace
      exact ⟨calm, hcalm, htrace⟩
  | unfinished =>
      rw [Action.bind_of_unfinished houtcome]
      rw [houtcome] at htrace
      exact ⟨calm, hcalm, htrace⟩

/-- A program shows what it writes, and whether it failed. -/
theorem program (action : Action α) : (Process.showingWrites action s).IsOrderly Flow.onward := by
  refine ⟨(action s).trace.filter Process.isWrite, fun event hevent => ?_, ?_⟩
  · have hwrite := (List.mem_filter.mp hevent).2
    cases event <;> first | rfl | cases hwrite
  · simp only [Process.showingWrites]
    cases (action s).outcome <;> rfl

/-- A command shows its start first. -/
theorem started (h : (a s).IsOrderly flow) (name : Text) (args : List Text) :
    ((Action.emit (.started name args) >>= fun _ => a) s).IsOrderly flow := by
  obtain ⟨calm, hcalm, htrace⟩ := h
  refine ⟨.started name args :: calm, List.forall_mem_cons.mpr ⟨rfl, hcalm⟩, ?_⟩
  exact congrArg (Event.started name args :: ·) htrace

/-- Nothing stands behind a mark. -/
theorem eq_nil_of_mark {x : Finished α} (h : x.IsOrderly flow) {before after : Trace}
    {event : Event} (htrace : x.trace = before ++ event :: after)
    (hmark : event.isMark = true) : after = [] := by
  obtain ⟨calm, hcalm, hmarks⟩ := h
  rcases cut_of_append (hmarks.symm.trans htrace) with ⟨more, hfirst, -⟩ | ⟨more, hsecond⟩
  · have hnot := hcalm event (mem_of_cut hfirst)
    rw [hmark] at hnot
    cases hnot
  · have hlength := congrArg List.length hsecond
    have hone : ((x.outcome.ending? flow).map Ending.mark).toList.length ≤ 1 := by
      cases x.outcome.ending? flow <;> simp
    rw [List.length_append, List.length_cons] at hlength
    exact List.eq_nil_of_length_eq_zero (by omega)

/-- A trace shows a mark exactly if the run ended so. -/
theorem mem_mark_iff {x : Finished α} (h : x.IsOrderly flow) {event : Event}
    (hmark : event.isMark = true) :
    event ∈ x.trace ↔ (x.outcome.ending? flow).map Ending.mark = some event := by
  obtain ⟨calm, hcalm, hmarks⟩ := h
  rw [hmarks, List.mem_append, Option.mem_toList]
  constructor
  · rintro (hmem | hmem)
    · have hnot := hcalm event hmem
      rw [hmark] at hnot
      cases hnot
    · exact hmem
  · exact .inr

end Finished.IsOrderly

/-- The command that ends the shell does that, unless it is given arguments. -/
theorem Eval.dispatch_exit {name : Text} (hname : Builtin.ofName? name = some .exit)
    (evaluate : Builtin.Evaluator) (ctx : Context) (args : List Text) (s : Session) :
    dispatch launcher evaluate ctx name args s =
      if args = [] then ⟨.done .exit, s, [.started name args, .exited]⟩
      else ⟨.failed (.inBuiltin name
          (.usage (.argumentCount 0 args.length Builtin.exit.usage))), s,
        [.started name args, .failed]⟩ := by
  rw [dispatch_of_builtin hname]
  cases args <;> rfl

/-- **What is marked in a trace is its last event**, and it says how the run ended. -/
theorem Composed.isOrderly {flow : α → Flow} {a : Action α} (h : Composed launcher flow a)
    (s : Session) : (a s).IsOrderly flow := by
  induction h generalizing s with
  | pure hvalue => exact ⟨[], by simp, by simp [Action.pure, Outcome.ending?_of_proceed hvalue]⟩
  | fail error => exact ⟨[], by simp, rfl⟩
  | unfinished => exact ⟨[], by simp, rfl⟩
  | session => exact ⟨[], by simp, rfl⟩
  | setScope scope => exact ⟨[], by simp, rfl⟩
  | setWorld world => exact ⟨[], by simp, rfl⟩
  | @emit event hevent =>
      exact ⟨[event], by simpa using Event.not_isMark_of_isPlain hevent, rfl⟩
  | @exit depth ctx name args hname =>
      rw [Eval.dispatch_exit hname]
      split_ifs
      all_goals exact ⟨[.started name args], by simp [Event.isMark], rfl⟩
  | program action => exact .program action
  | @command depth ctx name args body heq _ ih =>
      rw [heq]
      exact (ih s).started name args
  | bind _ hands _ ih hnext => exact (ih s).bind hands hnext
  | inBuiltin name _ ih => exact (ih s).mapError _
  | inSubstitution body _ ih => exact (ih s).mapError _
  | capture fd _ ih => exact (ih s).capture fd
  | withChannel number channel _ ih => exact ih _
  | call args _ ih => exact ih _

/-! ### Enclosures -/

/-- What a step of an evaluation is inside of, and is left when it ends the evaluation. -/
inductive Enclosure where
  /-- A built-in command, by the name it was called. -/
  | builtin (name : Text)
  /-- A substitution, by its body. -/
  | substitution (body : Text)
  /-- The capture of a descriptor. -/
  | captured (fd : Nat)
  /-- The binding of a channel, by what the channel was before. -/
  | channel (number : Nat) (before : Channel)
  /-- A function call, by the frame of its caller. -/
  | call (caller : Frame)

namespace Enclosure

/-- A failure as it is seen outside. -/
def wrap : Enclosure → ShellError → ShellError
  | .builtin name, error => error.inBuiltin name
  | .substitution body, error => error.inSubstitution body
  | _, error => error

/-- The session when the enclosure has been left. -/
def leave : Enclosure → Session → Session
  | .channel number before, s => { s with world := s.world.setChannel number before }
  | .call caller, s => { s with scope := s.scope.leaveCall caller }
  | _, s => s

/-- What of a trace is seen outside. -/
def seen : Enclosure → Trace → Trace
  | .captured fd, trace => Trace.without fd trace
  | _, trace => trace

/-- The frame of the caller, if the enclosure is a function call. -/
def caller? : Enclosure → Option Frame
  | .call caller => some caller
  | _ => none

theorem seen_append (enclosure : Enclosure) (first second : Trace) :
    enclosure.seen (first ++ second) = enclosure.seen first ++ enclosure.seen second := by
  cases enclosure with
  | captured fd => exact Trace.without_append fd first second
  | _ => rfl

/-- An enclosure that does not wrap failures leaves endings as they are. -/
theorem map_wrap_eq {enclosure : Enclosure} (h : ∀ error, enclosure.wrap error = error)
    (ending : Option Ending) : ending.map (Ending.map enclosure.wrap) = ending := by
  rcases ending with _ | error | _
  · rfl
  · exact congrArg (fun error => some (Ending.failed error)) (h error)
  · rfl

variable (enclosures : List Enclosure)

/-- A failure as it is seen outside of enclosures, the innermost first. -/
def wrapAll (error : ShellError) : ShellError :=
  enclosures.foldl (fun error enclosure => enclosure.wrap error) error

/-- The session when enclosures have been left, the innermost first. -/
def leaveAll (s : Session) : Session := enclosures.foldl (fun s enclosure => enclosure.leave s) s

/-- What of a trace is seen outside of enclosures, the innermost first. -/
def seenAll (trace : Trace) : Trace :=
  enclosures.foldl (fun trace enclosure => enclosure.seen trace) trace

/-- The frame of the outermost caller, when each call has published what it returned into the
frame of its caller. -/
def publishAll (frame : Frame) : Frame :=
  (enclosures.filterMap caller?).foldl (fun callee caller => caller.publish callee) frame

/-- Of the names, leaving enclosures changes the frame only: the calls that are left publish
what they returned. -/
theorem leaveAll_scope (s : Session) :
    (leaveAll enclosures s).scope =
      { s.scope with frame := publishAll enclosures s.scope.frame } := by
  induction enclosures generalizing s with
  | nil => rfl
  | cons enclosure rest ih =>
      have hcons : leaveAll (enclosure :: rest) s = leaveAll rest (enclosure.leave s) := rfl
      rw [hcons, ih]
      cases enclosure <;> rfl

/-- Of the world, leaving enclosures changes only what channels are bound to. -/
theorem leaveAll_world (s : Session) :
    ∃ channels, (leaveAll enclosures s).world = { s.world with channels := channels } := by
  induction enclosures generalizing s with
  | nil => exact ⟨s.world.channels, rfl⟩
  | cons enclosure rest ih =>
      obtain ⟨channels, hchannels⟩ := ih (enclosure.leave s)
      have hcons : leaveAll (enclosure :: rest) s = leaveAll rest (enclosure.leave s) := rfl
      refine ⟨channels, ?_⟩
      rw [hcons, hchannels]
      cases enclosure <;> rfl

end Enclosure

/-- An ending as it is seen outside of enclosures. -/
def Ending.outside (enclosures : List Enclosure) (ending : Ending) : Ending :=
  ending.map (Enclosure.wrapAll enclosures)

theorem Ending.outside_snoc (enclosures : List Enclosure) (enclosure : Enclosure)
    (ending : Ending) :
    ending.outside (enclosures ++ [enclosure]) =
      (ending.outside enclosures).map enclosure.wrap := by
  cases ending with
  | failed error => simp [outside, map, Enclosure.wrapAll]
  | exit => rfl

/-! ### Steps that are reached -/

/-- Started in `s`, an action gets to `step` in the session `t`, inside of enclosures, the
innermost first. The flows say which values end the shell. -/
inductive Reaches {γ : Type} (sense : γ → Flow) (step : Action γ) (t : Session) :
    {α : Type} → (α → Flow) → Action α → Session → List Enclosure → Prop where
  | here : Reaches sense step t sense step t []
  | first {α β : Type} {flow : α → Flow} {flow' : β → Flow} {a : Action α}
      {next : α → Action β} {s : Session} {enclosures : List Enclosure} :
      Reaches sense step t flow a s enclosures → HandsOn flow flow' next →
      Reaches sense step t flow' (a >>= next) s enclosures
  | second {α β : Type} {flow' : β → Flow} {a : Action α} {next : α → Action β} {value : α}
      {s : Session} {enclosures : List Enclosure} :
      (a s).outcome = .done value →
      Reaches sense step t flow' (next value) (a s).session enclosures →
      Reaches sense step t flow' (a >>= next) s enclosures
  | inBuiltin {α : Type} {flow : α → Flow} {a : Action α} {s : Session}
      {enclosures : List Enclosure} (name : Text) :
      Reaches sense step t flow a s enclosures →
      Reaches sense step t flow (Action.mapError (.inBuiltin name) a) s
        (enclosures ++ [.builtin name])
  | inSubstitution {α : Type} {flow : α → Flow} {a : Action α} {s : Session}
      {enclosures : List Enclosure} (body : Text) :
      Reaches sense step t flow a s enclosures →
      Reaches sense step t flow (Action.mapError (.inSubstitution body) a) s
        (enclosures ++ [.substitution body])
  | capture {α : Type} {flow : α → Flow} {a : Action α} {s : Session}
      {enclosures : List Enclosure} (fd : Nat) :
      Reaches sense step t flow a s enclosures →
      Reaches sense step t (fun result => flow result.1) (Action.capture fd a) s
        (enclosures ++ [.captured fd])
  | withChannel {α : Type} {flow : α → Flow} {a : Action α} {s : Session}
      {enclosures : List Enclosure} (number : Nat) (channel : Channel) :
      Reaches sense step t flow a { s with world := s.world.setChannel number channel }
        enclosures →
      Reaches sense step t flow (Action.withChannel number channel a) s
        (enclosures ++ [.channel number (s.world.channels number)])
  | call {α : Type} {flow : α → Flow} {a : Action α} {s : Session}
      {enclosures : List Enclosure} (args : List Text) :
      Reaches sense step t flow a { s with scope := s.scope.enterCall args } enclosures →
      Reaches sense step t flow (Action.call args a) s (enclosures ++ [.call s.scope.frame])

/-- A run that the run of a step ended: it ends as the step did, as that is seen outside of the
enclosures; these are left, and nothing else happens. -/
structure Finished.EndedBy (x : Finished α) (flow : α → Flow) (enclosures : List Enclosure)
    (y : Finished γ) (ending : Ending) : Prop where
  ending : x.outcome.ending? flow = some (ending.outside enclosures)
  session : x.session = Enclosure.leaveAll enclosures y.session
  trace : ∃ before, x.trace = before ++ Enclosure.seenAll enclosures y.trace

namespace Finished.EndedBy

variable {flow : α → Flow} {a : Action α} {s : Session} {enclosures : List Enclosure}
  {y : Finished γ} {ending : Ending}

theorem first {flow' : β → Flow} {next : α → Action β}
    (h : (a s).EndedBy flow enclosures y ending) (hands : HandsOn flow flow' next) :
    ((a >>= next) s).EndedBy flow' enclosures y ending := by
  rcases Outcome.ending?_eq_some h.ending with
    ⟨error, houtcome, herror⟩ | ⟨value, houtcome, hflow, hexit⟩
  · rw [Action.bind_of_failed houtcome]
    exact ⟨by rw [herror]; rfl, h.session, h.trace⟩
  · obtain ⟨value', hflow', hpure⟩ := hands value hflow
    rw [Action.bind_of_done houtcome, hpure]
    refine ⟨?_, h.session, ?_⟩
    · rw [hexit]
      exact Outcome.ending?_of_exit hflow'
    · obtain ⟨before, htrace⟩ := h.trace
      exact ⟨before, by simp [Action.pure, htrace]⟩

theorem second {next : β → Action α} {first : Action β} {value : β}
    (houtcome : (first s).outcome = .done value)
    (h : (next value (first s).session).EndedBy flow enclosures y ending) :
    ((first >>= next) s).EndedBy flow enclosures y ending := by
  obtain ⟨before, htrace⟩ := h.trace
  rw [Action.bind_of_done houtcome]
  exact ⟨h.ending, h.session, (first s).trace ++ before, by simp [htrace]⟩

/-- One more enclosure is left. -/
theorem enclosed {x : Finished β} {flow' : β → Flow} (enclosure : Enclosure)
    (h : (a s).EndedBy flow enclosures y ending)
    (hending : x.outcome.ending? flow' =
      ((a s).outcome.ending? flow).map (Ending.map enclosure.wrap))
    (hsession : x.session = enclosure.leave (a s).session)
    (htrace : x.trace = enclosure.seen (a s).trace) :
    x.EndedBy flow' (enclosures ++ [enclosure]) y ending := by
  obtain ⟨before, hbefore⟩ := h.trace
  refine ⟨?_, ?_, enclosure.seen before, ?_⟩
  · rw [hending, h.ending, Ending.outside_snoc, Option.map_some]
  · rw [hsession, h.session]
    simp [Enclosure.leaveAll]
  · rw [htrace, hbefore, enclosure.seen_append]
    simp [Enclosure.seenAll]

end Finished.EndedBy

/-- **A step that fails or ends the shell ends everything around it.** -/
theorem Reaches.ends {sense : γ → Flow} {step : Action γ} {t : Session} {flow : α → Flow}
    {a : Action α} {s : Session} {enclosures : List Enclosure}
    (h : Reaches sense step t flow a s enclosures) {ending : Ending}
    (hending : (step t).outcome.ending? sense = some ending) :
    (a s).EndedBy flow enclosures (step t) ending := by
  induction h with
  | here =>
      refine ⟨?_, rfl, [], rfl⟩
      rw [hending]
      cases ending <;> rfl
  | first _ hands ih => exact ih.first hands
  | second houtcome _ ih => exact .second houtcome ih
  | inBuiltin name _ ih =>
      exact ih.enclosed (.builtin name) (Action.ending?_mapError ..) (Action.session_mapError ..)
        (Action.trace_mapError ..)
  | inSubstitution body _ ih =>
      exact ih.enclosed (.substitution body) (Action.ending?_mapError ..)
        (Action.session_mapError ..) (Action.trace_mapError ..)
  | capture fd _ ih =>
      refine ih.enclosed (.captured fd) ?_ (Action.session_capture ..) (Action.trace_capture ..)
      rw [Enclosure.map_wrap_eq fun _ => rfl]
      exact Action.ending?_capture ..
  | withChannel number channel _ ih =>
      refine ih.enclosed (.channel number _) ?_ rfl rfl
      rw [Enclosure.map_wrap_eq fun _ => rfl]
      rfl
  | call args _ ih =>
      refine ih.enclosed (.call _) ?_ rfl rfl
      rw [Enclosure.map_wrap_eq fun _ => rfl]
      rfl

/-! ### Steps with a property -/

/-- What may hold of a step: of its flow, its action, the session it starts in and what encloses
it. -/
abbrev StepProperty := (γ : Type) → (γ → Flow) → Action γ → Session → List Enclosure → Prop

/-- An action gets to a step with a property. -/
def ReachesSome (holds : StepProperty) (flow : α → Flow) (a : Action α) (s : Session) : Prop :=
  ∃ (γ : Type) (sense : γ → Flow) (step : Action γ) (t : Session) (enclosures : List Enclosure),
    holds γ sense step t enclosures ∧ Reaches sense step t flow a s enclosures

namespace ReachesSome

variable {holds holds' : StepProperty} {flow : α → Flow} {flow' : β → Flow} {a : Action α}
  {s s' : Session}

theorem here (h : holds α flow a s []) : ReachesSome holds flow a s :=
  ⟨α, flow, a, s, [], h, .here⟩

theorem mono (h : ReachesSome holds flow a s)
    (himp : ∀ {γ sense step t enclosures}, holds γ sense step t enclosures →
      holds' γ sense step t enclosures) : ReachesSome holds' flow a s := by
  obtain ⟨γ, sense, step, t, enclosures, hholds, hreaches⟩ := h
  exact ⟨γ, sense, step, t, enclosures, himp hholds, hreaches⟩

theorem first {next : α → Action β} (h : ReachesSome holds flow a s)
    (hands : HandsOn flow flow' next) : ReachesSome holds flow' (a >>= next) s := by
  obtain ⟨γ, sense, step, t, enclosures, hholds, hreaches⟩ := h
  exact ⟨γ, sense, step, t, enclosures, hholds, hreaches.first hands⟩

theorem second {start : Action β} {next : β → Action α} {value : β}
    (houtcome : (start s).outcome = .done value)
    (h : ReachesSome holds flow (next value) (start s).session) :
    ReachesSome holds flow (start >>= next) s := by
  obtain ⟨γ, sense, step, t, enclosures, hholds, hreaches⟩ := h
  exact ⟨γ, sense, step, t, enclosures, hholds, .second houtcome hreaches⟩

theorem enclosed {b : Action β} (enclosure : Enclosure) (h : ReachesSome holds flow a s)
    (himp : ∀ {γ sense step t enclosures}, holds γ sense step t enclosures →
      holds' γ sense step t (enclosures ++ [enclosure]))
    (hreach : ∀ {γ : Type} {sense : γ → Flow} {step : Action γ} {t enclosures},
      Reaches sense step t flow a s enclosures →
      Reaches sense step t flow' b s' (enclosures ++ [enclosure])) :
    ReachesSome holds' flow' b s' := by
  obtain ⟨γ, sense, step, t, enclosures, hholds, hreaches⟩ := h
  exact ⟨γ, sense, step, t, _, himp hholds, hreach hreaches⟩

end ReachesSome

/-! ### Commands that were started -/

/-- A step that is a command, and whose trace is seen outside at the front of `onward`. -/
inductive Shows (launcher : Process.Launcher) (name : Text) (args : List Text) (onward : Trace) :
    StepProperty where
  | command {depth : Nat} {ctx : Context} {t : Session} {enclosures : List Enclosure} :
      Enclosure.seenAll enclosures (Eval.dispatch launcher
        (Eval.text (Eval.tokens (Eval.dispatch launcher) depth)) ctx name args t).trace <+: onward →
      Shows launcher name args onward Flow id (Eval.dispatch launcher
        (Eval.text (Eval.tokens (Eval.dispatch launcher) depth)) ctx name args) t enclosures

namespace Shows

variable {name : Text} {args : List Text} {onward : Trace} {sense : γ → Flow} {step : Action γ}
  {t : Session} {enclosures : List Enclosure}

theorem append (h : Shows launcher name args onward γ sense step t enclosures) (more : Trace) :
    Shows launcher name args (onward ++ more) γ sense step t enclosures := by
  obtain ⟨htrace⟩ := h
  exact .command (htrace.trans (List.prefix_append onward more))

theorem enclosed (h : Shows launcher name args onward γ sense step t enclosures)
    (enclosure : Enclosure) :
    Shows launcher name args (enclosure.seen onward) γ sense step t
      (enclosures ++ [enclosure]) := by
  obtain ⟨rest, hrest⟩ := h
  refine .command ⟨enclosure.seen rest, ?_⟩
  rw [← hrest, enclosure.seen_append]
  simp [Enclosure.seenAll]

/-- A start that the trace of a command shows is its own, or that of a command it started. -/
theorem own_or_inner {depth : Nat} {ctx : Context} {name' : Text} {args' : List Text} {s : Session}
    {before after rest : Trace}
    (hwhole : (Eval.dispatch launcher (Eval.text (Eval.tokens (Eval.dispatch launcher) depth))
      ctx name' args' s).trace = .started name' args' :: rest)
    (hcut : (Eval.dispatch launcher (Eval.text (Eval.tokens (Eval.dispatch launcher) depth))
      ctx name' args' s).trace = before ++ .started name args :: after) :
    ReachesSome (Shows launcher name args (.started name args :: after)) id
      (Eval.dispatch launcher (Eval.text (Eval.tokens (Eval.dispatch launcher) depth))
        ctx name' args') s ∨
    ∃ front, rest = front ++ .started name args :: after := by
  cases before with
  | nil =>
      obtain ⟨hstart, -⟩ := List.cons.inj (hwhole.symm.trans hcut)
      cases hstart
      exact .inl (.here (.command ⟨[], (List.append_nil _).trans hcut⟩))
  | cons event front => exact .inr ⟨front, (List.cons.inj (hwhole.symm.trans hcut)).2⟩

end Shows

/-- The start of a command is not captured. -/
theorem Trace.cut_of_without {fd : Nat} {trace before after : Trace} {name : Text}
    {args : List Text} (h : Trace.without fd trace = before ++ .started name args :: after) :
    ∃ front rest, trace = front ++ .started name args :: rest ∧ Trace.without fd rest = after := by
  obtain ⟨first, second, rfl, -, hsecond⟩ := List.filter_eq_append_iff.mp h
  obtain ⟨skipped, rest, rfl, -, -, hrest⟩ := List.filter_eq_cons_iff.mp hsecond
  exact ⟨first ++ skipped, rest, (List.append_assoc ..).symm, hrest⟩

/-- **Every command that a trace shows was reached.** -/
theorem Composed.reaches_started {flow : α → Flow} {a : Action α} (h : Composed launcher flow a)
    {s : Session} {before after : Trace} {name : Text} {args : List Text}
    (htrace : (a s).trace = before ++ .started name args :: after) :
    ReachesSome (Shows launcher name args (.started name args :: after)) flow a s := by
  induction h generalizing s before after with
  | pure _ => cases mem_of_cut htrace
  | fail error =>
      have hmem : Event.started name args ∈ [Event.failed] := mem_of_cut htrace
      simp at hmem
  | unfinished => cases mem_of_cut htrace
  | session => cases mem_of_cut htrace
  | setScope scope => cases mem_of_cut htrace
  | setWorld world => cases mem_of_cut htrace
  | @emit event hevent =>
      have hmem : Event.started name args ∈ [event] := mem_of_cut htrace
      rw [← List.mem_singleton.mp hmem] at hevent
      cases hevent
  | @exit depth ctx name' args' hname =>
      have hwhole : ∃ mark : Event, mark.isMark = true ∧ (Eval.dispatch launcher
          (Eval.text (Eval.tokens (Eval.dispatch launcher) depth)) ctx name' args' s).trace =
            [.started name' args', mark] := by
        rw [Eval.dispatch_exit hname]
        split_ifs
        · exact ⟨.exited, rfl, rfl⟩
        · exact ⟨.failed, rfl, rfl⟩
      obtain ⟨mark, hmark, hwhole⟩ := hwhole
      rcases Shows.own_or_inner hwhole htrace with hown | ⟨before, hinner⟩
      · exact hown
      · have hmem : Event.started name args ∈ [mark] := mem_of_cut hinner
        rw [← List.mem_singleton.mp hmem] at hmark
        cases hmark
  | program action =>
      rcases List.mem_append.mp (mem_of_cut htrace) with hmem | hmem
      · cases (List.mem_filter.mp hmem).2
      · cases houtcome : (action s).outcome <;> simp [houtcome] at hmem
  | @command depth ctx name' args' body heq _ ih =>
      have hwhole : (Eval.dispatch launcher (Eval.text (Eval.tokens (Eval.dispatch launcher) depth))
          ctx name' args' s).trace = .started name' args' :: (body s).trace := by
        rw [heq]
        rfl
      rcases Shows.own_or_inner hwhole htrace with hown | ⟨before, hinner⟩
      · exact hown
      · rw [heq]
        exact .second rfl (ih hinner)
  | @bind α β flow flow' a next _ hands _ ih hnext =>
      cases houtcome : (a s).outcome with
      | done value =>
          rw [Action.bind_of_done houtcome] at htrace
          -- The start stands in the trace of the first action or in that of the second one.
          rcases cut_of_append htrace with ⟨more, hfirst, rfl⟩ | ⟨more, hsecond⟩
          · exact ((ih hfirst).mono fun hshows => hshows.append _).first hands
          · refine .second houtcome ?_
            cases hflow : flow value with
            | exit =>
                obtain ⟨value', -, hpure⟩ := hands value hflow
                rw [hpure] at hsecond
                cases mem_of_cut hsecond
            | proceed => exact hnext value hflow hsecond
      | failed error =>
          rw [Action.bind_of_failed houtcome] at htrace
          exact (ih htrace).first hands
      | unfinished =>
          rw [Action.bind_of_unfinished houtcome] at htrace
          exact (ih htrace).first hands
  | inBuiltin name' _ ih =>
      rw [Action.trace_mapError] at htrace
      exact (ih htrace).enclosed _ (fun h => h.enclosed (.builtin name')) (Reaches.inBuiltin name')
  | inSubstitution body _ ih =>
      rw [Action.trace_mapError] at htrace
      exact (ih htrace).enclosed _ (fun h => h.enclosed (.substitution body))
        (Reaches.inSubstitution body)
  | capture fd _ ih =>
      rw [Action.trace_capture] at htrace
      obtain ⟨front, rest, hcut, rfl⟩ := Trace.cut_of_without htrace
      exact (ih hcut).enclosed _ (fun h => h.enclosed (.captured fd)) (Reaches.capture fd)
  | withChannel number channel _ ih =>
      exact (ih htrace).enclosed _
        (fun h => h.enclosed (.channel number (s.world.channels number)))
        (Reaches.withChannel number channel)
  | call args' _ ih =>
      exact (ih htrace).enclosed _ (fun h => h.enclosed (.call s.scope.frame)) (Reaches.call args')

/-! ### Where endings arise -/

/-- Actions that end a run by themselves. -/
inductive IsOrigin (launcher : Process.Launcher) :
    {γ : Type} → (γ → Flow) → Action γ → Prop where
  /-- A failure. -/
  | fail {γ : Type} {sense : γ → Flow} (error : ShellError) :
      IsOrigin launcher sense (Action.fail error)
  /-- The command that ends the shell, without arguments. -/
  | exit {depth : Nat} {ctx : Context} {name : Text} :
      Builtin.ofName? name = some .exit →
      IsOrigin launcher id (Eval.dispatch launcher
        (Eval.text (Eval.tokens (Eval.dispatch launcher) depth)) ctx name [])
  /-- A program, which may fail as it is run. -/
  | program {γ : Type} (action : Action γ) :
      IsOrigin launcher Flow.onward (Process.showingWrites action)

/-- A step at which an ending arises. -/
def Originates (launcher : Process.Launcher) : StepProperty := fun _ sense step t _ =>
  IsOrigin launcher sense step ∧ (step t).outcome.ending? sense ≠ none

/-- **A run that ended early was ended somewhere.** -/
theorem Composed.originates {flow : α → Flow} {a : Action α} (h : Composed launcher flow a)
    {s : Session} (hended : (a s).outcome.ending? flow ≠ none) :
    ReachesSome (Originates launcher) flow a s := by
  induction h generalizing s with
  | pure hvalue => exact absurd (Outcome.ending?_of_proceed hvalue) hended
  | fail error => exact .here ⟨.fail error, hended⟩
  | unfinished => exact absurd rfl hended
  | session => exact absurd rfl hended
  | setScope scope => exact absurd rfl hended
  | setWorld world => exact absurd rfl hended
  | emit _ => exact absurd rfl hended
  | @exit depth ctx name args hname =>
      cases args with
      | nil => exact .here ⟨.exit hname, hended⟩
      | cons arg rest =>
          -- The arguments are refused before anything else is done.
          have hrefused : ReachesSome (Originates launcher) id (Builtin.runExit (arg :: rest)) s :=
            ReachesSome.first (a := Action.fail _) (.here ⟨.fail _, nofun⟩) handsOn_onward
          unfold Eval.dispatch
          rw [hname]
          exact .second rfl (hrefused.enclosed (.builtin name) id (Reaches.inBuiltin name))
  | program action => exact .here ⟨.program action, hended⟩
  | command heq _ ih =>
      rw [heq] at hended ⊢
      exact .second rfl (ih hended)
  | @bind α β flow flow' a next _ hands _ ih hnext =>
      cases houtcome : (a s).outcome with
      | done value =>
          cases hflow : flow value with
          | exit =>
              have hexit := Outcome.ending?_of_exit hflow
              exact (ih (by rw [houtcome, hexit]; nofun)).first hands
          | proceed =>
              rw [Action.bind_of_done houtcome] at hended
              exact .second houtcome (hnext value hflow hended)
      | failed error => exact (ih (by rw [houtcome]; nofun)).first hands
      | unfinished =>
          rw [Action.bind_of_unfinished houtcome] at hended
          exact absurd rfl hended
  | inBuiltin name _ ih =>
      rw [Action.ending?_mapError, ne_eq, Option.map_eq_none_iff] at hended
      exact (ih hended).enclosed (.builtin name) id (Reaches.inBuiltin name)
  | inSubstitution body _ ih =>
      rw [Action.ending?_mapError, ne_eq, Option.map_eq_none_iff] at hended
      exact (ih hended).enclosed (.substitution body) id (Reaches.inSubstitution body)
  | capture fd _ ih =>
      rw [Action.ending?_capture] at hended
      exact (ih hended).enclosed (.captured fd) id (Reaches.capture fd)
  | withChannel number channel _ ih =>
      exact (ih hended).enclosed (.channel number _) id (Reaches.withChannel number channel)
  | call args _ ih => exact (ih hended).enclosed (.call _) id (Reaches.call args)

/-! ### The command that ends the shell -/

/-- A step that is the command which ends the shell, and that succeeds. -/
inductive Exits (launcher : Process.Launcher) : StepProperty where
  | command {depth : Nat} {ctx : Context} {name : Text} {args : List Text} {t : Session}
      {enclosures : List Enclosure} {flow : Flow} :
      Builtin.ofName? name = some .exit →
      (Eval.dispatch launcher (Eval.text (Eval.tokens (Eval.dispatch launcher) depth)) ctx name args
        t).outcome = .done flow →
      Exits launcher Flow id (Eval.dispatch launcher
        (Eval.text (Eval.tokens (Eval.dispatch launcher) depth)) ctx name args) t enclosures

/-- The command that ends the shell succeeds exactly if it is given no arguments. -/
theorem Eval.dispatch_exit_done_iff {name : Text} (hname : Builtin.ofName? name = some .exit)
    (evaluate : Builtin.Evaluator) (ctx : Context) (args : List Text) (s : Session) :
    (∃ flow, (dispatch launcher evaluate ctx name args s).outcome = .done flow) ↔ args = [] := by
  rw [dispatch_exit hname]
  split_ifs with hargs <;> simp [hargs]

namespace Exits

variable {sense : γ → Flow} {step : Action γ} {t : Session} {enclosures : List Enclosure}

/-- Where the command succeeds, it ends the shell, and that is all it does. -/
theorem eq_exit (h : Exits launcher γ sense step t enclosures) :
    (step t).outcome.ending? sense = some .exit ∧
      ∃ name, Builtin.ofName? name = some .exit ∧ (step t).trace = [.started name [], .exited] := by
  obtain ⟨hname, hdone⟩ := h
  obtain rfl := (Eval.dispatch_exit_done_iff hname _ _ _ _).mp ⟨_, hdone⟩
  rw [Eval.dispatch_exit hname]
  exact ⟨rfl, _, hname, rfl⟩

end Exits

/-- **A run that ended the shell got to the command that does so**, which succeeded. -/
theorem Composed.reaches_exit {flow : α → Flow} {a : Action α} (h : Composed launcher flow a)
    {s : Session} (hexit : (a s).outcome.ending? flow = some .exit) :
    ReachesSome (Exits launcher) flow a s := by
  obtain ⟨γ, sense, step, t, enclosures, ⟨horigin, hended⟩, hreaches⟩ :=
    h.originates (hexit ▸ Option.some_ne_none _)
  obtain ⟨ending, hending⟩ := Option.ne_none_iff_exists'.mp hended
  have houtside : some (ending.outside enclosures) = some .exit :=
    (hreaches.ends hending).ending.symm.trans hexit
  -- Neither a failure nor a program ends the shell.
  cases horigin with
  | fail error =>
      cases hending
      cases houtside
  | exit hname =>
      exact ⟨_, _, _, t, enclosures, .command hname (by rw [Eval.dispatch_exit hname]; rfl),
        hreaches⟩
  | program action =>
      rcases Outcome.ending?_eq_some hending with ⟨error, -, rfl⟩ | ⟨value, -, hvalue, -⟩
      · cases houtside
      · cases hvalue

/-- What a succeeding command that ends the shell leaves in the trace is seen everywhere. -/
theorem Enclosure.seenAll_exit (enclosures : List Enclosure) (name : Text) (args : List Text) :
    seenAll enclosures [.started name args, .exited] = [.started name args, .exited] := by
  induction enclosures with
  | nil => rfl
  | cons enclosure rest ih => cases enclosure <;> exact ih

/-- The run ends the shell where that command succeeds, wherever that is. -/
theorem ReachesSome.ends_exit {a : Action Flow} {s : Session}
    (h : ReachesSome (Exits launcher) id a s) :
    (a s).outcome = .done .exit ∧ ∃ before name, Builtin.ofName? name = some .exit ∧
      (a s).trace = before ++ [.started name [], .exited] := by
  obtain ⟨γ, sense, step, t, enclosures, hexits, hreaches⟩ := h
  obtain ⟨hending, name, hname, htrace⟩ := hexits.eq_exit
  have hended := hreaches.ends hending
  obtain ⟨before, hbefore⟩ := hended.trace
  rw [htrace, Enclosure.seenAll_exit] at hbefore
  exact ⟨Outcome.eq_of_ending? hended.ending, before, name, hname, hbefore⟩

/-- **Failures and the end of the shell are absorbing.** In every evaluation of an expression to
any depth, whatever becomes of the programs it starts:

* nothing follows a failure, or the success of the command that ends the shell, in the trace;
* the evaluation ends the shell exactly if that command succeeded in it, which is a command that
  it got to; it succeeds exactly if it is given no arguments, and its success is then the last
  that the trace shows;
* the evaluation fails exactly if a failure arose in it;
* when a step that is reached fails or ends the shell, wherever that is, the evaluation ends
  in the same way, a failure wrapped by what encloses the step; nothing is done behind the
  step; and the session is the one that the step left, but for the calls that are left, which
  publish what they returned, and for channels that are bound as before;
* every command that was started is such a step, and an evaluation that ends early was ended
  by such a step: by a failure where it arose, by the command that ends the shell, or by a
  program. -/
theorem ending_absorbs (launcher : Process.Launcher) (depth : Nat) (ctx : Context) (expr : Text)
    (s : Session) :
    let evaluation := Eval.text (Eval.tokens (Eval.dispatch launcher) depth) ctx expr
    let run := evaluation s
    (∀ before event after, run.trace = before ++ event :: after → event.isMark = true →
      after = []) ∧
    (run.outcome = .done .exit ↔ Event.exited ∈ run.trace) ∧
    (run.outcome = .done .exit ↔ ReachesSome (Exits launcher) id evaluation s) ∧
    (run.outcome = .done .exit → ∃ before name, Builtin.ofName? name = some .exit ∧
      run.trace = before ++ [.started name [], .exited]) ∧
    (∀ depth ctx name args t, Builtin.ofName? name = some .exit →
      ((∃ flow, (Eval.dispatch launcher (Eval.text (Eval.tokens (Eval.dispatch launcher) depth))
        ctx name args t).outcome = .done flow) ↔ args = [])) ∧
    ((∃ error, run.outcome = .failed error) ↔ Event.failed ∈ run.trace) ∧
    (∀ (γ : Type) (sense : γ → Flow) (step : Action γ) t enclosures,
      Reaches sense step t id evaluation s enclosures →
      ∀ ending, (step t).outcome.ending? sense = some ending →
        run.outcome = (ending.outside enclosures).outcome ∧
        run.session.scope = { (step t).session.scope with
          frame := Enclosure.publishAll enclosures (step t).session.scope.frame } ∧
        (∃ channels, run.session.world = { (step t).session.world with channels := channels }) ∧
        ∃ before, run.trace = before ++ Enclosure.seenAll enclosures (step t).trace) ∧
    (∀ before name args after, run.trace = before ++ .started name args :: after →
      ReachesSome (Shows launcher name args (.started name args :: after)) id evaluation s) ∧
    (run.outcome.ending? id ≠ none → ReachesSome (Originates launcher) id evaluation s) := by
  intro evaluation run
  have hcomposed : Composed launcher id evaluation := composed_text depth ctx expr
  have horderly : run.IsOrderly id := hcomposed.isOrderly s
  have hreached : run.outcome = .done .exit → ReachesSome (Exits launcher) id evaluation s :=
    fun hexit => hcomposed.reaches_exit (congrArg (Outcome.ending? id) hexit)
  refine ⟨fun before event after htrace hmark => horderly.eq_nil_of_mark htrace hmark, ?_,
    ⟨hreached, fun h => h.ends_exit.1⟩, fun hexit => (hreached hexit).ends_exit.2,
    fun depth ctx name args t hname => Eval.dispatch_exit_done_iff hname _ ctx args t, ?_, ?_,
    fun before name args after htrace => hcomposed.reaches_started htrace, hcomposed.originates⟩
  · rw [horderly.mem_mark_iff rfl]
    exact (Outcome.mark_iff run.outcome).1
  · rw [horderly.mem_mark_iff rfl]
    exact (Outcome.mark_iff run.outcome).2
  · intro γ sense step t enclosures hreaches ending hending
    have hended : run.EndedBy id enclosures (step t) ending := hreaches.ends hending
    refine ⟨Outcome.eq_of_ending? hended.ending, ?_, ?_, hended.trace⟩
    · rw [hended.session]
      exact Enclosure.leaveAll_scope enclosures _
    · rw [hended.session]
      exact Enclosure.leaveAll_world enclosures _

/-- The shell ends inside of a substitution, in the middle of a sequence: neither the command that
would have had the substitution as an argument nor the one behind it is started. -/
theorem ending_absorbs_exit :
    (Eval.text (Eval.tokens (Eval.dispatch Process.start) 3) {}
      "l-echo a; l-echo (l-exit) c; l-echo b" ⟨{ aliasDepth := 64 }, {}⟩).trace =
        [.started "l-echo" ["a"], .wrote 1 [97, 10], .started "l-exit" [], .exited] ∧
    (Eval.text (Eval.tokens (Eval.dispatch Process.start) 3) {}
      "l-echo a; l-echo (l-exit) c; l-echo b" ⟨{ aliasDepth := 64 }, {}⟩).outcome = .done .exit ∧
    ReachesSome (Exits Process.start) id (Eval.text (Eval.tokens (Eval.dispatch Process.start) 3) {}
      "l-echo a; l-echo (l-exit) c; l-echo b") ⟨{ aliasDepth := 64 }, {}⟩ := by
  have htrace : (Eval.text (Eval.tokens (Eval.dispatch Process.start) 3) {}
      "l-echo a; l-echo (l-exit) c; l-echo b" ⟨{ aliasDepth := 64 }, {}⟩).trace =
        [.started "l-echo" ["a"], .wrote 1 [97, 10], .started "l-exit" [], .exited] := by
    decide +kernel
  obtain ⟨-, hexited, hreached, -⟩ := ending_absorbs Process.start 3 {}
    "l-echo a; l-echo (l-exit) c; l-echo b" ⟨{ aliasDepth := 64 }, {}⟩
  have hexit := hexited.mpr (by rw [htrace]; simp)
  exact ⟨htrace, hexit, hreached.mp hexit⟩

end Conch
