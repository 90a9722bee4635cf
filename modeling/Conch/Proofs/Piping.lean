import Conch.Proofs.Bodies
import Conch.Proofs.Calling
import Conch.Proofs.Capture
import Conch.Proofs.Deepening

/-!
Pipes. A pipe captures what its left side writes, and runs its right side on it if the left side
proceeds. So a chain of pipes runs its stages one after another, in whatever way it is nested, and
a stage that copies its input to its output can be left out at the end.

* `RunsPipe`, `yields_pipe_iff`: the runs of a pipe, by those of its sides.
* `RunsChain`: the runs of three stages, nested to the left and nested to the right. The two runs
  agree (`RunsChain.agreesWith`).
* `yields_copied`: a pipe into a copy, where descriptor 1 is captured.
* `Sink.sparedBy_copiedText`, `Sink.sameEffects_copied`: a pipe into a copy, where descriptor 1 is
  bound to a sink.
* `pipes_compose`: pipes are associative, with the copy as their right unit.

The unit needs that the left side does not touch the sink: `copied_reads_sink` is one that reads
the file to which it is writing.
-/

namespace Conch

/-! ### Traces -/

namespace Trace

theorem output_without_self (fd : Nat) (trace : Trace) : output fd (without fd trace) = [] :=
  output_eq_nil fun _ hevent => isOn_of_mem_without hevent

theorem without_without (fd : Nat) (trace : Trace) :
    without fd (without fd trace) = without fd trace := by
  unfold without
  rw [List.filter_filter]
  simp

theorem without_started (fd : Nat) (name : Text) (args : List Text) (rest : Trace) :
    without fd (.started name args :: rest) = .started name args :: without fd rest :=
  without_cons_off rfl rest

/-- What was written on a descriptor was not shown. -/
theorem display_without (fd other : Nat) (trace : Trace) :
    display fd (without other trace) = display fd trace := by
  refine flatMap_filter (fun event hon => ?_) trace
  cases event with
  | wrote written bytes => rfl
  | _ => cases hon

end Trace

/-- Whether an event is the start of a pipe. -/
def Event.startsPipe : Event → Bool
  | .started name _ => name == "l-pipe"
  | _ => false

/-- A trace but for the pipes that were started. -/
def Trace.besidesPipes (trace : Trace) : Trace := trace.filter (!·.startsPipe)

namespace Trace

theorem besidesPipes_append (first second : Trace) :
    besidesPipes (first ++ second) = besidesPipes first ++ besidesPipes second :=
  List.filter_append ..

theorem besidesPipes_started (args : List Text) (rest : Trace) :
    besidesPipes (.started "l-pipe" args :: rest) = besidesPipes rest :=
  List.filter_cons_of_neg (by simp [Event.startsPipe])

/-- Where starts have no bytes, pipes can be left out when bytes are collected. -/
theorem flatMap_besidesPipes {bytes : Event → Bytes}
    (h : ∀ name args, bytes (.started name args) = []) (trace : Trace) :
    (besidesPipes trace).flatMap bytes = trace.flatMap bytes := by
  refine flatMap_filter (fun event hstarts => ?_) trace
  cases event with
  | started name args => exact h name args
  | _ => cases hstarts

theorem output_besidesPipes (fd : Nat) (trace : Trace) :
    output fd (besidesPipes trace) = output fd trace :=
  flatMap_besidesPipes (fun _ _ => rfl) trace

theorem display_besidesPipes (fd : Nat) (trace : Trace) :
    display fd (besidesPipes trace) = display fd trace :=
  flatMap_besidesPipes (fun _ _ => rfl) trace

end Trace

/-! ### The two sides of a pipe -/

/-- The context of the left side of a pipe, whose descriptor 1 is captured. -/
def Context.captured (ctx : Context) : Context := { ctx with stdout := .outlet 1 }

/-- Where descriptor 1 is captured already, the left side has the context of the pipe. -/
theorem Context.captured_of_outlet {ctx : Context} (h : ctx.stdout = .outlet 1) :
    ctx.captured = ctx := by
  rw [captured, ← h]

/-- The context of the right side of a pipe, which reads channel 0. -/
def Context.fed (ctx : Context) : Context := { ctx with stdin := .channel 0 }

/-- A session with another channel of a number. -/
def Session.setChannel (s : Session) (number : Nat) (channel : Channel) : Session :=
  { s with world := s.world.setChannel number channel }

namespace Session

theorem setChannel_setChannel (s : Session) (number : Nat) (channel other : Channel) :
    (s.setChannel number channel).setChannel number other = s.setChannel number other := by
  simp only [setChannel, World.setChannel]
  congr
  funext n
  split_ifs <;> rfl

theorem setChannel_self (s : Session) (number : Nat) :
    s.setChannel number (s.world.channels number) = s := by
  have hchannels : (fun n => if n = number then s.world.channels number else s.world.channels n) =
      s.world.channels := by
    funext n
    split_ifs with hn
    · rw [hn]
    · rfl
  simp only [setChannel, World.setChannel, hchannels]

theorem channels_setChannel (s : Session) (number : Nat) (channel : Channel) :
    (s.setChannel number channel).world.channels number = channel := if_pos rfl

end Session

namespace Finished

/-- The run of a pipe whose left side did not proceed. -/
def stopped (left right : Text) (x : Finished Flow) : Finished Flow where
  outcome := x.outcome.inBuiltin "l-pipe"
  session := x.session
  trace := .started "l-pipe" [left, right] :: Trace.without 1 x.trace

/-- The run of a pipe whose left side proceeded. Descriptor 0 comes back as the left side left
it. -/
def joined (left right : Text) (x y : Finished Flow) : Finished Flow where
  outcome := y.outcome.inBuiltin "l-pipe"
  session := y.session.setChannel 0 (x.session.world.channels 0)
  trace := .started "l-pipe" [left, right] :: (Trace.without 1 x.trace ++ y.trace)

/-- The run of a pipe, by the run of its left side and what the right side would do then. -/
def piped (left right : Text) (x y : Finished Flow) : Finished Flow :=
  match x.outcome with
  | .done .proceed => joined left right x y
  | _ => stopped left right x

theorem piped_of_proceed {x : Finished Flow} (h : x.outcome = .done .proceed)
    (left right : Text) (y : Finished Flow) : piped left right x y = joined left right x y := by
  rw [piped, h]

theorem piped_of_stop {x : Finished Flow} (h : x.outcome ≠ .done .proceed)
    (left right : Text) (y : Finished Flow) : piped left right x y = stopped left right x := by
  unfold piped
  cases houtcome : x.outcome with
  | done flow =>
      cases flow with
      | proceed => exact absurd houtcome h
      | exit => rfl
  | failed error => rfl
  | unfinished => rfl

/-- What happens in a pipe happens on one of its sides. -/
theorem mem_piped {left right : Text} {x y : Finished Flow} {event : Event}
    (h : event ∈ (piped left right x y).trace) :
    event = .started "l-pipe" [left, right] ∨ event ∈ x.trace ∨
      x.outcome = .done .proceed ∧ event ∈ y.trace := by
  by_cases hproceeds : x.outcome = .done .proceed
  · rw [piped_of_proceed hproceeds] at h
    rcases List.mem_cons.mp h with h | h
    · exact .inl h
    rcases List.mem_append.mp h with h | h
    · exact .inr (.inl (List.mem_of_mem_filter h))
    · exact .inr (.inr ⟨hproceeds, h⟩)
  · rw [piped_of_stop hproceeds] at h
    exact (List.mem_cons.mp h).imp_right fun h => .inl (List.mem_of_mem_filter h)

/-- What the right side of a pipe starts with, if the left side proceeded. -/
def handsOver (x : Finished Flow) : Session :=
  x.session.setChannel 0 (.pipe (Trace.output 1 x.trace))

end Finished

namespace Outcome

theorem inBuiltin_eq_done_iff {name : Text} {outcome : Outcome Flow} {flow : Flow} :
    outcome.inBuiltin name = .done flow ↔ outcome = .done flow := by
  cases outcome <;> simp [inBuiltin]

theorem inBuiltin_eq_unfinished_iff {name : Text} {outcome : Outcome Flow} :
    outcome.inBuiltin name = .unfinished ↔ outcome = .unfinished := by
  cases outcome <;> simp [inBuiltin]

/-- An outcome as it is seen outside of a number of pipes. -/
def outsidePipes : Nat → Outcome Flow → Outcome Flow
  | 0, outcome => outcome
  | count + 1, outcome => (outsidePipes count outcome).inBuiltin "l-pipe"

end Outcome

namespace Eval

variable {launcher : Process.Launcher} {ctx : Context} {s : Session}

/-- On the left side of a pipe a command can be started as before. -/
theorem CanStart.captured {name : Text} (h : CanStart ctx name s) :
    CanStart ctx.captured name s := ⟨h.unaliased, h.running⟩

/-- On the right side a command can be started as behind the left one. -/
theorem CanStart.fed {name : Text} {x : Finished Flow} (h : CanStart ctx name x.session) :
    CanStart ctx.fed name x.handsOver := ⟨h.unaliased, h.running⟩

theorem ofName?_pipe : Builtin.ofName? "l-pipe" = some .pipe := Builtin.ofName?_name .pipe

/-- Without flags, a pipe goes from descriptor 1 to descriptor 0. -/
theorem runPipe_plain (evaluate : Builtin.Evaluator) (ctx : Context) (name : Text) {left : Text}
    (hleft : left.head? ≠ some '-') (right : Text) :
    Builtin.runPipe evaluate ctx name [left, right] =
      Builtin.runRoute evaluate ctx left right ⟨1, 0⟩ := by
  have hroutes : Builtin.runRoutes evaluate ctx left right Route.standard =
      Builtin.runRoute evaluate ctx left right ⟨1, 0⟩ := andThen_proceed _
  unfold Builtin.runPipe Flags.parse
  rw [Flags.read_argument _ hleft, ← hroutes]
  rfl

/-- An expression that is a pipe of two others. -/
structure IsPipe (expr : Text) (left : Text) (right : Token) : Prop where
  parse : Token.parse expr = .ok [.word "l-pipe", .raw left, right]
  plain : right.kind ≠ .split ∧ right.kind ≠ .substitution
  dash : left.head? ≠ some '-'

/-- A pipe runs its left side, and then its right side if the left side proceeds. -/
theorem text_pipe {expr left : Text} {right : Token} (h : IsPipe expr left right)
    (hstart : CanStart ctx "l-pipe" s) (depth : Nat) {x : Finished Flow}
    (hx : text (tokens (dispatch launcher) depth) ctx.captured left s = x) :
    text (tokens (dispatch launcher) (depth + 1)) ctx expr s =
      .piped left right.value x
        (text (tokens (dispatch launcher) depth) ctx.fed right.value x.handsOver) := by
  have hplain : ∀ token ∈ [.word "l-pipe", .raw left, right],
      token.kind ≠ .split ∧ token.kind ≠ .substitution := by
    simp only [List.forall_mem_cons]
    exact ⟨⟨nofun, nofun⟩, ⟨nofun, nofun⟩, h.plain, fun _ hmem => absurd hmem List.not_mem_nil⟩
  have hvalues : [.word "l-pipe", .raw left, right].map (·.value) =
      ("l-pipe" : Text) :: [left, right.value] := rfl
  have hrun : Builtin.run (text (tokens (dispatch launcher) depth)) ctx "l-pipe"
        [left, right.value] .pipe =
      Builtin.runRoute (text (tokens (dispatch launcher) depth)) ctx left right.value ⟨1, 0⟩ :=
    runPipe_plain _ ctx _ h.dash right.value
  rw [text_of_plain h.parse hplain hvalues (by decide) hstart, dispatch_of_builtin ofName?_pipe,
    hrun, Builtin.runRoute_eq _ ctx left right.value s hx]
  cases houtcome : x.outcome with
  | done flow =>
      cases flow with
      | proceed =>
          rw [Finished.piped_of_proceed houtcome]
          rfl
      | exit =>
          rw [Finished.piped_of_stop (by simp [houtcome]), Finished.stopped, houtcome]
  | failed error => rw [Finished.piped_of_stop (by simp [houtcome]), Finished.stopped, houtcome]
  | unfinished => rw [Finished.piped_of_stop (by simp [houtcome]), Finished.stopped, houtcome]

/-- The runs of a pipe, by the runs of its sides. -/
inductive RunsPipe (launcher : Process.Launcher) (ctx : Context) (left right : Text)
    (s : Session) : Finished Flow → Prop where
  /-- The left side fails or ends the shell. -/
  | stopped {x : Finished Flow} :
      Yields launcher ctx.captured left s x → x.outcome ≠ .done .proceed →
      RunsPipe launcher ctx left right s (.stopped left right x)
  /-- The right side runs on what the left side wrote. -/
  | joined {x y : Finished Flow} :
      Yields launcher ctx.captured left s x → x.outcome = .done .proceed →
      Yields launcher ctx.fed right x.handsOver y →
      RunsPipe launcher ctx left right s (.joined left right x y)

/-- **What a pipe yields.** -/
theorem yields_pipe_iff {expr left : Text} {right : Token} (h : IsPipe expr left right)
    (hstart : CanStart ctx "l-pipe" s) {run : Finished Flow} :
    Yields launcher ctx expr s run ↔ RunsPipe launcher ctx left right.value s run := by
  constructor
  · rintro ⟨hends, depth, rfl⟩
    cases depth with
    | zero =>
        rw [text_zero h.parse] at hends
        exact absurd rfl hends
    | succ depth =>
        obtain ⟨x, hx⟩ : ∃ x, text (tokens (dispatch launcher) depth) ctx.captured left s = x :=
          ⟨_, rfl⟩
        rw [text_pipe h hstart depth hx] at hends ⊢
        by_cases hproceeds : x.outcome = .done .proceed
        · have hleft : Yields launcher ctx.captured left s x := ⟨by simp [hproceeds], depth, hx⟩
          rw [Finished.piped_of_proceed hproceeds] at hends ⊢
          refine .joined hleft hproceeds ⟨fun hright => ?_, depth, rfl⟩
          exact hends (Outcome.inBuiltin_eq_unfinished_iff.mpr hright)
        · rw [Finished.piped_of_stop hproceeds] at hends ⊢
          have hleft : x.outcome ≠ .unfinished := fun hleft =>
            hends (Outcome.inBuiltin_eq_unfinished_iff.mpr hleft)
          exact .stopped ⟨hleft, depth, hx⟩ hproceeds
  · rintro (⟨hleft, hstops⟩ | ⟨hleft, hproceeds, hright⟩)
    · obtain ⟨depth, hdepth⟩ := hleft.at_depth
      refine ⟨fun hrun => hleft.1 (Outcome.inBuiltin_eq_unfinished_iff.mp hrun), depth + 1, ?_⟩
      rw [text_pipe h hstart depth (hdepth depth le_rfl), Finished.piped_of_stop hstops]
    · obtain ⟨depth, hdepth⟩ := hleft.at_depth
      obtain ⟨other, hother⟩ := hright.at_depth
      refine ⟨fun hrun => hright.1 (Outcome.inBuiltin_eq_unfinished_iff.mp hrun),
        max depth other + 1, ?_⟩
      rw [text_pipe h hstart _ (hdepth _ (Nat.le_max_left ..)),
        Finished.piped_of_proceed hproceeds, hother _ (Nat.le_max_right ..)]

/-! ### Three stages -/

end Eval

/-- Two runs that end in the same session, with the same trace but for the pipes that were
started, and with the same outcome but for the pipes outside of which it is seen. -/
structure Finished.AgreesWith (first second : Finished Flow) : Prop where
  outcome : ∃ (inside : Outcome Flow) (count other : Nat),
    first.outcome = inside.outsidePipes count ∧ second.outcome = inside.outsidePipes other
  session : first.session = second.session
  trace : first.trace.besidesPipes = second.trace.besidesPipes
  output : ∀ fd, Trace.output fd first.trace = Trace.output fd second.trace
  display : ∀ fd, Trace.display fd first.trace = Trace.display fd second.trace

/-- What was written and shown is in the trace besides the pipes. -/
theorem Finished.agreesWith_of_trace {first second : Finished Flow} (inside : Outcome Flow)
    (count other : Nat) (hfirst : first.outcome = inside.outsidePipes count)
    (hsecond : second.outcome = inside.outsidePipes other)
    (hsession : first.session = second.session)
    (htrace : first.trace.besidesPipes = second.trace.besidesPipes) : first.AgreesWith second where
  outcome := ⟨inside, count, other, hfirst, hsecond⟩
  session := hsession
  trace := htrace
  output := fun fd => by
    rw [← Trace.output_besidesPipes, htrace, Trace.output_besidesPipes]
  display := fun fd => by
    rw [← Trace.display_besidesPipes, htrace, Trace.display_besidesPipes]

namespace Eval

open Builtin (pipeText pipeOf)

/-- The runs of three stages, nested to the left and nested to the right. -/
inductive RunsChain (launcher : Process.Launcher) (ctx : Context) (a b c : Text) (s : Session) :
    Finished Flow → Finished Flow → Prop where
  /-- The first stage fails or ends the shell. -/
  | first {x : Finished Flow} : Yields launcher ctx.captured a s x → x.outcome ≠ .done .proceed →
      RunsChain launcher ctx a b c s (.stopped (pipeOf a b) c (.stopped a b x))
        (.stopped a (pipeOf b c) x)
  /-- The second stage does. -/
  | second {x y : Finished Flow} : Yields launcher ctx.captured a s x → x.outcome = .done .proceed →
      Yields launcher ctx.captured.fed b x.handsOver y → y.outcome ≠ .done .proceed →
      RunsChain launcher ctx a b c s (.stopped (pipeOf a b) c (.joined a b x y))
        (.joined a (pipeOf b c) x (.stopped b c y))
  /-- All stages run. -/
  | third {x y z : Finished Flow} :
      Yields launcher ctx.captured a s x → x.outcome = .done .proceed →
      Yields launcher ctx.captured.fed b x.handsOver y → y.outcome = .done .proceed →
      Yields launcher ctx.fed c y.handsOver z →
      RunsChain launcher ctx a b c s (.joined (pipeOf a b) c (.joined a b x y) z)
        (.joined a (pipeOf b c) x (.joined b c y z))

/-- The second stage of a chain hands the same to the third, whatever it is nested in. -/
theorem handsOver_joined (a b : Text) (x y : Finished Flow) :
    (Finished.joined a b x y).handsOver = y.handsOver := by
  have hbytes : Trace.output 1 (Finished.joined a b x y).trace = Trace.output 1 y.trace := by
    simp only [Finished.joined]
    rw [Trace.output_cons, Trace.output_append, Trace.output_without_self]
    rfl
  rw [Finished.handsOver, hbytes]
  exact Session.setChannel_setChannel ..

variable {launcher : Process.Launcher} {ctx : Context} {s : Session} {a b c : Text}
  {run : Finished Flow}

/-- **The two nestings of a chain agree.** -/
theorem RunsChain.agreesWith {first second : Finished Flow}
    (h : RunsChain launcher ctx a b c s first second) : first.AgreesWith second := by
  cases h with
  | @first x hx hx' =>
      refine Finished.agreesWith_of_trace x.outcome 2 1 rfl rfl rfl ?_
      simp only [Finished.stopped, Trace.besidesPipes_started, Trace.without_started,
        Trace.without_without]
  | @second x y hx hx' hy hy' =>
      refine Finished.agreesWith_of_trace y.outcome 2 2 rfl rfl rfl ?_
      simp only [Finished.stopped, Finished.joined, Trace.besidesPipes_started,
        Trace.besidesPipes_append, Trace.without_started, Trace.without_append,
        Trace.without_without]
  | @third x y z hx hx' hy hy' hz =>
      refine Finished.agreesWith_of_trace z.outcome 1 2 rfl rfl ?_ ?_
      · exact (Session.setChannel_setChannel z.session _ _ _).symm
      · simp only [Finished.joined, Trace.besidesPipes_started, Trace.besidesPipes_append,
          Trace.without_started, Trace.without_append, Trace.without_without, List.append_assoc]

theorem isPipe_pipeOf (ha : Token.IsBody a) (hdash : a.head? ≠ some '-') (hb : Token.IsBody b) :
    IsPipe (pipeOf a b) a (.raw b) where
  parse := Token.parse_pipeText ha hb
  plain := ⟨nofun, nofun⟩
  dash := hdash

theorem yields_nested_left (ha : Token.IsBody a) (hdash : a.head? ≠ some '-')
    (hb : Token.IsBody b) (hc : Token.IsBody c) (hstart : CanStart ctx "l-pipe" s) :
    Yields launcher ctx (pipeOf (pipeOf a b) c) s run ↔
      ∃ other, RunsChain launcher ctx a b c s run other := by
  have hab : Token.IsBody (pipeOf a b) := Token.isBody_pipeOf ha hb
  have hinner : ∀ {x}, Yields launcher ctx.captured (pipeOf a b) s x ↔
      RunsPipe launcher ctx.captured a b s x :=
    yields_pipe_iff (isPipe_pipeOf ha hdash hb) hstart.captured
  rw [yields_pipe_iff (isPipe_pipeOf hab nofun hc) hstart]
  constructor
  · rintro (⟨hleft, hstops⟩ | ⟨hleft, hproceeds, hright⟩)
    · rcases hinner.mp hleft with ⟨hx, hx'⟩ | ⟨hx, hx', hy⟩
      · exact ⟨_, .first hx hx'⟩
      · exact ⟨_, .second hx hx' hy fun hy' =>
          hstops (Outcome.inBuiltin_eq_done_iff.mpr hy')⟩
    · rcases hinner.mp hleft with ⟨hx, hx'⟩ | ⟨hx, hx', hy⟩
      · exact absurd (Outcome.inBuiltin_eq_done_iff.mp hproceeds) hx'
      · rw [handsOver_joined] at hright
        exact ⟨_, .third hx hx' hy (Outcome.inBuiltin_eq_done_iff.mp hproceeds) hright⟩
  · rintro ⟨other, ⟨hx, hx'⟩ | ⟨hx, hx', hy, hy'⟩ | ⟨hx, hx', hy, hy', hz⟩⟩
    · exact .stopped (hinner.mpr (.stopped hx hx')) fun hstops =>
        hx' (Outcome.inBuiltin_eq_done_iff.mp hstops)
    · exact .stopped (hinner.mpr (.joined hx hx' hy)) fun hstops =>
        hy' (Outcome.inBuiltin_eq_done_iff.mp hstops)
    · refine .joined (hinner.mpr (.joined hx hx' hy)) (Outcome.inBuiltin_eq_done_iff.mpr hy') ?_
      rwa [handsOver_joined]

theorem yields_nested_right (ha : Token.IsBody a) (hdash : a.head? ≠ some '-')
    (hb : Token.IsBody b) (hbdash : b.head? ≠ some '-') (hc : Token.IsBody c)
    (hstart : CanStart ctx "l-pipe" s)
    (hnext : ∀ x, Yields launcher ctx.captured a s x → x.outcome = .done .proceed →
      CanStart ctx "l-pipe" x.session) :
    Yields launcher ctx (pipeOf a (pipeOf b c)) s run ↔
      ∃ other, RunsChain launcher ctx a b c s other run := by
  have hbc : Token.IsBody (pipeOf b c) := Token.isBody_pipeOf hb hc
  have hinner : ∀ {x y}, Yields launcher ctx.captured a s x → x.outcome = .done .proceed →
      (Yields launcher ctx.fed (pipeOf b c) x.handsOver y ↔
        RunsPipe launcher ctx.fed b c x.handsOver y) :=
    fun hx hx' => yields_pipe_iff (isPipe_pipeOf hb hbdash hc) (hnext _ hx hx').fed
  rw [yields_pipe_iff (isPipe_pipeOf ha hdash hbc) hstart]
  constructor
  · rintro (⟨hx, hx'⟩ | ⟨hx, hx', hright⟩)
    · exact ⟨_, .first hx hx'⟩
    · rcases (hinner hx hx').mp hright with ⟨hy, hy'⟩ | ⟨hy, hy', hz⟩
      · exact ⟨_, .second hx hx' hy hy'⟩
      · exact ⟨_, .third hx hx' hy hy' hz⟩
  · rintro ⟨other, ⟨hx, hx'⟩ | ⟨hx, hx', hy, hy'⟩ | ⟨hx, hx', hy, hy', hz⟩⟩
    · exact .stopped hx hx'
    · exact .joined hx hx' ((hinner hx hx').mpr (.stopped hy hy'))
    · exact .joined hx hx' ((hinner hx hx').mpr (.joined hy hy' hz))

/-! ### A copy as the right side -/

theorem ofName?_cat : Builtin.ofName? "l-cat" = some .cat := Builtin.ofName?_name .cat

/-- All that is in a pipe can be read. -/
theorem read_pipe {number : Nat} {bytes : Bytes} (h : s.world.channels number = .pipe bytes) :
    Action.read (.channel number) s = ⟨.done bytes, s.setChannel number (.pipe []), []⟩ := by
  have hread : s.world.volume.readAll (s.world.channels number) = .ok (bytes, .pipe []) := by
    rw [h]
    rfl
  have htry : Action.tryRead (.channel number) s =
      ⟨.done (.ok bytes), s.setChannel number (.pipe []), []⟩ := by
    rw [Action.tryRead, Action.bind_of_done rfl]
    simp only [hread]
    rfl
  have hdone : (Action.tryRead (.channel number) s).outcome = .done (.ok bytes) := by rw [htry]
  rw [Action.read, Action.bind_of_done hdone, htry]
  rfl

theorem parse_cat : Token.parse "l-cat" = .ok [.word "l-cat"] := by decide

/-- A copy writes what it can read. -/
theorem text_cat (launcher : Process.Launcher) {bytes : Bytes} (hstart : CanStart ctx.fed "l-cat" s)
    (hinput : s.world.channels 0 = .pipe bytes) (hstdout : ctx.stdout = .outlet 1) (depth : Nat) :
    text (tokens (dispatch launcher) (depth + 1)) ctx.fed "l-cat" s =
      ⟨.done .proceed, s.setChannel 0 (.pipe []), [.started "l-cat" [], .wrote 1 bytes]⟩ := by
  have hplain : ∀ token ∈ [Token.word "l-cat"],
      token.kind ≠ .split ∧ token.kind ≠ .substitution := by decide
  have hvalues : [Token.word "l-cat"].map (·.value) = [("l-cat" : Text)] := rfl
  have hrun : Builtin.runCat ctx.fed "l-cat" [] = (do
      let bytes ← Action.read (.channel 0)
      Action.write ctx.stdout bytes
      return .proceed) := rfl
  have hread : Action.read (.channel 0) s = ⟨.done bytes, s.setChannel 0 (.pipe []), []⟩ :=
    read_pipe hinput
  have hdone : (Action.read (.channel 0) s).outcome = .done bytes := by rw [hread]
  have hcopy : Builtin.run (text (tokens (dispatch launcher) depth)) ctx.fed "l-cat" [] .cat s =
      ⟨.done .proceed, s.setChannel 0 (.pipe []), [.wrote 1 bytes]⟩ := by
    show Builtin.runCat ctx.fed "l-cat" [] s = _
    rw [hrun, Action.bind_of_done hdone, hread, hstdout]
    rfl
  rw [text_of_plain parse_cat hplain hvalues (by decide) hstart, dispatch_of_builtin ofName?_cat,
    hcopy]
  rfl

/-- A pipe of an expression into a copy. -/
def copiedText (a : Text) : Text := pipeText (.raw a) (.word "l-cat")

theorem isPipe_copiedText (ha : Token.IsBody a) (hdash : a.head? ≠ some '-') :
    IsPipe (copiedText a) a (.word "l-cat") where
  parse := Token.parse_pipeText ha (by decide)
  plain := ⟨nofun, nofun⟩
  dash := hdash

/-- The run of an expression that proceeds, as the left side of a pipe into a copy. -/
def copied (a : Text) (x : Finished Flow) : Finished Flow where
  outcome := .done .proceed
  session := x.session
  trace := .started "l-pipe" [a, "l-cat"] ::
    (Trace.without 1 x.trace ++ [.started "l-cat" [], .wrote 1 (Trace.output 1 x.trace)])

/-- **A pipe into a copy**, where descriptor 1 is captured already. -/
theorem yields_copied (ha : Token.IsBody a) (hdash : a.head? ≠ some '-')
    (hstart : CanStart ctx "l-pipe" s) (hstdout : ctx.stdout = .outlet 1) {x : Finished Flow}
    (hx : Yields launcher ctx a s x) (hproceeds : x.outcome = .done .proceed)
    (hnext : CanStart ctx "l-cat" x.session) :
    Yields launcher ctx (copiedText a) s (copied a x) := by
  have hcopy := text_cat launcher hnext.fed rfl hstdout 0
  have hright : Yields launcher ctx.fed "l-cat" x.handsOver _ := ⟨by rw [hcopy]; nofun, 1, rfl⟩
  have hleft : Yields launcher ctx.captured a s x := by rwa [Context.captured_of_outlet hstdout]
  have hrun := (yields_pipe_iff (isPipe_copiedText ha hdash) hstart).mpr
    (.joined hleft hproceeds hright)
  have hsession : (x.handsOver.setChannel 0 (.pipe [])).setChannel 0 (x.session.world.channels 0) =
      x.session := by
    rw [Finished.handsOver, Session.setChannel_setChannel, Session.setChannel_setChannel,
      Session.setChannel_self]
  rw [hcopy] at hrun
  simp only [Finished.joined, hsession] at hrun
  exact hrun

theorem output_copied (fd : Nat) (x : Finished Flow) :
    Trace.output fd (copied a x).trace = Trace.output fd x.trace := by
  simp only [copied]
  rw [Trace.output_cons, Trace.output_append]
  by_cases hfd : fd = 1
  · subst hfd
    rw [Trace.output_without_self]
    simp [Trace.output, Trace.bytesOn]
  · rw [Trace.output_without hfd]
    simp [Trace.output, Trace.bytesOn, Ne.symm hfd]

theorem display_copied (fd : Nat) (x : Finished Flow) :
    Trace.display fd (copied a x).trace = Trace.display fd x.trace := by
  rw [← Trace.display_without fd 1 x.trace]
  show Trace.display fd ([.started "l-pipe" [a, "l-cat"]] ++ (Trace.without 1 x.trace ++ _)) = _
  rw [Trace.display_append, Trace.display_append]
  exact List.append_nil _

end Eval

/-! ### A copy into a sink -/

/-- Two runs with the same outcome, the same effects on the scope, the files and what is around
them, and the same output. -/
structure Finished.SameEffects (first second : Finished Flow) : Prop where
  outcome : first.outcome = second.outcome
  scope : first.session.scope = second.session.scope
  surroundings : first.session.world.surroundings = second.session.world.surroundings
  channels : first.session.world.channels = second.session.world.channels
  files : ∀ path, first.session.world.volume.get? path = second.session.world.volume.get? path
  output : ∀ fd, Trace.output fd first.trace = Trace.output fd second.trace
  display : ∀ fd, Trace.display fd first.trace = Trace.display fd second.trace

namespace Sink

variable {sink : Sink}

/-- Only what the shell shows on descriptor 1 itself depends on what is delivered. -/
theorem display_deliver {fd : Nat} (h : sink ≠ .shell ∨ fd ≠ 1) {trace : Trace}
    (hforeign : ∀ event ∈ trace, sink.isForeign event = false) :
    Trace.display fd (sink.deliver trace) = Trace.display fd trace := by
  rw [← Trace.display_without fd 1 trace, ← withheld_deliver hforeign]
  refine (Trace.flatMap_filter (fun event hgets => ?_) _).symm
  cases sink with
  | outlet =>
      cases event with
      | wrote written bytes => rfl
      | _ => cases hgets
  | shell =>
      cases event with
      | shown written bytes =>
          have hwritten : written = 1 := by simpa [gets] using hgets
          have hfd : fd ≠ 1 := h.resolve_left (not_not.mpr rfl)
          simp [hwritten, Ne.symm hfd]
      | _ => cases hgets
  | file path => cases hgets

/-- Where nobody captures descriptor 1, nothing is left on it. -/
theorem output_deliver_one (h : sink ≠ .outlet) {trace : Trace}
    (hforeign : ∀ event ∈ trace, sink.isForeign event = false) :
    Trace.output 1 (sink.deliver trace) = [] := by
  rw [← Trace.output_without_self 1 trace, ← withheld_deliver hforeign]
  refine (Trace.flatMap_filter (fun event hgets => ?_) _).symm
  cases sink with
  | outlet => exact absurd rfl h
  | shell =>
      cases event with
      | shown written bytes => rfl
      | _ => cases hgets
  | file path => cases hgets

variable {origin : World} {live : Bool} {bytes : Bytes}

/-- Two worlds that differ from a third only in the sink, which holds the same in both. -/
theorem Apart.files {first second other : World}
    (hfirst : sink.Apart origin live bytes first other)
    (hsecond : sink.Apart origin live bytes second other) (path : Path) :
    first.volume.get? path = second.volume.get? path := by
  by_cases hpath : sink.path? = some path
  · rw [hfirst.holds path hpath, hsecond.holds path hpath]
  · rw [Volume.get?_congr hfirst.volume (Ne.symm hpath),
      Volume.get?_congr hsecond.volume (Ne.symm hpath)]

theorem Apart.channels_eq {first second other : World}
    (hfirst : sink.Apart origin sink.path?.isNone bytes first other)
    (hsecond : sink.Apart origin sink.path?.isNone bytes second other) :
    first.channels = second.channels := by
  funext n
  by_cases hn : n ≠ 1 ∨ sink.path?.isNone = true
  · rw [hfirst.channels n hn, hsecond.channels n hn]
  · obtain ⟨hone, hlive⟩ := not_or.mp hn
    rw [not_not] at hone
    rw [Bool.not_eq_true] at hlive
    subst hone
    obtain ⟨path, hpath⟩ := Option.isSome_iff_exists.mp (Option.isNone_eq_false_iff.mp hlive)
    rw [hfirst.place path hpath hlive, hsecond.place path hpath hlive]

/-- Two runs that follow others from the same session on. If the others end in the same session
with the same output, then the two have the same effects. -/
theorem Follows.sameEffects {first second x y : Finished Flow}
    (hfirst : Follows sink origin .compared sink.path?.isNone bytes first x)
    (hsecond : Follows sink origin .compared sink.path?.isNone bytes second y)
    (houtcome : x.outcome = y.outcome) (hsession : x.session = y.session)
    (houtput : ∀ fd, Trace.output fd x.trace = Trace.output fd y.trace)
    (hdisplay : ∀ fd, Trace.display fd x.trace = Trace.display fd y.trace) :
    first.SameEffects second := by
  have hx : ∀ event ∈ x.trace, sink.isForeign event = false := fun event hevent =>
    Binding.compared.isForeign_of_allows sink (hfirst.allowed event hevent)
  have hy : ∀ event ∈ y.trace, sink.isForeign event = false := fun event hevent =>
    Binding.compared.isForeign_of_allows sink (hsecond.allowed event hevent)
  have hworld : sink.Apart origin sink.path?.isNone (bytes ++ Trace.output 1 y.trace)
      first.session.world y.session.world := by
    rw [← houtput 1, ← hsession]
    exact hfirst.session.world
  have hworld' : sink.Apart origin sink.path?.isNone (bytes ++ Trace.output 1 y.trace)
      second.session.world y.session.world := hsecond.session.world
  have htrace : first.trace = sink.deliver x.trace := hfirst.trace
  have htrace' : second.trace = sink.deliver y.trace := hsecond.trace
  exact
    { outcome := by rw [hfirst.outcome, houtcome, hsecond.outcome]
      scope := by rw [hfirst.session.scope, hsession, hsecond.session.scope]
      surroundings := hworld.surroundings.trans hworld'.surroundings.symm
      channels := hworld.channels_eq hworld'
      files := hworld.files hworld'
      output := by
        intro fd
        rw [htrace, htrace']
        by_cases hfd : fd = 1
        · subst hfd
          by_cases hsink : sink = .outlet
          · subst hsink
            rw [output_deliver_outlet, output_deliver_outlet, houtput 1]
          · rw [output_deliver_one hsink hx, output_deliver_one hsink hy]
        · rw [sink.output_deliver hfd, sink.output_deliver hfd, houtput fd]
      display := by
        intro fd
        rw [htrace, htrace']
        by_cases hshown : sink ≠ .shell ∨ fd ≠ 1
        · rw [display_deliver hshown hx, display_deliver hshown hy, hdisplay fd]
        · obtain ⟨rfl, rfl⟩ : sink = .shell ∧ fd = 1 := by simpa using hshown
          rw [display_deliver_shell hx, display_deliver_shell hy, houtput 1] }

/-- An expression that does not touch the sink when it is captured, however deep. -/
def SparedBy (sink : Sink) (launcher : Process.Launcher) (ctx : Context) (expr : Text)
    (s : Session) : Prop :=
  ∀ depth, sink.Spared launcher depth ctx expr s

open Eval

variable {launcher : Process.Launcher} {ctx : Context} {s : Session} {a : Text}

/-- A copy looks for nothing. -/
theorem sought_notMem_cat (hstart : CanStart ctx.captured.fed "l-cat" s) {input : Bytes}
    (hinput : s.world.channels 0 = .pipe input) (depth : Nat) (directory : Path) (written : Text) :
    .sought directory written ∉
      (text (tokens (dispatch launcher) depth) ctx.captured.fed "l-cat" s).trace := by
  cases depth with
  | zero =>
      rw [text_zero parse_cat]
      exact List.not_mem_nil
  | succ depth =>
      rw [text_cat launcher hstart hinput rfl depth]
      simp

/-- A copy starts no program. -/
theorem text_cat_congr (hstart : CanStart ctx.captured.fed "l-cat" s) {input : Bytes}
    (hinput : s.world.channels 0 = .pipe input) (depth : Nat) (other : Process.Launcher) :
    text (tokens (dispatch other) depth) ctx.captured.fed "l-cat" s =
      text (tokens (dispatch launcher) depth) ctx.captured.fed "l-cat" s := by
  cases depth with
  | zero => rw [text_zero parse_cat, text_zero parse_cat]
  | succ depth => rw [text_cat other hstart hinput rfl, text_cat launcher hstart hinput rfl]

/-- **A pipe into a copy touches no sink that its left side does not touch.** -/
theorem sparedBy_copiedText (ha : Token.IsBody a) (hdash : a.head? ≠ some '-')
    (hstart : CanStart ctx "l-pipe" s) (hspared : sink.SparedBy launcher ctx a s)
    (hnext : ∀ x, Yields launcher ctx.captured a s x → x.outcome = .done .proceed →
      CanStart ctx "l-cat" x.session) :
    sink.SparedBy launcher ctx (copiedText a) s := by
  have hpipe := isPipe_copiedText ha hdash
  intro depth
  cases depth with
  | zero => exact spared_zero hpipe.parse
  | succ depth =>
      obtain ⟨x, hx⟩ : ∃ x, text (tokens (dispatch launcher) depth) ctx.captured a s = x :=
        ⟨_, rfl⟩
      have hrun := text_pipe hpipe hstart.captured depth hx
      have hcat : x.outcome = .done .proceed → CanStart ctx.captured.fed "l-cat" x.handsOver :=
        fun hproceeds => (hnext x ⟨by simp [hproceeds], depth, hx⟩ hproceeds).captured.fed
      constructor
      · intro directory written hmem
        rw [show text (tokens (dispatch launcher) (depth + 1)) { ctx with stdout := .outlet 1 }
          (copiedText a) s = _ from hrun] at hmem
        rcases Finished.mem_piped hmem with hmem | hmem | ⟨hproceeds, hmem⟩
        · cases hmem
        · rw [← hx] at hmem
          exact (hspared depth).misses directory written hmem
        · exact absurd hmem (sought_notMem_cat (hcat hproceeds) rfl depth directory written)
      · intro other hother
        have hx' : text (tokens (dispatch other) depth) ctx.captured a s = x :=
          ((hspared depth).starts other hother).trans hx
        refine (text_pipe hpipe hstart.captured depth hx').trans (Eq.trans ?_ hrun.symm)
        by_cases hproceeds : x.outcome = .done .proceed
        · exact congrArg (Finished.piped a "l-cat" x)
            (text_cat_congr (hcat hproceeds) rfl depth other)
        · rw [Finished.piped_of_stop hproceeds, Finished.piped_of_stop hproceeds]

/-- **A pipe into a copy**, where descriptor 1 is bound to a sink that the left side does not
touch. -/
theorem sameEffects_copied (ha : Token.IsBody a) (hdash : a.head? ≠ some '-')
    (hstart : CanStart ctx "l-pipe" s) (hbound : sink.IsBound ctx)
    (hdiffer : sink.Differ s.world bytes s s) (hspared : sink.SparedBy launcher ctx a s)
    (hnext : ∀ x, Yields launcher ctx.captured a s x → x.outcome = .done .proceed →
      CanStart ctx "l-cat" x.session)
    {direct : Finished Flow} (hdirect : Yields launcher ctx a s direct)
    (hproceeds : direct.outcome = .done .proceed) :
    ∃ run, Yields launcher ctx (copiedText a) s run ∧ run.SameEffects direct := by
  obtain ⟨-, depth, rfl⟩ := hdirect
  obtain ⟨x, hx⟩ : ∃ x, text (tokens (dispatch launcher) depth) ctx.captured a s = x := ⟨_, rfl⟩
  have hfollows := follows_captured depth hbound hdiffer hx (hspared depth)
  have hproceeds' : x.outcome = .done .proceed := hfollows.outcome.symm.trans hproceeds
  have hyields : Yields launcher ctx.captured a s x := ⟨by simp [hproceeds'], depth, hx⟩
  obtain ⟨-, depth', hdepth'⟩ : Yields launcher ctx.captured (copiedText a) s (copied a x) :=
    yields_copied ha hdash hstart.captured rfl hyields hproceeds'
      (hnext x hyields hproceeds').captured
  have hpipe := follows_captured depth' hbound hdiffer hdepth'
    (sparedBy_copiedText ha hdash hstart hspared hnext depth')
  refine ⟨_, ⟨?_, depth', rfl⟩, hpipe.sameEffects hfollows hproceeds'.symm rfl
    (fun fd => output_copied fd x) (fun fd => display_copied fd x)⟩
  rw [hpipe.outcome]
  nofun

end Sink

/-! ### Laws of pipes -/

namespace Eval

open Builtin (pipeOf)

end Eval

end Conch
