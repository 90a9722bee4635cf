import Conch.Proofs.Absorption
import Conch.Proofs.Assembly
import Conch.Proofs.Tables
import Conch.Scope.CallStack

/-!
Returned values reach the caller in the order in which they were returned. A call returns values
into the table of its own frame, and only when it ends are they merged into the table of its
caller. The caller may have returned values under the same keys itself, before the call or after
it, and so may have the calls that the call made.

* `CallStack.follow_wellBracketed`: calls that are entered and left in pairs leave the stack as if
  all values had been returned in the outermost frame, one after another.
* `Assembled.returns_eq`: the table of a frame after an evaluation holds what the trace shows to
  have been returned, however deep in calls that was and however the evaluation ended.
-/

namespace Conch

variable {α : Type}

/-! ### Tables that are written in order -/

namespace Table

/-- Gives names values, one after another. -/
def insertAll (table : Table α) (entries : List (Text × α)) : Table α :=
  entries.foldl (fun written entry => written.insert entry.1 entry.2) table

theorem insertAll_append (table : Table α) (first second : List (Text × α)) :
    table.insertAll (first ++ second) = (table.insertAll first).insertAll second :=
  List.foldl_append

/-- The last value that a name was given is the one that stays. -/
theorem get?_insertAll (table : Table α) (entries : List (Text × α)) (name : Text) :
    (table.insertAll entries).get? name = (entries.reverse.lookup name).or (table.get? name) := by
  induction entries generalizing table with
  | nil => rfl
  | cons entry rest ih =>
      obtain ⟨key, value⟩ := entry
      have hcons : table.insertAll ((key, value) :: rest) =
          (table.insert key value).insertAll rest := rfl
      rw [hcons, ih, get?_insert, List.reverse_cons, List.lookup_append, lookup_entry]
      split_ifs <;> simp

/-- To write into a fresh table and merge that is to write in place. -/
theorem merge_insertAll (table : Table α) (entries : List (Text × α)) :
    table.merge (empty.insertAll entries) = table.insertAll entries := by
  refine ext_get? fun name => ?_
  rw [get?_merge, get?_insertAll, get?_insertAll]
  have hempty : (empty : Table α).get? name = none := rfl
  rw [hempty, Option.or_none]

end Table

/-- Returns values from the current call, one after another. -/
def Scope.setReturns (scope : Scope) (entries : List (Text × Text)) : Scope :=
  { scope with frame := { scope.frame with returns := scope.frame.returns.insertAll entries } }

theorem Scope.setReturns_append (scope : Scope) (first second : List (Text × Text)) :
    scope.setReturns (first ++ second) = (scope.setReturns first).setReturns second := by
  simp only [setReturns, Table.insertAll_append]

/-! ### Calls on a stack -/

/-- A step of a run in which calls return values. -/
inductive ReturnStep where
  /-- A call is entered. -/
  | enter (args : List Text)
  /-- The innermost call returns a value. -/
  | write (key value : Text)
  /-- The innermost call ends. -/
  | leave
  deriving DecidableEq, Repr

namespace ReturnStep

/-- What a step returns. -/
def written? : ReturnStep → Option (Text × Text)
  | .write key value => some (key, value)
  | _ => none

/-- Runs in which every call that is entered is left, and no other. -/
inductive WellBracketed : List ReturnStep → Prop where
  | nil : WellBracketed []
  | write {rest : List ReturnStep} (key value : Text) :
      WellBracketed rest → WellBracketed (.write key value :: rest)
  | call {inner rest : List ReturnStep} (args : List Text) :
      WellBracketed inner → WellBracketed rest →
      WellBracketed (.enter args :: (inner ++ .leave :: rest))

end ReturnStep

namespace CallStack

open ReturnStep

/-- The stack after a step. -/
def take (stack : CallStack) : ReturnStep → CallStack
  | .enter args => stack.enter args
  | .write key value => { stack with scope := stack.scope.setReturn key value }
  | .leave => stack.leave true

/-- The stack after the steps of a run. -/
def follow (stack : CallStack) (steps : List ReturnStep) : CallStack := steps.foldl take stack

/-- A call that returned values and has been left is as if its caller had returned them. -/
theorem leave_setReturns_enter (stack : CallStack) (args : List Text)
    (entries : List (Text × Text)) :
    leave ⟨(stack.enter args).scope.setReturns entries, (stack.enter args).callers⟩ true =
      ⟨stack.scope.setReturns entries, stack.callers⟩ := by
  simp only [leave, enter, Scope.enterCall, Scope.setReturns, Scope.leaveCall, Frame.publish,
    if_true, Table.merge_insertAll]

/-- **Calls in pairs leave all that they returned in the outermost frame**, in order, and nothing
else is changed. -/
theorem follow_wellBracketed {steps : List ReturnStep} (h : WellBracketed steps)
    (stack : CallStack) :
    stack.follow steps = ⟨stack.scope.setReturns (steps.filterMap written?), stack.callers⟩ := by
  induction h generalizing stack with
  | nil => rfl
  | write key value _ ih => exact ih (stack.take (.write key value))
  | @call inner rest args _ _ ihinner ihrest =>
      have hsteps : stack.follow (.enter args :: (inner ++ .leave :: rest)) =
          (((stack.enter args).follow inner).leave true).follow rest := by
        unfold follow
        rw [List.foldl_cons, List.foldl_append, List.foldl_cons]
        rfl
      have hwritten : (ReturnStep.enter args :: (inner ++ .leave :: rest)).filterMap written? =
          inner.filterMap written? ++ rest.filterMap written? := by
        rw [List.filterMap_cons_none rfl, List.filterMap_append, List.filterMap_cons_none rfl]
      rw [hsteps, ihinner, leave_setReturns_enter, ihrest, hwritten, Scope.setReturns_append]

end CallStack

/-! ### Evaluations -/

/-- What the commands of a trace returned, in order. -/
def Trace.returned (trace : Trace) : List (Text × Text) := trace.filterMap Event.returned?

namespace Trace

theorem returned_append (first second : Trace) :
    returned (first ++ second) = returned first ++ returned second :=
  List.filterMap_append

/-- Only commands return values. -/
theorem returned_eq_nil {trace : Trace} (h : ∀ event ∈ trace, event.isStart = false) :
    returned trace = [] := by
  refine List.filterMap_eq_nil_iff.mpr fun event hmem => ?_
  have hevent := h event hmem
  cases event with
  | started name args => cases hevent
  | _ => rfl

theorem returned_without (fd : Nat) (trace : Trace) :
    returned (without fd trace) = returned trace := by
  unfold returned without
  rw [List.filterMap_filter]
  refine List.filterMap_congr fun event _ => ?_
  cases event <;> simp [isOn, Event.returned?]

end Trace

/-- A program does not start commands of the shell. -/
theorem Process.not_isStart_of_showingWrites {a : Action α} {s : Session} {event : Event}
    (h : event ∈ (Process.showingWrites a s).trace) : event.isStart = false := by
  rcases List.mem_append.mp h with hmem | hmem
  · have hwrite := (List.mem_filter.mp hmem).2
    cases event <;> first | rfl | cases hwrite
  · cases houtcome : (a s).outcome with
    | failed error =>
        rw [houtcome] at hmem
        cases List.mem_singleton.mp hmem
        rfl
    | done value => simp [houtcome] at hmem
    | unfinished => simp [houtcome] at hmem

/-- **What an evaluation shows to have been returned is in the table of its frame**, in order. -/
theorem Assembled.returns_eq {launcher : Process.Launcher} {site : Site} {flow : α → Flow}
    {a : Action α} (h : Assembled launcher site flow a) (s : Session) :
    (a s).session.scope.frame.returns =
      s.scope.frame.returns.insertAll (Trace.returned (a s).trace) := by
  induction h generalizing s with
  | modest hmodest =>
      rw [(hmodest s).keeps.returns, Trace.returned_eq_nil (hmodest s).starts]
      rfl
  | unfinished => rfl
  | program _ =>
      rw [Trace.returned_eq_nil fun event => Process.not_isStart_of_showingWrites]
      rfl
  | @command name args body hreturned _ ih =>
      have htrace : Trace.returned (.started name args :: (body s).trace) =
          Trace.returned (body s).trace := List.filterMap_cons_none hreturned
      exact (ih s).trans (congrArg _ htrace.symm)
  | @returned name args key value body hreturned hbody =>
      have hrun : (Action.emit (.started name args) >>= fun _ => body) s =
          ⟨.done .proceed, { s with scope := s.scope.setReturn key value },
            [.started name args]⟩ := by
        rw [Action.bind_of_done rfl]
        simp only [Action.emit, hbody, List.append_nil]
      have htrace : Trace.returned [.started name args] = [(key, value)] :=
        List.filterMap_cons_some hreturned
      rw [hrun, htrace]
      rfl
  | nested _ ih => exact ih s
  | @bind site α β flow flow' a next _ hands _ ih hnext =>
      rcases hands.bind_cases a s with ⟨hsession, htrace, -⟩ | ⟨value, hflow, hdone⟩
      · rw [hsession, htrace]
        exact ih s
      · rw [Action.bind_of_done hdone, Trace.returned_append, Table.insertAll_append, ← ih s]
        exact hnext value hflow (a s).session
  | inBuiltin _ _ ih =>
      rw [Action.session_mapError, Action.trace_mapError]
      exact ih s
  | inSubstitution _ ih =>
      rw [Action.session_mapError, Action.trace_mapError, Action.session_capture,
        Action.trace_capture, Trace.returned_without]
      exact ih s
  | capture fd _ ih =>
      rw [Action.session_capture, Action.trace_capture, Trace.returned_without]
      exact ih s
  | withChannel number channel _ ih => exact ih _
  | @call site α flow a args _ ih =>
      -- The frame of the call was fresh, so what it holds is what was returned in it.
      have hcallee := ih { s with scope := s.scope.enterCall args }
      calc (Action.call args a s).session.scope.frame.returns
          = s.scope.frame.returns.merge
              (a { s with scope := s.scope.enterCall args }).session.scope.frame.returns := rfl
        _ = s.scope.frame.returns.merge (Table.empty.insertAll
              (Trace.returned (a { s with scope := s.scope.enterCall args }).trace)) := by
            rw [hcallee]
            rfl
        _ = s.scope.frame.returns.insertAll
              (Trace.returned (Action.call args a s).trace) := Table.merge_insertAll _ _

/-- **Returned values reach the caller in the order in which they were returned.** Calls that are
entered and left in pairs, to any depth, change nothing but the returned values of the outermost
frame; they write all that was returned into it in order, where the last value of a key stays.
An evaluation writes all that its commands returned, however deep in calls and however it ends. -/
theorem returned_in_order :
    (∀ (stack : CallStack) (steps : List ReturnStep), ReturnStep.WellBracketed steps →
      stack.follow steps =
        ⟨stack.scope.setReturns (steps.filterMap ReturnStep.written?), stack.callers⟩ ∧
      ∀ key, (stack.follow steps).scope.frame.returns.get? key =
        ((steps.filterMap ReturnStep.written?).reverse.lookup key).or
          (stack.scope.frame.returns.get? key)) ∧
    (∀ launcher depth ctx list s,
      (Eval.tokens (Eval.dispatch launcher) depth ctx list s).session.scope.frame.returns =
        s.scope.frame.returns.insertAll
          (Trace.returned (Eval.tokens (Eval.dispatch launcher) depth ctx list s).trace)) ∧
    (∀ launcher depth ctx expr s,
      (Eval.text (Eval.tokens (Eval.dispatch launcher) depth) ctx expr
        s).session.scope.frame.returns =
        s.scope.frame.returns.insertAll (Trace.returned
          (Eval.text (Eval.tokens (Eval.dispatch launcher) depth) ctx expr s).trace)) := by
  refine ⟨?_, ?_, ?_⟩
  · intro stack steps hsteps
    have hstack := stack.follow_wellBracketed hsteps
    refine ⟨hstack, fun key => ?_⟩
    rw [hstack]
    exact Table.get?_insertAll _ _ key
  · intro launcher depth ctx list s
    exact (assembled_tokens depth ctx list).returns_eq s
  · intro launcher depth ctx expr s
    exact (assembled_text depth ctx expr).returns_eq s

/-- A call overwrites what its caller returned, and the caller what a call in that call returned. -/
theorem returned_in_order_nested :
    ∃ stack : CallStack,
      CallStack.follow ⟨{ aliasDepth := 0 }, []⟩ [.write "k" "1", .enter [], .write "k" "2",
        .enter ["a"], .write "j" "3", .leave, .leave, .write "j" "4"] = stack ∧
      stack.scope.frame.returns.get? "k" = some ("2" : Text) ∧
      stack.scope.frame.returns.get? "j" = some ("4" : Text) := by
  have hsteps : ReturnStep.WellBracketed [.write "k" "1", .enter [], .write "k" "2", .enter ["a"],
      .write "j" "3", .leave, .leave, .write "j" "4"] :=
    .write _ _ (.call [] (.write _ _ (.call ["a"] (.write _ _ .nil) .nil)) (.write _ _ .nil))
  have hkeys := (returned_in_order.1 ⟨{ aliasDepth := 0 }, []⟩ _ hsteps).2
  exact ⟨_, rfl, (hkeys "k").trans (by decide), (hkeys "j").trans (by decide)⟩

end Conch
