import Mathlib.Data.Char
import Mathlib.Data.Finset.Sort
import Mathlib.Data.List.Lex
import Conch.Proofs.Exclusivity
import Conch.Proofs.FiniteMaps

/-!
One map for each level. A level keeps its variables in two tables, an immutable and a mutable
one, and each operation on variables looks at the two in turn. All the same a level is a single
finite map from names to variables, each of which is mutable or not.

`Levels` is a stack of calls whose levels are such maps. Its operations say when they are
refused, and what they do otherwise, in terms of one look-up.

* `Variables.Keeps`: the two tables of a level keep a map.
* `Represents.respond`: a stack whose levels keep the maps of another answers every request as
  the other does, and still keeps its maps then.
* `tables_act_as_maps`: so from a fresh stack all answers are those of the maps.
-/

namespace Conch

/-- A variable. -/
structure Variable where
  isMutable : Bool
  value : Text
  deriving DecidableEq, Repr

/-- The value of a variable, if it is of a kind. -/
def Variable.valueOf? (isMutable : Bool) (var : Variable) : Option Text :=
  if var.isMutable = isMutable then some var.value else none

/-! ### A stack of maps -/

/-- The variables of all calls and of the shell, one map for each. -/
structure Levels where
  /-- The variables of the shell. -/
  shell : Table.Map Variable := ∅
  /-- The variables of the innermost call. -/
  frame : Table.Map Variable := ∅
  /-- The variables of the calls that wait for it, the nearest first. -/
  waiting : List (Table.Map Variable) := []

/-- The variables of a kind with their values, in ascending order of the names. -/
def Variable.listing (isMutable : Bool) (map : Table.Map Variable) : List (Text × Text) :=
  map.keys.sort.filterMap fun name =>
    ((map.lookup name).bind (valueOf? isMutable)).map (name, ·)

namespace Levels

/-- The map of a level. -/
def mapAt (levels : Levels) : Level → Table.Map Variable
  | .frame => levels.frame
  | .shell => levels.shell

/-- The stack with another map at a level. -/
def setMap (levels : Levels) (level : Level) (map : Table.Map Variable) : Levels :=
  match level with
  | .frame => { levels with frame := map }
  | .shell => { levels with shell := map }

/-- The value of a variable: that of the innermost call before that of the shell. -/
def lookup? (levels : Levels) (name : Text) : Option Text :=
  ((levels.frame.lookup name).or (levels.shell.lookup name)).map (·.value)

/-- Adds a variable to a level, unless the innermost call or the shell has one of the name. -/
def define (levels : Levels) (level : Level) (name value : Text) (isMutable : Bool) :
    Except VariableError Levels :=
  if name ∈ levels.frame ∨ name ∈ levels.shell then .error (.alreadyExists name)
  else .ok (levels.setMap level ((levels.mapAt level).insert name ⟨isMutable, value⟩))

/-- Replaces the value of a variable of a level, which has to be there and to be mutable. -/
def change (levels : Levels) (level : Level) (name value : Text) : Except VariableError Levels :=
  match (levels.mapAt level).lookup name with
  | none => .error (.notDefined name)
  | some ⟨false, _⟩ => .error (.immutable name)
  | some ⟨true, _⟩ => .ok (levels.setMap level ((levels.mapAt level).insert name ⟨true, value⟩))

/-- Removes a variable from a level. -/
def delete (levels : Levels) (level : Level) (name : Text) : Levels :=
  levels.setMap level ((levels.mapAt level).erase name)

/-- The variables of both levels by kind, with titles. -/
def sections (levels : Levels) : List (Text × List (Text × Text)) :=
  [("local immutable variables", Variable.listing false levels.frame),
    ("local mutable variables", Variable.listing true levels.frame),
    ("global immutable variables", Variable.listing false levels.shell),
    ("global mutable variables", Variable.listing true levels.shell)]

/-- Enters a call, which has no variables yet. -/
def enter (levels : Levels) : Levels := ⟨levels.shell, ∅, levels.frame :: levels.waiting⟩

/-- Leaves the innermost call unless it is the last frame. -/
def leave (levels : Levels) : Levels :=
  match levels.waiting with
  | [] => levels
  | caller :: waiting => ⟨levels.shell, caller, waiting⟩

/-- The number of frames. -/
def height (levels : Levels) : Nat := levels.waiting.length + 1

end Levels

/-! ### Requests and answers -/

/-- What a stack of calls can be asked about its variables. -/
inductive VariableRequest where
  | perform (operation : Operation)
  | lookup (name : Text)
  | isDefined (name : Text)
  | sections

/-- What it answers. -/
inductive VariableAnswer where
  | accepted
  | refused (error : VariableError)
  | height (frames : Nat)
  | value (found : Option Text)
  | truth (holds : Bool)
  | listing (sections : List (Text × List (Text × Text)))
  deriving DecidableEq, Repr

/-- Answers requests one after another. -/
def serve {σ : Type} (respond : σ → VariableRequest → σ × VariableAnswer) :
    σ → List VariableRequest → σ × List VariableAnswer
  | state, [] => (state, [])
  | state, request :: rest =>
    let first := respond state request
    let others := serve respond first.1 rest
    (others.1, first.2 :: others.2)

/-- Goes on in the new state if there is one, and else in the old one. -/
def settle {σ : Type} (state : σ) : Except VariableError σ → σ × VariableAnswer
  | .ok changed => (changed, .accepted)
  | .error error => (state, .refused error)

/-- A stack of maps answers a request. -/
def Levels.respond (levels : Levels) : VariableRequest → Levels × VariableAnswer
  | .perform (.define level name value isMutable) =>
    settle levels (levels.define level name value isMutable)
  | .perform (.change level name value) => settle levels (levels.change level name value)
  | .perform (.delete level name) => (levels.delete level name, .accepted)
  | .perform (.enter _) => (levels.enter, .height levels.enter.height)
  | .perform (.leave _) => (levels.leave, .height levels.leave.height)
  | .lookup name => (levels, .value (levels.lookup? name))
  | .isDefined name => (levels, .truth (levels.lookup? name).isSome)
  | .sections => (levels, .listing levels.sections)

/-- The answer to an operation: whether it was accepted, and how many frames there are behind
a call that was entered or left. -/
def CallStack.verdict (stack : CallStack) : Operation → VariableAnswer
  | .define level name value isMutable =>
    (settle stack.scope (stack.scope.define level name value isMutable)).2
  | .change level name value => (settle stack.scope (stack.scope.change level name value)).2
  | .delete .. => .accepted
  | .enter args => .height (stack.enter args).height
  | .leave publish => .height (stack.leave publish).height

/-- A stack of calls answers a request. -/
def CallStack.respond (stack : CallStack) : VariableRequest → CallStack × VariableAnswer
  | .perform operation => (stack.perform operation, stack.verdict operation)
  | .lookup name => (stack, .value (stack.scope.lookup? name))
  | .isDefined name => (stack, .truth (stack.scope.isDefined name))
  | .sections => (stack, .listing stack.scope.sections)

/-! ### Two tables for one map -/

theorem Variable.valueOf?_of_ne {isMutable other : Bool} (h : isMutable ≠ other) (value : Text) :
    Variable.valueOf? other ⟨isMutable, value⟩ = none := if_neg h

namespace Variables

/-- The table of a kind of variables. -/
def tableOf (vars : Variables) : Bool → Table Text
  | false => vars.immutable
  | true => vars.mutable

theorem tableOf_define (vars : Variables) (name value : Text) (isMutable kind : Bool) :
    (vars.define name value isMutable).tableOf kind =
      if isMutable = kind then (vars.tableOf kind).insert name value else vars.tableOf kind := by
  cases isMutable <;> cases kind <;> rfl

theorem tableOf_delete (vars : Variables) (name : Text) (kind : Bool) :
    (vars.delete name).tableOf kind = (vars.tableOf kind).erase name := by
  cases kind <;> rfl

/-- The tables of a level keep a map: each of them has the variables of its kind. -/
def Keeps (vars : Variables) (map : Table.Map Variable) : Prop :=
  ∀ kind name, (vars.tableOf kind).get? name = (map.lookup name).bind (Variable.valueOf? kind)

namespace Keeps

variable {vars : Variables} {map : Table.Map Variable}

theorem empty : Keeps {} ∅ := by
  intro kind name
  cases kind <;> rfl

theorem get? (h : vars.Keeps map) (name : Text) :
    vars.get? name = (map.lookup name).map (·.value) := by
  have hlookups : vars.get? name =
      ((vars.tableOf false).get? name).or ((vars.tableOf true).get? name) := rfl
  rw [hlookups, h, h]
  rcases map.lookup name with _ | ⟨_ | _, value⟩ <;> rfl

/-- A variable is of one kind only. -/
theorem isDisjoint (h : vars.Keeps map) : vars.IsDisjoint := by
  intro name
  show ((vars.tableOf false).get? name).isSome = true →
    ((vars.tableOf true).get? name).isSome = false
  rw [h, h]
  rcases map.lookup name with _ | ⟨_ | _, value⟩ <;> simp [Variable.valueOf?]

/-- The names of a table come in the order in which those of the map are sorted. -/
theorem entries_tableOf (h : vars.Keeps map) (kind : Bool) :
    (vars.tableOf kind).entries = Variable.listing kind map := by
  have hsorted : map.keys.sort.Pairwise (· < ·) := by
    have hle : map.keys.sort.Pairwise (· ≤ ·) := Finset.pairwise_sort ..
    exact hle.imp₂ (fun _ _ hle hne => Std.lt_of_le_of_ne hle hne) (Finset.sort_nodup ..)
  have hascending : (Variable.listing kind map).Pairwise fun a b => a.1 < b.1 := by
    refine List.pairwise_filterMap.mpr (hsorted.imp ?_)
    rintro first second hless _ hfirst _ hsecond
    obtain ⟨-, -, rfl⟩ := Option.map_eq_some_iff.mp hfirst
    obtain ⟨-, -, rfl⟩ := Option.map_eq_some_iff.mp hsecond
    exact hless
  have htable : vars.tableOf kind = ⟨Variable.listing kind map, hascending⟩ := by
    refine Table.ext_get? fun name => Option.ext fun value => ?_
    rw [h, Table.get?_eq_some_iff]
    simp only [Variable.listing, List.mem_filterMap, Finset.mem_sort, Finmap.mem_keys,
      Option.map_eq_some_iff, Prod.mk.injEq]
    constructor
    · intro hvalue
      obtain ⟨var, hvar, -⟩ := Option.bind_eq_some_iff.mp hvalue
      exact ⟨name, Finmap.mem_of_lookup_eq_some hvar, value, hvalue, rfl, rfl⟩
    · rintro ⟨_, -, _, hvalue, rfl, rfl⟩
      exact hvalue
  rw [htable]

/-- A name is given a value in the table of a kind. That is all, unless the map has a variable of
the name that is of the other kind. -/
theorem define (h : vars.Keeps map) {name : Text} {isMutable : Bool}
    (hkind : ∀ var, map.lookup name = some var → var.isMutable = isMutable) (value : Text) :
    (vars.define name value isMutable).Keeps (map.insert name ⟨isMutable, value⟩) := by
  intro kind other
  rw [tableOf_define]
  by_cases hother : other = name
  · subst hother
    rw [Finmap.lookup_insert]
    split_ifs with hsame
    · rw [Table.get?_insert, if_pos rfl]
      exact (if_pos hsame).symm
    · rw [h, Option.bind_some, Variable.valueOf?_of_ne hsame, Option.bind_eq_none_iff]
      rintro ⟨found, old⟩ hfound
      obtain rfl : found = isMutable := hkind _ hfound
      exact Variable.valueOf?_of_ne hsame old
  · rw [Finmap.lookup_insert_of_ne _ hother, ← h]
    split_ifs
    · rw [Table.get?_insert, if_neg hother]
    · rfl

/-- The kind of a variable decides whether it can be changed. -/
theorem change (h : vars.Keeps map) (name value : Text) :
    vars.change name value =
      match map.lookup name with
      | none => .error (.notDefined name)
      | some ⟨false, _⟩ => .error (.immutable name)
      | some ⟨true, _⟩ => .ok (vars.define name value true) := by
  have hfound : ∀ kind, (vars.tableOf kind).contains name =
      ((map.lookup name).bind (Variable.valueOf? kind)).isSome := fun kind => by
    rw [Table.contains, h]
  have himmutable : vars.immutable.contains name = _ := hfound false
  have hmutable : vars.mutable.contains name = _ := hfound true
  unfold Variables.change
  rw [himmutable, hmutable]
  rcases map.lookup name with _ | ⟨_ | _, old⟩ <;> rfl

theorem delete (h : vars.Keeps map) (name : Text) :
    (vars.delete name).Keeps (map.erase name) := by
  intro kind other
  rw [tableOf_delete, Table.get?_erase, h]
  split_ifs with hother
  · rw [hother, Finmap.lookup_erase]
    rfl
  · rw [Finmap.lookup_erase_ne hother]

end Keeps

end Variables

/-! ### A stack that keeps maps -/

/-- Each level of a stack keeps the map of that level. -/
structure CallStack.Represents (stack : CallStack) (levels : Levels) : Prop where
  globals : stack.scope.globals.Keeps levels.shell
  frame : stack.scope.frame.vars.Keeps levels.frame
  callers : List.Forall₂ (fun (frame : Frame) map => frame.vars.Keeps map) stack.callers
    levels.waiting

namespace CallStack.Represents

variable {stack : CallStack} {levels : Levels}

theorem varsAt (h : stack.Represents levels) (level : Level) :
    (stack.scope.varsAt level).Keeps (levels.mapAt level) := by
  cases level with
  | frame => exact h.frame
  | shell => exact h.globals

theorem setVars (h : stack.Represents levels) (level : Level) {vars : Variables}
    {map : Table.Map Variable} (hkeeps : vars.Keeps map) :
    Represents { stack with scope := stack.scope.setVars level vars }
      (levels.setMap level map) := by
  cases level with
  | frame => exact ⟨h.globals, hkeeps, h.callers⟩
  | shell => exact ⟨hkeeps, h.frame, h.callers⟩

theorem lookup? (h : stack.Represents levels) (name : Text) :
    stack.scope.lookup? name = levels.lookup? name := by
  unfold Scope.lookup? Levels.lookup?
  rw [h.frame.get?, h.globals.get?]
  cases levels.frame.lookup name <;> rfl

theorem isDefined_iff (h : stack.Represents levels) (name : Text) :
    stack.scope.isDefined name = true ↔ name ∈ levels.frame ∨ name ∈ levels.shell := by
  unfold Scope.isDefined
  rw [h.lookup?, Levels.lookup?, Option.isSome_map, Option.isSome_or, Bool.or_eq_true,
    Finmap.lookup_isSome, Finmap.lookup_isSome]

theorem sections (h : stack.Represents levels) : stack.scope.sections = levels.sections := by
  unfold Levels.sections
  rw [← h.frame.entries_tableOf, ← h.frame.entries_tableOf, ← h.globals.entries_tableOf,
    ← h.globals.entries_tableOf]
  rfl

theorem height (h : stack.Represents levels) : stack.height = levels.height := by
  unfold CallStack.height Levels.height
  rw [h.callers.length_eq]

theorem define (h : stack.Represents levels) (level : Level) (name value : Text)
    (isMutable : Bool) :
    (stack.verdict (.define level name value isMutable) =
        (levels.respond (.perform (.define level name value isMutable))).2) ∧
      (stack.perform (.define level name value isMutable)).Represents
        (levels.respond (.perform (.define level name value isMutable))).1 := by
  simp only [verdict, CallStack.perform, Scope.define, Levels.respond, Levels.define,
    h.isDefined_iff]
  split_ifs with hdefined
  · exact ⟨rfl, h⟩
  · have hnew : name ∉ levels.mapAt level := by
      obtain ⟨hframe, hshell⟩ := not_or.mp hdefined
      cases level with
      | frame => exact hframe
      | shell => exact hshell
    refine ⟨rfl, h.setVars level ((h.varsAt level).define (fun var hvar => ?_) value)⟩
    exact absurd (Finmap.mem_of_lookup_eq_some hvar) hnew

theorem change (h : stack.Represents levels) (level : Level) (name value : Text) :
    (stack.verdict (.change level name value) =
        (levels.respond (.perform (.change level name value))).2) ∧
      (stack.perform (.change level name value)).Represents
        (levels.respond (.perform (.change level name value))).1 := by
  have hvars := h.varsAt level
  simp only [verdict, CallStack.perform, Scope.change, Levels.respond, Levels.change,
    hvars.change]
  rcases hname : (levels.mapAt level).lookup name with _ | ⟨_ | _, old⟩
  · exact ⟨rfl, h⟩
  · exact ⟨rfl, h⟩
  · refine ⟨rfl, h.setVars level (hvars.define (fun var hvar => ?_) value)⟩
    cases hname.symm.trans hvar
    rfl

theorem leave (h : stack.Represents levels) (publish : Bool) :
    (stack.leave publish).Represents levels.leave := by
  obtain ⟨scope, callers⟩ := stack
  obtain ⟨shell, frame, waiting⟩ := levels
  cases h.callers with
  | nil => exact h
  | cons hcaller hrest =>
      cases publish with
      | false => exact ⟨h.globals, hcaller, hrest⟩
      | true => exact ⟨h.globals, hcaller, hrest⟩

/-- **A stack that keeps maps answers as they do**, and goes on keeping them. -/
theorem respond (h : stack.Represents levels) (request : VariableRequest) :
    (stack.respond request).2 = (levels.respond request).2 ∧
      (stack.respond request).1.Represents (levels.respond request).1 := by
  cases request with
  | lookup name => exact ⟨congrArg VariableAnswer.value (h.lookup? name), h⟩
  | isDefined name => exact ⟨congrArg (VariableAnswer.truth ∘ Option.isSome) (h.lookup? name), h⟩
  | sections => exact ⟨congrArg VariableAnswer.listing h.sections, h⟩
  | perform operation =>
      cases operation with
      | define level name value isMutable => exact h.define level name value isMutable
      | change level name value => exact h.change level name value
      | delete level name =>
          exact ⟨rfl, h.setVars level ((h.varsAt level).delete name)⟩
      | enter args =>
          have henter : (stack.enter args).Represents levels.enter :=
            ⟨h.globals, .empty, .cons h.frame h.callers⟩
          exact ⟨congrArg VariableAnswer.height henter.height, henter⟩
      | leave publish =>
          exact ⟨congrArg VariableAnswer.height (h.leave publish).height, h.leave publish⟩

theorem serve (h : stack.Represents levels) (requests : List VariableRequest) :
    (Conch.serve CallStack.respond stack requests).2 =
        (Conch.serve Levels.respond levels requests).2 ∧
      (Conch.serve CallStack.respond stack requests).1.Represents
        (Conch.serve Levels.respond levels requests).1 := by
  induction requests generalizing stack levels with
  | nil => exact ⟨rfl, h⟩
  | cons request rest ih =>
      obtain ⟨hanswer, hnext⟩ := h.respond request
      obtain ⟨hanswers, hend⟩ := ih hnext
      exact ⟨congrArg₂ List.cons hanswer hanswers, hend⟩

/-- Tables that keep maps are disjoint. -/
theorem hasDisjointTables (h : stack.Represents levels) : stack.HasDisjointTables := by
  have hcallers : ∀ caller ∈ stack.callers, caller.vars.IsDisjoint :=
    ((List.forall₂_and_left _ _).mp
      (h.callers.imp fun _ _ hkeeps => ⟨hkeeps.isDisjoint, hkeeps⟩)).1
  exact ⟨h.globals.isDisjoint, List.forall_mem_cons.mpr ⟨h.frame.isDisjoint, hcallers⟩⟩

end CallStack.Represents

namespace CallStack

theorem represents_fresh (aliasDepth : Nat) : (fresh aliasDepth).Represents {} :=
  ⟨.empty, .empty, .nil⟩

/-- What is refused changes nothing. -/
theorem respond_of_refused {stack : CallStack} {request : VariableRequest} {error : VariableError}
    (h : (stack.respond request).2 = .refused error) : (stack.respond request).1 = stack := by
  have hsettle : ∀ result : Except VariableError Scope,
      (settle stack.scope result).2 = .refused error → stack.accept result = stack := by
    rintro (_ | _) hrefused
    · rfl
    · cases hrefused
  cases request with
  | perform operation =>
      cases operation with
      | define level name value isMutable => exact hsettle _ h
      | change level name value => exact hsettle _ h
      | delete level name => cases h
      | enter args => cases h
      | leave publish => cases h
  | _ => cases h

/-- **The tables of a level act as one map.** From a fresh stack, all requests are answered as a
stack answers them that has one map for each level, and each level of the stack then keeps the
map of that level. No name is in both tables of a level, and a request that is refused leaves
all frames and the variables of the shell as they are. -/
theorem tables_act_as_maps (aliasDepth : Nat) (requests : List VariableRequest) :
    let reached := serve respond (fresh aliasDepth) requests
    let maps := serve Levels.respond {} requests
    reached.2 = maps.2 ∧
      reached.1.Represents maps.1 ∧
      (∀ scope ∈ reached.1.scopes, scope.frame.vars.IsDisjoint ∧ scope.globals.IsDisjoint) ∧
      ∀ request error, (reached.1.respond request).2 = .refused error →
        (reached.1.respond request).1 = reached.1 := by
  intro reached maps
  obtain ⟨hanswers, hend⟩ := (represents_fresh aliasDepth).serve requests
  refine ⟨hanswers, hend, forall_scopes.mpr fun frame hframe => ?_, fun request error =>
    respond_of_refused⟩
  obtain ⟨hglobals, hframes⟩ := hend.hasDisjointTables
  exact ⟨hframes frame hframe, hglobals⟩

/-- A call hides the variables of its caller, but not those of the shell. -/
example :
    (serve respond (fresh 64)
      [.perform (.define .frame "x" "1" false), .perform (.define .shell "y" "2" true),
        .perform (.enter []), .lookup "x", .perform (.define .frame "y" "3" false),
        .perform (.change .shell "y" "4"), .perform (.leave true),
        .perform (.change .frame "x" "5"), .sections]).2 =
    [.accepted, .accepted, .height 2, .value none, .refused (.alreadyExists "y"), .accepted,
      .height 1, .refused (.immutable "x"),
      .listing [("local immutable variables", [("x", "1")]), ("local mutable variables", []),
        ("global immutable variables", []), ("global mutable variables", [("y", "4")])]] := by
  decide +kernel

end CallStack

end Conch
