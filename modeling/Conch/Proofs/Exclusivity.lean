import Mathlib.Data.List.Induction
import Conch.Proofs.Tables
import Conch.Scope.CallStack

/-!
In how many tables a name is. A scope looks for a variable in four tables: those of its call
and those of the shell, an immutable and a mutable one each.

* `hasDisjointTables_run`: the two tables of one level never share a name.
* `exclusive_iff`: a name is in at most one of the four tables of every scope, at every
  moment of a run, exactly if the run defines no global variable whose name is in use in a
  call that waits. Such a definition is accepted, since a call does not see the variables of
  its callers.
* `caller_finds_name_twice`: a run after which a scope finds a name in two tables.
-/

namespace Conch

/-! ### Tables of a level -/

namespace Variables

/-- Whether a variable is defined. -/
def holds (vars : Variables) (name : Text) : Bool :=
  vars.immutable.contains name || vars.mutable.contains name

/-- No name is in both tables. -/
def IsDisjoint (vars : Variables) : Prop :=
  ∀ name, vars.immutable.contains name = true → vars.mutable.contains name = false

theorem isDisjoint_empty : IsDisjoint {} := fun _ _ => rfl

theorem isSome_get? (vars : Variables) (name : Text) :
    (vars.get? name).isSome = vars.holds name := by
  unfold get? holds Table.contains
  cases vars.immutable.get? name <;> simp

theorem holds_define (vars : Variables) (name other value : Text) (isMutable : Bool) :
    (vars.define name value isMutable).holds other = true ↔
      other = name ∨ vars.holds other = true := by
  unfold define holds
  cases isMutable <;> simp [Table.contains_insert, or_assoc, or_left_comm]

theorem IsDisjoint.define {vars : Variables} (h : vars.IsDisjoint) {name : Text}
    (hnew : vars.holds name = false) (value : Text) (isMutable : Bool) :
    (vars.define name value isMutable).IsDisjoint := by
  obtain ⟨himmutable, hmutable⟩ := Bool.or_eq_false_iff.mp hnew
  intro other hother
  cases isMutable with
  | false =>
      rcases (Table.contains_insert ..).mp hother with rfl | hold
      · exact hmutable
      · exact h other hold
  | true =>
      change vars.immutable.contains other = true at hother
      rw [← Bool.not_eq_true]
      intro hboth
      rcases (Table.contains_insert ..).mp hboth with rfl | hold
      · rw [himmutable] at hother
        cases hother
      · rw [h other hother] at hold
        cases hold

/-- A change gives a new value to a name that the mutable table already has. -/
theorem change_eq_ok {vars changed : Variables} {name value : Text}
    (h : vars.change name value = .ok changed) :
    vars.mutable.contains name = true ∧
      changed = { vars with mutable := vars.mutable.insert name value } := by
  unfold change at h
  split_ifs at h with himmutable hmutable
  cases h
  exact ⟨hmutable, rfl⟩

theorem contains_of_change {vars changed : Variables} {name value : Text}
    (h : vars.change name value = .ok changed) (other : Text) :
    changed.immutable.contains other = vars.immutable.contains other ∧
      changed.mutable.contains other = vars.mutable.contains other := by
  obtain ⟨hmutable, rfl⟩ := change_eq_ok h
  refine ⟨rfl, ?_⟩
  rw [Bool.eq_iff_iff, Table.contains_insert]
  constructor
  · rintro (rfl | hold)
    · exact hmutable
    · exact hold
  · exact Or.inr

theorem holds_of_change {vars changed : Variables} {name value : Text}
    (h : vars.change name value = .ok changed) (other : Text) :
    changed.holds other = vars.holds other := by
  obtain ⟨himmutable, hmutable⟩ := contains_of_change h other
  unfold holds
  rw [himmutable, hmutable]

theorem IsDisjoint.change {vars changed : Variables} (hvars : vars.IsDisjoint) {name value : Text}
    (h : vars.change name value = .ok changed) : changed.IsDisjoint := by
  intro other hother
  obtain ⟨himmutable, hmutable⟩ := contains_of_change h other
  rw [hmutable]
  rw [himmutable] at hother
  exact hvars other hother

theorem holds_delete {vars : Variables} {name other : Text}
    (h : (vars.delete name).holds other = true) : vars.holds other = true := by
  unfold delete holds at h
  unfold holds
  rw [Bool.or_eq_true] at h ⊢
  rw [Table.contains_erase, Table.contains_erase] at h
  exact h.imp And.right And.right

theorem IsDisjoint.delete {vars : Variables} (h : vars.IsDisjoint) (name : Text) :
    (vars.delete name).IsDisjoint := by
  intro other hother
  obtain ⟨-, hold⟩ := (Table.contains_erase ..).mp hother
  rw [← Bool.not_eq_true]
  intro hboth
  obtain ⟨-, hmutable⟩ := (Table.contains_erase ..).mp hboth
  rw [h other hold] at hmutable
  cases hmutable

end Variables

/-! ### Tables of a scope -/

namespace Scope

/-- The four tables in which a scope looks for a variable. -/
def tables (scope : Scope) : List (Table Text) :=
  [scope.frame.vars.immutable, scope.frame.vars.mutable, scope.globals.immutable,
    scope.globals.mutable]

/-- In how many of its four tables a scope finds a name. -/
def places (scope : Scope) (name : Text) : Nat := scope.tables.countP (·.contains name)

/-- Each name is in at most one of the four tables. -/
def IsExclusive (scope : Scope) : Prop := ∀ name, scope.places name ≤ 1

theorem isDefined_eq (scope : Scope) (name : Text) :
    scope.isDefined name = (scope.frame.vars.holds name || scope.globals.holds name) := by
  unfold isDefined lookup?
  rw [Option.isSome_or, Variables.isSome_get?, Variables.isSome_get?]

theorem places_le_one_iff (scope : Scope) (name : Text) :
    scope.places name ≤ 1 ↔
      (scope.frame.vars.immutable.contains name = true →
        scope.frame.vars.mutable.contains name = false) ∧
      (scope.globals.immutable.contains name = true →
        scope.globals.mutable.contains name = false) ∧
      (scope.frame.vars.holds name = true → scope.globals.holds name = false) := by
  unfold places tables Variables.holds
  simp only [List.countP_cons, List.countP_nil]
  generalize scope.frame.vars.immutable.contains name = a
  generalize scope.frame.vars.mutable.contains name = b
  generalize scope.globals.immutable.contains name = c
  generalize scope.globals.mutable.contains name = d
  revert a b c d
  decide

/-- A scope is exclusive if the tables of each level are and the levels share no name. -/
theorem isExclusive_iff (scope : Scope) :
    scope.IsExclusive ↔
      scope.frame.vars.IsDisjoint ∧ scope.globals.IsDisjoint ∧
        ∀ name, scope.frame.vars.holds name = true → scope.globals.holds name = false := by
  unfold IsExclusive Variables.IsDisjoint
  simp only [places_le_one_iff, forall_and]

/-- A definition is accepted if neither level has the name. -/
theorem define_eq_ok {scope defined : Scope} {level : Level} {name value : Text}
    {isMutable : Bool} (h : scope.define level name value isMutable = .ok defined) :
    scope.frame.vars.holds name = false ∧ scope.globals.holds name = false ∧
      defined = scope.setVars level ((scope.varsAt level).define name value isMutable) := by
  unfold define at h
  split_ifs at h with hdefined
  cases h
  rw [isDefined_eq, Bool.not_eq_true, Bool.or_eq_false_iff] at hdefined
  exact ⟨hdefined.1, hdefined.2, rfl⟩

theorem change_eq_ok {scope changed : Scope} {level : Level} {name value : Text}
    (h : scope.change level name value = .ok changed) :
    ∃ vars, (scope.varsAt level).change name value = .ok vars ∧
      changed = scope.setVars level vars := by
  unfold change at h
  cases hvars : (scope.varsAt level).change name value with
  | error error =>
      rw [hvars] at h
      cases h
  | ok vars =>
      rw [hvars] at h
      cases h
      exact ⟨vars, rfl, rfl⟩

end Scope

/-! ### Runs on a stack of calls -/

/-- What can be done with variables and calls. -/
inductive Operation where
  | define (level : Level) (name value : Text) (isMutable : Bool)
  | change (level : Level) (name value : Text)
  | delete (level : Level) (name : Text)
  | enter (args : List Text)
  | leave (publish : Bool)

namespace CallStack

/-- The stack before anything was done. -/
def fresh (aliasDepth : Nat) : CallStack := ⟨{ aliasDepth := aliasDepth }, []⟩

/-- The stack with the scope that an operation on variables gives; if it is refused, the
stack as it was. -/
def accept (stack : CallStack) : Except VariableError Scope → CallStack
  | .ok scope => { stack with scope := scope }
  | .error _ => stack

/-- Does one operation in the innermost call. -/
def perform (stack : CallStack) : Operation → CallStack
  | .define level name value isMutable =>
    stack.accept (stack.scope.define level name value isMutable)
  | .change level name value => stack.accept (stack.scope.change level name value)
  | .delete level name => { stack with scope := stack.scope.delete level name }
  | .enter args => stack.enter args
  | .leave publish => stack.leave publish

/-- Does operations one after another. -/
def run (stack : CallStack) (operations : List Operation) : CallStack :=
  operations.foldl perform stack

/-- The frames of all calls, the innermost first. -/
def frames (stack : CallStack) : List Frame := stack.scope.frame :: stack.callers

/-- The scope of each call. -/
def scopes (stack : CallStack) : List Scope :=
  stack.frames.map fun frame => { stack.scope with frame := frame }

/-- Whether a variable of a call that waits has a name. -/
def Hides (stack : CallStack) (name : Text) : Prop :=
  ∃ caller ∈ stack.callers, caller.vars.holds name = true

theorem run_snoc (stack : CallStack) (operations : List Operation) (last : Operation) :
    stack.run (operations ++ [last]) = (stack.run operations).perform last :=
  List.foldl_concat ..

/-- An operation on variables is refused or accepted. -/
theorem accept_cases {P : CallStack → Prop} {stack : CallStack}
    {result : Except VariableError Scope} (hrefused : P stack)
    (haccepted : ∀ scope, result = .ok scope → P { stack with scope := scope }) :
    P (stack.accept result) := by
  cases result with
  | error error => exact hrefused
  | ok scope => exact haccepted scope rfl

theorem forall_scopes {stack : CallStack} {holds : Scope → Prop} :
    (∀ scope ∈ stack.scopes, holds scope) ↔
      ∀ frame ∈ stack.frames, holds { stack.scope with frame := frame } :=
  List.forall_mem_map

/-! ### The two parts of the invariant -/

/-- The two tables of each level share no name. -/
def HasDisjointTables (stack : CallStack) : Prop :=
  stack.scope.globals.IsDisjoint ∧ ∀ frame ∈ stack.frames, frame.vars.IsDisjoint

/-- No call and the shell share a name. -/
def IsApart (stack : CallStack) : Prop :=
  ∀ frame ∈ stack.frames, ∀ name, frame.vars.holds name = true →
    stack.scope.globals.holds name = false

theorem exclusive_scopes_iff (stack : CallStack) :
    (∀ scope ∈ stack.scopes, scope.IsExclusive) ↔ stack.HasDisjointTables ∧ stack.IsApart := by
  rw [forall_scopes]
  constructor
  · intro h
    have hfirst := (Scope.isExclusive_iff _).mp (h _ List.mem_cons_self)
    refine ⟨⟨hfirst.2.1, ?_⟩, ?_⟩
    · intro frame hframe
      exact ((Scope.isExclusive_iff _).mp (h frame hframe)).1
    · intro frame hframe
      exact ((Scope.isExclusive_iff _).mp (h frame hframe)).2.2
  · rintro ⟨⟨hglobals, hframes⟩, hapart⟩ frame hframe
    exact (Scope.isExclusive_iff _).mpr ⟨hframes frame hframe, hglobals, hapart frame hframe⟩

variable {stack : CallStack}

theorem HasDisjointTables.varsAt (h : stack.HasDisjointTables) (level : Level) :
    (stack.scope.varsAt level).IsDisjoint := by
  cases level with
  | frame => exact h.2 _ List.mem_cons_self
  | shell => exact h.1

theorem HasDisjointTables.setVars (h : stack.HasDisjointTables) (level : Level) {vars : Variables}
    (hvars : vars.IsDisjoint) :
    HasDisjointTables { stack with scope := stack.scope.setVars level vars } := by
  obtain ⟨hglobals, hframes⟩ := h
  obtain ⟨-, hcallers⟩ := List.forall_mem_cons.mp hframes
  cases level with
  | frame => exact ⟨hglobals, List.forall_mem_cons.mpr ⟨hvars, hcallers⟩⟩
  | shell => exact ⟨hvars, hframes⟩

/-- Every operation keeps the tables of a level disjoint. -/
theorem HasDisjointTables.perform (h : stack.HasDisjointTables) (operation : Operation) :
    (stack.perform operation).HasDisjointTables := by
  cases operation with
  | define level name value isMutable =>
      apply accept_cases h
      intro scope hdefine
      obtain ⟨hframe, hglobals, rfl⟩ := Scope.define_eq_ok hdefine
      have hnew : (stack.scope.varsAt level).holds name = false := by
        cases level with
        | frame => exact hframe
        | shell => exact hglobals
      exact h.setVars level ((h.varsAt level).define hnew value isMutable)
  | change level name value =>
      apply accept_cases h
      intro scope hchange
      obtain ⟨vars, hvars, rfl⟩ := Scope.change_eq_ok hchange
      exact h.setVars level ((h.varsAt level).change hvars)
  | delete level name => exact h.setVars level ((h.varsAt level).delete name)
  | enter args =>
      obtain ⟨hglobals, hframes⟩ := h
      exact ⟨hglobals, List.forall_mem_cons.mpr ⟨Variables.isDisjoint_empty, hframes⟩⟩
  | leave publish =>
      obtain ⟨scope, callers⟩ := stack
      cases callers with
      | nil => exact h
      | cons caller callers =>
          obtain ⟨hglobals, hframes⟩ := h
          obtain ⟨-, hcallers⟩ := List.forall_mem_cons.mp hframes
          cases publish with
          | false => exact ⟨hglobals, hcallers⟩
          | true => exact ⟨hglobals, List.forall_mem_cons.mpr (List.forall_mem_cons.mp hcallers)⟩

/-- Variables that hold no more names than those of a level can take their place. -/
theorem IsApart.setVars (h : stack.IsApart) (level : Level) {vars : Variables}
    (hvars : ∀ name, vars.holds name = true → (stack.scope.varsAt level).holds name = true) :
    IsApart { stack with scope := stack.scope.setVars level vars } := by
  cases level with
  | frame =>
      obtain ⟨hframe, hcallers⟩ := List.forall_mem_cons.mp h
      exact List.forall_mem_cons.mpr ⟨fun name hname => hframe name (hvars name hname), hcallers⟩
  | shell =>
      intro frame hframe name hname
      have hglobals := h frame hframe name hname
      rw [← Bool.not_eq_true] at hglobals ⊢
      exact fun hnew => hglobals (hvars name hnew)

/-- Calls and shell stay apart unless a global variable is defined that has the name of a
variable of a call that waits. -/
theorem IsApart.perform (h : stack.IsApart) {operation : Operation}
    (hhidden : ∀ name value isMutable, operation = .define .shell name value isMutable →
      stack.scope.isDefined name = false → ¬stack.Hides name) :
    (stack.perform operation).IsApart := by
  cases operation with
  | define level name value isMutable =>
      apply accept_cases h
      intro scope hdefine
      obtain ⟨hframe, hglobals, rfl⟩ := Scope.define_eq_ok hdefine
      cases level with
      | frame =>
          obtain ⟨hfirst, hcallers⟩ := List.forall_mem_cons.mp h
          refine List.forall_mem_cons.mpr ⟨?_, hcallers⟩
          intro other hother
          rcases (Variables.holds_define ..).mp hother with rfl | hold
          · exact hglobals
          · exact hfirst other hold
      | shell =>
          have hdefined : stack.scope.isDefined name = false := by
            rw [Scope.isDefined_eq, hframe, hglobals]
            rfl
          have hnone := hhidden name value isMutable rfl hdefined
          intro frame hmem other hother
          rw [← Bool.not_eq_true]
          intro hnew
          rcases (Variables.holds_define ..).mp hnew with rfl | hold
          · rcases List.mem_cons.mp hmem with rfl | hcaller
            · exact absurd (hframe.symm.trans hother) Bool.false_ne_true
            · exact hnone ⟨frame, hcaller, hother⟩
          · exact absurd ((h frame hmem other hother).symm.trans hold) Bool.false_ne_true
  | change level name value =>
      apply accept_cases h
      intro scope hchange
      obtain ⟨vars, hvars, rfl⟩ := Scope.change_eq_ok hchange
      refine h.setVars level fun other hother => ?_
      rwa [Variables.holds_of_change hvars] at hother
  | delete level name => exact h.setVars level fun other => Variables.holds_delete
  | enter args =>
      refine List.forall_mem_cons.mpr ⟨?_, h⟩
      intro name hname
      cases hname
  | leave publish =>
      obtain ⟨scope, callers⟩ := stack
      cases callers with
      | nil => exact h
      | cons caller callers =>
          obtain ⟨-, hcallers⟩ := List.forall_mem_cons.mp h
          cases publish with
          | false => exact hcallers
          | true => exact List.forall_mem_cons.mpr (List.forall_mem_cons.mp hcallers)

/-- A global variable that is defined with the name of a variable of a call that waits is in
the tables of that call's scope twice. -/
theorem not_isApart_of_hides {name : Text} (hhides : stack.Hides name)
    (hdefined : stack.scope.isDefined name = false) (value : Text) (isMutable : Bool) :
    ¬(stack.perform (.define .shell name value isMutable)).IsApart := by
  intro hapart
  obtain ⟨caller, hcaller, hholds⟩ := hhides
  have hdefine : stack.scope.define .shell name value isMutable =
      .ok (stack.scope.setVars .shell (stack.scope.globals.define name value isMutable)) := by
    rw [Scope.define, hdefined]
    rfl
  rw [perform, hdefine] at hapart
  have hglobal := hapart caller (List.mem_cons_of_mem _ hcaller) name hholds
  have hnew := (Variables.holds_define stack.scope.globals name name value isMutable).mpr (.inl rfl)
  exact absurd (hglobal.symm.trans hnew) Bool.false_ne_true

theorem hasDisjointTables_run (aliasDepth : Nat) (operations : List Operation) :
    ((fresh aliasDepth).run operations).HasDisjointTables := by
  induction operations using List.reverseRecOn with
  | nil =>
      refine ⟨Variables.isDisjoint_empty, ?_⟩
      exact List.forall_mem_singleton.mpr Variables.isDisjoint_empty
  | append_singleton operations last ih =>
      rw [run_snoc]
      exact ih.perform last

/-- No definition that a run accepts gives a global variable the name of a variable of a call
that waits. -/
def SparesCallers (aliasDepth : Nat) (operations : List Operation) : Prop :=
  ∀ before name value isMutable,
    before ++ [.define .shell name value isMutable] <+: operations →
    ((fresh aliasDepth).run before).scope.isDefined name = false →
    ¬((fresh aliasDepth).run before).Hides name

theorem SparesCallers.mono {aliasDepth : Nat} {before operations : List Operation}
    (h : SparesCallers aliasDepth operations) (hpart : before <+: operations) :
    SparesCallers aliasDepth before :=
  fun _ name value isMutable hearlier => h _ name value isMutable (hearlier.trans hpart)

theorem isApart_run {aliasDepth : Nat} {operations : List Operation}
    (h : SparesCallers aliasDepth operations) :
    ((fresh aliasDepth).run operations).IsApart := by
  induction operations using List.reverseRecOn with
  | nil =>
      refine List.forall_mem_singleton.mpr ?_
      intro name hname
      cases hname
  | append_singleton operations last ih =>
      rw [run_snoc]
      apply (ih (h.mono (List.prefix_append ..))).perform
      rintro name value isMutable rfl
      exact h operations name value isMutable List.prefix_rfl

/-- **When each name is in one table only.** In every run from a fresh stack and for every
scope on the stack, a name is in at most one table of each level. It is in at most one of all
four tables, for every scope at every moment of the run, exactly if no global variable is
defined, and accepted, while a call that waits has a variable of the same name. -/
theorem exclusive_iff (aliasDepth : Nat) (operations : List Operation) :
    (∀ scope ∈ ((fresh aliasDepth).run operations).scopes,
      scope.frame.vars.IsDisjoint ∧ scope.globals.IsDisjoint) ∧
    ((∀ before, before <+: operations →
        ∀ scope ∈ ((fresh aliasDepth).run before).scopes, scope.IsExclusive) ↔
      SparesCallers aliasDepth operations) := by
  constructor
  · rw [forall_scopes]
    intro frame hframe
    obtain ⟨hglobals, hframes⟩ := hasDisjointTables_run aliasDepth operations
    exact ⟨hframes frame hframe, hglobals⟩
  · constructor
    · intro hexclusive before name value isMutable hpart hdefined hhides
      have hafter := (exclusive_scopes_iff _).mp (hexclusive _ hpart)
      rw [run_snoc] at hafter
      exact not_isApart_of_hides hhides hdefined value isMutable hafter.2
    · intro hspares before hpart
      rw [exclusive_scopes_iff]
      exact ⟨hasDisjointTables_run aliasDepth before, isApart_run (hspares.mono hpart)⟩

/-- After a call has defined a global variable with the name of a variable of its caller, the
scope of the caller finds that name in two tables. -/
theorem caller_finds_name_twice :
    ¬∀ scope ∈ ((fresh 64).run
        [.define .frame "x" "1" false, .enter [], .define .shell "x" "2" false,
          .leave true]).scopes,
      scope.IsExclusive := by
  intro h
  have hplaces := h _ List.mem_cons_self "x"
  revert hplaces
  decide

end CallStack

end Conch
