import Conch.Scope.Variables

/-!
The scope of an evaluation: the aliases and the global variables, which the whole
shell shares, and the frame of the function call that is being evaluated.

A call gets a fresh frame. When it ends, what it returned is published into the
frame of its caller, whose own variables and arguments come back untouched.
-/

namespace Conch

/-- What belongs to one function call. -/
structure Frame where
  vars : Variables := {}
  /-- The positional arguments of the call. -/
  args : List Text := []
  /-- The values returned by the call, by key. -/
  returns : Table Text := .empty

/-- The frame of a caller when the call with frame `callee` has published what it
returned. -/
def Frame.publish (caller callee : Frame) : Frame :=
  { caller with returns := caller.returns.merge callee.returns }

/-- The names that an evaluation sees. -/
structure Scope where
  /-- Names that stand for expressions. -/
  aliases : Table Text := .empty
  /-- The longest chain of aliases that is followed. -/
  aliasDepth : Nat
  globals : Variables := {}
  frame : Frame := {}

/-- Where a variable lives. -/
inductive Level where
  /-- In the current call. -/
  | frame
  /-- In the whole shell. -/
  | shell
  deriving DecidableEq, Repr

namespace Scope

/-- The value of a variable: that of the current call before that of the shell. -/
def lookup? (scope : Scope) (name : Text) : Option Text :=
  (scope.frame.vars.get? name).or (scope.globals.get? name)

/-- Whether a variable can be seen. -/
def isDefined (scope : Scope) (name : Text) : Bool := (scope.lookup? name).isSome

/-- The variables of a level. -/
def varsAt (scope : Scope) : Level → Variables
  | .frame => scope.frame.vars
  | .shell => scope.globals

/-- The scope with other variables at a level. -/
def setVars (scope : Scope) (level : Level) (vars : Variables) : Scope :=
  match level with
  | .frame => { scope with frame := { scope.frame with vars := vars } }
  | .shell => { scope with globals := vars }

/-- Defines a variable that cannot be seen yet. -/
def define (scope : Scope) (level : Level) (name value : Text) (isMutable : Bool) :
    Except VariableError Scope :=
  if scope.isDefined name then .error (.alreadyExists name)
  else .ok (scope.setVars level ((scope.varsAt level).define name value isMutable))

/-- Changes a mutable variable of a level. -/
def change (scope : Scope) (level : Level) (name value : Text) : Except VariableError Scope :=
  ((scope.varsAt level).change name value).map (scope.setVars level)

/-- Removes a variable from a level. -/
def delete (scope : Scope) (level : Level) (name : Text) : Scope :=
  scope.setVars level ((scope.varsAt level).delete name)

/-- The four tables of variables with their titles, in the order in which they are
looked at. -/
def sections (scope : Scope) : List (Text × List (Text × Text)) :=
  [("local immutable variables", scope.frame.vars.immutable.entries),
    ("local mutable variables", scope.frame.vars.mutable.entries),
    ("global immutable variables", scope.globals.immutable.entries),
    ("global mutable variables", scope.globals.mutable.entries)]

/-- Makes a name stand for an expression. -/
def setAlias (scope : Scope) (name target : Text) : Scope :=
  { scope with aliases := scope.aliases.insert name target }

/-- Makes a name stand for itself again. -/
def removeAlias (scope : Scope) (name : Text) : Scope :=
  { scope with aliases := scope.aliases.erase name }

/-- Returns a value under a key from the current call. -/
def setReturn (scope : Scope) (key value : Text) : Scope :=
  { scope with frame := { scope.frame with returns := scope.frame.returns.insert key value } }

/-- The scope of a call with the given arguments. -/
def enterCall (scope : Scope) (args : List Text) : Scope :=
  { scope with frame := { args := args } }

/-- Back in the frame of the caller after a call that ended in `scope`. -/
def leaveCall (scope : Scope) (caller : Frame) : Scope :=
  { scope with frame := caller.publish scope.frame }

end Scope

end Conch
