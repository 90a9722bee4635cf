import Conch.Table

/-!
The variables of one level, which is a function call or the whole shell. A variable
is immutable or mutable, and each kind has a table of its own.
-/

namespace Conch

/-- Why a variable cannot be defined, changed or read. -/
inductive VariableError where
  | alreadyExists (name : Text)
  | immutable (name : Text)
  | notDefined (name : Text)
  deriving DecidableEq, Repr

/-- What the user is told. -/
def VariableError.message : VariableError → Text
  | .alreadyExists name => "variable already exists: " ++ name
  | .immutable name => "variable is immutable: " ++ name
  | .notDefined name => "variable is not defined: " ++ name

/-- The variables of one level. -/
structure Variables where
  immutable : Table Text := .empty
  mutable : Table Text := .empty

namespace Variables

/-- The value of a variable; immutable ones are looked at first. -/
def get? (vars : Variables) (name : Text) : Option Text :=
  (vars.immutable.get? name).or (vars.mutable.get? name)

/-- Adds a variable of the chosen kind. -/
def define (vars : Variables) (name value : Text) (isMutable : Bool) : Variables :=
  if isMutable then { vars with mutable := vars.mutable.insert name value }
  else { vars with immutable := vars.immutable.insert name value }

/-- Gives a mutable variable a new value. -/
def change (vars : Variables) (name value : Text) : Except VariableError Variables :=
  if vars.immutable.contains name then .error (.immutable name)
  else if vars.mutable.contains name then
    .ok { vars with mutable := vars.mutable.insert name value }
  else .error (.notDefined name)

/-- Removes a variable of either kind. -/
def delete (vars : Variables) (name : Text) : Variables :=
  ⟨vars.immutable.erase name, vars.mutable.erase name⟩

end Variables

end Conch
