import Conch.Scope.Basic

/-!
Following aliases. The target of an alias may itself be the name of an alias; the
chain is followed to the first target that is not. A chain that comes back to one
of its names, or that is longer than the scope allows, is refused.
-/

namespace Conch.Scope

/-- Follows a chain that has passed `visited` and stands at `target`, for at most
`fuel` steps. A refused chain is reported with the name that it stopped at. -/
def follow (scope : Scope) : Nat → List Text → Text → Except (List Text) Text
  | 0, visited, target => .error (visited ++ [target])
  | fuel + 1, visited, target =>
    match scope.aliases.get? target with
    | none => .ok target
    | some next =>
      if target ∈ visited ∨ scope.aliasDepth ≤ visited.length then .error (visited ++ [target])
      else scope.follow fuel (visited ++ [target]) next

/-- What a name stands for, if it is an alias. Each step of the chain passes another
alias, so there are no more steps than aliases. -/
def resolve? (scope : Scope) (name : Text) : Except (List Text) (Option Text) :=
  match scope.aliases.get? name with
  | none => .ok none
  | some target => (scope.follow (scope.aliases.size + 1) [name] target).map some

end Conch.Scope
