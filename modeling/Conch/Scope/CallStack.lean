import Conch.Scope.Basic

/-!
A stack of function calls: the scope of the innermost call, and the frames of the
calls that wait for it. Aliases and global variables belong to the whole stack.
-/

namespace Conch

/-- The calls that are under way. -/
structure CallStack where
  /-- The scope of the innermost call. -/
  scope : Scope
  /-- The frames of its callers, the nearest first. -/
  callers : List Frame := []

namespace CallStack

/-- The number of frames. -/
def height (stack : CallStack) : Nat := stack.callers.length + 1

/-- Enters a call. -/
def enter (stack : CallStack) (args : List Text) : CallStack :=
  ⟨stack.scope.enterCall args, stack.scope.frame :: stack.callers⟩

/-- Leaves the innermost call unless it is the last frame; what the call returned is
published only if `publish` says so. -/
def leave (stack : CallStack) (publish : Bool) : CallStack :=
  match stack.callers with
  | [] => stack
  | caller :: callers =>
    if publish then ⟨stack.scope.leaveCall caller, callers⟩
    else ⟨{ stack.scope with frame := caller }, callers⟩

end CallStack

end Conch
