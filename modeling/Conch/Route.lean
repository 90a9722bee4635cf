import Conch.Error.Basic
import Conch.Text.Blank

/-!
Routes of a pipe. A route names the descriptor that the left side writes and the
descriptor on which the right side reads that. Routes are written `n` or `n:m`
with commas between them; a missing `m` is 0, the standard input.
-/

namespace Conch

/-- From what the left side writes to what the right side reads. -/
structure Route where
  /-- The descriptor that the left side writes. -/
  source : Nat
  /-- The descriptor that the right side reads. -/
  target : Nat
  deriving DecidableEq, Repr

namespace Route

/-- Standard output to standard input. -/
def standard : List Route := [⟨1, 0⟩]

/-- Reads a descriptor, which may have blanks around it. -/
def descriptor (part : Text) : Except RouteFault Nat :=
  match Text.toNat? (Text.trim part) with
  | some fd => .ok fd
  | none => .error (.notADescriptor part)

/-- The two sides of a written route; the right one may be missing. -/
def sides (part : Text) : Text × Option Text :=
  match Text.cut? ':' part with
  | some (source, target) => (source, some target)
  | none => (part, none)

/-- Reads one route. -/
def ofPart (part : Text) : Except RouteFault Route := do
  let source ← descriptor (sides part).1
  let target ← ((sides part).2.map descriptor).getD (.ok 0)
  if source = 0 then throw .fromInput
  if target = 1 ∨ target = 2 then throw .toOutput
  return ⟨source, target⟩

/-- Reads the routes in order. -/
def parse (spec : Text) : Except ShellError (List Route) :=
  ((spec.splitOnP (· == ',')).mapM ofPart).mapError fun fault => .usage (.badRoute spec fault)

end Route

end Conch
