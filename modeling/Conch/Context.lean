import Conch.Cancel
import Conch.Error.Basic

/-!
The context of an evaluation: what its descriptors are bound to, the token that
cancels it, and the aliases that are being expanded around it. Descriptors 0, 1
and 2 are always bound; descriptors from 3 on are bound one by one, with gaps.
-/

namespace Conch

/-- What a descriptor is bound to. -/
inductive Endpoint where
  /-- The input of the shell itself. -/
  | terminal
  /-- The channel with the given number. -/
  | channel (number : Nat)
  /-- The writing end that is known outside as the given descriptor. -/
  | outlet (fd : Nat)
  /-- The output of the shell itself that is known as the given descriptor. -/
  | standard (fd : Nat)
  deriving DecidableEq, Repr

/-- The descriptors and the surroundings of an evaluation. -/
structure Context where
  stdin : Endpoint := .terminal
  stdout : Endpoint := .outlet 1
  stderr : Endpoint := .outlet 2
  /-- The bindings of descriptors 3, 4 and so on. -/
  extra : List (Option Endpoint) := []
  cancel : CancelToken := 0
  /-- The aliases being expanded, which are not expanded again. -/
  expanding : List Text := []
  deriving DecidableEq, Repr

namespace Context

/-- The first descriptor that is not always bound. -/
def firstExtra : Nat := 3

/-- The context of a line that the shell itself evaluates. -/
def ofShell (token : CancelToken) : Context :=
  { stdout := .standard 1, stderr := .standard 2, cancel := token }

/-- The context with an extra descriptor bound to an endpoint. The list of extra
descriptors grows as far as the number asks for, without bound. On a machine it cannot: for numbers
from about `2 ^ 60` on its capacity overflows, and the shell stops. -/
def bind (ctx : Context) (fd : Nat) (endpoint : Endpoint) : Context :=
  let place := fd - firstExtra
  { ctx with
    extra :=
      if place < ctx.extra.length then ctx.extra.set place (some endpoint)
      else ctx.extra ++ List.replicate (place - ctx.extra.length) none ++ [some endpoint] }

/-- What an extra descriptor is bound to. -/
def extraEndpoint? (ctx : Context) (fd : Nat) : Option Endpoint :=
  if fd < firstExtra then none else (ctx.extra[fd - firstExtra]?).join

/-- What an extra descriptor is bound to, or a failure that names it. -/
def extraEndpoint (ctx : Context) (fd : Nat) : Except ShellError Endpoint :=
  match ctx.extraEndpoint? fd with
  | some endpoint => .ok endpoint
  | none => .error (.notBound fd ctx.extra.length)

/-- Where writes to a descriptor go. -/
def writer (ctx : Context) : Nat → Except ShellError Endpoint
  | 0 => .error (.usage .writeToInput)
  | 1 => .ok ctx.stdout
  | 2 => .ok ctx.stderr
  | fd => ctx.extraEndpoint fd

/-- Where reads from a descriptor come from. -/
def reader (ctx : Context) : Nat → Except ShellError Endpoint
  | 0 => .ok ctx.stdin
  | 1 => .error (.usage (.readFromOutput 1))
  | 2 => .error (.usage (.readFromOutput 2))
  | fd => ctx.extraEndpoint fd

/-- The context with an output descriptor bound to an endpoint. -/
def redirect (ctx : Context) (fd : Nat) (endpoint : Endpoint) : Except ShellError Context :=
  match fd with
  | 0 => .error (.usage .pipeFromInput)
  | 1 => .ok { ctx with stdout := endpoint }
  | 2 => .ok { ctx with stderr := endpoint }
  | fd => .ok (ctx.bind fd endpoint)

/-- The context in which an alias is being expanded. -/
def expand (ctx : Context) (name : Text) : Context :=
  { ctx with expanding := ctx.expanding ++ [name] }

/-- Whether an alias is being expanded. -/
def isExpanding (ctx : Context) (name : Text) : Bool := ctx.expanding.contains name

end Context

end Conch
