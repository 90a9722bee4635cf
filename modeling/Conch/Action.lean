import Conch.Context
import Conch.Host.World
import Conch.Scope.Basic

/-!
Actions: what an evaluation does. An action starts in a session, which is a scope
and a world, and ends in another; it yields a value, fails, or does not finish
within the depth it was allowed. Besides, it leaves a trace: the commands that it
started, the paths that it looked for and the bytes that it wrote on each descriptor,
in order.

The trace of an action does not depend on what was written before it, and bytes
written on a descriptor can be taken out of the trace by whoever captures them.
-/

namespace Conch

/-- What follows an evaluation that succeeded. -/
inductive Flow where
  /-- The next statement. -/
  | proceed
  /-- Nothing: the shell is to end. -/
  | exit
  deriving DecidableEq, Repr

/-- Something that an action did. -/
inductive Event where
  /-- It started a built-in command or a program with arguments. -/
  | started (name : Text) (args : List Text)
  /-- It wrote bytes on a descriptor. -/
  | wrote (fd : Nat) (bytes : Bytes)
  /-- It wrote bytes on an output of the shell itself, where nobody captures them. -/
  | shown (fd : Nat) (bytes : Bytes)
  /-- It looked for a written path, seen from a directory. -/
  | sought (directory : Path) (written : Text)
  /-- The command that ends the shell succeeded. -/
  | exited
  /-- A failure arose. -/
  | failed
  deriving DecidableEq, Repr

/-- What an action did, in order. -/
abbrev Trace := List Event

namespace Trace

/-- The bytes that one event wrote on a descriptor. -/
def bytesOn (fd : Nat) : Event → Bytes
  | .wrote written bytes => if written = fd then bytes else []
  | _ => []

/-- Whether an event is a write on a descriptor. -/
def isOn (fd : Nat) : Event → Bool
  | .wrote written _ => written == fd
  | _ => false

/-- All bytes written on a descriptor. -/
def output (fd : Nat) (trace : Trace) : Bytes := trace.flatMap (bytesOn fd)

/-- All bytes written on an output of the shell itself. -/
def display (fd : Nat) (trace : Trace) : Bytes :=
  trace.flatMap fun
    | .shown written bytes => if written = fd then bytes else []
    | _ => []

/-- The trace without what was written on a descriptor. -/
def without (fd : Nat) (trace : Trace) : Trace := trace.filter (!isOn fd ·)

end Trace

/-- Where an action starts and ends. -/
structure Session where
  scope : Scope
  world : World

/-- How an action ends. -/
inductive Outcome (α : Type) where
  | done (value : α)
  | failed (error : ShellError)
  /-- It was nested deeper than it was allowed. -/
  | unfinished
  deriving DecidableEq, Repr

/-- An action that has been run. -/
structure Finished (α : Type) where
  outcome : Outcome α
  session : Session
  trace : Trace

/-- What can be run in a session. -/
def Action (α : Type) := Session → Finished α

namespace Action

variable {α β : Type}

/-- The action that does nothing. -/
def pure (value : α) : Action α := fun session => ⟨.done value, session, []⟩

/-- One action and then, if it yields a value, another. -/
def bind (first : Action α) (next : α → Action β) : Action β := fun session =>
  let a := first session
  match a.outcome with
  | .done value =>
    let b := next value a.session
    ⟨b.outcome, b.session, a.trace ++ b.trace⟩
  | .failed error => ⟨.failed error, a.session, a.trace⟩
  | .unfinished => ⟨.unfinished, a.session, a.trace⟩

instance : Monad Action where
  pure := pure
  bind := bind

/-- The action that fails. -/
def fail (error : ShellError) : Action α := fun session => ⟨.failed error, session, [.failed]⟩

/-- The action that does not finish. -/
def unfinished : Action α := fun session => ⟨.unfinished, session, []⟩

/-- A computed result as an action. -/
def ofExcept : Except ShellError α → Action α
  | .ok value => pure value
  | .error error => fail error

instance : MonadLift (Except ShellError) Action := ⟨ofExcept⟩

/-- The session at this moment. -/
def session : Action Session := fun session => ⟨.done session, session, []⟩

/-- The scope at this moment. -/
def scope : Action Scope := return (← session).scope

/-- The world at this moment. -/
def world : Action World := return (← session).world

/-- Goes on with another scope. -/
def setScope (scope : Scope) : Action Unit := fun session =>
  ⟨.done (), { session with scope := scope }, []⟩

/-- Goes on with another world. -/
def setWorld (world : World) : Action Unit := fun session =>
  ⟨.done (), { session with world := world }, []⟩

/-- Adds an event to the trace. -/
def emit (event : Event) : Action Unit := fun session => ⟨.done (), session, [event]⟩

/-- The same action with its failures changed. -/
def mapError (f : ShellError → ShellError) (action : Action α) : Action α := fun session =>
  let a := action session
  match a.outcome with
  | .failed error => ⟨.failed (f error), a.session, a.trace⟩
  | _ => a

/-- The same action with its failure as its value. -/
def attempt (action : Action α) : Action (Except ShellError α) := fun session =>
  let a := action session
  match a.outcome with
  | .done value => ⟨.done (.ok value), a.session, a.trace⟩
  | .failed error => ⟨.done (.error error), a.session, a.trace⟩
  | .unfinished => ⟨.unfinished, a.session, a.trace⟩

/-- The same action without what it writes on a descriptor, which comes with its
value instead. -/
def capture (fd : Nat) (action : Action α) : Action (α × Bytes) := fun session =>
  let a := action session
  let rest := Trace.without fd a.trace
  match a.outcome with
  | .done value => ⟨.done (value, Trace.output fd a.trace), a.session, rest⟩
  | .failed error => ⟨.failed error, a.session, rest⟩
  | .unfinished => ⟨.unfinished, a.session, rest⟩

/-- The same action with the channel of a number replaced while it runs. -/
def withChannel (number : Nat) (channel : Channel) (action : Action α) : Action α :=
  fun session =>
    let before := session.world.channels number
    let a := action { session with world := session.world.setChannel number channel }
    { a with session := { a.session with world := a.session.world.setChannel number before } }

/-- The same action as a function call: in a fresh frame with the given arguments.
However the call ends, the frame of the caller comes back and gets what the call
returned. -/
def call (args : List Text) (action : Action α) : Action α := fun session =>
  let caller := session.scope.frame
  let a := action { session with scope := session.scope.enterCall args }
  { a with session := { a.session with scope := a.session.scope.leaveCall caller } }

/-- Lets everything happen that is to happen by a time. -/
def arrive (time : Nat) : Action Unit := fun session =>
  let (world, written) := session.world.arrive time
  ⟨.done (), { session with world := world }, written.map fun (fd, bytes) => .shown fd bytes⟩

/-- Fails if the token of the context is cancelled. -/
def checkCancelled (ctx : Context) : Action Unit := do
  if (← world).tokens.isCancelled ctx.cancel then fail .cancelled

/-- Writes to an endpoint. -/
def tryWrite (endpoint : Endpoint) (bytes : Bytes) : Action (Except OsError Unit) := do
  match endpoint with
  | .outlet fd =>
    emit (.wrote fd bytes)
    return .ok ()
  | .standard fd =>
    emit (.shown fd bytes)
    return .ok ()
  | .channel number =>
    let w ← world
    match w.volume.write (w.channels number) bytes with
    | .ok (volume, channel) =>
      setWorld ({ w with volume := volume }.setChannel number channel)
      return .ok ()
    | .error error => return .error error
  | .terminal => return .error .badDescriptor

/-- Reads all that is left on an endpoint. -/
def tryRead (endpoint : Endpoint) : Action (Except OsError Bytes) := do
  let w ← world
  match endpoint with
  | .terminal =>
    let (bytes, terminal) := w.terminal.readAll
    setWorld { w with terminal := terminal }
    return .ok bytes
  | .channel number =>
    match w.volume.readAll (w.channels number) with
    | .ok (bytes, channel) =>
      setWorld (w.setChannel number channel)
      return .ok bytes
    | .error error => return .error error
  | .outlet _ | .standard _ => return .error .badDescriptor

/-- Writes to an endpoint, or fails. -/
def write (endpoint : Endpoint) (bytes : Bytes) : Action Unit := do
  match ← tryWrite endpoint bytes with
  | .ok () => return ()
  | .error error => fail (.io (.os error))

/-- Writes a text and a newline to an endpoint, or fails. -/
def writeLine (endpoint : Endpoint) (line : Text) : Action Unit :=
  write endpoint (line.utf8 ++ [10])

/-- Reads all that is left on an endpoint, or fails. -/
def read (endpoint : Endpoint) : Action Bytes := do
  match ← tryRead endpoint with
  | .ok bytes => return bytes
  | .error error => fail (.io (.os error))

end Action

end Conch
