import Conch.Process.Pool
import Conch.Program.Table

/-!
Running a program for the shell. Its descriptors are those of the context. Input
that the shell holds in memory is used up, whether the program reads it or not;
of the input of the shell itself, what the program leaves stays.

A program sees and changes the world but no names of the shell and none of its cancel
tokens, and the trace of the shell shows of it what it writes.

What becomes of a program when it is started is not for the shell to say: whoever runs the
shell gives it a launcher. The launcher `start` runs the programs that there are in this
library.
-/

namespace Conch.Process

/-- The same action without the names of the shell, which it leaves as they are. -/
def withoutNames {α : Type} (action : Action α) : Action α := fun session =>
  let a := action { session with scope := { aliasDepth := 0 } }
  { a with session := { a.session with scope := session.scope } }

/-- The world `after` with the tokens of the world `before`. If the alarm has gone off
since then, its token is cancelled. -/
def withTokensOf (before after : World) : World :=
  match before.alarm, after.alarm with
  | some (_, token), none => { after with tokens := before.tokens.cancel token, alarm := none }
  | alarm, _ => { after with tokens := before.tokens, alarm := alarm }

/-- The same action without a hold on the cancel tokens. While it runs, nothing but the
alarm cancels one. -/
def withoutTokens {α : Type} (action : Action α) : Action α := fun session =>
  let a := action session
  { a with session := { a.session with world := withTokensOf session.world a.session.world } }

/-- The same action, which fails only because it was cancelled. -/
def cancellable {α : Type} (action : Action α) : Action α :=
  Action.mapError (fun _ => .cancelled) action

/-- Whether an event is a write. -/
def isWrite : Event → Bool
  | .wrote .. | .shown .. => true
  | _ => false

/-- The same action with nothing in its trace but what it writes, and its failure. -/
def showingWrites {α : Type} (action : Action α) : Action α := fun session =>
  let a := action session
  let failure : Trace :=
    match a.outcome with
    | .failed _ => [.failed]
    | _ => []
  { a with trace := a.trace.filter isWrite ++ failure }

/-- The same action with the working directory kept. -/
def keepingDirectory {α : Type} (action : Action α) : Action α := fun session =>
  let a := action session
  { a with
    session := { a.session with
      world := { a.session.world with directory := session.world.directory } } }

/-- The same action with all channels from a number on as they were before it. It may
make channels from that number on. -/
def releasing {α : Type} (number : Nat) (action : Action α) : Action α := fun session =>
  let before := session.world
  let a := action { session with world := { before with nextChannel := number } }
  let after := a.session.world
  { a with
    session := { a.session with
      world := { after with
        channels := fun n => if n < number then after.channels n else before.channels n
        nextChannel := before.nextChannel } } }

/-- The number by which an endpoint is known. -/
def endpointNumber : Endpoint → Nat
  | .terminal => 0
  | .channel number => number
  | .outlet fd | .standard fd => fd

/-- A number above those of all given endpoints. -/
def freshNumber (endpoints : List (Nat × Endpoint)) : Nat :=
  endpoints.foldl (fun most binding => max most (endpointNumber binding.2 + 1)) 0

/-- The descriptors of a program that is run in a context, with its input bound to an
endpoint. -/
def endpointsOf (ctx : Context) (input : Endpoint) : List (Nat × Endpoint) :=
  [(0, input), (1, ctx.stdout), (2, ctx.stderr)] ++
    (ctx.extra.mapIdx fun place endpoint =>
      (endpoint.map (place + Context.firstExtra, ·)).toList).flatten

/-- Runs a program on input from memory, and yields what it did not read. -/
def feed {α : Type} (ctx : Context) (bytes : Bytes) (run : Endpoint → Action α) :
    Action (α × Bytes) := do
  let number := freshNumber (endpointsOf ctx .terminal)
  Action.withChannel number (.pipe bytes) do
    let value ← run (.channel number)
    match (← Action.world).channels number with
    | .pipe unread => return (value, unread)
    | .file .. => return (value, [])

/-- Runs a program on the input of a context. -/
def withInput {α : Type} (ctx : Context) (run : Endpoint → Action α) : Action α := do
  let w ← Action.world
  match ctx.stdin with
  | .terminal =>
    Action.setWorld { w with terminal := { w.terminal with waiting := [] } }
    let (value, unread) ← feed ctx w.terminal.waiting run
    let w ← Action.world
    Action.setWorld { w with terminal := { w.terminal with waiting := unread } }
    return value
  | .channel number =>
    match w.channels number with
    | .pipe bytes =>
      Action.setWorld (w.setChannel number (.pipe []))
      let (value, _) ← feed ctx bytes run
      return value
    | .file .. => run (.channel number)
  | output => run output

/-- How a program is started in a context, by its name and its arguments and with its input bound
to an endpoint, and waited for. -/
abbrev Launcher := Context → Text → List Text → Endpoint → Action (Except ProcessFault Status)

/-- Whether a text holds the character with code zero, which no argument can. -/
def holdsNul (text : Text) : Bool := text.contains (Char.ofNat 0)

/-- Variables as a program sees them. -/
def octetTable (environment : Table Text) : Table Text :=
  environment.entries.foldl
    (fun table (name, value) => table.insert (Octets.ofText name) (Octets.ofText value)) .empty

/-- Starts one of the programs that there are. -/
def start : Launcher := fun ctx name args input => do
  if (name :: args).any holdsNul then return .error .nulInArgument
  let endpoints := endpointsOf ctx input
  let w ← Action.world
  let task : Task :=
    { name := Octets.ofText name
      number := firstProcess
      handles := endpoints.map fun (fd, endpoint) => (fd, .shared endpoint)
      environment := octetTable w.environment }
  match Program.start Program.depthLimit w task task.name (args.map Octets.ofText) with
  | .ok program => return .ok (← releasing (freshNumber endpoints) (alone ctx.cancel program))
  | .error error => return .error (.os error)

/-- Runs a program by name, which has to do its work. -/
def launch (launcher : Launcher) (ctx : Context) (name : Text) (args : List Text) :
    Action Unit := do
  Action.checkCancelled ctx
  let run := keepingDirectory (withInput ctx (launcher ctx name args))
  match ← showingWrites (withoutNames (withoutTokens (cancellable run))) with
  | .ok (.exited 0) => return ()
  | .ok (.exited code) => Action.fail (.process name (.status code))
  | .ok (.killed _) => Action.fail (.process name .signal)
  | .error (.os .noSuchFile) => Action.fail (.commandNotFound name)
  | .error fault => Action.fail (.process name fault)

end Conch.Process
