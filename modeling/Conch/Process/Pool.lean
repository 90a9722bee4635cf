import Conch.Process.Course

/-!
Processes side by side. One process runs until it has to wait; then the one that has
been able to go on for the longest time does, in the working directory that it had.
A process that was just started is able to go on, but whoever started it goes on first.
Only when no process can go on does time pass.

Whoever started the first process waits for its end, and for the end of all others
that may write where it reads. Others that are left then go on later; what they will
do is foreseen, as far as that is possible.

Pipes between processes hold a limited number of bytes. Reading from an empty pipe
waits as long as a process holds its writing end. Writing to a full pipe waits, and
writing to a pipe whose reading end nobody holds ends the process by a signal.
-/

namespace Conch.Process

/-! ### Signals -/

/-- The signal that ends every process. -/
def killSignal : Nat := 9

/-- The signal that ends a process that writes for nobody. -/
def pipeSignal : Nat := 13

/-- The signals that do nothing to a process that does not catch them. -/
def harmlessSignals : List Nat := [17, 18, 19, 20, 21, 22, 23, 28]

/-- What a signal does to a process. -/
inductive Effect where
  | nothing
  | tells
  | ends
  deriving DecidableEq, Repr

/-- What a signal does to a process with a stance. Signal 0 only asks whether the
process is there. -/
def Stance.effect (stance : Stance) (signal : Nat) : Effect :=
  if signal = 0 then .nothing
  else if signal = killSignal then .ends
  else if stance.ignored.contains signal then .nothing
  else if stance.caught.contains signal then .tells
  else if harmlessSignals.contains signal then .nothing
  else .ends

/-! ### Pipes -/

/-- The bytes in a pipe. -/
structure Pipe where
  /-- Those that are read first. -/
  front : Bytes := []
  /-- Those behind them as they were written, latest first. -/
  back : List Bytes := []
  /-- The number of all bytes. -/
  size : Nat := 0
  deriving DecidableEq, Repr

namespace Pipe

/-- The number of bytes that a pipe holds. -/
def capacity : Nat := 65536

/-- Puts bytes into a pipe. -/
def add (pipe : Pipe) (bytes : Bytes) : Pipe :=
  { pipe with back := bytes :: pipe.back, size := pipe.size + bytes.length }

/-- A portion of bytes. -/
def portion (bytes : Bytes) : Portion → Bytes
  | .block count => bytes.take count
  | .line => bytes.takeWhile (· != 10) ++ (bytes.dropWhile (· != 10)).take 1

/-- Takes bytes out of a pipe. -/
def take (pipe : Pipe) (portion : Portion) : Bytes × Pipe :=
  let front := if pipe.front.isEmpty then pipe.back.reverse.flatten else pipe.front
  let back := if pipe.front.isEmpty then [] else pipe.back
  let taken := Pipe.portion front portion
  (taken, { front := front.drop taken.length, back := back, size := pipe.size - taken.length })

end Pipe

/-! ### Processes -/

/-- A process that waits for an answer. -/
structure Member where
  number : Nat
  stance : Stance
  request : Request
  resume : Reply → Session → Life
  /-- Its working directory. -/
  directory : Path
  /-- When the time that it lets pass is over. -/
  due : Nat := 0
  /-- The signals that it was not yet told of. -/
  signals : List Nat := []

/-- All processes, and what is between them. -/
structure Pool where
  /-- The processes that may go on, in their order. -/
  ready : List Member := []
  /-- The processes that wait. -/
  blocked : List Member := []
  pipes : List (Nat × Pipe) := []
  /-- How processes have ended. -/
  ended : List (Nat × Status) := []
  /-- The number of the next process. -/
  next : Nat
  /-- What the processes did, latest first. -/
  traces : List Trace := []

namespace Pool

/-- Whether a process holds something. -/
def holds (pool : Pool) (handle : Handle) : Bool :=
  let holder (member : Member) : Bool := member.stance.handles.contains handle
  pool.ready.any holder || pool.blocked.any holder

/-- A pipe by its number. -/
def pipe (pool : Pool) (number : Nat) : Pipe := (pool.pipes.lookup number).getD {}

/-- The pool with other bytes in a pipe. -/
def setPipe (pool : Pool) (number : Nat) (pipe : Pipe) : Pool :=
  { pool with pipes := (number, pipe) :: pool.pipes.filter (·.1 ≠ number) }

/-- A process by its number. -/
def member? (pool : Pool) (number : Nat) : Option Member :=
  (pool.ready.find? (·.number == number)).or (pool.blocked.find? (·.number == number))

/-- The pool with a process changed. -/
def modify (pool : Pool) (number : Nat) (change : Member → Member) : Pool :=
  let change (member : Member) : Member := if member.number = number then change member else member
  { pool with ready := pool.ready.map change, blocked := pool.blocked.map change }

/-- The pool in which a process has ended. -/
def finish (pool : Pool) (number : Nat) (status : Status) : Pool :=
  { pool with
    ready := pool.ready.filter (·.number ≠ number)
    blocked := pool.blocked.filter (·.number ≠ number)
    ended := (number, status) :: pool.ended }

/-- Sends a signal to a process, if it is there. -/
def send (pool : Pool) (number signal : Nat) : Answer × Pool :=
  match pool.member? number with
  | some member =>
    match member.stance.effect signal with
    | .nothing => (.done, pool)
    | .tells =>
      (.done, pool.modify number fun member =>
        { member with signals := member.signals ++ [signal] })
    | .ends => (.done, pool.finish number (.killed signal))
  | none => (.refused, pool)

/-- What becomes of a request. -/
inductive Service where
  /-- It is answered. -/
  | answered (reply : Reply) (left : List Nat) (pool : Pool)
  /-- It has to wait. -/
  | waits (member : Member) (pool : Pool)
  /-- It ends the process. -/
  | kills (signal : Nat)

/-- Serves the request of a process that is not itself in the pool. -/
def serve (pool : Pool) (clock : Nat) (member : Member) : Service :=
  match member.request with
  | .pause _ =>
    if member.due ≤ clock then .answered ⟨.done, member.signals⟩ [] pool
    else .waits member pool
  | .read number portion =>
    let pipe := pool.pipe number
    if 0 < pipe.size then
      let (taken, pipe) := pipe.take portion
      .answered ⟨.bytes taken, []⟩ member.signals (pool.setPipe number pipe)
    else if pool.holds (.writing number) then .waits member pool
    else .answered ⟨.bytes [], []⟩ member.signals pool
  | .write number bytes =>
    if pool.holds (.reading number) || member.stance.handles.contains (.reading number) then
      let pipe := pool.pipe number
      let room := Pipe.capacity - pipe.size
      if bytes.length ≤ room then
        .answered ⟨.done, member.signals⟩ [] (pool.setPipe number (pipe.add bytes))
      else if room = 0 then .waits member pool
      else
        .waits { member with request := .write number (bytes.drop room) }
          (pool.setPipe number (pipe.add (bytes.take room)))
    else
      match member.stance.effect pipeSignal with
      | .nothing => .answered ⟨.refused, member.signals⟩ [] pool
      | .tells => .answered ⟨.refused, member.signals ++ [pipeSignal]⟩ [] pool
      | .ends => .kills pipeSignal
  | .await number alert =>
    if alert && !member.signals.isEmpty then .answered ⟨.refused, member.signals⟩ [] pool
    else
      match pool.ended.lookup number, pool.member? number with
      | some status, _ => .answered ⟨.ended status, member.signals⟩ [] pool
      | none, some _ => .waits member pool
      | none, none => .answered ⟨.refused, member.signals⟩ [] pool
  | .poll number =>
    match pool.ended.lookup number with
    | some status => .answered ⟨.ended status, member.signals⟩ [] pool
    | none => .answered ⟨.refused, member.signals⟩ [] pool
  | .send number signal =>
    let (answer, pool) := pool.send number signal
    .answered ⟨answer, member.signals⟩ [] pool

/-- Whether a process that waits may go on. -/
def mayGoOn (pool : Pool) (clock : Nat) (member : Member) : Bool :=
  match member.request with
  | .write number _ =>
    (pool.pipe number).size < Pipe.capacity || !pool.holds (.reading number)
  | .read number _ =>
    let others := { pool with blocked := pool.blocked.filter (·.number ≠ member.number) }
    0 < (pool.pipe number).size || !others.holds (.writing number)
  | _ =>
    match pool.serve clock member with
    | .waits .. => false
    | _ => true

/-- Lets go on all processes that may. -/
def wake (pool : Pool) (clock : Nat) : Pool :=
  { pool with
    ready := pool.ready ++ pool.blocked.filter (pool.mayGoOn clock)
    blocked := pool.blocked.filter (!pool.mayGoOn clock ·) }

/-- The pool behind a trace. -/
def add (pool : Pool) (trace : Trace) : Pool :=
  if trace.isEmpty then pool else { pool with traces := trace :: pool.traces }

/-- What a process that runs has come to. -/
structure Turn where
  pool : Pool
  session : Session
  /-- Whether a process failed in a way that no process may. -/
  broken : Bool := false

/-- Runs a process until it ends or has to wait. `signals` are those that it was not yet
told of. -/
def follow (number : Nat) (signals : List Nat) (pool : Pool) : Life → Turn
  | .ended (.done status) session trace => ⟨(pool.add trace).finish number status, session, false⟩
  | .ended _ session trace => ⟨pool.add trace, session, true⟩
  | .forks stance child session trace resume =>
    let start : Member :=
      { number := pool.next
        stance := stance
        request := .pause 0
        resume := fun _ session => child pool.next session
        directory := session.world.directory }
    let after := { pool with next := pool.next + 1, ready := pool.ready ++ [start] }
    follow number signals (after.add trace) (resume pool.next session)
  | .waits stance request session trace resume =>
    let clock := session.world.clock
    let due := match request with
      | .pause milliseconds => clock + milliseconds
      | _ => clock
    let member : Member :=
      { number, stance, request, resume, due, signals, directory := session.world.directory }
    match (pool.add trace).serve clock member with
    | .answered reply left pool => follow number left pool (resume reply session)
    | .waits member pool => ⟨{ pool with blocked := pool.blocked ++ [member] }, session, false⟩
    | .kills signal => ⟨(pool.add trace).finish number (.killed signal), session, false⟩

/-- The session in which a process goes on. -/
def sessionOf (member : Member) (session : Session) : Session :=
  { session with world := { session.world with directory := member.directory } }

/-- Gives a process its turn. -/
def turn (pool : Pool) (member : Member) (session : Session) : Turn :=
  match pool.serve session.world.clock member with
  | .answered reply left pool =>
    follow member.number left pool (member.resume reply (sessionOf member session))
  | .waits member pool => ⟨{ pool with blocked := pool.blocked ++ [member] }, session, false⟩
  | .kills signal => ⟨pool.finish member.number (.killed signal), session, false⟩

/-- Whether a process holds something on which the shell reads to its end. -/
def isAttached (member : Member) : Bool :=
  member.stance.handles.any fun handle => handle matches .shared (.outlet _)

/-- Whether a process holds an output of the shell itself. -/
def holdsOutput (member : Member) : Bool :=
  member.stance.handles.any fun handle => handle matches .shared (.standard _)

/-- When the next process may go on, if none may now. -/
def nextDue? (pool : Pool) : Option Nat :=
  (pool.blocked.filterMap fun member =>
    match member.request with
    | .pause _ => some member.due
    | _ => none).min?

/-- What is known about the time to come. -/
structure Foresight where
  /-- What will happen, latest first. -/
  changes : List (Nat × Change) := []
  /-- How long a process holds an output of the shell itself. -/
  heldUntil : Nat := 0

/-- What a turn of a process did. -/
def changesOf (before : Volume) (after : Turn) : List Change :=
  let shown : Event → Option Change
    | .shown fd bytes => some (.shown fd bytes)
    | _ => none
  after.pool.traces.reverse.flatten.filterMap shown ++
    Change.between before after.session.world.volume

/-- Foresees at most `fuel` turns of processes, of which at most `spare` come when none
of them holds an output of the shell itself. -/
def foresee : Nat → Nat → Pool → Session → Foresight → Foresight
  | 0, _, _, _, found => found
  | fuel + 1, spare, pool, session, found =>
    let clock := session.world.clock
    let isHeld := pool.ready.any holdsOutput || pool.blocked.any holdsOutput
    let found := if isHeld then { found with heldUntil := clock } else found
    let spare := if isHeld then spare else spare - 1
    if spare = 0 then found
    else
      match pool.ready with
      | member :: rest =>
        let after := turn { pool with ready := rest, traces := [] } member session
        let changes := (changesOf session.world.volume after).map (clock, ·)
        let found := { found with changes := changes.reverse ++ found.changes }
        if after.broken then found
        else foresee fuel spare (after.pool.wake clock) after.session found
      | [] =>
        match pool.nextDue? with
        | none => found
        | some due =>
          let session := { session with world := { session.world with clock := due } }
          foresee fuel spare (pool.wake due) session found

/-- The largest number of turns. -/
def turnLimit : Nat := 1000000000

/-- The largest number of turns that are foreseen of processes to which nobody
listens. -/
def spareLimit : Nat := 400

/-- The session in which the processes that are left will go on. -/
def leave (pool : Pool) (session : Session) : Session :=
  if pool.ready.isEmpty && pool.blocked.isEmpty then session
  else
    let found := foresee turnLimit spareLimit pool session {}
    { session with world := session.world.expect found.changes.reverse found.heldUntil }

/-- The end of a run. -/
def close (pool : Pool) (outcome : Outcome Status) (session : Session) (last : Trace) :
    Finished Status :=
  ⟨outcome, session, (last :: pool.traces).reverse.flatten⟩

/-- Runs processes until the one with the number `main` has ended, no other may go on at
once and none is attached, for at most `fuel` turns. A token that is cancelled while
`main` runs ends it. -/
def run (main : Nat) (token : CancelToken) : Nat → Pool → Session → Finished Status
  | 0, pool, session => pool.close .unfinished session []
  | fuel + 1, pool, session =>
    let result := pool.ended.lookup main
    match pool.ready, result, pool.blocked.any isAttached, pool.nextDue? with
    | member :: rest, _, _, _ =>
      let after := turn { pool with ready := rest } member session
      if after.broken then after.pool.close .unfinished after.session []
      else run main token fuel (after.pool.wake after.session.world.clock) after.session
    | [], some status, false, _ => pool.close (.done status) (pool.leave session) []
    | [], some status, true, none => pool.close (.done status) session []
    | [], none, _, none => pool.close .unfinished session []
    | [], result, _, some due =>
      let world := session.world.wait token (due - session.world.clock)
      let a := Action.arrive world.clock { session with world := world }
      let pool := pool.add a.trace
      if result.isNone && world.tokens.isCancelled token then
        let others := (pool.finish main (.killed killSignal)).wake world.clock
        pool.close (.failed .cancelled) (others.leave a.session) [.failed]
      else run main token fuel (pool.wake world.clock) a.session

end Pool

/-- The number of the first process. -/
def firstProcess : Nat := 4000

/-- Runs a process and all that it starts, until it has ended and nobody is left who
may write to the shell. -/
def alone (token : CancelToken) (course : Nat → Course Status) : Action Status := fun session =>
  let begun := (course firstProcess session).toLife
  let after := Pool.follow firstProcess [] { next := firstProcess + 1 } begun
  if after.broken then after.pool.close .unfinished after.session []
  else
    let pool := after.pool.wake after.session.world.clock
    Pool.run firstProcess token Pool.turnLimit pool after.session

end Conch.Process
