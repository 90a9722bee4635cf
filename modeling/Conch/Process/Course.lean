import Conch.Action

/-!
Courses: what a process does, up to where it depends on others. A course starts in a
session as an action does. It comes to its end, or it stops with a request: to let
time pass, to use a pipe, to wait for a process or to send it a signal, or to start
one. Whoever runs the course answers, and the course goes on in the session of that
moment, which others may have changed.
-/

namespace Conch.Process

/-- How a process ends. -/
inductive Status where
  | exited (code : Nat)
  /-- Ended by the signal of the given number. -/
  | killed (signal : Nat)
  deriving DecidableEq, Repr

/-- The status of a process that did its work. -/
def Status.success : Status := .exited 0

/-- The status of a process that did not. -/
def Status.failure : Status := .exited 1

/-- The success or the failure of a process. -/
def Status.ofBool (succeeded : Bool) : Status := if succeeded then success else failure

/-- What a descriptor of a process is bound to. -/
inductive Handle where
  /-- Something that the shell knows as well. -/
  | shared (endpoint : Endpoint)
  /-- The reading end of a pipe between processes. -/
  | reading (pipe : Nat)
  /-- The writing end of a pipe between processes. -/
  | writing (pipe : Nat)
  deriving DecidableEq, Repr

/-- What others have to know about a process that waits. -/
structure Stance where
  /-- What its descriptors are bound to. -/
  handles : List Handle := []
  /-- The signals of which it wants to be told. -/
  caught : List Nat := []
  /-- The signals that do not reach it. -/
  ignored : List Nat := []
  deriving DecidableEq, Repr

/-- How much is read at once. -/
inductive Portion where
  /-- At most so many bytes. -/
  | block (count : Nat)
  /-- What there is of a line, with its newline. -/
  | line
  deriving DecidableEq, Repr

/-- What a process may ask for. -/
inductive Request where
  /-- That time passes. -/
  | pause (milliseconds : Nat)
  /-- Bytes of a pipe, at least one unless it is at its end. -/
  | read (pipe : Nat) (portion : Portion)
  /-- That bytes are put into a pipe. -/
  | write (pipe : Nat) (bytes : Bytes)
  /-- That a process ends; a signal may come first if the process is `alert`. -/
  | await (process : Nat) (alert : Bool)
  /-- Whether a process has ended. -/
  | poll (process : Nat)
  /-- That a signal is sent to a process. -/
  | send (process signal : Nat)
  deriving DecidableEq, Repr

/-- What is answered to a request. -/
inductive Answer where
  | done
  /-- There is nobody on the other side, or a signal came first. -/
  | refused
  /-- What was read; nothing at the end of a pipe. -/
  | bytes (bytes : Bytes)
  | ended (status : Status)
  deriving DecidableEq, Repr

/-- An answer, and the signals that have arrived meanwhile. -/
structure Reply where
  answer : Answer
  signals : List Nat := []
  deriving DecidableEq, Repr

/-- The course of a whole process. -/
inductive Life where
  | ended (outcome : Outcome Status) (session : Session) (trace : Trace)
  | waits (stance : Stance) (request : Request) (session : Session) (trace : Trace)
    (resume : Reply → Session → Life)
  /-- Starts a process, which is told its number, and goes on with that number. -/
  | forks (stance : Stance) (child : Nat → Session → Life) (session : Session) (trace : Trace)
    (resume : Nat → Session → Life)

/-- How far a course has come. -/
inductive Progress (α : Type) where
  | ended (outcome : Outcome α) (session : Session) (trace : Trace)
  | waits (stance : Stance) (request : Request) (session : Session) (trace : Trace)
    (resume : Reply → Session → Progress α)
  | forks (stance : Stance) (child : Nat → Session → Life) (session : Session) (trace : Trace)
    (resume : Nat → Session → Progress α)

/-- What a process does in a session. -/
def Course (α : Type) := Session → Progress α

namespace Progress

variable {α β : Type}

/-- The same progress behind a trace. -/
def behind (before : Trace) : Progress α → Progress α
  | .ended outcome session trace => .ended outcome session (before ++ trace)
  | .waits stance request session trace resume =>
    .waits stance request session (before ++ trace) resume
  | .forks stance child session trace resume =>
    .forks stance child session (before ++ trace) resume

/-- The progress of a course that goes on with another one. -/
def bind (next : α → Course β) : Progress α → Progress β
  | .ended (.done value) session trace => (next value session).behind trace
  | .ended (.failed error) session trace => .ended (.failed error) session trace
  | .ended .unfinished session trace => .ended .unfinished session trace
  | .waits stance request session trace resume =>
    .waits stance request session trace fun reply session => (resume reply session).bind next
  | .forks stance child session trace resume =>
    .forks stance child session trace fun number session => (resume number session).bind next

/-- The progress of a whole process. -/
def toLife : Progress Status → Life
  | .ended outcome session trace => .ended outcome session trace
  | .waits stance request session trace resume =>
    .waits stance request session trace fun reply session => (resume reply session).toLife
  | .forks stance child session trace resume =>
    .forks stance child session trace fun number session => (resume number session).toLife

end Progress

namespace Course

variable {α β : Type}

/-- The course that does nothing. -/
def pure (value : α) : Course α := fun session => .ended (.done value) session []

/-- One course and then, if it yields a value, another. -/
def bind (first : Course α) (next : α → Course β) : Course β := fun session =>
  (first session).bind next

instance : Monad Course where
  pure := pure
  bind := bind

/-- An action as a course, which never stops. -/
def ofAction (action : Action α) : Course α := fun session =>
  let a := action session
  .ended a.outcome a.session a.trace

instance : MonadLift Action Course := ⟨ofAction⟩

instance : Coe (Action α) (Course α) := ⟨ofAction⟩

/-- Stops with a request. -/
def ask (stance : Stance) (request : Request) : Course Reply := fun session =>
  .waits stance request session [] fun reply session => .ended (.done reply) session []

/-- Starts a process with its stance, and yields its number. -/
def fork (stance : Stance) (child : Nat → Course Status) : Course Nat := fun session =>
  .forks stance (fun number session => (child number session).toLife) session []
    fun number session => .ended (.done number) session []

/-- The traces of rounds, latest first, as one. -/
def together (traces : List Trace) : Trace := traces.reverse.flatten

/-- At most `fuel` rounds of a course, behind rounds whose traces are given, latest
first. -/
def rounds (round : β → Course (β ⊕ α)) : Nat → β → List Trace → Course α
  | 0, _, traces => fun session => .ended .unfinished session (together traces)
  | fuel + 1, start, traces => fun session =>
    let goOn : β ⊕ α → Course α
      | .inl next => rounds round fuel next []
      | .inr value => pure value
    match round start session with
    | .ended (.done (.inl next)) session trace => rounds round fuel next (trace :: traces) session
    | .ended (.done (.inr value)) session trace =>
      .ended (.done value) session (together (trace :: traces))
    | .ended (.failed error) session trace =>
      .ended (.failed error) session (together (trace :: traces))
    | .ended .unfinished session trace => .ended .unfinished session (together (trace :: traces))
    | .waits stance request session trace resume =>
      .waits stance request session (together (trace :: traces)) fun reply session =>
        (resume reply session).bind goOn
    | .forks stance child session trace resume =>
      .forks stance child session (together (trace :: traces)) fun number session =>
        (resume number session).bind goOn

/-- Rounds of a course, each of which goes on from what the one before yields, until
one yields the value. -/
def iterate (round : β → Course (β ⊕ α)) (fuel : Nat) (start : β) : Course α :=
  rounds round fuel start []

end Course

end Conch.Process
