import Conch.Proofs.Launching

/-!
Programs that only write. Such a program does not look at what its output is bound to, so a direct
run follows a captured one where both start it. It never waits, so it runs by itself to its end
(`Process.alone_eq`), and all that it does are actions (`SimCourse`).

* `Program.find_congr`: a program is found alike in worlds that differ in a path past which it is
  not looked for;
* `writesAlike_printf`: the program that writes formatted output only writes, whatever its
  arguments;
* `indifferent_of_findsWriter`: a program that only writes is indifferent to a sink, wherever it
  is started and its search does not lead past the sink.
-/

namespace Conch

/-! ### Finding programs -/

namespace Program

/-- The paths at which a program is looked for, with the directories on the way. -/
def ways (w : World) (directories : List Text) (name : Text) : List Path :=
  if name.contains '/' then Volume.wayOf w.directory (Octets.toText name)
  else directories.flatMap fun directory =>
    Volume.wayOf w.directory
      (Octets.toText (if directory.isEmpty then name else directory ++ "/" ++ name))

variable {skip : Option Path} {w other : World}

theorem programAt_congr (hvolume : w.volume.leavingOut skip = other.volume.leavingOut skip)
    (hdirectory : w.directory = other.directory) {path : Text}
    (hway : ∀ place ∈ Volume.wayOf other.directory (Octets.toText path), some place ≠ skip) :
    programAt w path = programAt other path := by
  rw [programAt, programAt, hdirectory, Volume.locate_congr hvolume hway]

theorem findIn_congr (hvolume : w.volume.leavingOut skip = other.volume.leavingOut skip)
    (hdirectory : w.directory = other.directory) {directories : List Text} {name : Text}
    (hslash : name.contains '/' = false)
    (hways : ∀ place ∈ ways other directories name, some place ≠ skip) (found : OsError) :
    findIn w name found directories = findIn other name found directories := by
  rw [ways, hslash, if_neg (by decide)] at hways
  induction directories generalizing found with
  | nil => rfl
  | cons directory rest ih =>
      rw [List.flatMap_cons, List.forall_mem_append] at hways
      obtain ⟨hway, hrest⟩ := hways
      unfold findIn
      rw [programAt_congr hvolume hdirectory hway]
      cases programAt other (if directory.isEmpty then name else directory ++ "/" ++ name) with
      | ok located => rfl
      | error error =>
          cases error with
          | noSuchFile => exact ih hrest found
          | notADirectory => exact ih hrest found
          | permissionDenied => exact ih hrest .permissionDenied
          | _ => rfl

/-- A program is found alike where it is not looked for past the path that is left out. -/
theorem find_congr (hvolume : w.volume.leavingOut skip = other.volume.leavingOut skip)
    (hdirectory : w.directory = other.directory) {directories : List Text} {name : Text}
    (hways : ∀ place ∈ ways other directories name, some place ≠ skip) :
    find w directories name = find other directories name := by
  unfold find
  cases hslash : name.contains '/' with
  | true =>
      rw [ways, hslash, if_pos rfl] at hways
      simp only [if_true, programAt_congr hvolume hdirectory hways]
  | false =>
      simp only [Bool.false_eq_true, if_false, findIn_congr hvolume hdirectory hslash hways]

variable {depth : Nat} {task : Process.Task} {name : Text} {args : List Text}

theorem start_of_missing {error : OsError}
    (h : find w (searchPath task.environment) name = .error error) :
    start (depth + 1) w task name args = .error error := by
  simp only [start, h, Bind.bind, Except.bind]

theorem start_of_unfit {located : Located}
    (h : find w (searchPath task.environment) name = .ok located)
    (hfits : fits located.path name args task.environment = false) :
    start (depth + 1) w task name args = .error .argumentsTooLong := by
  simp only [start, h, Bind.bind, Except.bind, hfits]
  rfl

theorem start_of_fits {located : Located}
    (h : find w (searchPath task.environment) name = .ok located)
    (hfits : fits located.path name args task.environment = true) :
    start (depth + 1) w task name args = .ok fun number =>
      ofName (start depth) located.program { task with name := name, number := number } args := by
  simp only [start, h, Bind.bind, Except.bind, hfits]
  rfl

end Program

/-! ### Programs that never wait -/

namespace Process

variable {α β : Type}

theorem Course.ofAction_bind (a : Action α) (next : α → Action β) :
    (Course.ofAction a >>= fun value => Course.ofAction (next value)) =
      Course.ofAction (a >>= next) := by
  funext s
  show (Progress.ended (a s).outcome (a s).session (a s).trace).bind _ =
    .ended ((a >>= next) s).outcome ((a >>= next) s).session ((a >>= next) s).trace
  cases houtcome : (a s).outcome with
  | done value => rw [Action.bind_of_done houtcome]; rfl
  | failed error => rw [Action.bind_of_failed houtcome]; rfl
  | unfinished => rw [Action.bind_of_unfinished houtcome]; rfl

/-- The outcome of a process, which cannot fail as an action does. -/
def settled : Outcome Status → Outcome Status
  | .done status => .done status
  | _ => .unfinished

namespace Pool

/-- Where the process that others wait for has ended and no other is left, the run is over. -/
theorem run_of_ended {main : Nat} {pool : Pool} {status : Status} (hready : pool.ready = [])
    (hblocked : pool.blocked = []) (hended : pool.ended.lookup main = some status)
    (token : CancelToken) (fuel : Nat) (s : Session) :
    run main token (fuel + 1) pool s = pool.close (.done status) s [] := by
  simp [run, leave, nextDue?, hready, hblocked, hended]

theorem close_add {pool : Pool} (hpool : pool.traces = []) (outcome : Outcome Status)
    (s : Session) (trace : Trace) :
    (pool.add trace).close outcome s [] = ⟨outcome, s, trace⟩ := by
  cases trace with
  | nil => simp [add, close, hpool]
  | cons event rest => simp [add, close, hpool]

end Pool

/-- A process that never waits runs by itself to its end. -/
theorem alone_eq (token : CancelToken) {course : Nat → Course Status} {a : Action Status}
    (hcourse : course firstProcess = .ofAction a) (s : Session) :
    alone token course s = ⟨settled (a s).outcome, (a s).session, (a s).trace⟩ := by
  unfold alone
  rw [hcourse]
  simp only [Course.ofAction, Progress.toLife]
  cases (a s).outcome with
  | done status =>
      show Pool.run firstProcess token (999999999 + 1)
        (((Pool.add { next := firstProcess + 1 } (a s).trace).finish firstProcess status).wake
          (a s).session.world.clock) (a s).session = _
      rw [Pool.run_of_ended]
      · exact Pool.close_add rfl _ _ _
      · cases (a s).trace <;> rfl
      · cases (a s).trace <;> rfl
      · rfl
  | failed error => exact Pool.close_add rfl _ _ _
  | unfinished => exact Pool.close_add rfl _ _ _

/-! ### Starting one of the programs -/

variable {ctx : Context} {name : Text} {args : List Text} {input : Endpoint} {s : Session}

/-- The task of a program that the shell starts. -/
def taskIn (w : World) (ctx : Context) (name : Text) (input : Endpoint) : Task where
  name := Octets.ofText name
  number := firstProcess
  handles := (endpointsOf ctx input).map fun (fd, endpoint) => (fd, .shared endpoint)
  environment := octetTable w.environment

theorem start_of_holdsNul (h : (name :: args).any holdsNul = true) :
    start ctx name args input s = ⟨.done (.error .nulInArgument), s, []⟩ := by
  unfold start
  rw [if_pos h]
  rfl

/-- What is not found, or cannot be begun, is not started. -/
theorem start_of_error (hnul : ¬(name :: args).any holdsNul = true) {error : OsError}
    (h : Program.start Program.depthLimit s.world (taskIn s.world ctx name input)
      (Octets.ofText name) (args.map Octets.ofText) = .error error) :
    start ctx name args input s = ⟨.done (.error (.os error)), s, []⟩ := by
  unfold start taskIn at *
  rw [if_neg hnul, Action.world_bind]
  simp only [h]
  rfl

/-- A program that is found runs by itself. -/
theorem start_of_ok (hnul : ¬(name :: args).any holdsNul = true) {program : Nat → Course Status}
    (h : Program.start Program.depthLimit s.world (taskIn s.world ctx name input)
      (Octets.ofText name) (args.map Octets.ofText) = .ok program) :
    start ctx name args input s =
      (releasing (freshNumber (endpointsOf ctx input)) (alone ctx.cancel program) >>= fun status =>
        pure (.ok status)) s := by
  unfold start taskIn at *
  rw [if_neg hnul, Action.world_bind]
  simp only [h]

end Process

namespace Sink

open Process

variable {α β : Type} {sink : Sink} {origin : World} {spares : Event → Prop} {binding : Binding}
  {live : Bool}

/-- A program makes channels from a number on. -/
theorem Apart.setNextChannel {bytes : Bytes} {direct other : World}
    (h : sink.Apart origin live bytes direct other) (number : Nat) :
    sink.Apart origin live bytes { direct with nextChannel := number }
      { other with nextChannel := number } :=
  { h with
    surroundings := congrArg (fun w : World => { w with nextChannel := number }) h.surroundings }

/-- The channels from a number on are again what they were before. Channel 1 is not among them. -/
theorem Apart.restoreChannels {bytes more : Bytes} {direct other after otherAfter : World}
    (h : sink.Apart origin live bytes direct other)
    (hafter : sink.Apart origin live more after otherAfter) {number : Nat} (hnumber : 1 < number) :
    sink.Apart origin live more
      { after with
        channels := fun n => if n < number then after.channels n else direct.channels n }
      { otherAfter with
        channels := fun n => if n < number then otherAfter.channels n else other.channels n } :=
  { hafter with
    surroundings := hafter.surroundings
    channels := by
      intro n hn
      dsimp only
      rw [h.channels n hn, hafter.channels n hn]
    off := by
      intro n hn
      dsimp only
      split_ifs
      · exact hafter.off n hn
      · exact h.off n hn
    place := by
      intro path hpath hlive
      simp only [if_pos hnumber]
      exact hafter.place path hpath hlive
    keptPlace := by
      intro hlive
      simp only [if_pos hnumber]
      exact hafter.keptPlace hlive }

theorem Sim.releasing {number : Nat} (hnumber : 1 < number) {a b : Action α}
    (h : Sim sink origin spares binding live a b) :
    Sim sink origin spares binding live (Process.releasing number a)
      (Process.releasing number b) := by
  intro bytes s t hagree hspares
  have hx := h bytes { s with world := { s.world with nextChannel := number } }
    { t with world := { t.world with nextChannel := number } }
    ⟨hagree.scope, hagree.world.setNextChannel number⟩ hspares
  refine ⟨hx.outcome, hx.trace, hx.allowed, hx.session.scope, ?_⟩
  simp only [Process.releasing, hagree.world.nextChannel]
  exact (hagree.world.restoreChannels hx.session.world hnumber).setNextChannel _

/-! ### Programs that only write -/

/-- A course is followed by another: both are actions, of which the one is followed by the
other. -/
def SimCourse (sink : Sink) (origin : World) (binding : Binding) (live : Bool)
    (a b : Course α) : Prop :=
  ∃ first second : Action α, a = .ofAction first ∧ b = .ofAction second ∧
    Sim sink origin (fun _ => True) binding live first second

/-- The tasks of a program in the two runs: its outputs are linked. -/
structure Tasks (sink : Sink) (binding : Binding) (live : Bool) (task other : Task) : Prop where
  name : task.name = other.name
  out : ∃ endpoint otherEndpoint, task.handle? 1 = some (.shared endpoint) ∧
    other.handle? 1 = some (.shared otherEndpoint) ∧ Linked sink binding live endpoint otherEndpoint
  err : ∃ endpoint, task.handle? 2 = some (.shared endpoint) ∧
    other.handle? 2 = some (.shared endpoint) ∧ sink.IsElsewhere endpoint

/-- A program that only writes, and writes alike whatever its outputs are bound to. -/
def WritesAlike (program : Process.Program) : Prop :=
  ∀ sink origin binding live task other args, Tasks sink binding live task other →
    SimCourse sink origin binding live (program task args) (program other args)

namespace SimCourse

theorem ofAction {a b : Action α} (h : Sim sink origin (fun _ => True) binding live a b) :
    SimCourse sink origin binding live (.ofAction a) (.ofAction b) :=
  ⟨a, b, rfl, rfl, h⟩

theorem pure (value : α) :
    SimCourse sink origin binding live (Pure.pure value : Course α) (Pure.pure value) :=
  ofAction (Sim.pure value)

theorem bind {a b : Course α} {f g : α → Course β} (h : SimCourse sink origin binding live a b)
    (hnext : ∀ value, SimCourse sink origin binding live (f value) (g value)) :
    SimCourse sink origin binding live (a >>= f) (b >>= g) := by
  obtain ⟨first, second, rfl, rfl, hsim⟩ := h
  choose f' g' hf hg hnext using hnext
  obtain rfl : f = fun value => .ofAction (f' value) := funext hf
  obtain rfl : g = fun value => .ofAction (g' value) := funext hg
  rw [Course.ofAction_bind, Course.ofAction_bind]
  exact ofAction (Sim.bind hsim hnext)

variable {task other : Task} (h : Tasks sink binding live task other)

include h

theorem write_out (bytes : Bytes) :
    SimCourse sink origin binding live (task.write 1 bytes) (other.write 1 bytes) := by
  obtain ⟨endpoint, otherEndpoint, hout, hother, hlinked⟩ := h.out
  rw [Task.write, Task.write, hout, hother]
  exact ofAction (Sim.tryWrite hlinked bytes)

theorem report (line : Text) :
    SimCourse sink origin binding live (task.report line) (other.report line) := by
  obtain ⟨endpoint, herr, hother, helse⟩ := h.err
  refine bind ?_ fun _ => pure ()
  rw [Task.write, Task.write, herr, hother]
  exact ofAction (Sim.tryWrite (.elsewhere helse) _)

theorem complain (message : Text) :
    SimCourse sink origin binding live (task.complain message) (other.complain message) := by
  rw [Task.complain, Task.complain, h.name]
  exact report h _

theorem deliver (bytes : Bytes) :
    SimCourse sink origin binding live (task.deliver bytes) (other.deliver bytes) := by
  unfold Task.deliver
  cases bytes.isEmpty with
  | true => exact pure _
  | false =>
      refine bind (write_out h bytes) fun result => ?_
      cases result with
      | ok _ => exact pure _
      | error error => exact bind (complain h _) fun _ => pure _

theorem misused (message : Text) (more : Option Text) :
    SimCourse sink origin binding live (task.misused message more)
      (other.misused message more) := by
  unfold Task.misused
  rw [h.name]
  refine bind (complain h message) fun _ => ?_
  cases more with
  | none => exact bind (report h _) fun _ => pure _
  | some line => exact bind (report h line) fun _ => bind (report h _) fun _ => pure _

theorem writeAll (succeeded : Bool) (outputs : List Program.Printf.Output) :
    SimCourse sink origin binding live (Program.Printf.writeAll task succeeded outputs)
      (Program.Printf.writeAll other succeeded outputs) := by
  induction outputs generalizing succeeded with
  | nil => exact pure _
  | cons output rest ih =>
      cases output with
      | bytes octets =>
          refine bind (deliver h _) fun status => ?_
          rcases status with (_ | code) | signal
          · exact ih succeeded
          · exact pure _
          · exact pure _
      | fault message fails => exact bind (complain h message) fun _ => ih _
      | fatal message => exact bind (complain h message) fun _ => pure _
      | stop => exact pure _

end SimCourse

/-- **The program that writes formatted output only writes.** -/
theorem writesAlike_printf : WritesAlike Program.printf := by
  intro sink origin binding live task other args h
  unfold Program.printf
  cases (if args.head? = some ("--" : Text) then args.drop 1 else args) with
  | nil => exact .misused h _ _
  | cons format args =>
      dsimp only
      generalize Program.Printf.outputs format args = asked
      obtain ⟨outputs, unused⟩ := asked
      refine .bind (.writeAll h true _) fun result => ?_
      obtain ⟨status, complete⟩ := result
      cases complete with
      | false => exact .pure _
      | true =>
          dsimp only
          cases unused.head? with
          | none => exact .pure _
          | some arg => exact .bind (.complain h _) fun _ => .pure _

/-! ### Starting a program that only writes -/

theorem SimCourse.alone (token : CancelToken) {course course' : Nat → Course Status}
    (h : SimCourse sink origin binding live (course firstProcess) (course' firstProcess)) :
    Sim sink origin (fun _ => True) binding live (Process.alone token course)
      (Process.alone token course') := by
  obtain ⟨a, b, ha, hb, hsim⟩ := h
  intro bytes s t hagree hspares
  have hx := hsim bytes s t hagree fun _ _ => trivial
  rw [alone_eq token ha, alone_eq token hb, hx.outcome]
  exact ⟨rfl, hx.trace, hx.allowed, hx.session⟩

theorem Contexts.tasks {ctx other : Context} (h : Contexts sink binding live ctx other)
    (w w' : World) (name : Text) (input : Endpoint) :
    Tasks sink binding live (taskIn w ctx name input) (taskIn w' other name input) where
  name := rfl
  out := ⟨ctx.stdout, other.stdout, rfl, rfl, h.stdout⟩
  err := ⟨other.stderr, by rw [h.same]; rfl, rfl, h.stderr⟩

/-- The programs that a search finds only write, and the search does not lead past the sink. -/
structure FindsWriter (sink : Sink) (w : World) (name : Text) : Prop where
  misses : ∀ path ∈ Program.ways w (Program.searchPath (octetTable w.environment))
    (Octets.ofText name), some path ≠ sink.path?
  writes : ∀ located, Program.find w (Program.searchPath (octetTable w.environment))
    (Octets.ofText name) = .ok located →
      ∀ starter, WritesAlike (Program.ofName starter located.program)

/-- In worlds that resemble each other the same programs are found. -/
theorem FindsWriter.resembling {w w' : World} {name : Text} (h : sink.FindsWriter w name)
    (hworld : Resembles w' w) : sink.FindsWriter w' name := by
  obtain ⟨hvolume, hdirectory, henvironment⟩ := hworld
  have hfind : ∀ directories, Program.find w' directories (Octets.ofText name) =
      Program.find w directories (Octets.ofText name) := fun directories =>
    Program.find_congr (congrArg (Volume.leavingOut none) hvolume) hdirectory fun _ _ => nofun
  constructor
  · rw [henvironment, Program.ways, hdirectory]
    exact h.misses
  · rw [henvironment, hfind]
    exact h.writes

/-- **A program that only writes is indifferent to the sink**, wherever it is started and however
it is bound. -/
theorem indifferent_of_findsWriter {other : Context} {name : Text} {args : List Text}
    {input : Endpoint} {t : Session} (h : sink.FindsWriter t.world name) :
    sink.Indifferent Process.start origin other name args input t := by
  intro binding live ctx bytes s hcontexts hagree
  by_cases hnul : (name :: args).any holdsNul = true
  · rw [start_of_holdsNul hnul, start_of_holdsNul hnul]
    exact .of_silent hagree
  -- Both runs look for the program in the same places and find the same.
  have hsame : Program.find s.world (Program.searchPath (octetTable s.world.environment))
      (Octets.ofText name) = Program.find t.world
        (Program.searchPath (octetTable t.world.environment)) (Octets.ofText name) := by
    rw [hagree.world.environment,
      Program.find_congr hagree.world.volume hagree.world.directory h.misses]
  cases hfound : Program.find t.world (Program.searchPath (octetTable t.world.environment))
      (Octets.ofText name) with
  | error error =>
      rw [start_of_error hnul (Program.start_of_missing (hsame.trans hfound)),
        start_of_error hnul (Program.start_of_missing hfound)]
      exact .of_silent hagree
  | ok located =>
      have hfits : Program.fits located.path (Octets.ofText name) (args.map Octets.ofText)
          (octetTable s.world.environment) = Program.fits located.path (Octets.ofText name)
            (args.map Octets.ofText) (octetTable t.world.environment) := by
        rw [hagree.world.environment]
      cases hfit : Program.fits located.path (Octets.ofText name) (args.map Octets.ofText)
          (octetTable t.world.environment) with
      | false =>
          rw [start_of_error hnul (Program.start_of_unfit (hsame.trans hfound) (hfits.trans hfit)),
            start_of_error hnul (Program.start_of_unfit hfound hfit)]
          exact .of_silent hagree
      | true =>
          obtain ⟨hfresh, hnumber⟩ := hcontexts.freshNumber input
          rw [start_of_ok hnul (Program.start_of_fits (hsame.trans hfound) (hfits.trans hfit)),
            start_of_ok hnul (Program.start_of_fits hfound hfit), hfresh, hcontexts.cancel]
          refine Sim.bind (Sim.releasing hnumber (SimCourse.alone other.cancel ?_))
            (fun status => Sim.pure _) bytes s t hagree fun _ _ => trivial
          exact h.writes located hfound _ _ _ _ _ _ _ _ (hcontexts.tasks s.world t.world name input)

end Sink

end Conch
