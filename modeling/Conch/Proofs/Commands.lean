import Conch.Proofs.Sequencing
import Mathlib.Tactic.SplitIfs

/-!
What the built-in commands do that evaluate nothing. They look, write and define names. They
neither return a value nor touch a cancel token, they start nothing, and they fail only in the
ways in which a command fails by itself (`Action.IsModest`).

* `ShellError.arisesAt`: which failures arise in commands, and which arise around them.
* `IsModest.builtin_run`: every command is modest that neither evaluates nor returns a value.
* `Builtin.runReturn_of_some`, `IsModest.runReturn`: the command that returns values does so if
  its arguments ask for it (`Builtin.returned?`), and is modest if they do not.
-/

namespace Conch

variable {α β : Type}

/-! ### Modest runs -/

/-- Where a failure arises. -/
inductive Site where
  /-- In a built-in command. -/
  | command
  /-- In an evaluation, where nothing but its commands is inside of them. -/
  | evaluation
  deriving DecidableEq, Repr

/-- Whether a failure may arise at a site. No failure arises wrapped. -/
def ShellError.arisesAt : Site → ShellError → Bool
  | .command, .variable _ | .command, .usage _ | .command, .notBound .. | .command, .io _ => true
  | .evaluation, .lex _ | .evaluation, .unterminated .. | .evaluation, .aliasCycle _ => true
  | .evaluation, .commandNotFound _ | .evaluation, .process .. | .evaluation, .cancelled => true
  | _, _ => false

/-- Whether an event is the start of a command. -/
def Event.isStart : Event → Bool
  | .started .. => true
  | _ => false

/-- A computed result that is a value, or a failure that may arise at a site. -/
def Raises (site : Site) (result : Except ShellError α) : Prop :=
  ∀ error, result = .error error → error.arisesAt site = true

/-- The sessions agree on the values that calls returned, on the cancel tokens and on the alarm. -/
structure Session.Keeps (before after : Session) : Prop where
  returns : after.scope.frame.returns = before.scope.frame.returns
  tokens : after.world.tokens = before.world.tokens
  alarm : after.world.alarm = before.world.alarm

theorem Session.Keeps.refl (s : Session) : s.Keeps s := ⟨rfl, rfl, rfl⟩

theorem Session.Keeps.trans {first second third : Session} (h : first.Keeps second)
    (h' : second.Keeps third) : first.Keeps third :=
  ⟨h'.returns.trans h.returns, h'.tokens.trans h.tokens, h'.alarm.trans h.alarm⟩

/-- A run from `s` that keeps what calls returned and the tokens, starts nothing, and fails only as
it may at a site. -/
structure Finished.IsModest (x : Finished α) (site : Site) (s : Session) : Prop where
  keeps : s.Keeps x.session
  starts : ∀ event ∈ x.trace, event.isStart = false
  raises : ∀ error, x.outcome = .failed error → error.arisesAt site = true

theorem Finished.IsModest.bind {site : Site} {a : Action α} {next : α → Action β} {s : Session}
    (h : (a s).IsModest site s) (hnext : ∀ value t, (next value t).IsModest site t) :
    ((a >>= next) s).IsModest site s := by
  cases houtcome : (a s).outcome with
  | done value =>
      rw [Action.bind_of_done houtcome]
      have hrest := hnext value (a s).session
      refine ⟨h.keeps.trans hrest.keeps, ?_, hrest.raises⟩
      intro event hmem
      rcases List.mem_append.mp hmem with hmem | hmem
      · exact h.starts event hmem
      · exact hrest.starts event hmem
  | failed error =>
      rw [Action.bind_of_failed houtcome]
      refine ⟨h.keeps, h.starts, ?_⟩
      rintro _ ⟨⟩
      exact h.raises error houtcome
  | unfinished =>
      rw [Action.bind_of_unfinished houtcome]
      exact ⟨h.keeps, h.starts, nofun⟩

theorem Finished.IsModest.emitted {site : Site} {event : Event} {next : Unit → Action α}
    {s : Session} (hevent : event.isStart = false) (hnext : (next () s).IsModest site s) :
    ((Action.emit event >>= next) s).IsModest site s := by
  refine ⟨hnext.keeps, ?_, hnext.raises⟩
  intro other hmem
  rcases List.mem_cons.mp hmem with rfl | hmem
  · exact hevent
  · exact hnext.starts other hmem

/-- An action all of whose runs are modest. -/
def Action.IsModest (site : Site) (a : Action α) : Prop := ∀ s, (a s).IsModest site s

/-! ### Results that are computed -/

namespace Raises

theorem flags (command usage : Text) (known : List (Text × Flags.Kind)) (args : List Text) :
    Raises .command (Flags.parse command usage known args) := by
  intro error herror
  unfold Flags.parse at herror
  cases hread : Flags.read known args with
  | ok flags =>
      rw [hread] at herror
      cases herror
  | error fault =>
      rw [hread] at herror
      cases herror
      rfl

theorem checkArguments (usage : Text) (args : List Text) (want : Nat) :
    Raises .command (Conch.checkArguments usage args want) := by
  intro error herror
  unfold Conch.checkArguments at herror
  split_ifs at herror
  cases herror
  rfl

theorem number (flags : Flags) (parse? : Text → Option α) (name : Text) (default : α) :
    Raises .command (flags.number parse? name default) := by
  intro error herror
  unfold Flags.number at herror
  split at herror
  · cases herror
  · split at herror
    · cases herror
    · cases herror
      rfl

theorem extraEndpoint (ctx : Context) (fd : Nat) : Raises .command (ctx.extraEndpoint fd) := by
  intro error herror
  unfold Context.extraEndpoint at herror
  split at herror
  · cases herror
  · cases herror
    rfl

theorem writer (ctx : Context) (fd : Nat) : Raises .command (ctx.writer fd) := by
  intro error herror
  unfold Context.writer at herror
  split at herror
  · cases herror
    rfl
  · cases herror
  · cases herror
  · exact extraEndpoint ctx fd error herror

theorem reader (ctx : Context) (fd : Nat) : Raises .command (ctx.reader fd) := by
  intro error herror
  unfold Context.reader at herror
  split at herror
  · cases herror
  · cases herror
    rfl
  · cases herror
    rfl
  · exact extraEndpoint ctx fd error herror

theorem redirect (ctx : Context) (fd : Nat) (endpoint : Endpoint) :
    Raises .command (ctx.redirect fd endpoint) := by
  intro error herror
  unfold Context.redirect at herror
  split at herror
  · cases herror
    rfl
  all_goals cases herror

theorem routes (spec : Text) : Raises .command (Route.parse spec) := by
  intro error herror
  unfold Route.parse at herror
  cases hparts : (spec.splitOnP (· == ',')).mapM Route.ofPart with
  | ok routes =>
      rw [hparts] at herror
      cases herror
  | error fault =>
      rw [hparts] at herror
      cases herror
      rfl

theorem expansion (ctx : Context) (scope : Scope) (name : Text) :
    Raises .evaluation (Eval.expansion? ctx scope name) := by
  intro error herror
  unfold Eval.expansion? at herror
  split_ifs at herror
  cases hresolve : scope.resolve? name with
  | ok target =>
      rw [hresolve] at herror
      cases herror
  | error chain =>
      rw [hresolve] at herror
      cases herror
      rfl

end Raises

namespace World

/-- Another working directory is all that changes. -/
theorem eq_of_changeDirectory {w after : World} {written : Text}
    (h : w.changeDirectory written = .ok after) : ∃ path, after = { w with directory := path } := by
  unfold changeDirectory askAbout at h
  split_ifs at h
  cases hlocate : w.volume.locate w.directory written with
  | error error =>
      rw [hlocate] at h
      cases h
  | ok place =>
      rw [hlocate] at h
      rcases place with ⟨path, entry⟩ | path
      · cases entry <;> cases h
        exact ⟨path, rfl⟩
      · cases h

/-- Another volume is all that changes. -/
theorem eq_of_openWrite {w after : World} {written : Text} {access : Access} {channel : Channel}
    (h : w.openWrite written access = .ok (after, channel)) :
    ∃ volume, after = { w with volume := volume } := by
  unfold openWrite askAbout at h
  split_ifs at h
  cases hopen : w.volume.openWrite w.directory written access with
  | error error =>
      rw [hopen] at h
      cases h
  | ok result =>
      rw [hopen] at h
      cases h
      exact ⟨result.1, rfl⟩

end World

namespace Action.IsModest

/-! ### Modest actions -/

variable {site : Site}

theorem andThen {a : Action α} {next : α → Action β} (ha : a.IsModest site)
    (hnext : ∀ value, (next value).IsModest site) : (a >>= next).IsModest site := by
  intro s
  exact (ha s).bind hnext

theorem pure (value : α) : (Action.pure value).IsModest site := by
  intro s
  exact ⟨.refl s, nofun, nofun⟩

theorem fail {error : ShellError} (h : error.arisesAt site = true) :
    (Action.fail error : Action α).IsModest site := by
  intro s
  refine ⟨.refl s, ?_, ?_⟩
  · intro event hmem
    cases List.mem_singleton.mp hmem
    rfl
  · rintro _ ⟨⟩
    exact h

theorem ofExcept {result : Except ShellError α} (h : Raises site result) :
    (Action.ofExcept result).IsModest site := by
  cases result with
  | ok value => exact pure value
  | error error => exact fail (h error rfl)

theorem emit {event : Event} (h : event.isStart = false) : (Action.emit event).IsModest site := by
  intro s
  refine ⟨.refl s, ?_, nofun⟩
  intro other hmem
  cases List.mem_singleton.mp hmem
  exact h

theorem getScope : Action.scope.IsModest site := by
  intro s
  exact ⟨.refl s, nofun, nofun⟩

theorem getWorld : Action.world.IsModest site := by
  intro s
  exact ⟨.refl s, nofun, nofun⟩

/-- What follows may use the scope of the moment. -/
theorem scope {next : Scope → Action α} (h : ∀ s, (next s.scope s).IsModest site s) :
    (Action.scope >>= next).IsModest site := h

/-- What follows may use the world of the moment. -/
theorem world {next : World → Action α} (h : ∀ s, (next s.world s).IsModest site s) :
    (Action.world >>= next).IsModest site := h

/-- Names may change, but not what calls returned. -/
theorem setScope {scope : Scope} {s : Session}
    (h : scope.frame.returns = s.scope.frame.returns) : (Action.setScope scope s).IsModest site s :=
  ⟨⟨h, rfl, rfl⟩, nofun, nofun⟩

/-- The world may change, but not its tokens. -/
theorem setWorld {world : World} {s : Session} (htokens : world.tokens = s.world.tokens)
    (halarm : world.alarm = s.world.alarm) : (Action.setWorld world s).IsModest site s :=
  ⟨⟨rfl, htokens, halarm⟩, nofun, nofun⟩

theorem changeScope {scope : Scope} {s : Session} {next : Unit → Action α}
    (h : scope.frame.returns = s.scope.frame.returns) (hnext : (next ()).IsModest site) :
    ((Action.setScope scope >>= next) s).IsModest site s :=
  (setScope h).bind fun _ => hnext

theorem changeWorld {world : World} {s : Session} {next : Unit → Action α}
    (htokens : world.tokens = s.world.tokens) (halarm : world.alarm = s.world.alarm)
    (hnext : (next ()).IsModest site) : ((Action.setWorld world >>= next) s).IsModest site s :=
  (setWorld htokens halarm).bind fun _ => hnext

theorem tryWrite (endpoint : Endpoint) (bytes : Bytes) :
    (Action.tryWrite endpoint bytes).IsModest site := by
  cases endpoint with
  | terminal => exact pure _
  | outlet fd => exact (emit rfl).andThen fun _ => pure _
  | standard fd => exact (emit rfl).andThen fun _ => pure _
  | channel number =>
      refine world fun s => ?_
      cases s.world.volume.write (s.world.channels number) bytes with
      | ok result => exact changeWorld rfl rfl (pure _)
      | error error => exact pure _ s

theorem tryRead (endpoint : Endpoint) : (Action.tryRead endpoint).IsModest site := by
  refine world fun s => ?_
  cases endpoint with
  | terminal => exact changeWorld rfl rfl (pure _)
  | outlet fd => exact pure _ s
  | standard fd => exact pure _ s
  | channel number =>
      dsimp only
      cases s.world.volume.readAll (s.world.channels number) with
      | ok result => exact changeWorld rfl rfl (pure _)
      | error error => exact pure _ s

theorem write (endpoint : Endpoint) (bytes : Bytes) :
    (Action.write endpoint bytes).IsModest .command := by
  refine (tryWrite endpoint bytes).andThen fun result => ?_
  cases result with
  | ok _ => exact pure _
  | error error => exact fail rfl

theorem writeLine (endpoint : Endpoint) (line : Text) :
    (Action.writeLine endpoint line).IsModest .command := write endpoint _

theorem read (endpoint : Endpoint) : (Action.read endpoint).IsModest .command := by
  refine (tryRead endpoint).andThen fun result => ?_
  cases result with
  | ok bytes => exact pure bytes
  | error error => exact fail rfl

theorem writeLines (endpoint : Endpoint) (lines : List Text) :
    (Builtin.writeLines endpoint lines).IsModest .command := by
  induction lines with
  | nil => exact pure _
  | cons line rest ih => exact (writeLine endpoint line).andThen fun _ => ih

theorem checkCancelled (ctx : Context) : (Action.checkCancelled ctx).IsModest .evaluation := by
  refine getWorld.andThen fun w => ?_
  split_ifs
  · exact fail rfl
  · exact pure _

/-! ### Commands that read and write -/

theorem flags {command usage : Text} {known : List (Text × Flags.Kind)} {args : List Text}
    {next : Flags → Action α} (hnext : ∀ flags, (next flags).IsModest .command) :
    (Action.ofExcept (Flags.parse command usage known args) >>= next).IsModest .command :=
  (ofExcept (Raises.flags _ _ _ _)).andThen hnext

theorem checked {usage : Text} {args : List Text} {want : Nat} {next : Unit → Action α}
    (hnext : ∀ value, (next value).IsModest .command) :
    (Action.ofExcept (checkArguments usage args want) >>= next).IsModest .command :=
  (ofExcept (Raises.checkArguments _ _ _)).andThen hnext

variable (ctx : Context) (name : Text) (args : List Text)

theorem runHelp : (Builtin.runHelp ctx args).IsModest .command :=
  checked fun _ => (writeLines _ _).andThen fun _ => pure _

theorem runEcho : (Builtin.runEcho ctx name args).IsModest .command :=
  flags fun _ => (ofExcept (Raises.number _ _ _ _)).andThen fun _ =>
    (ofExcept (Raises.writer _ _)).andThen fun _ => (writeLine _ _).andThen fun _ => pure _

theorem runCat : (Builtin.runCat ctx name args).IsModest .command :=
  flags fun _ => checked fun _ => (ofExcept (Raises.number _ _ _ _)).andThen fun _ =>
    (ofExcept (Raises.reader _ _)).andThen fun _ => (read _).andThen fun _ =>
      (write _ _).andThen fun _ => pure _

theorem runUtility (u : Utility) : (Builtin.runUtility u ctx args).IsModest .command :=
  checked fun _ => (writeLines _ _).andThen fun _ => pure _

theorem runJoin : (Builtin.runJoin ctx name args).IsModest .command :=
  flags fun _ => (writeLine _ _).andThen fun _ => pure _

theorem runRepeat : (Builtin.runRepeat ctx args).IsModest .command := by
  refine checked fun _ => ?_
  dsimp only
  cases Text.toNat? (args.getD 1 []) with
  | none => exact fail rfl
  | some count =>
      dsimp only
      split
      · exact fail rfl
      · exact (writeLine _ _).andThen fun _ => pure _

theorem runReplace : (Builtin.runReplace ctx name args).IsModest .command :=
  flags fun _ => checked fun _ => (ofExcept (Raises.number _ _ _ _)).andThen fun _ =>
    (writeLine _ _).andThen fun _ => pure _

/-! ### Commands that define names -/

theorem runAlias : (Builtin.runAlias ctx name args).IsModest .command := by
  refine flags fun given => ?_
  cases given.isOn "unset" with
  | true =>
      cases given.isOn "show" with
      | true => exact fail rfl
      | false => exact checked fun _ => scope fun s => changeScope rfl (pure _)
  | false =>
      cases given.isOn "show" with
      | true => exact checked fun _ => scope fun s => ((writeLines _ _).andThen fun _ => pure _) s
      | false => exact checked fun _ => scope fun s => changeScope rfl (pure _)

theorem runFn : (Builtin.runFn args).IsModest .command :=
  checked fun _ => scope fun _ => changeScope rfl (pure _)

theorem keepScope {result : Except VariableError Scope} {s : Session}
    (h : ∀ scope, result = .ok scope → scope.frame.returns = s.scope.frame.returns) :
    (Builtin.keepScope result s).IsModest .command s := by
  cases result with
  | ok scope => exact setScope (h scope rfl)
  | error error => exact fail rfl s

end Action.IsModest

namespace Scope

theorem returns_setVars (scope : Scope) (level : Level) (vars : Variables) :
    (scope.setVars level vars).frame.returns = scope.frame.returns := by
  cases level <;> rfl

theorem returns_of_define {scope after : Scope} {level : Level} {name value : Text}
    {isMutable : Bool} (h : scope.define level name value isMutable = .ok after) :
    after.frame.returns = scope.frame.returns := by
  unfold define at h
  split_ifs at h
  cases h
  exact returns_setVars scope level _

theorem returns_of_change {scope after : Scope} {level : Level} {name value : Text}
    (h : scope.change level name value = .ok after) :
    after.frame.returns = scope.frame.returns := by
  unfold change at h
  cases hchange : (scope.varsAt level).change name value with
  | error error =>
      rw [hchange] at h
      cases h
  | ok vars =>
      rw [hchange] at h
      cases h
      exact returns_setVars scope level vars

end Scope

namespace Action.IsModest

variable (ctx : Context) (name : Text) (args : List Text)

theorem runDefine (level : Level) (isMutable : Bool) :
    (Builtin.runDefine level isMutable args).IsModest .command :=
  checked fun _ => scope fun _ => keepScope fun _ => Scope.returns_of_define

theorem runVariableOperation (level : Level) (operation : Option Builtin.VariableOperation) :
    (Builtin.runVariableOperation ctx level args operation).IsModest .command := by
  rcases operation with _ | operation
  · exact runDefine args level false
  cases operation with
  | defineMutable => exact runDefine args level true
  | ref =>
      refine checked fun _ => scope fun s => ?_
      cases s.scope.lookup? (args.getD 0 []) with
      | some value => exact writeLine _ _ s
      | none => exact fail rfl s
  | change => exact checked fun _ => scope fun _ => keepScope fun _ => Scope.returns_of_change
  | delete => exact checked fun _ => scope fun s => setScope (s.scope.returns_setVars level _)
  | list => exact checked fun _ => scope fun s => write _ _ s
  | check => exact checked fun _ => scope fun s => writeLines _ _ s

theorem runVar : (Builtin.runVar ctx name args).IsModest .command := by
  refine flags fun given => ?_
  dsimp only
  generalize (Builtin.VariableOperation.all.filter fun op => given.isOn op.flag) = operations
  rcases operations with _ | ⟨operation, _ | ⟨second, rest⟩⟩
  · exact (runVariableOperation ctx _ _ _).andThen fun _ => pure _
  · dsimp only
    split
    · exact (fail rfl).andThen fun _ => pure _
    · exact (runVariableOperation ctx _ _ _).andThen fun _ => pure _
  · exact (fail rfl).andThen fun _ => pure _

theorem runArg : (Builtin.runArg ctx name args).IsModest .command := by
  refine flags fun given => scope fun s => ?_
  dsimp only
  split_ifs
  · exact (checked fun _ => (writeLine _ _).andThen fun _ => pure _) s
  · refine (checked fun _ => ?_) s
    cases Text.toNat? (given.rest.getD 0 []) with
    | none => exact fail rfl
    | some index =>
        dsimp only
        split
        · exact fail rfl
        · exact (writeLine _ _).andThen fun _ => pure _

/-! ### Commands that go elsewhere -/

theorem enterDirectory {w : World} {s : Session} (hw : w = s.world) (directory : Text) :
    (Builtin.enterDirectory w directory s).IsModest .command s := by
  subst hw
  refine Finished.IsModest.emitted rfl ?_
  cases hgo : s.world.changeDirectory directory with
  | ok w =>
      obtain ⟨path, rfl⟩ := World.eq_of_changeDirectory hgo
      exact changeWorld rfl rfl (pure _)
  | error error => exact fail rfl s

theorem runCd : (Builtin.runCd args).IsModest .command := by
  refine world fun s => ?_
  rcases args with _ | ⟨directory, _ | ⟨second, rest⟩⟩
  · cases s.world.home with
    | none => exact fail rfl s
    | some home => exact enterDirectory rfl home
  · exact enterDirectory rfl directory
  · exact fail rfl s

theorem runExit : (Builtin.runExit args).IsModest .command :=
  checked fun _ => (emit rfl).andThen fun _ => pure _

end Action.IsModest

/-! ### The command that returns values -/

/-- A computed value is at hand. -/
theorem Action.liftM_ok_bind (value : α) (next : α → Action β) :
    (liftM (Except.ok value : Except ShellError α) >>= next : Action β) = next value := rfl

/-- A computed failure is raised. -/
theorem Action.liftM_error_bind (error : ShellError) (next : α → Action β) :
    (liftM (Except.error error : Except ShellError α) >>= next : Action β) = Action.fail error :=
  rfl

namespace Builtin

/-- The key and the value that the arguments of the command that returns values ask it to return.
There are none if it is asked to read, or if it fails. -/
def returned? (args : List Text) : Option (Text × Text) :=
  match Flags.read [("ref", .switch), ("show", .switch)] args with
  | .error _ => none
  | .ok given =>
    match given.isOn "ref", given.isOn "show", given.rest with
    | false, false, [key, value] => some (key, value)
    | _, _, _ => none

/-- The command returns what it is asked to return, and does nothing else. -/
theorem runReturn_of_some {args : List Text} {key value : Text}
    (h : returned? args = some (key, value)) (ctx : Context) (name : Text) (s : Session) :
    runReturn ctx name args s =
      ⟨.done .proceed, { s with scope := s.scope.setReturn key value }, []⟩ := by
  unfold returned? at h
  cases hread : Flags.read [("ref", .switch), ("show", .switch)] args with
  | error fault =>
      rw [hread] at h
      cases h
  | ok given =>
      obtain ⟨settings, rest⟩ := given
      simp only [hread] at h
      split at h
      · rename_i href hshow
        cases h
        unfold runReturn Flags.parse
        rw [hread, Except.mapError, Action.liftM_ok_bind]
        simp only [href, hshow]
        rfl
      · cases h

end Builtin

/-- If it is not asked to return anything, the command that returns values is modest. -/
theorem Action.IsModest.runReturn {args : List Text} (h : Builtin.returned? args = none)
    (ctx : Context) (name : Text) : (Builtin.runReturn ctx name args).IsModest .command := by
  unfold Builtin.runReturn Flags.parse
  unfold Builtin.returned? at h
  cases hread : Flags.read [("ref", .switch), ("show", .switch)] args with
  | error fault =>
      rw [Except.mapError, Action.liftM_error_bind]
      exact fail rfl
  | ok given =>
      rw [Except.mapError, Action.liftM_ok_bind]
      simp only [hread] at h
      cases href : given.isOn "ref" with
      | true =>
          cases given.isOn "show" with
          | true => exact fail rfl
          | false =>
              refine checked fun _ => scope fun s => ?_
              cases s.scope.frame.returns.get? (given.rest.getD 0 []) with
              | none => exact fail rfl s
              | some value => exact ((writeLine _ _).andThen fun _ => pure _) s
      | false =>
          cases hshow : given.isOn "show" with
          | true =>
              exact checked fun _ => scope fun s => ((writeLines _ _).andThen fun _ => pure _) s
          | false =>
              -- Two arguments would be a key and a value.
              have hcount : given.rest.length ≠ 2 := by
                intro hcount
                obtain ⟨key, value, hrest⟩ := List.length_eq_two.mp hcount
                simp only [href, hshow, hrest] at h
                cases h
              unfold checkArguments
              rw [if_neg hcount, Action.liftM_error_bind]
              exact fail rfl

namespace Action.IsModest

/-- **Every command is modest that neither evaluates nor returns a value.** -/
theorem builtin_run (evaluate : Builtin.Evaluator) (ctx : Context) (name : Text) (args : List Text)
    {command : Builtin} (heval : command ≠ .eval) (hpipe : command ≠ .pipe)
    (hreturn : command = .return → Builtin.returned? args = none) :
    (command.run evaluate ctx name args).IsModest .command := by
  cases command with
  | help => exact runHelp ctx args
  | echo => exact runEcho ctx name args
  | cat => exact runCat ctx name args
  | cd => exact runCd args
  | exit => exact runExit args
  | «alias» => exact runAlias ctx name args
  | var => exact runVar ctx name args
  | fn => exact runFn args
  | arg => exact runArg ctx name args
  | «return» => exact runReturn (hreturn rfl) ctx name
  | eval => exact absurd rfl heval
  | pipe => exact absurd rfl hpipe
  | utility u => exact runUtility ctx args u
  | join => exact runJoin ctx name args
  | «repeat» => exact runRepeat ctx args
  | replace => exact runReplace ctx name args

end Action.IsModest

end Conch
