import Conch.Proofs.Absorption
import Conch.Proofs.Assembly
import Conch.Proofs.Calling

/-!
How failures are wrapped. Whoever is told that an evaluation failed is told what it was inside of:
each built-in command and each substitution that the failure passed, but never around a
cancellation. A failure of the kind that only commands raise is always inside of the command that
raised it.

* `ShellError.IsWrapped`: a failure is wrapped as it should be, given which substitutions fail.
* `Assembled.isWrapped`: every failure of an assembled action is wrapped so, where the substitutions
  that it tells of are those that the action got to and whose bodies failed.
-/

namespace Conch

variable {α β γ : Type} {launcher : Process.Launcher}

namespace ShellError

/-- Whether a failure is one that only built-in commands raise. -/
def isOfCommand : ShellError → Bool
  | .variable _ | .usage _ | .notBound .. => true
  | _ => false

theorem inSubstitution_eq (body : Text) (error : ShellError) :
    error.inSubstitution body =
      if error = .cancelled then .cancelled else .substitution body error := by
  cases error <;> rfl

/-- A failure that is wrapped as one that comes from a site should be, if `fails` says of which
substitutions the body fails, and how. -/
structure IsWrapped (site : Site) (fails : Text → ShellError → Prop) (error : ShellError) :
    Prop where
  /-- A cancellation is not inside of anything. -/
  cancelled : ShellError.cancelled ∈ error.chain → error = .cancelled
  /-- Outside of the commands nothing is seen that only they raise, -/
  outermost : site = .evaluation → error.isOfCommand = false
  /-- and it is nowhere but right inside of one. -/
  commands : ∀ inner ∈ error.chain, inner.isOfCommand = true →
    site = .command ∧ inner = error ∨ ∃ name, ShellError.builtin name inner ∈ error.chain
  builtins : ∀ name inner, ShellError.builtin name inner ∈ error.chain →
    (Builtin.ofName? name).isSome = true
  substitutions : ∀ body inner, ShellError.substitution body inner ∈ error.chain →
    inner.isOfCommand = false ∧ fails body inner

namespace IsWrapped

variable {site : Site} {fails fails' : Text → ShellError → Prop} {error : ShellError}

theorem mono (h : error.IsWrapped site fails)
    (himp : ∀ body inner, fails body inner → fails' body inner) : error.IsWrapped site fails' where
  cancelled := h.cancelled
  outermost := h.outermost
  commands := h.commands
  builtins := h.builtins
  substitutions body inner hmem := by
    obtain ⟨hcommand, hfails⟩ := h.substitutions body inner hmem
    exact ⟨hcommand, himp body inner hfails⟩

/-- Inside of a command more may be seen than outside. -/
theorem nested (h : error.IsWrapped .evaluation fails) : error.IsWrapped .command fails where
  cancelled := h.cancelled
  outermost := nofun
  commands inner hinner hraised := by
    rcases h.commands inner hinner hraised with ⟨hsite, -⟩ | hbuiltin
    · cases hsite
    · exact .inr hbuiltin
  builtins := h.builtins
  substitutions := h.substitutions

/-- A failure is not wrapped where it arises. -/
theorem of_arisesAt (h : error.arisesAt site = true) : error.IsWrapped site fails := by
  have hchain : error.chain = [error] := by
    cases error with
    | substitution body source => cases site <;> cases h
    | builtin name source => cases site <;> cases h
    | _ => rfl
  have hmem : ∀ {inner}, inner ∈ error.chain → inner = error := by
    intro inner hinner
    rw [hchain] at hinner
    exact List.mem_singleton.mp hinner
  have houtermost : site = .evaluation → error.isOfCommand = false := by
    rintro rfl
    cases error <;> first | rfl | cases h
  constructor
  · intro hinner
    exact (hmem hinner).symm
  · exact houtermost
  · intro inner hinner hraised
    obtain rfl := hmem hinner
    cases site with
    | command => exact .inl ⟨rfl, rfl⟩
    | evaluation =>
        rw [houtermost rfl] at hraised
        cases hraised
  · intro name inner hinner
    rw [← hmem hinner] at h
    cases site <;> cases h
  · intro body inner hinner
    rw [← hmem hinner] at h
    cases site <;> cases h

/-- A failure inside of one more wrapper. -/
theorem wrap {wrapper : ShellError} (h : error.IsWrapped site fails)
    (hchain : wrapper.chain = wrapper :: error.chain) (hcancelled : error ≠ .cancelled)
    (hwrapper : wrapper.isOfCommand = false)
    (hcommand : error.isOfCommand = true → ∃ name, wrapper = .builtin name error)
    (hbuiltin : ∀ name inner, wrapper = .builtin name inner →
      (Builtin.ofName? name).isSome = true)
    (hsubstitution : ∀ body inner, wrapper = .substitution body inner →
      inner.isOfCommand = false ∧ fails body inner) : wrapper.IsWrapped .evaluation fails := by
  have hmem : ∀ {inner}, inner ∈ wrapper.chain → inner = wrapper ∨ inner ∈ error.chain := by
    intro inner hinner
    rw [hchain] at hinner
    exact List.mem_cons.mp hinner
  have hinside : ∀ {inner}, inner ∈ error.chain → inner ∈ wrapper.chain := by
    intro inner hinner
    rw [hchain]
    exact List.mem_cons_of_mem _ hinner
  constructor
  · intro hinner
    rcases hmem hinner with rfl | hinner
    · rfl
    · exact absurd (h.cancelled hinner) hcancelled
  · intro _
    exact hwrapper
  · intro inner hinner hraised
    rcases hmem hinner with rfl | hinner
    · rw [hwrapper] at hraised
      cases hraised
    · rcases h.commands inner hinner hraised with ⟨-, rfl⟩ | ⟨name, hname⟩
      · obtain ⟨name, rfl⟩ := hcommand hraised
        exact .inr ⟨name, List.mem_cons_self⟩
      · exact .inr ⟨name, hinside hname⟩
  · intro name inner hinner
    rcases hmem hinner with heq | hinner
    · exact hbuiltin name inner heq.symm
    · exact h.builtins name inner hinner
  · intro body inner hinner
    rcases hmem hinner with heq | hinner
    · exact hsubstitution body inner heq.symm
    · exact h.substitutions body inner hinner

/-- A failure in a command, as it is seen outside of the command. -/
theorem inBuiltin {name : Text} {command : Builtin} (h : error.IsWrapped .command fails)
    (hname : Builtin.ofName? name = some command) :
    (error.inBuiltin name).IsWrapped .evaluation fails := by
  rw [inBuiltin_eq]
  split_ifs with hcancelled
  · exact of_arisesAt rfl
  · refine h.wrap rfl hcancelled rfl (fun _ => ⟨name, rfl⟩) ?_ nofun
    rintro _ _ ⟨⟩
    rw [hname]
    rfl

/-- A failure in the body of a substitution, as it is seen outside of the substitution. -/
theorem inSubstitution {body : Text} (h : error.IsWrapped .evaluation fails)
    (hfails : fails body error) : (error.inSubstitution body).IsWrapped .evaluation fails := by
  rw [inSubstitution_eq]
  split_ifs with hcancelled
  · exact of_arisesAt rfl
  · refine h.wrap rfl hcancelled rfl ?_ nofun ?_
    · intro hcommand
      rw [h.outermost rfl] at hcommand
      cases hcommand
    · rintro _ _ ⟨⟩
      exact ⟨h.outermost rfl, hfails⟩

end IsWrapped

end ShellError

/-! ### Substitutions that were reached -/

/-- A step that is the evaluation of the body of a substitution, right inside of it, and that
fails. -/
inductive FailsInside (launcher : Process.Launcher) (body : Text) (error : ShellError) :
    StepProperty where
  | body {depth : Nat} {ctx : Context} {t : Session} {enclosures : List Enclosure} :
      (Eval.text (Eval.tokens (Eval.dispatch launcher) depth) { ctx with stdout := .outlet 1 } body
        t).outcome = .failed error →
      FailsInside launcher body error Flow id
        (Eval.text (Eval.tokens (Eval.dispatch launcher) depth) { ctx with stdout := .outlet 1 }
          body) t (.captured 1 :: .substitution body :: enclosures)

theorem FailsInside.enclosed {body : Text} {error : ShellError} {sense : γ → Flow}
    {step : Action γ} {t : Session} {enclosures : List Enclosure}
    (h : FailsInside launcher body error γ sense step t enclosures) (enclosure : Enclosure) :
    FailsInside launcher body error γ sense step t (enclosures ++ [enclosure]) := by
  obtain ⟨houtcome⟩ := h
  exact .body houtcome

/-- Started in `s`, an action gets to a substitution whose body fails with the error. -/
def BodyFails (launcher : Process.Launcher) (flow : α → Flow) (a : Action α) (s : Session)
    (body : Text) (error : ShellError) : Prop :=
  ReachesSome (FailsInside launcher body error) flow a s

namespace BodyFails

variable {flow : α → Flow} {flow' : β → Flow} {a : Action α} {b : Action β} {s s' : Session}
  {body : Text} {error : ShellError}

theorem enclosed (enclosure : Enclosure) (h : BodyFails launcher flow a s body error)
    (hreach : ∀ {γ : Type} {sense : γ → Flow} {step : Action γ} {t enclosures},
      Reaches sense step t flow a s enclosures →
      Reaches sense step t flow' b s' (enclosures ++ [enclosure])) :
    BodyFails launcher flow' b s' body error :=
  ReachesSome.enclosed enclosure h (fun hfails => hfails.enclosed enclosure) hreach

/-- The substitution that is evaluated itself. -/
theorem here {depth : Nat} {ctx : Context}
    (houtcome : (Eval.text (Eval.tokens (Eval.dispatch launcher) depth)
      { ctx with stdout := .outlet 1 } body s).outcome = .failed error) :
    BodyFails launcher (fun result => result.1)
      (Action.mapError (.inSubstitution body) (Action.capture 1
        (Eval.text (Eval.tokens (Eval.dispatch launcher) depth) { ctx with stdout := .outlet 1 }
          body))) s body error :=
  ⟨Flow, id, _, s, _, .body houtcome, .inSubstitution body (.capture 1 .here)⟩

end BodyFails

/-! ### Failures of evaluations -/

/-- A failure that is changed on its way out was there before. -/
theorem Action.failed_of_mapError {f : ShellError → ShellError} {a : Action α} {s : Session}
    {error : ShellError} (h : (Action.mapError f a s).outcome = .failed error) :
    ∃ source, (a s).outcome = .failed source ∧ f source = error := by
  unfold Action.mapError at h
  cases houtcome : (a s).outcome with
  | done value => simp [houtcome] at h
  | failed source => exact ⟨source, rfl, by simpa [houtcome] using h⟩
  | unfinished => simp [houtcome] at h

theorem Action.failed_of_capture {fd : Nat} {a : Action α} {s : Session} {error : ShellError}
    (h : (Action.capture fd a s).outcome = .failed error) : (a s).outcome = .failed error := by
  rw [Action.outcome_capture] at h
  cases houtcome : (a s).outcome with
  | done value => simp [houtcome] at h
  | failed source => simpa [houtcome] using h
  | unfinished => simp [houtcome] at h

/-- **The failures of evaluations are wrapped as they should be.** -/
theorem Assembled.isWrapped {site : Site} {flow : α → Flow} {a : Action α}
    (h : Assembled launcher site flow a) {s : Session} {error : ShellError}
    (herror : (a s).outcome = .failed error) :
    error.IsWrapped site (BodyFails launcher flow a s) := by
  induction h generalizing s error with
  | modest hmodest => exact .of_arisesAt ((hmodest s).raises error herror)
  | unfinished => cases herror
  | program a =>
      obtain ⟨-, -, rfl⟩ := Action.failed_of_mapError herror
      exact .of_arisesAt rfl
  | command _ _ ih => exact (ih herror).mono fun body inner hfails => .second rfl hfails
  | returned _ hbody =>
      have hdone := congrArg Finished.outcome (hbody s)
      cases hdone.symm.trans herror
  | nested _ ih => exact (ih herror).nested
  | @bind site α β flow flow' a next _ hands _ ih hnext =>
      rcases hands.bind_cases a s with ⟨-, -, hfailed⟩ | ⟨value, hflow, hdone⟩
      · exact (ih (hfailed error herror)).mono fun body inner hfails => hfails.first hands
      · rw [Action.bind_of_done hdone] at herror
        exact (hnext value hflow herror).mono fun body inner hfails => .second hdone hfails
  | @inBuiltin _ _ _ name _ hname _ ih =>
      obtain ⟨source, hsource, rfl⟩ := Action.failed_of_mapError herror
      refine ((ih hsource).inBuiltin hname).mono fun body inner hfails => ?_
      exact hfails.enclosed (.builtin name) (Reaches.inBuiltin name)
  | @inSubstitution depth ctx body _ ih =>
      obtain ⟨source, hsource, rfl⟩ := Action.failed_of_mapError herror
      have hbody := Action.failed_of_capture hsource
      refine ((ih hbody).mono fun other inner hfails => ?_).inSubstitution (BodyFails.here hbody)
      have hcaptured := hfails.enclosed (.captured 1) (Reaches.capture 1)
      exact BodyFails.enclosed (.substitution body) hcaptured (Reaches.inSubstitution body)
  | capture fd _ ih =>
      refine (ih (Action.failed_of_capture herror)).mono fun body inner hfails => ?_
      exact hfails.enclosed (.captured fd) (Reaches.capture fd)
  | withChannel number channel _ ih =>
      refine (ih herror).mono fun body inner hfails => ?_
      exact hfails.enclosed (.channel number _) (Reaches.withChannel number channel)
  | call args _ ih =>
      refine (ih herror).mono fun body inner hfails => ?_
      exact hfails.enclosed (.call _) (Reaches.call args)

namespace Eval

/-- A substitution fails as its body does, inside of the substitution unless it was cancelled. -/
theorem substitution_failed {nested : TokenEvaluator} {ctx : Context} {body : Text} {s : Session}
    {error : ShellError} (h : (substitution nested ctx body s).outcome = .failed error) :
    ∃ source, (text nested { ctx with stdout := .outlet 1 } body s).outcome = .failed source ∧
      error = if source = .cancelled then .cancelled else .substitution body source := by
  have hwrapped : (Action.mapError (.inSubstitution body) (Action.capture 1
      (text nested { ctx with stdout := .outlet 1 } body)) s).outcome = .failed error := by
    unfold substitution at h
    cases houtcome : (Action.mapError (.inSubstitution body) (Action.capture 1
        (text nested { ctx with stdout := .outlet 1 } body)) s).outcome with
    | done value =>
        rw [Action.bind_of_done houtcome] at h
        cases h
    | failed source =>
        rw [Action.bind_of_failed houtcome] at h
        cases h
        rfl
    | unfinished =>
        rw [Action.bind_of_unfinished houtcome] at h
        cases h
  obtain ⟨source, hsource, rfl⟩ := Action.failed_of_mapError hwrapped
  exact ⟨source, Action.failed_of_capture hsource, ShellError.inSubstitution_eq body source⟩

/-- **Failures are wrapped exactly.** Whatever fails in whatever session, a cancellation is told as
such; what only commands raise is right inside of a command; every command that is told of is
one; and every substitution that is told of was reached, and its body failed as is told. A
substitution fails only if its body does, and as that does. -/
theorem failures_wrapped (depth : Nat) (ctx : Context) (s : Session) :
    (∀ list error, (tokens (dispatch launcher) depth ctx list s).outcome = .failed error →
      error.IsWrapped .evaluation
        (BodyFails launcher id (tokens (dispatch launcher) depth ctx list) s)) ∧
    (∀ expr error, (text (tokens (dispatch launcher) depth) ctx expr s).outcome = .failed error →
      error.IsWrapped .evaluation
        (BodyFails launcher id (text (tokens (dispatch launcher) depth) ctx expr) s)) ∧
    (∀ body error,
      (substitution (tokens (dispatch launcher) depth) ctx body s).outcome = .failed error →
      ∃ source,
        (text (tokens (dispatch launcher) depth) { ctx with stdout := .outlet 1 } body s).outcome =
          .failed source ∧
        error = if source = .cancelled then .cancelled else .substitution body source) := by
  refine ⟨?_, ?_, ?_⟩
  · intro list error herror
    exact (assembled_tokens depth ctx list).isWrapped herror
  · intro expr error herror
    exact (assembled_text depth ctx expr).isWrapped herror
  · intro body error herror
    exact substitution_failed herror

/-- An argument that there is not, asked for in a substitution in an expression that is evaluated
inside of another one. -/
theorem failures_wrapped_nested :
    ∃ error, (text (tokens (dispatch Process.start) 4) {} "l-eval {l-echo (l-arg 5)}"
        ⟨{ aliasDepth := 0 }, {}⟩).outcome = .failed error ∧
      error.chain =
        [.builtin "l-eval" (.substitution "l-arg 5"
          (.builtin "l-arg" (.usage (.argumentOutOfRange 5 0)))),
        .substitution "l-arg 5" (.builtin "l-arg" (.usage (.argumentOutOfRange 5 0))),
        .builtin "l-arg" (.usage (.argumentOutOfRange 5 0)),
        .usage (.argumentOutOfRange 5 0)] ∧
      BodyFails Process.start id
        (text (tokens (dispatch Process.start) 4) {} "l-eval {l-echo (l-arg 5)}")
        ⟨{ aliasDepth := 0 }, {}⟩ "l-arg 5"
        (.builtin "l-arg" (.usage (.argumentOutOfRange 5 0))) := by
  have houtcome : (text (tokens (dispatch Process.start) 4) {} "l-eval {l-echo (l-arg 5)}"
      ⟨{ aliasDepth := 0 }, {}⟩).outcome =
      .failed (.builtin "l-eval" (.substitution "l-arg 5"
        (.builtin "l-arg" (.usage (.argumentOutOfRange 5 0))))) := by
    decide +kernel
  refine ⟨_, houtcome, rfl, ?_⟩
  have hwrapped := (failures_wrapped 4 {} _).2.1 _ _ houtcome
  exact (hwrapped.substitutions _ _ (.tail _ (.head _))).2

end Eval

end Conch
