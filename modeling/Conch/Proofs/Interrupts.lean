import Conch.Front.Shell
import Conch.Proofs.Absorption
import Conch.Proofs.Assembly
import Conch.Proofs.Tokens

/-!
Interrupts reach what is in the foreground, and nothing else. Each line that the shell evaluates
has a token of its own, which is in the foreground while the line is evaluated; an interrupt comes
at any moment.

* `TokenStep.AreLines.isCancelled_iff`: an interrupt reaches the line during which it comes.
* `Assembled.tokens_keep`: an evaluation itself does nothing with tokens.
* `Front.evaluateLine_eq`, `Front.tokens_of_line`: the evaluation of a line takes the steps of a
  line.
-/

namespace Conch

variable {α : Type}

/-! ### Lines that are evaluated one after another -/

namespace TokenStep

/-- What the evaluation of lines does with tokens, if the token of the first line has the handle
`first`. -/
def lineSteps : Nat → Nat → List TokenStep
  | _, 0 => []
  | first, count + 1 => .make :: .foreground first :: .clear :: lineSteps (first + 1) count

/-- The steps of lines one after another, with interrupts at any moments. The last line need not
have ended. -/
def AreLines (steps : List TokenStep) : Prop :=
  ∃ count, steps.filter (· ≠ .interrupt) <+: lineSteps 0 count

theorem isValidFrom_lineSteps (first count : Nat) :
    isValidFrom first (lineSteps first count) = true := by
  induction count generalizing first with
  | zero => rfl
  | succ count ih =>
      simp [lineSteps, isValidFrom, handle?, handles, makesHandle, ih]

theorem mem_lineSteps {first count : Nat} {step : TokenStep} (h : step ∈ lineSteps first count) :
    step = .make ∨ (∃ handle, step = .foreground handle) ∨ step = .clear := by
  induction count generalizing first with
  | zero => cases h
  | succ count ih =>
      simp only [lineSteps, List.mem_cons] at h
      rcases h with rfl | rfl | rfl | h
      · exact .inl rfl
      · exact .inr (.inl ⟨first, rfl⟩)
      · exact .inr (.inr rfl)
      · exact ih h

/-- Interrupts are about no handle, and make none. -/
theorem isValidFrom_filter (count : Nat) (steps : List TokenStep) :
    isValidFrom count (steps.filter (· ≠ .interrupt)) = isValidFrom count steps := by
  induction steps generalizing count with
  | nil => rfl
  | cons step rest ih =>
      by_cases hstep : step = .interrupt
      · subst hstep
        rw [List.filter_cons_of_neg (by simp), ih]
        rfl
      · rw [List.filter_cons_of_pos (by simpa using hstep), isValidFrom, isValidFrom, ih]

/-- What is in the foreground is cleared before anything else is done, interrupts apart. -/
theorem eq_clear_of_lineSteps {first count handle : Nat} {before rest : List TokenStep}
    {next : TokenStep} (h : lineSteps first count = before ++ .foreground handle :: next :: rest) :
    next = .clear := by
  induction count generalizing first before with
  | zero => simp [lineSteps] at h
  | succ count ih =>
      rcases before with _ | ⟨one, _ | ⟨two, _ | ⟨three, before⟩⟩⟩
      · cases h
      · cases h
        rfl
      · cases h
      · simp only [lineSteps, List.cons_append, List.cons.injEq] at h
        exact ih h.2.2.2

namespace AreLines

variable {steps : List TokenStep}

theorem isValid (h : AreLines steps) : IsValid steps := by
  obtain ⟨count, more, hlines⟩ := h
  have hvalid : IsValid (steps.filter (· ≠ .interrupt) ++ more) := by
    rw [hlines]
    exact isValidFrom_lineSteps 0 count
  exact (isValidFrom_filter 0 steps).symm.trans hvalid.left

/-- Lines copy no token and cancel none by themselves. -/
theorem not_mem (h : AreLines steps) (handle : Nat) :
    TokenStep.copy handle ∉ steps ∧ TokenStep.cancel handle ∉ steps := by
  obtain ⟨count, hlines⟩ := h
  have hkind : ∀ step ∈ steps, step ≠ .interrupt →
      step = .make ∨ (∃ handle, step = .foreground handle) ∨ step = .clear := by
    intro step hmem hstep
    exact mem_lineSteps (hlines.subset (List.mem_filter.mpr ⟨hmem, by simpa using hstep⟩))
  constructor
  · intro hmem
    simpa using hkind _ hmem
  · intro hmem
    simpa using hkind _ hmem

/-- Every line has a token of its own. -/
theorem eq_of_sameFamily (h : AreLines steps) {first second : Nat}
    (hfamily : SameFamily steps first second) : first = second := by
  induction hfamily with
  | rel copy original hcopy =>
      obtain ⟨before, after, rfl, -⟩ := hcopy
      exact absurd (by simp) (h.not_mem original).1
  | refl handle => rfl
  | symm first second _ ih => exact ih.symm
  | trans first second third _ _ ih ih' => exact ih.trans ih'

/-- Until the foreground is cleared there are only interrupts. -/
theorem inForeground (h : AreLines steps) {before during rest : List TokenStep} {line : Nat}
    (hsteps : steps = before ++ .foreground line :: (during ++ rest))
    (hclear : TokenStep.clear ∉ during) :
    InForeground (before ++ .foreground line :: during) line := by
  refine ⟨before, during, rfl, ?_⟩
  have hnone : during.filter (· ≠ .interrupt) = [] := by
    obtain ⟨count, more, hlines⟩ := h
    rw [hsteps, List.filter_append, List.filter_cons_of_pos (by simp), List.filter_append] at hlines
    cases hduring : during.filter (· ≠ .interrupt) with
    | nil => rfl
    | cons next others =>
        rw [hduring] at hlines
        have hcut : lineSteps 0 count = before.filter (· ≠ .interrupt) ++
            .foreground line :: next :: (others ++ rest.filter (· ≠ .interrupt) ++ more) := by
          rw [← hlines]
          simp
        have hmem : next ∈ during.filter (· ≠ .interrupt) := by
          rw [hduring]
          exact List.mem_cons_self
        rw [eq_clear_of_lineSteps hcut] at hmem
        exact absurd (List.mem_of_mem_filter hmem) hclear
  intro step hmem
  have hinterrupt := List.filter_eq_nil_iff.mp hnone step hmem
  simp only [ne_eq, decide_not, Bool.not_eq_true', decide_eq_false_iff_not, not_not] at hinterrupt
  rw [hinterrupt]
  rfl

/-- **The token of a line is cancelled exactly if there was an interrupt after the line was put in
the foreground and before the foreground was cleared.** -/
theorem isCancelled_iff (h : AreLines steps) {line : Nat} {token : CancelToken}
    (hheld : (HeldTokens.after steps).held[line]? = some token) :
    (HeldTokens.after steps).tokens.isCancelled token = true ↔
      ∃ before during rest, steps = before ++ .foreground line :: (during ++ .interrupt :: rest) ∧
        TokenStep.clear ∉ during := by
  rw [HeldTokens.isCancelled_iff_cancelsFamily h.isValid hheld]
  constructor
  · rintro (⟨before, other, rest, hsteps, -⟩ | ⟨before, other, rest, hsteps, hother, hfamily⟩)
    · refine absurd ?_ (h.not_mem other).2
      rw [hsteps]
      simp
    · obtain ⟨before, since, rfl, hsince⟩ := hother
      cases h.eq_of_sameFamily hfamily
      refine ⟨before, since, rest, by simpa using hsteps, fun hclear => ?_⟩
      cases hsince _ hclear
  · rintro ⟨before, during, rest, hsteps, hclear⟩
    refine .inr ⟨before ++ .foreground line :: during, line, rest, by simpa using hsteps, ?_, ?_⟩
    · exact h.inForeground hsteps hclear
    · exact .refl line

end AreLines

end TokenStep

/-! ### Evaluations -/

/-- The tokens are as they were, but that the alarm may have gone off. -/
def World.KeepsTokens (before after : World) : Prop :=
  (after.tokens = before.tokens ∧ after.alarm = before.alarm) ∨
  ∃ due token, before.alarm = some (due, token) ∧ after.tokens = before.tokens.cancel token ∧
    after.alarm = none

theorem World.KeepsTokens.trans {first second third : World} (h : first.KeepsTokens second)
    (h' : second.KeepsTokens third) : first.KeepsTokens third := by
  rcases h with ⟨htokens, halarm⟩ | ⟨due, token, halarm, htokens, hnone⟩
  · rcases h' with ⟨htokens', halarm'⟩ | ⟨due, token, halarm', htokens', hnone⟩
    · exact .inl ⟨htokens'.trans htokens, halarm'.trans halarm⟩
    · exact .inr ⟨due, token, halarm.symm.trans halarm', htokens ▸ htokens', hnone⟩
  · rcases h' with ⟨htokens', halarm'⟩ | ⟨due', token', halarm', -, -⟩
    · exact .inr ⟨due, token, halarm, htokens'.trans htokens, halarm'.trans hnone⟩
    · rw [hnone] at halarm'
      cases halarm'

theorem Process.keepsTokens_withTokensOf (before after : World) :
    before.KeepsTokens (Process.withTokensOf before after) := by
  unfold Process.withTokensOf
  cases hbefore : before.alarm with
  | none => exact .inl ⟨rfl, hbefore.symm⟩
  | some alarm =>
      obtain ⟨due, token⟩ := alarm
      cases after.alarm with
      | none => exact .inr ⟨due, token, hbefore, rfl, rfl⟩
      | some later => exact .inl ⟨rfl, hbefore.symm⟩

/-- **An evaluation does nothing with tokens itself.** -/
theorem Assembled.tokens_keep {launcher : Process.Launcher} {site : Site} {flow : α → Flow}
    {a : Action α} (h : Assembled launcher site flow a) (s : Session) :
    s.world.KeepsTokens (a s).session.world := by
  induction h generalizing s with
  | modest hmodest => exact .inl ⟨(hmodest s).keeps.tokens, (hmodest s).keeps.alarm⟩
  | unfinished => exact .inl ⟨rfl, rfl⟩
  | program _ => exact Process.keepsTokens_withTokensOf _ _
  | command _ _ ih => exact ih s
  | returned _ hbody =>
      rw [Action.bind_of_done rfl]
      simp only [hbody]
      exact .inl ⟨rfl, rfl⟩
  | nested _ ih => exact ih s
  | @bind site α β flow flow' a next _ hands _ ih hnext =>
      rcases hands.bind_cases a s with ⟨hsession, -, -⟩ | ⟨value, hflow, hdone⟩
      · rw [hsession]
        exact ih s
      · rw [Action.bind_of_done hdone]
        exact (ih s).trans (hnext value hflow (a s).session)
  | inBuiltin _ _ ih =>
      rw [Action.session_mapError]
      exact ih s
  | inSubstitution _ ih =>
      rw [Action.session_mapError, Action.session_capture]
      exact ih s
  | capture fd _ ih =>
      rw [Action.session_capture]
      exact ih s
  | withChannel number channel _ ih =>
      exact ih { s with world := s.world.setChannel number channel }
  | call args _ ih => exact ih { s with scope := s.scope.enterCall args }

/-- An attempt ends with a value, unless it does not finish, and where the action ended. -/
theorem Action.attempt_eq (a : Action α) (s : Session) :
    (Action.attempt a s).session = (a s).session ∧
      ((Action.attempt a s).outcome = .unfinished ∨
        ∃ result, (Action.attempt a s).outcome = .done result) := by
  unfold Action.attempt
  dsimp only
  cases (a s).outcome with
  | done value => exact ⟨rfl, .inr ⟨.ok value, rfl⟩⟩
  | failed error => exact ⟨rfl, .inr ⟨.error error, rfl⟩⟩
  | unfinished => exact ⟨rfl, .inl rfl⟩

namespace Front

/-- The session in which a line is evaluated. -/
def lineSession (s : Session) : Session :=
  { s with world := { s.world with
      tokens := s.world.tokens.make.2.setForeground s.world.tokens.make.1 } }

theorem evaluateLine_eq (line : Text) (s : Session) :
    evaluateLine line s =
      (Action.attempt (Eval.eval (.ofShell s.world.tokens.made) line) >>= fun result => do
        let w ← Action.world
        Action.setWorld { w with tokens := w.tokens.clearForeground }
        return result) (lineSession s) :=
  rfl

/-- A line is evaluated with its token in the foreground, which is cleared when it ends. -/
theorem tokens_of_evaluateLine {line : Text} {s : Session}
    (hends : (evaluateLine line s).outcome ≠ .unfinished) :
    (evaluateLine line s).session.world.tokens =
      (Eval.eval (.ofShell s.world.tokens.made) line
        (lineSession s)).session.world.tokens.clearForeground := by
  obtain ⟨hsession, hunfinished | ⟨result, hdone⟩⟩ :=
    Action.attempt_eq (Eval.eval (.ofShell s.world.tokens.made) line) (lineSession s)
  · rw [evaluateLine_eq, Action.bind_of_unfinished hunfinished] at hends
    exact absurd rfl hends
  · rw [evaluateLine_eq, Action.bind_of_done hdone, hsession]
    rfl

/-- A line begins with two steps: it makes a token and puts it in the foreground. -/
theorem follow_lineSession (s : Session) (held : List CancelToken) :
    HeldTokens.follow ⟨s.world.tokens, held⟩ [.make, .foreground held.length] =
      ⟨(lineSession s).world.tokens, held ++ [s.world.tokens.made]⟩ := by
  simp only [HeldTokens.follow, HeldTokens.take, List.foldl_cons, List.foldl_nil,
    CancelTokens.make, List.getElem?_concat_length, Option.elim_some]
  rfl

/-- While a line is evaluated nothing is done with tokens, but that the alarm may go off. -/
theorem tokens_of_line {line : Text} {s : Session}
    (hends : (evaluateLine line s).outcome ≠ .unfinished) :
    (evaluateLine line s).session.world.tokens = (lineSession s).world.tokens.clearForeground ∨
      ∃ due token, s.world.alarm = some (due, token) ∧
        (evaluateLine line s).session.world.tokens =
          ((lineSession s).world.tokens.cancel token).clearForeground := by
  rw [tokens_of_evaluateLine hends]
  have hkeeps : (lineSession s).world.KeepsTokens
      (Eval.eval (.ofShell s.world.tokens.made) line (lineSession s)).session.world :=
    (assembled_text Eval.depthLimit (.ofShell s.world.tokens.made) line).tokens_keep _
  rcases hkeeps with ⟨htokens, -⟩ | ⟨due, token, halarm, htokens, -⟩
  · exact .inl (congrArg CancelTokens.clearForeground htokens)
  · exact .inr ⟨due, token, halarm, congrArg CancelTokens.clearForeground htokens⟩

end Front

section

open TokenStep HeldTokens

/-- **Interrupts reach what is in the foreground, and nothing else.** Whatever is done with tokens
in whatever order, a token is cancelled exactly if its family was cancelled directly or by an
interrupt while one of the family was in the foreground; an interrupt says whether something was
there; and no cancellation is undone. Of lines that are evaluated one after another, with
interrupts at any moments, the token of a line is cancelled exactly if there was an interrupt
between the moments at which the line was put in the foreground and the foreground was cleared.
These are the steps of which the evaluation of a line consists: it makes a token, puts it in the
foreground, evaluates the line with this token and clears the foreground. -/
theorem interrupts_reach_foreground :
    (∀ steps, IsValid steps →
      (after steps).held.length = handles steps ∧
      (∀ handle token, (after steps).held[handle]? = some token →
        ((after steps).tokens.isCancelled token = true ↔ CancelsFamily steps handle)) ∧
      ((after steps).tokens.interrupt.1 = true ↔ ∃ handle, InForeground steps handle) ∧
      ∀ more token, (after steps).tokens.isCancelled token = true →
        (after (steps ++ more)).tokens.isCancelled token = true) ∧
    (∀ steps, AreLines steps → ∀ line token, (after steps).held[line]? = some token →
      ((after steps).tokens.isCancelled token = true ↔
        ∃ before during rest, steps = before ++ .foreground line :: (during ++ .interrupt :: rest) ∧
          TokenStep.clear ∉ during)) ∧
    (∀ line s held,
      let begun := (Front.lineSession s).world.tokens
      follow ⟨s.world.tokens, held⟩ [.make, .foreground held.length] =
        ⟨begun, held ++ [s.world.tokens.made]⟩ ∧
      Front.evaluateLine line s =
        (Action.attempt (Eval.eval (.ofShell s.world.tokens.made) line) >>= fun result => do
          let w ← Action.world
          Action.setWorld { w with tokens := w.tokens.clearForeground }
          return result) (Front.lineSession s) ∧
      ((Front.evaluateLine line s).outcome ≠ .unfinished →
        (Front.evaluateLine line s).session.world.tokens = begun.clearForeground ∨
          ∃ due token, s.world.alarm = some (due, token) ∧
            (Front.evaluateLine line s).session.world.tokens =
              (begun.cancel token).clearForeground)) := by
  refine ⟨?_, ?_, ?_⟩
  · intro steps hsteps
    refine ⟨length_held hsteps, ?_, interrupt_iff hsteps, ?_⟩
    · intro handle token hheld
      exact isCancelled_iff_cancelsFamily hsteps hheld
    · intro more token hcancelled
      exact isCancelled_append hcancelled more
  · intro steps hsteps line token hheld
    exact hsteps.isCancelled_iff hheld
  · intro line s held
    exact ⟨Front.follow_lineSession s held, Front.evaluateLine_eq line s, Front.tokens_of_line⟩

/-- An interrupt while the copy of a token is in the foreground, and another one when the foreground
has been cleared; and two lines, with interrupts before, between and in the second of them. -/
theorem interrupts_reach_foreground_copy :
    (CancelsFamily [.make, .copy 0, .foreground 1, .interrupt, .clear, .make, .interrupt] 0 ∧
      ¬ CancelsFamily [.make, .copy 0, .foreground 1, .interrupt, .clear, .make, .interrupt] 2) ∧
    (∃ before during rest,
      [.interrupt, .make, .foreground 0, .clear, .interrupt, .make, .foreground 1, .interrupt,
        .clear] = before ++ .foreground 1 :: (during ++ .interrupt :: rest) ∧
      TokenStep.clear ∉ during) ∧
    (Front.evaluateLine "l-echo a" ⟨{ aliasDepth := 0 }, {}⟩).session.world.tokens =
      { made := 1 } := by
  refine ⟨?_, ?_, ?_⟩
  · have hsteps : IsValid [.make, .copy 0, .foreground 1, .interrupt, .clear, .make,
      .interrupt] := by decide
    obtain ⟨-, hcancelled, -, -⟩ := interrupts_reach_foreground.1 _ hsteps
    constructor
    · exact (hcancelled 0 0 (by decide)).mp (by decide)
    · intro hfamily
      have hnot := (hcancelled 2 1 (by decide)).mpr hfamily
      revert hnot
      decide
  · refine (interrupts_reach_foreground.2.1 _ ⟨2, ?_⟩ 1 1 (by decide)).mp (by decide)
    decide
  · have hends : (Front.evaluateLine "l-echo a" ⟨{ aliasDepth := 0 }, {}⟩).outcome ≠
        .unfinished := by
      decide +kernel
    obtain ⟨-, -, htokens⟩ :=
      interrupts_reach_foreground.2.2 "l-echo a" ⟨{ aliasDepth := 0 }, {}⟩ []
    rcases htokens hends with htokens | ⟨due, token, halarm, -⟩
    · exact htokens
    · cases halarm

end

end Conch
