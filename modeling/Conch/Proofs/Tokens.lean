import Conch.Cancel
import Mathlib.Data.List.Basic
import Mathlib.Data.List.Induction
import Mathlib.Logic.Relation
import Mathlib.Tactic.SplitIfs

/-!
Cancel tokens. Whoever has a token may copy it, put it in the foreground or cancel it, and an
interrupt cancels what is in the foreground. Tokens are spoken of by handles, which are numbered as
they are made: a new token has a new handle, and so has a copy.

* `TokenStep.SameFamily`: handles that come from one another by copying.
* `HeldTokens.sameFamily_iff`: these are the handles to the same token.
* `HeldTokens.foreground_iff`: what an interrupt reaches is what was put in the foreground last.
* `HeldTokens.isCancelled_iff_cancelsFamily`: a token is cancelled if one of its family was, and
  not otherwise.
-/

namespace Conch

/-- Something that is done with tokens. -/
inductive TokenStep where
  /-- A new token. -/
  | make
  /-- A copy of a token. -/
  | copy (handle : Nat)
  /-- A token is put in the foreground. -/
  | foreground (handle : Nat)
  /-- Nothing is left in the foreground. -/
  | clear
  | cancel (handle : Nat)
  | interrupt
  deriving DecidableEq, Repr

namespace TokenStep

/-- The handle that a step is about. -/
def handle? : TokenStep → Option Nat
  | .copy handle | .foreground handle | .cancel handle => some handle
  | .make | .clear | .interrupt => none

/-- Whether a step makes a handle. -/
def makesHandle : TokenStep → Bool
  | .make | .copy _ => true
  | _ => false

/-- Whether a step says what is in the foreground. -/
def setsForeground : TokenStep → Bool
  | .foreground _ | .clear => true
  | _ => false

/-- How many handles steps make. -/
def handles (steps : List TokenStep) : Nat := steps.countP makesHandle

/-- Whether steps are only about handles that there are, if there are `count` at first. -/
def isValidFrom (count : Nat) : List TokenStep → Bool
  | [] => true
  | step :: rest =>
    step.handle?.all (· < count) && isValidFrom (count + handles [step]) rest

/-- Steps that are only about handles that they made. -/
def IsValid (steps : List TokenStep) : Prop := isValidFrom 0 steps = true

instance (steps : List TokenStep) : Decidable (IsValid steps) :=
  inferInstanceAs (Decidable (isValidFrom 0 steps = true))

/-- Among the steps is the one that made a handle by copying another one. -/
def CopyOf (steps : List TokenStep) (copy original : Nat) : Prop :=
  ∃ before after, steps = before ++ .copy original :: after ∧ handles before = copy

/-- Handles that come from one another, or from the same one, by copying. -/
def SameFamily (steps : List TokenStep) : Nat → Nat → Prop := Relation.EqvGen (CopyOf steps)

/-- The handle was put in the foreground last, and the foreground was not cleared since. -/
def InForeground (steps : List TokenStep) (handle : Nat) : Prop :=
  ∃ before since, steps = before ++ .foreground handle :: since ∧
    ∀ step ∈ since, step.setsForeground = false

/-- Among the steps one of the family of a handle is cancelled, or there is an interrupt while one
is in the foreground. -/
def CancelsFamily (steps : List TokenStep) (handle : Nat) : Prop :=
  (∃ before other after, steps = before ++ .cancel other :: after ∧ SameFamily steps other handle) ∨
  ∃ before other after, steps = before ++ .interrupt :: after ∧ InForeground before other ∧
    SameFamily steps other handle

/-! ### Steps one after another -/

theorem handles_append (first second : List TokenStep) :
    handles (first ++ second) = handles first + handles second :=
  List.countP_append

theorem isValidFrom_append (count : Nat) (first second : List TokenStep) :
    isValidFrom count (first ++ second) =
      (isValidFrom count first && isValidFrom (count + handles first) second) := by
  induction first generalizing count with
  | nil => rfl
  | cons step rest ih =>
      have hhandles : handles (step :: rest) = handles [step] + handles rest :=
        handles_append [step] rest
      rw [List.cons_append, isValidFrom, isValidFrom, ih, hhandles, Bool.and_assoc, Nat.add_assoc]

theorem IsValid.left {first second : List TokenStep} (h : IsValid (first ++ second)) :
    IsValid first := by
  unfold IsValid at h
  rw [isValidFrom_append, Bool.and_eq_true] at h
  exact h.1

/-- A step is about a handle that was made before it. -/
theorem IsValid.handle_lt {before after : List TokenStep} {step : TokenStep} {handle : Nat}
    (h : IsValid (before ++ step :: after)) (hhandle : step.handle? = some handle) :
    handle < handles before := by
  unfold IsValid at h
  rw [isValidFrom_append, isValidFrom, hhandle] at h
  simp only [Nat.zero_add, Option.all_some, Bool.and_eq_true, decide_eq_true_eq] at h
  exact h.2.1

/-- The steps around one of them, if there is one step more at the end. -/
theorem snoc_eq_cut {steps before after : List TokenStep} {last step : TokenStep}
    (h : steps ++ [last] = before ++ step :: after) :
    (steps = before ∧ last = step ∧ after = []) ∨
      ∃ rest, steps = before ++ step :: rest ∧ after = rest ++ [last] := by
  rcases List.eq_nil_or_concat after with rfl | ⟨rest, other, rfl⟩
  · obtain ⟨hbefore, hlast⟩ := List.append_inj' h rfl
    exact .inl ⟨hbefore, (List.cons.inj hlast).1, rfl⟩
  · have hcut : steps ++ [last] = (before ++ step :: rest) ++ [other] := by
      simpa using h
    obtain ⟨hsteps, hlast⟩ := List.append_inj' hcut rfl
    cases hlast
    exact .inr ⟨rest, hsteps, by simp⟩

theorem CopyOf.append {steps : List TokenStep} {copy original : Nat}
    (h : CopyOf steps copy original) (more : List TokenStep) :
    CopyOf (steps ++ more) copy original := by
  obtain ⟨before, after, rfl, hcopy⟩ := h
  exact ⟨before, after ++ more, by simp, hcopy⟩

theorem SameFamily.append {steps : List TokenStep} {first second : Nat}
    (h : SameFamily steps first second) (more : List TokenStep) :
    SameFamily (steps ++ more) first second :=
  h.mono fun _ _ hcopy => hcopy.append more

theorem inForeground_snoc (steps : List TokenStep) (last : TokenStep) (handle : Nat) :
    InForeground (steps ++ [last]) handle ↔
      last = .foreground handle ∨ (last.setsForeground = false ∧ InForeground steps handle) := by
  constructor
  · rintro ⟨before, since, hsteps, hsince⟩
    rcases snoc_eq_cut hsteps with ⟨-, hlast, -⟩ | ⟨rest, hrest, rfl⟩
    · exact .inl hlast
    · refine .inr ⟨hsince last (by simp), before, rest, hrest, ?_⟩
      intro step hmem
      exact hsince step (List.mem_append_left _ hmem)
  · rintro (rfl | ⟨hlast, before, since, rfl, hsince⟩)
    · exact ⟨steps, [], rfl, by simp⟩
    · refine ⟨before, since ++ [last], by simp, ?_⟩
      intro step hmem
      rcases List.mem_append.mp hmem with hmem | hmem
      · exact hsince step hmem
      · rw [List.mem_singleton.mp hmem]
        exact hlast

theorem InForeground.handle_lt {steps : List TokenStep} {handle : Nat}
    (h : InForeground steps handle) (hvalid : IsValid steps) : handle < handles steps := by
  obtain ⟨before, since, rfl, -⟩ := h
  have hlt : handle < handles before := hvalid.handle_lt rfl
  rw [handles_append]
  omega

end TokenStep

/-! ### Tokens that are held -/

namespace CancelTokens

/-- Cancels a token, if there is one to cancel. -/
def cancelAny (tokens : CancelTokens) (token : Option CancelToken) : CancelTokens :=
  token.elim tokens tokens.cancel

theorem isCancelled_iff {tokens : CancelTokens} {token : CancelToken} :
    tokens.isCancelled token = true ↔ token ∈ tokens.cancelled := by
  simp [isCancelled]

theorem made_cancelAny (tokens : CancelTokens) (token : Option CancelToken) :
    (tokens.cancelAny token).made = tokens.made := by
  cases token with
  | none => rfl
  | some token =>
      dsimp only [cancelAny, Option.elim, cancel]
      split_ifs <;> rfl

theorem foreground_cancelAny (tokens : CancelTokens) (token : Option CancelToken) :
    (tokens.cancelAny token).foreground = tokens.foreground := by
  cases token with
  | none => rfl
  | some token =>
      dsimp only [cancelAny, Option.elim, cancel]
      split_ifs <;> rfl

/-- A token that was made is cancelled, and no other. -/
theorem isCancelled_cancelAny {tokens : CancelTokens} {token : Option CancelToken}
    (h : ∀ made, token = some made → made < tokens.made) (other : CancelToken) :
    (tokens.cancelAny token).isCancelled other = true ↔
      tokens.isCancelled other = true ∨ token = some other := by
  cases token with
  | none => simp [cancelAny]
  | some token =>
      rw [isCancelled_iff, isCancelled_iff, cancelAny, Option.elim_some, cancel,
        if_pos (h token rfl), List.mem_insert_iff, Option.some.injEq, eq_comm, or_comm]

theorem interrupt_eq (tokens : CancelTokens) :
    tokens.interrupt = (tokens.foreground.isSome, tokens.cancelAny tokens.foreground) := by
  unfold interrupt cancelAny
  cases tokens.foreground <;> rfl

end CancelTokens

/-- The tokens, and the token that each handle is to. -/
structure HeldTokens where
  tokens : CancelTokens := {}
  held : List CancelToken := []
  deriving DecidableEq, Repr

namespace HeldTokens

open TokenStep

/-- What a step does. -/
def take (state : HeldTokens) : TokenStep → HeldTokens
  | .make => ⟨state.tokens.make.2, state.held ++ [state.tokens.make.1]⟩
  | .copy handle => { state with held := state.held ++ state.held[handle]?.toList }
  | .foreground handle =>
    { state with tokens := state.held[handle]?.elim state.tokens state.tokens.setForeground }
  | .clear => { state with tokens := state.tokens.clearForeground }
  | .cancel handle => { state with tokens := state.tokens.cancelAny state.held[handle]? }
  | .interrupt => { state with tokens := state.tokens.interrupt.2 }

/-- What steps do, one after another. -/
def follow (state : HeldTokens) (steps : List TokenStep) : HeldTokens := steps.foldl take state

/-- The token that a step cancels. -/
def cancels? (state : HeldTokens) : TokenStep → Option CancelToken
  | .cancel handle => state.held[handle]?
  | .interrupt => state.tokens.foreground
  | _ => none

/-- What there is after steps, if there was nothing before. -/
def after (steps : List TokenStep) : HeldTokens := follow {} steps

theorem follow_append (state : HeldTokens) (first second : List TokenStep) :
    state.follow (first ++ second) = (state.follow first).follow second :=
  List.foldl_append

theorem after_snoc (steps : List TokenStep) (last : TokenStep) :
    after (steps ++ [last]) = (after steps).take last :=
  follow_append {} steps [last]

/-! ### What a step does -/

theorem take_interrupt (state : HeldTokens) :
    state.take .interrupt =
      { state with tokens := state.tokens.cancelAny state.tokens.foreground } := by
  rw [take, CancelTokens.interrupt_eq]

/-- All tokens that are held or in the foreground were made. -/
structure IsSound (state : HeldTokens) : Prop where
  held : ∀ token ∈ state.held, token < state.tokens.made
  foreground : ∀ token, state.tokens.foreground = some token → token < state.tokens.made

theorem IsSound.cancelAny {state : HeldTokens} (h : state.IsSound) (token : Option CancelToken) :
    IsSound { state with tokens := state.tokens.cancelAny token } := by
  constructor
  · rw [CancelTokens.made_cancelAny]
    exact h.held
  · rw [CancelTokens.made_cancelAny, CancelTokens.foreground_cancelAny]
    exact h.foreground

theorem IsSound.take {state : HeldTokens} (h : state.IsSound) (step : TokenStep) :
    (state.take step).IsSound := by
  cases step with
  | make =>
      refine ⟨?_, fun token hforeground => Nat.lt_succ_of_lt (h.foreground token hforeground)⟩
      intro token hmem
      rcases List.mem_append.mp hmem with hmem | hmem
      · exact Nat.lt_succ_of_lt (h.held token hmem)
      · rw [List.mem_singleton.mp hmem]
        exact Nat.lt_succ_self _
  | copy handle =>
      refine ⟨?_, h.foreground⟩
      intro token hmem
      rcases List.mem_append.mp hmem with hmem | hmem
      · exact h.held token hmem
      · exact h.held token (List.mem_of_getElem? (Option.mem_toList.mp hmem))
  | foreground handle =>
      dsimp only [HeldTokens.take]
      cases hheld : state.held[handle]? with
      | none => exact h
      | some token =>
          refine ⟨h.held, ?_⟩
          rintro _ ⟨⟩
          exact h.held token (List.mem_of_getElem? hheld)
  | clear => exact ⟨h.held, nofun⟩
  | cancel handle => exact h.cancelAny _
  | interrupt =>
      rw [take_interrupt]
      exact h.cancelAny _

theorem isSound_after (steps : List TokenStep) : (after steps).IsSound := by
  induction steps using List.reverseRecOn with
  | nil => exact ⟨nofun, nofun⟩
  | append_singleton steps last ih =>
      rw [after_snoc]
      exact ih.take last

/-- Only the steps for it change what is in the foreground. -/
theorem foreground_take {step : TokenStep} (h : step.setsForeground = false) (state : HeldTokens) :
    (state.take step).tokens.foreground = state.tokens.foreground := by
  cases step with
  | make => rfl
  | copy handle => rfl
  | foreground handle => cases h
  | clear => cases h
  | cancel handle => exact CancelTokens.foreground_cancelAny _ _
  | interrupt =>
      rw [take_interrupt]
      exact CancelTokens.foreground_cancelAny _ _

/-- A step cancels one token at most, and undoes no cancellation. -/
theorem isCancelled_take {state : HeldTokens} (h : state.IsSound) (step : TokenStep)
    (token : CancelToken) :
    (state.take step).tokens.isCancelled token = true ↔
      state.tokens.isCancelled token = true ∨ state.cancels? step = some token := by
  cases step with
  | cancel handle =>
      exact CancelTokens.isCancelled_cancelAny
        (fun made hheld => h.held made (List.mem_of_getElem? hheld)) token
  | interrupt =>
      rw [take_interrupt]
      exact CancelTokens.isCancelled_cancelAny h.foreground token
  | foreground handle =>
      dsimp only [take, cancels?]
      cases state.held[handle]? with
      | none => simp
      | some other => simp [CancelTokens.setForeground, CancelTokens.isCancelled]
  | make => simp [take, cancels?, CancelTokens.make, CancelTokens.isCancelled]
  | copy handle => simp [take, cancels?]
  | clear => simp [take, cancels?, CancelTokens.clearForeground, CancelTokens.isCancelled]

/-- A handle stays a handle to the same token. -/
theorem held_prefix_take (state : HeldTokens) (step : TokenStep) :
    state.held <+: (state.take step).held := by
  cases step with
  | make => exact List.prefix_append _ _
  | copy handle => exact List.prefix_append _ _
  | _ => exact List.prefix_rfl

theorem held_prefix_follow (state : HeldTokens) (steps : List TokenStep) :
    state.held <+: (state.follow steps).held := by
  induction steps generalizing state with
  | nil => exact List.prefix_rfl
  | cons step rest ih => exact (held_prefix_take state step).trans (ih (state.take step))

theorem held_append {steps : List TokenStep} {handle : Nat} {token : CancelToken}
    (h : (after steps).held[handle]? = some token) (more : List TokenStep) :
    (after (steps ++ more)).held[handle]? = some token := by
  obtain ⟨later, hlater⟩ := held_prefix_follow (after steps) more
  have hafter : (after (steps ++ more)).held = (after steps).held ++ later := by
    rw [hlater]
    exact congrArg held (follow_append {} steps more)
  obtain ⟨hlt, -⟩ := List.getElem?_eq_some_iff.mp h
  rw [hafter, List.getElem?_append_left hlt, h]

/-- There are as many handles as were made. -/
theorem length_held {steps : List TokenStep} (h : IsValid steps) :
    (after steps).held.length = handles steps := by
  induction steps using List.reverseRecOn with
  | nil => rfl
  | append_singleton steps last ih =>
      have hlength := ih h.left
      rw [after_snoc, handles_append, ← hlength]
      cases last with
      | make => exact List.length_append
      | copy handle =>
          have hlt : handle < (after steps).held.length := by
            rw [hlength]
            exact h.handle_lt rfl
          simp [take, List.getElem?_eq_getElem hlt, handles, makesHandle]
      | _ => rfl

theorem exists_held {steps : List TokenStep} (h : IsValid steps) {handle : Nat}
    (hlt : handle < handles steps) : ∃ token, (after steps).held[handle]? = some token := by
  rw [← length_held h] at hlt
  exact ⟨_, List.getElem?_eq_getElem hlt⟩

/-! ### Families -/

/-- A copy is a handle to the same token. -/
theorem held_of_copyOf {steps : List TokenStep} (h : IsValid steps) {copy original : Nat}
    (hcopy : CopyOf steps copy original) :
    (after steps).held[copy]? = (after steps).held[original]? := by
  obtain ⟨before, rest, rfl, rfl⟩ := hcopy
  have hbefore : IsValid before := h.left
  obtain ⟨token, htoken⟩ := exists_held hbefore (h.handle_lt rfl)
  have hcopied : (after (before ++ [.copy original])).held[handles before]? = some token := by
    rw [after_snoc, ← length_held hbefore]
    simp [take, htoken]
  have hsteps : before ++ .copy original :: rest = (before ++ [.copy original]) ++ rest := by simp
  rw [held_append htoken, hsteps, held_append hcopied]

theorem held_of_sameFamily {steps : List TokenStep} (h : IsValid steps) {first second : Nat}
    (hfamily : SameFamily steps first second) :
    (after steps).held[first]? = (after steps).held[second]? := by
  induction hfamily with
  | rel copy original hcopy => exact held_of_copyOf h hcopy
  | refl handle => rfl
  | symm first second _ ih => exact ih.symm
  | trans first second third _ _ ih ih' => exact ih.trans ih'

/-- A handle with one more behind the others is one of them or the last. -/
theorem held_snoc {held : List CancelToken} {handle : Nat} {last token : CancelToken}
    (h : (held ++ [last])[handle]? = some token) :
    held[handle]? = some token ∨ (handle = held.length ∧ token = last) := by
  obtain ⟨hlt, hget⟩ := List.getElem?_eq_some_iff.mp h
  rw [List.length_append, List.length_singleton] at hlt
  rcases Nat.lt_or_eq_of_le (Nat.le_of_lt_succ hlt) with hlt | rfl
  · rw [List.getElem?_append_left hlt] at h
    exact .inl h
  · rw [List.getElem?_concat_length] at h
    exact .inr ⟨rfl, (Option.some.inj h).symm⟩

/-- Handles to the same token are of the same family. -/
theorem sameFamily_of_held {steps : List TokenStep} (h : IsValid steps) {first second : Nat}
    {token : CancelToken} (hfirst : (after steps).held[first]? = some token)
    (hsecond : (after steps).held[second]? = some token) : SameFamily steps first second := by
  induction steps using List.reverseRecOn generalizing first second token with
  | nil => cases hfirst
  | append_singleton steps last ih =>
      have hvalid : IsValid steps := h.left
      have hold : ∀ {first second token}, (after steps).held[first]? = some token →
          (after steps).held[second]? = some token → SameFamily (steps ++ [last]) first second :=
        fun hfirst hsecond => (ih hvalid hfirst hsecond).append [last]
      rw [after_snoc] at hfirst hsecond
      cases last with
      | make =>
          -- The token is new, so it is held by no other handle.
          have hnew : ∀ {handle : Nat} {token : CancelToken},
              (after steps).held[handle]? = some token → token ≠ (after steps).tokens.made :=
            fun hheld => Nat.ne_of_lt ((isSound_after steps).held _ (List.mem_of_getElem? hheld))
          rcases held_snoc hfirst with hfirst | ⟨rfl, hmade⟩
          · rcases held_snoc hsecond with hsecond | ⟨-, hmade⟩
            · exact hold hfirst hsecond
            · exact absurd hmade (hnew hfirst)
          · rcases held_snoc hsecond with hsecond | ⟨rfl, -⟩
            · exact absurd hmade (hnew hsecond)
            · exact .refl _
      | copy original =>
          obtain ⟨token', htoken'⟩ := exists_held hvalid (h.handle_lt rfl)
          have hcopy : SameFamily (steps ++ [.copy original]) (after steps).held.length original :=
            .rel _ _ ⟨steps, [], rfl, (length_held hvalid).symm⟩
          have hheld : ((after steps).take (.copy original)).held =
              (after steps).held ++ [token'] := by
            simp only [take, htoken', Option.toList_some]
          rw [hheld] at hfirst hsecond
          rcases held_snoc hfirst with hfirst' | ⟨rfl, rfl⟩
          · rcases held_snoc hsecond with hsecond' | ⟨rfl, rfl⟩
            · exact hold hfirst' hsecond'
            · exact .trans _ _ _ (hold hfirst' htoken') (.symm _ _ hcopy)
          · rcases held_snoc hsecond with hsecond' | ⟨rfl, -⟩
            · exact .trans _ _ _ hcopy (hold htoken' hsecond')
            · exact .refl _
      | _ => exact hold hfirst hsecond

/-- **Handles are of the same family exactly if they are to the same token.** -/
theorem sameFamily_iff {steps : List TokenStep} (h : IsValid steps) {first second : Nat}
    {token : CancelToken} (hfirst : (after steps).held[first]? = some token) :
    SameFamily steps first second ↔ (after steps).held[second]? = some token := by
  constructor
  · intro hfamily
    rw [← hfirst]
    exact (held_of_sameFamily h hfamily).symm
  · exact sameFamily_of_held h hfirst

/-! ### What is in the foreground -/

/-- A handle that is in the foreground was to the same token before any further steps. -/
theorem held_of_inForeground {steps : List TokenStep} (h : IsValid steps) {handle : Nat}
    {token : CancelToken} (hhandle : InForeground steps handle) (more : List TokenStep)
    (hheld : (after (steps ++ more)).held[handle]? = some token) :
    (after steps).held[handle]? = some token := by
  obtain ⟨token', htoken'⟩ := exists_held h (hhandle.handle_lt h)
  cases (held_append htoken' more).symm.trans hheld
  exact htoken'

/-- A token is in the foreground exactly if a handle to it was put there last. -/
theorem foreground_iff {steps : List TokenStep} (h : IsValid steps) (token : CancelToken) :
    (after steps).tokens.foreground = some token ↔
      ∃ handle, InForeground steps handle ∧ (after steps).held[handle]? = some token := by
  induction steps using List.reverseRecOn with
  | nil =>
      constructor
      · nofun
      · rintro ⟨handle, ⟨before, since, hsteps, -⟩, -⟩
        simp at hsteps
  | append_singleton steps last ih =>
      have hvalid : IsValid steps := h.left
      cases hsets : last.setsForeground with
      | false =>
          have hsame : (after (steps ++ [last])).tokens.foreground =
              (after steps).tokens.foreground := by
            rw [after_snoc, foreground_take hsets]
          rw [hsame, ih hvalid]
          constructor
          · rintro ⟨handle, hhandle, hheld⟩
            exact ⟨handle, (inForeground_snoc ..).mpr (.inr ⟨hsets, hhandle⟩), held_append hheld _⟩
          · rintro ⟨handle, hhandle, hheld⟩
            rcases (inForeground_snoc ..).mp hhandle with rfl | ⟨-, hhandle⟩
            · cases hsets
            · exact ⟨handle, hhandle, held_of_inForeground hvalid hhandle [last] hheld⟩
      | true =>
          have hlast : ∀ handle, InForeground (steps ++ [last]) handle ↔
              last = .foreground handle := by
            intro handle
            simp [inForeground_snoc, hsets]
          simp only [hlast]
          cases last with
          | foreground handle =>
              obtain ⟨token', htoken'⟩ := exists_held hvalid (h.handle_lt rfl)
              simp [after_snoc, take, htoken', CancelTokens.setForeground]
          | clear => simp [after_snoc, take, CancelTokens.clearForeground]
          | _ => cases hsets

/-- An interrupt finds something in the foreground exactly if something was put there and the
foreground was not cleared since. -/
theorem interrupt_iff {steps : List TokenStep} (h : IsValid steps) :
    (after steps).tokens.interrupt.1 = true ↔ ∃ handle, InForeground steps handle := by
  rw [CancelTokens.interrupt_eq]
  constructor
  · intro hsome
    obtain ⟨token, htoken⟩ := Option.isSome_iff_exists.mp hsome
    obtain ⟨handle, hhandle, -⟩ := (foreground_iff h token).mp htoken
    exact ⟨handle, hhandle⟩
  · rintro ⟨handle, hhandle⟩
    obtain ⟨token, htoken⟩ := exists_held h (hhandle.handle_lt h)
    exact Option.isSome_of_eq_some ((foreground_iff h token).mpr ⟨handle, hhandle, htoken⟩)

/-! ### What is cancelled -/

/-- **A token is cancelled exactly if one of the steps cancelled it.** -/
theorem isCancelled_iff (steps : List TokenStep) (token : CancelToken) :
    (after steps).tokens.isCancelled token = true ↔
      ∃ before step rest, steps = before ++ step :: rest ∧
        (after before).cancels? step = some token := by
  induction steps using List.reverseRecOn with
  | nil =>
      constructor
      · nofun
      · rintro ⟨before, step, rest, hsteps, -⟩
        simp at hsteps
  | append_singleton steps last ih =>
      rw [after_snoc, isCancelled_take (isSound_after steps), ih]
      constructor
      · rintro (⟨before, step, rest, rfl, hcancels⟩ | hcancels)
        · exact ⟨before, step, rest ++ [last], by simp, hcancels⟩
        · exact ⟨steps, last, [], rfl, hcancels⟩
      · rintro ⟨before, step, rest, hsteps, hcancels⟩
        rcases snoc_eq_cut hsteps with ⟨rfl, rfl, -⟩ | ⟨rest', hrest, -⟩
        · exact .inr hcancels
        · exact .inl ⟨before, step, rest', hrest, hcancels⟩

/-- No step undoes a cancellation. -/
theorem isCancelled_append {steps : List TokenStep} {token : CancelToken}
    (h : (after steps).tokens.isCancelled token = true) (more : List TokenStep) :
    (after (steps ++ more)).tokens.isCancelled token = true := by
  obtain ⟨before, step, rest, rfl, hcancels⟩ := (isCancelled_iff steps token).mp h
  exact (isCancelled_iff ..).mpr ⟨before, step, rest ++ more, by simp, hcancels⟩

/-- A token is cancelled exactly if its family was. -/
theorem isCancelled_iff_cancelsFamily {steps : List TokenStep} (h : IsValid steps) {handle : Nat}
    {token : CancelToken} (hheld : (after steps).held[handle]? = some token) :
    (after steps).tokens.isCancelled token = true ↔ CancelsFamily steps handle := by
  rw [isCancelled_iff]
  constructor
  · rintro ⟨before, step, rest, rfl, hcancels⟩
    cases step with
    | cancel other =>
        refine .inl ⟨before, other, rest, rfl, ?_⟩
        exact (sameFamily_iff h (held_append hcancels _)).mpr hheld
    | interrupt =>
        obtain ⟨other, hother, hcancels⟩ := (foreground_iff h.left token).mp hcancels
        refine .inr ⟨before, other, rest, rfl, hother, ?_⟩
        exact (sameFamily_iff h (held_append hcancels _)).mpr hheld
    | _ => cases hcancels
  · have hfound : ∀ {before rest : List TokenStep} {step : TokenStep} {other : Nat},
        steps = before ++ step :: rest → other < handles before → SameFamily steps other handle →
        (after before).held[other]? = some token := by
      rintro before rest step other rfl hlt hfamily
      obtain ⟨token', htoken'⟩ := exists_held h.left hlt
      have hsame := (sameFamily_iff h (held_append htoken' _)).mp hfamily
      cases hsame.symm.trans hheld
      exact htoken'
    rintro (⟨before, other, rest, hsteps, hfamily⟩ | ⟨before, other, rest, hsteps, hother, hfamily⟩)
    · refine ⟨before, .cancel other, rest, hsteps, hfound hsteps ?_ hfamily⟩
      rw [hsteps] at h
      exact h.handle_lt rfl
    · have hvalid : IsValid before := by
        rw [hsteps] at h
        exact h.left
      refine ⟨before, .interrupt, rest, hsteps, (foreground_iff hvalid token).mpr ?_⟩
      exact ⟨other, hother, hfound hsteps (hother.handle_lt hvalid) hfamily⟩

end HeldTokens

end Conch
