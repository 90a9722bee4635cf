import Conch.Config
import Conch.Proofs.Aliases
import Mathlib.Data.List.Chain

/-!
What the name of an alias stands for, exactly. The loop that follows aliases is described here
without a bound on its turns (`Loop`), and with any limit on the length of chains or none. It ends
all the same: the names that it has passed are different aliases, and there are only so many.

* `reached?`: the name that a number of steps from alias to alias gets to.
* `IsTrail`: what holds of the names that the loop has passed, at each of its turns.
* `exists_loop`: the loop ends, in fewer turns than there are aliases.
* `resolve?_eq_of_loop`: a look-up gives what the loop ends with.
* `IsRefused`: the chain that is reported if a name cannot be resolved.
* `aliases_resolved_exactly`: which names are resolved, to what, and which chains are reported.
-/

namespace Conch

/-- However the shell is configured, it follows an alias at least one step. -/
theorem Config.aliasDepth_pos (temporary : Text) (lookup : Text → Option Text) :
    1 ≤ (ofVariables temporary lookup).aliasDepth := by
  unfold ofVariables
  dsimp only
  cases hgiven : Option.filter (fun depth => decide (0 < depth)) _ with
  | none => exact Nat.succ_pos _
  | some depth =>
      have hpositive := (Option.filter_eq_some_iff.mp hgiven).2
      exact of_decide_eq_true hpositive

namespace Scope

variable {scope : Scope} {limit : Option Nat} {name target next : Text} {visited : List Text}
  {count : Nat} {result : Except (List Text) Text}

/-! ### Steps from alias to alias -/

/-- The name that is reached from a name in a number of steps, each from an alias to its target. -/
def reached? (scope : Scope) (name : Text) : Nat → Option Text
  | 0 => some name
  | steps + 1 => (scope.reached? name steps).bind scope.aliases.get?

/-- The first step first. -/
theorem reached?_succ (hget : scope.aliases.get? name = some next) (steps : Nat) :
    scope.reached? name (steps + 1) = scope.reached? next steps := by
  induction steps with
  | zero => simp [reached?, hget]
  | succ steps ih => rw [reached?, ih, reached?]

theorem reached?_of_not_alias (hend : scope.aliases.get? name = none) (steps : Nat) :
    scope.reached? name (steps + 1) = none := by
  induction steps with
  | zero => simp [reached?, hend]
  | succ steps ih => rw [reached?, ih, Option.bind_none]

/-- All names before one that is reached are aliases. -/
theorem exists_reached?_of_lt {steps fewer : Nat} (h : scope.reached? name steps = some target)
    (hfewer : fewer < steps) :
    ∃ entry, scope.reached? name fewer = some entry ∧
      (scope.aliases.get? entry).isSome = true := by
  induction steps generalizing target with
  | zero => omega
  | succ steps ih =>
      obtain ⟨entry, hentry, hget⟩ := Option.bind_eq_some_iff.mp h
      by_cases hlast : fewer = steps
      · exact ⟨entry, hlast ▸ hentry, by rw [hget]; rfl⟩
      · exact ih hentry (by omega)

/-- The steps to a name that is not an alias are a chain. -/
theorem chain_of_reached? {steps : Nat} (h : scope.reached? name steps = some target)
    (hend : scope.aliases.get? target = none) :
    ∃ passed, scope.Chain target name passed ∧ passed.length = steps := by
  induction steps generalizing name with
  | zero =>
      cases h
      exact ⟨[], .here, rfl⟩
  | succ steps ih =>
      cases hget : scope.aliases.get? name with
      | none =>
          rw [reached?_of_not_alias hget] at h
          cases h
      | some next =>
          rw [reached?_succ hget] at h
          obtain ⟨passed, hchain, hlength⟩ := ih h
          have hne : name ≠ target := by
            rintro rfl
            rw [hget] at hend
            cases hend
          exact ⟨name :: passed, .step hne hget hchain, by rw [List.length_cons, hlength]⟩

/-! ### The loop -/

/-- Whether the loop refuses to go on from an alias when it has passed `visited`. -/
def Refuses (limit : Option Nat) (visited : List Text) (target : Text) : Prop :=
  target ∈ visited ∨ ∃ bound ∈ limit, bound ≤ visited.length

theorem refuses_some_iff {bound : Nat} :
    Refuses (some bound) visited target ↔ target ∈ visited ∨ bound ≤ visited.length := by
  simp [Refuses]

/-- The loop that has passed `visited` and stands at a name ends with a result after a number of
turns. There may be a limit on the number of names that it passes, or none. -/
inductive Loop (scope : Scope) (limit : Option Nat) :
    List Text → Text → Nat → Except (List Text) Text → Prop where
  | ended {visited : List Text} {target : Text} :
      scope.aliases.get? target = none → Loop scope limit visited target 0 (.ok target)
  | refused {visited : List Text} {target next : Text} :
      scope.aliases.get? target = some next → Refuses limit visited target →
      Loop scope limit visited target 0 (.error (visited ++ [target]))
  | turn {visited : List Text} {target next : Text} {count : Nat}
      {result : Except (List Text) Text} :
      scope.aliases.get? target = some next → ¬ Refuses limit visited target →
      Loop scope limit (visited ++ [target]) next count result →
      Loop scope limit visited target (count + 1) result

/-- The loop takes one course only. -/
theorem Loop.unique {count' : Nat} {result' : Except (List Text) Text}
    (h : scope.Loop limit visited target count result)
    (h' : scope.Loop limit visited target count' result') : count = count' ∧ result = result' := by
  induction h generalizing count' with
  | ended hend =>
      cases h' with
      | ended => exact ⟨rfl, rfl⟩
      | refused hget =>
          rw [hend] at hget
          cases hget
      | turn hget =>
          rw [hend] at hget
          cases hget
  | refused hget hrefuses =>
      cases h' with
      | ended hend =>
          rw [hend] at hget
          cases hget
      | refused => exact ⟨rfl, rfl⟩
      | turn _ hgoes => exact absurd hrefuses hgoes
  | turn hget hgoes _ ih =>
      cases h' with
      | ended hend =>
          rw [hend] at hget
          cases hget
      | refused _ hrefuses => exact absurd hrefuses hgoes
      | turn hget' _ hrest =>
          rw [hget] at hget'
          cases hget'
          obtain ⟨rfl, rfl⟩ := ih hrest
          exact ⟨rfl, rfl⟩

theorem nodup_concat (hnew : visited.Nodup) (hmem : target ∉ visited) :
    (visited ++ [target]).Nodup :=
  List.nodup_append_comm.mp (List.nodup_cons.mpr ⟨hmem, hnew⟩)

theorem isAlias_concat (haliases : ∀ entry ∈ visited, (scope.aliases.get? entry).isSome = true)
    (hget : scope.aliases.get? target = some next) :
    ∀ entry ∈ visited ++ [target], (scope.aliases.get? entry).isSome = true :=
  List.forall_mem_append.mpr ⟨haliases, List.forall_mem_singleton.mpr (by rw [hget]; rfl)⟩

/-- **The loop ends**, whatever the aliases are and whether or not there is a limit: the names that
it passes are different aliases. -/
theorem exists_loop (limit : Option Nat) (target : Text) (hnew : visited.Nodup)
    (haliases : ∀ entry ∈ visited, (scope.aliases.get? entry).isSome = true) :
    ∃ count result, scope.Loop limit visited target count result ∧
      count + visited.length ≤ scope.aliases.size := by
  generalize hroom : scope.aliases.size - visited.length = room
  have hfits := length_le_size hnew haliases
  have hlength : ∀ visited : List Text, ∀ target, (visited ++ [target]).length =
      visited.length + 1 := fun visited target => by simp
  -- Each turn takes one of the aliases that are left.
  induction room generalizing visited target with
  | zero =>
      cases hget : scope.aliases.get? target with
      | none => exact ⟨0, _, .ended hget, by omega⟩
      | some next =>
          refine ⟨0, _, .refused hget (.inl ?_), by omega⟩
          by_contra hmem
          have hmore := length_le_size (nodup_concat hnew hmem) (isAlias_concat haliases hget)
          rw [hlength] at hmore
          omega
  | succ room ih =>
      cases hget : scope.aliases.get? target with
      | none => exact ⟨0, _, .ended hget, by omega⟩
      | some next =>
          by_cases hrefuses : Refuses limit visited target
          · exact ⟨0, _, .refused hget hrefuses, by omega⟩
          · have hmem : target ∉ visited := fun hmem => hrefuses (.inl hmem)
            obtain ⟨count, result, hloop, hcount⟩ := ih next (nodup_concat hnew hmem)
              (isAlias_concat haliases hget) (by rw [hlength]; omega) (by rw [hlength]; omega)
            rw [hlength] at hcount
            exact ⟨count + 1, result, .turn hget hrefuses hloop, by omega⟩

/-- Enough fuel gets the look-up to the end of the loop. -/
theorem follow_eq_of_loop (h : scope.Loop (some scope.aliasDepth) visited target count result)
    {fuel : Nat} (hfuel : count < fuel) : scope.follow fuel visited target = result := by
  induction h generalizing fuel with
  | ended hend =>
      obtain ⟨fuel, rfl⟩ := Nat.exists_eq_add_of_lt hfuel
      rw [follow, hend]
  | refused hget hstops =>
      obtain ⟨fuel, rfl⟩ := Nat.exists_eq_add_of_lt hfuel
      rw [follow, hget]
      exact if_pos (refuses_some_iff.mp hstops)
  | turn hget hgoes _ ih =>
      obtain ⟨fuel, rfl⟩ := Nat.exists_eq_add_of_lt hfuel
      rw [follow, hget]
      exact (if_neg fun hstops => hgoes (refuses_some_iff.mpr hstops)).trans (ih (by omega))

/-- The loop from the target of an alias ends in fewer turns than there are aliases. -/
theorem exists_loop_of_alias (limit : Option Nat) (hget : scope.aliases.get? name = some target) :
    ∃ count result, scope.Loop limit [name] target count result ∧ count < scope.aliases.size := by
  obtain ⟨count, result, hloop, hcount⟩ := exists_loop limit target
    (List.nodup_singleton name) (List.forall_mem_singleton.mpr (by rw [hget]; rfl))
  exact ⟨count, result, hloop, by rw [List.length_singleton] at hcount; omega⟩

/-- **A look-up gives what the loop ends with.** -/
theorem resolve?_eq_of_loop (hget : scope.aliases.get? name = some target)
    (h : scope.Loop (some scope.aliasDepth) [name] target count result) :
    scope.resolve? name = result.map some := by
  obtain ⟨count', result', hloop, hcount⟩ := exists_loop_of_alias (some scope.aliasDepth) hget
  obtain ⟨rfl, rfl⟩ := h.unique hloop
  have hfollow := follow_eq_of_loop h (Nat.lt_succ_of_lt hcount)
  rw [resolve?, hget]
  dsimp only
  rw [hfollow]

/-! ### Names that are resolved -/

/-- A loop that ends well has made as many steps as turns, within the limit. -/
theorem Loop.reached?_of_ok {final : Text} (h : scope.Loop limit visited target count (.ok final))
    (hshort : ∀ bound ∈ limit, visited.length ≤ bound) :
    scope.reached? target count = some final ∧ scope.aliases.get? final = none ∧
      ∀ bound ∈ limit, visited.length + count ≤ bound := by
  generalize hresult : Except.ok final = result at h
  induction h with
  | ended hend =>
      cases hresult
      exact ⟨rfl, hend, hshort⟩
  | refused => cases hresult
  | @turn visited target next count result hget hgoes _ ih =>
      have hbelow : ∀ bound ∈ limit, visited.length < bound := fun bound hbound =>
        Nat.lt_of_not_le fun hle => hgoes (.inr ⟨bound, hbound, hle⟩)
      have hmore : ∀ bound ∈ limit, (visited ++ [target]).length ≤ bound := fun bound hbound => by
        rw [List.length_append, List.length_singleton]
        exact hbelow bound hbound
      obtain ⟨hreached, hend, hlength⟩ := ih hmore hresult
      refine ⟨by rw [reached?_succ hget, hreached], hend, fun bound hbound => ?_⟩
      have hroom := hlength bound hbound
      rw [List.length_append, List.length_singleton] at hroom
      omega

/-- The loop goes along a chain to its end, if it is not too long. -/
theorem Chain.loop {passed : List Text} (h : scope.Chain target name passed)
    (hend : scope.aliases.get? target = none) (hnew : (visited ++ passed).Nodup)
    (hshort : ∀ bound ∈ limit, visited.length + passed.length ≤ bound) :
    scope.Loop limit visited name passed.length (.ok target) := by
  induction h generalizing visited with
  | here => exact .ended hend
  | @step name next passed hne hget hrest ih =>
      have hsplit : visited ++ name :: passed = (visited ++ [name]) ++ passed := by simp
      rw [List.length_cons] at hshort
      rw [hsplit] at hnew
      refine .turn hget ?_ (ih hnew fun bound hbound => ?_)
      · rintro (hmem | ⟨bound, hbound, hle⟩)
        · have hdisjoint := List.disjoint_of_nodup_append (List.nodup_append.mp hnew).1
          exact hdisjoint hmem (List.mem_singleton_self name)
        · have hroom := hshort bound hbound
          omega
      · have hroom := hshort bound hbound
        rw [List.length_append, List.length_singleton]
        omega

/-- A number of steps within the depth of the scope, at least one, leads from a name through aliases
to a target that is not an alias. -/
def ResolvesTo (scope : Scope) (name target : Text) : Prop :=
  ∃ steps, 1 ≤ steps ∧ steps ≤ scope.aliasDepth ∧
    (∀ fewer < steps, ∃ entry, scope.reached? name fewer = some entry ∧
      (scope.aliases.get? entry).isSome = true) ∧
    scope.reached? name steps = some target ∧ scope.aliases.get? target = none

/-- **Which names are resolved, and to what.** -/
theorem resolve?_eq_ok_some_iff (hdepth : 1 ≤ scope.aliasDepth) :
    scope.resolve? name = .ok (some target) ↔ scope.ResolvesTo name target := by
  cases hget : scope.aliases.get? name with
  | none =>
      rw [resolve?, hget]
      refine iff_of_false (fun h => by cases h) ?_
      rintro ⟨_ | steps, hpositive, -, -, hreached, -⟩
      · omega
      · rw [reached?_of_not_alias hget] at hreached
        cases hreached
  | some next =>
      constructor
      · intro h
        obtain ⟨count, result, hloop, -⟩ := exists_loop_of_alias (some scope.aliasDepth) hget
        rw [resolve?_eq_of_loop hget hloop] at h
        cases result with
        | error chain => cases h
        | ok final =>
            cases h
            obtain ⟨hreached, hend, hlength⟩ := hloop.reached?_of_ok (by simpa using hdepth)
            have hsteps := hlength _ rfl
            rw [List.length_singleton] at hsteps
            rw [← reached?_succ hget] at hreached
            exact ⟨count + 1, by omega, by omega, fun _ => exists_reached?_of_lt hreached, hreached,
              hend⟩
      · rintro ⟨steps, hpositive, hsteps, -, hreached, hend⟩
        obtain ⟨passed, hchain, rfl⟩ := chain_of_reached? hreached hend
        have hnew := (List.nodup_cons.mp hchain.nodup).2
        cases hchain with
        | here => simp at hpositive
        | step _ hget' hrest =>
            rw [hget] at hget'
            cases hget'
            rw [List.length_cons] at hsteps
            have hloop : scope.Loop (some scope.aliasDepth) [name] _ _ _ :=
              hrest.loop hend hnew (by simp; omega)
            rw [resolve?_eq_of_loop hget hloop]
            rfl

/-! ### Chains that are refused -/

/-- What holds of the names that the loop has passed from `name` on when it stands at a target. -/
structure IsTrail (scope : Scope) (name : Text) (visited : List Text) (target : Text) : Prop where
  starts : visited.head? = some name
  linked : (visited ++ [target]).IsChain fun entry next => scope.aliases.get? entry = some next
  aliases : ∀ entry ∈ visited, (scope.aliases.get? entry).isSome = true
  fresh : visited.Nodup
  short : visited.length ≤ scope.aliasDepth

/-- The chain that is reported for a name that cannot be resolved. It goes from alias to alias, and
is broken off at the first name that it has passed before, or at the first that is too far. -/
structure IsRefused (scope : Scope) (name : Text) (chain : List Text) : Prop where
  starts : chain.head? = some name
  linked : chain.IsChain fun entry next => scope.aliases.get? entry = some next
  aliases : ∀ entry ∈ chain, (scope.aliases.get? entry).isSome = true
  fresh : chain.dropLast.Nodup
  short : chain.length ≤ scope.aliasDepth + 1
  stopped : (∃ last ∈ chain.getLast?, last ∈ chain.dropLast) ∨
    chain.length = scope.aliasDepth + 1

theorem isTrail_singleton (hdepth : 1 ≤ scope.aliasDepth)
    (hget : scope.aliases.get? name = some target) : scope.IsTrail name [name] target where
  starts := rfl
  linked := by simpa using hget
  aliases := List.forall_mem_singleton.mpr (by rw [hget]; rfl)
  fresh := List.nodup_singleton name
  short := hdepth

/-- One turn of the loop. -/
theorem IsTrail.turn (h : scope.IsTrail name visited target)
    (hget : scope.aliases.get? target = some next)
    (hgoes : ¬ Refuses (some scope.aliasDepth) visited target) :
    scope.IsTrail name (visited ++ [target]) next where
  starts := by
    rw [List.head?_append, h.starts]
    rfl
  linked := by
    rw [List.append_assoc]
    exact List.isChain_append_cons_cons.mpr ⟨h.linked, hget, List.isChain_singleton next⟩
  aliases := isAlias_concat h.aliases hget
  fresh := nodup_concat h.fresh fun hmem => hgoes (.inl hmem)
  short := by
    rw [List.length_append, List.length_singleton]
    exact Nat.lt_of_not_le fun hle => hgoes (refuses_some_iff.mpr (.inr hle))

/-- A trail that the loop refuses to go on with is a refused chain. -/
theorem IsTrail.isRefused (h : scope.IsTrail name visited target)
    (hget : scope.aliases.get? target = some next)
    (hrefuses : Refuses (some scope.aliasDepth) visited target) :
    scope.IsRefused name (visited ++ [target]) where
  starts := by
    rw [List.head?_append, h.starts]
    rfl
  linked := h.linked
  aliases := isAlias_concat h.aliases hget
  fresh := by
    rw [List.dropLast_concat]
    exact h.fresh
  short := by
    rw [List.length_append, List.length_singleton]
    exact Nat.succ_le_succ h.short
  stopped := by
    rw [List.getLast?_concat, List.dropLast_concat, List.length_append, List.length_singleton]
    rcases refuses_some_iff.mp hrefuses with hmem | hle
    · exact .inl ⟨target, rfl, hmem⟩
    · exact .inr (by rw [Nat.le_antisymm h.short hle])

/-- **Whatever the loop passes**, the chain that it reports in the end is a refused one. -/
theorem Loop.isRefused {chain : List Text}
    (h : scope.Loop (some scope.aliasDepth) visited target count (.error chain))
    (htrail : scope.IsTrail name visited target) : scope.IsRefused name chain := by
  generalize hresult : Except.error chain = result at h
  induction h with
  | ended => cases hresult
  | refused hget hrefuses =>
      cases hresult
      exact htrail.isRefused hget hrefuses
  | turn hget hgoes _ ih => exact ih (htrail.turn hget hgoes) hresult

/-- The loop goes along a refused chain and reports it. -/
theorem IsRefused.loop {rest : List Text} (h : scope.IsRefused name (visited ++ target :: rest)) :
    scope.Loop (some scope.aliasDepth) visited target rest.length
      (.error (visited ++ target :: rest)) := by
  induction rest generalizing visited target with
  | nil =>
      have halias := h.aliases target (by simp)
      obtain ⟨next, hget⟩ := Option.isSome_iff_exists.mp halias
      refine .refused hget (refuses_some_iff.mpr ?_)
      have hstopped := h.stopped
      rw [List.getLast?_concat, List.dropLast_concat, List.length_append, List.length_singleton]
        at hstopped
      rcases hstopped with ⟨last, hlast, hmem⟩ | hlength
      · cases hlast
        exact .inl hmem
      · exact .inr (by omega)
  | cons next rest ih =>
      obtain ⟨-, hget, -⟩ := List.isChain_append_cons_cons.mp h.linked
      have hsplit : visited ++ target :: next :: rest = (visited ++ [target]) ++ next :: rest := by
        simp
      refine .turn hget (mt refuses_some_iff.mp ?_) ?_
      · rintro (hmem | hle)
        · have hfresh := h.fresh
          rw [List.dropLast_append_cons, List.dropLast_cons_cons] at hfresh
          exact List.disjoint_of_nodup_append hfresh hmem List.mem_cons_self
        · have hshort := h.short
          rw [List.length_append, List.length_cons, List.length_cons] at hshort
          omega
      · rw [hsplit] at h ⊢
        exact ih h

/-- **Which names cannot be resolved, and with which chain they are reported.** -/
theorem resolve?_eq_error_iff (hdepth : 1 ≤ scope.aliasDepth) {chain : List Text} :
    scope.resolve? name = .error chain ↔ scope.IsRefused name chain := by
  constructor
  · intro h
    cases hget : scope.aliases.get? name with
    | none =>
        rw [resolve?, hget] at h
        cases h
    | some target =>
        obtain ⟨count, result, hloop, -⟩ := exists_loop_of_alias (some scope.aliasDepth) hget
        rw [resolve?_eq_of_loop hget hloop] at h
        cases result with
        | ok final => cases h
        | error chain =>
            cases h
            exact hloop.isRefused (isTrail_singleton hdepth hget)
  · intro h
    have hstarts := h.starts
    -- One name alone is no chain that is refused: an alias may be followed one step.
    obtain _ | ⟨first, _ | ⟨target, rest⟩⟩ := chain
    · cases hstarts
    · rcases h.stopped with ⟨last, -, hmem⟩ | hlength
      · cases hmem
      · rw [List.length_singleton] at hlength
        omega
    · cases hstarts
      have hget := (List.isChain_cons_cons.mp h.linked).1
      have hloop : scope.Loop (some scope.aliasDepth) [name] target _ _ := IsRefused.loop h
      rw [resolve?_eq_of_loop hget hloop]
      rfl

/-! ### Every name -/

theorem resolve?_eq_ok_none_iff :
    scope.resolve? name = .ok none ↔ scope.aliases.get? name = none := by
  rw [resolve?]
  cases hget : scope.aliases.get? name with
  | none => exact iff_of_true rfl rfl
  | some target =>
      refine iff_of_false ?_ (by rintro ⟨⟩)
      dsimp only
      cases scope.follow (scope.aliases.size + 1) [name] target <;> rintro ⟨⟩

/-- **Aliases are resolved exactly.** Every configuration lets a scope follow chains of at least one
step. In such a scope, a name that is not an alias stands for itself, and a name stands for `target`
exactly if a number of steps within the depth leads there through aliases and `target` is none. In
every other case a chain is reported, and only the one that is described by `IsRefused`: it starts
with the name, each entry is the target of the one before, and the last entry repeats an earlier one
or has as many before it as the depth allows. The loop behind it ends in fewer turns than there are
aliases, whatever these are, with any limit on the length of chains and with none. -/
theorem aliases_resolved_exactly :
    (∀ temporary lookup, 1 ≤ (Config.ofVariables temporary lookup).aliasDepth) ∧
    ∀ (scope : Scope) (name : Text), 1 ≤ scope.aliasDepth →
      (scope.resolve? name = .ok none ↔ scope.aliases.get? name = none) ∧
      (∀ target, scope.resolve? name = .ok (some target) ↔ scope.ResolvesTo name target) ∧
      (scope.aliases.get? name ≠ none → (∀ target, ¬ scope.ResolvesTo name target) →
        ∃ chain, scope.resolve? name = .error chain) ∧
      (∀ chain, scope.resolve? name = .error chain ↔ scope.IsRefused name chain) ∧
      (∀ limit target, scope.aliases.get? name = some target →
        ∃ count result, scope.Loop limit [name] target count result ∧
          count < scope.aliases.size ∧
          (limit = some scope.aliasDepth → scope.resolve? name = result.map some)) := by
  refine ⟨Config.aliasDepth_pos, fun scope name hdepth => ⟨resolve?_eq_ok_none_iff,
    fun target => resolve?_eq_ok_some_iff hdepth, fun halias hnot => ?_,
    fun chain => resolve?_eq_error_iff hdepth, fun limit target hget => ?_⟩⟩
  · cases hresolve : scope.resolve? name with
    | error chain => exact ⟨chain, rfl⟩
    | ok target? =>
        cases target? with
        | none => exact absurd (resolve?_eq_ok_none_iff.mp hresolve) halias
        | some target => exact absurd ((resolve?_eq_ok_some_iff hdepth).mp hresolve) (hnot target)
  · obtain ⟨count, result, hloop, hcount⟩ := exists_loop_of_alias limit hget
    refine ⟨count, result, hloop, hcount, ?_⟩
    rintro rfl
    exact resolve?_eq_of_loop hget hloop

/-- A scope in which `a` leads into a cycle that it is not part of, and `d` to a command. -/
def roundabout : Scope :=
  { aliasDepth := (Config.ofVariables "/tmp" fun _ => none).aliasDepth
    aliases := (((Table.empty.insert "a" ("b" : Text)).insert "b" ("c" : Text)).insert "c"
      ("b" : Text)).insert "d" ("l-echo" : Text) }

/-- The cycle is found where it closes, and the loop gets out of it without any limit. -/
theorem aliases_resolved_exactly_roundabout :
    roundabout.resolve? "a" = .error ["a", "b", "c", "b"] ∧
    roundabout.resolve? "d" = .ok (some ("l-echo" : Text)) ∧
    ∃ count result, roundabout.Loop none ["a"] "b" count result ∧ count < 4 := by
  have hdepth : 1 ≤ roundabout.aliasDepth := aliases_resolved_exactly.1 "/tmp" fun _ => none
  have hcycle : roundabout.IsRefused "a" ["a", "b", "c", "b"] :=
    ⟨rfl, by decide, by decide, by decide, by decide, .inl ⟨"b", rfl, by decide⟩⟩
  have hcommand : roundabout.ResolvesTo "d" "l-echo" :=
    ⟨1, le_rfl, by decide, fun fewer hfewer => ⟨"d", by rw [Nat.lt_one_iff.mp hfewer]; rfl, rfl⟩,
      rfl, rfl⟩
  obtain ⟨-, -, -, hrefused, hends⟩ := aliases_resolved_exactly.2 roundabout "a" hdepth
  obtain ⟨-, hresolved, -⟩ := aliases_resolved_exactly.2 roundabout "d" hdepth
  obtain ⟨count, result, hloop, hcount, -⟩ := hends none "b" rfl
  exact ⟨(hrefused _).mpr hcycle, (hresolved _).mpr hcommand, count, result, hloop, hcount⟩

end Scope

end Conch
