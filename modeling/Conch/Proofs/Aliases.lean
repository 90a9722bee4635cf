import Conch.Eval
import Conch.Proofs.Tables
import Mathlib.Data.List.Perm.Subperm
import Mathlib.Data.Fintype.EquivFin

/-!
Which aliases a look-up follows. The name of a command is followed from alias to alias, and the
result depends on the entries of the names that are passed and on no others.

* `Chain`: the chain of aliases from a name, up to where it first gets to another one.
* `follow_of_chain`: a chain is followed to the end of each of its beginnings, as long as it is not
  longer than the scope allows.
* `follow_congr`: scopes that differ in the target of one alias follow a name alike, unless the
  chain of the name gets to that alias.
* `expansion_independent_iff`: so what the name of a command stands for is independent of the
  target of an alias exactly if the name is being expanded, or its chain does not get to the alias
  in the number of steps that are allowed.

That an alias is being expanded matters for the name of the command alone. An alias that is being
expanded is followed again when the chain of another name gets to it (`expanding_followed_again`).
-/

namespace Conch

namespace Scope

variable {scope other : Scope} {key name target : Text} {passed : List Text}

/-! ### Chains of aliases -/

/-- Different aliases are no more than the table has names. -/
theorem length_le_size {names : List Text} (hnew : names.Nodup)
    (haliases : ∀ entry ∈ names, (scope.aliases.get? entry).isSome = true) :
    names.length ≤ scope.aliases.size := by
  have hkeys : ∀ entry ∈ names, entry ∈ scope.aliases.keys := by
    intro entry hentry
    obtain ⟨value, hvalue⟩ := Option.isSome_iff_exists.mp (haliases entry hentry)
    exact List.mem_map.mpr ⟨_, Table.mem_of_get? hvalue, rfl⟩
  have hlength := (hnew.subperm hkeys).length_le
  rwa [Table.keys, List.length_map] at hlength

/-- The chain of aliases from a name passes `passed` before it first gets to `key`. -/
inductive Chain (scope : Scope) (key : Text) : Text → List Text → Prop where
  | here : Chain scope key key []
  | step {name next : Text} {passed : List Text} :
      name ≠ key → scope.aliases.get? name = some next → Chain scope key next passed →
      Chain scope key name (name :: passed)

namespace Chain

/-- Each name has one target, so it has one chain. -/
theorem unique {passed' : List Text} (h : scope.Chain key name passed)
    (h' : scope.Chain key name passed') : passed = passed' := by
  induction h generalizing passed' with
  | here =>
      cases h' with
      | here => rfl
      | step hne _ _ => exact absurd rfl hne
  | step hne hget _ ih =>
      cases h' with
      | here => exact absurd rfl hne
      | step _ hget' hrest' =>
          rw [hget] at hget'
          cases hget'
          rw [ih hrest']

theorem key_not_mem (h : scope.Chain key name passed) : key ∉ passed := by
  induction h with
  | here => exact List.not_mem_nil
  | step hne _ _ ih =>
      intro hmem
      rcases List.mem_cons.mp hmem with rfl | hmem
      · exact hne rfl
      · exact ih hmem

/-- The chain of a name that is passed is a part of the chain. -/
theorem of_mem {middle : Text} (h : scope.Chain key name passed) (hmem : middle ∈ passed) :
    ∃ rest, scope.Chain key middle rest ∧ rest.length ≤ passed.length := by
  induction h with
  | here => cases hmem
  | @step name next passed hne hget hrest ih =>
      rcases List.mem_cons.mp hmem with rfl | hmem
      · exact ⟨middle :: passed, .step hne hget hrest, le_rfl⟩
      · obtain ⟨rest, hchain, hlength⟩ := ih hmem
        exact ⟨rest, hchain, by rw [List.length_cons]; omega⟩

/-- No name is passed twice: from then on the chain would go round and never get anywhere else. -/
theorem nodup (h : scope.Chain key name passed) : (key :: passed).Nodup := by
  refine List.nodup_cons.mpr ⟨h.key_not_mem, ?_⟩
  induction h with
  | here => exact List.nodup_nil
  | @step name next passed hne hget hrest ih =>
      refine List.nodup_cons.mpr ⟨?_, ih⟩
      intro hmem
      obtain ⟨rest, hchain, hlength⟩ := hrest.of_mem hmem
      have hsame : name :: passed = rest := (Chain.step hne hget hrest).unique hchain
      rw [← hsame, List.length_cons] at hlength
      omega

theorem isSome_of_mem (h : scope.Chain key name passed) {middle : Text} (hmem : middle ∈ passed) :
    (scope.aliases.get? middle).isSome = true := by
  induction h with
  | here => cases hmem
  | step _ hget _ ih =>
      rcases List.mem_cons.mp hmem with rfl | hmem
      · rw [hget]
        rfl
      · exact ih hmem

/-- A chain that gets to an alias passes fewer names than there are aliases. -/
theorem length_lt_size (h : scope.Chain key name passed)
    (hkey : (scope.aliases.get? key).isSome = true) :
    passed.length < scope.aliases.size :=
  length_le_size h.nodup (List.forall_mem_cons.mpr ⟨hkey, fun _ hmem => h.isSome_of_mem hmem⟩)

end Chain

/-- The chain of a name gets to `key` in fewer steps than the scope allows. -/
def PassesThrough (scope : Scope) (key name : Text) : Prop :=
  ∃ passed, scope.Chain key name passed ∧ passed.length < scope.aliasDepth

/-- **A chain is followed from name to name.** -/
theorem follow_of_chain {fuel : Nat} {visited : List Text} (h : scope.Chain key name passed)
    (hnew : (visited ++ passed).Nodup)
    (hdepth : visited.length + passed.length ≤ scope.aliasDepth) :
    scope.follow (fuel + passed.length) visited name =
      scope.follow fuel (visited ++ passed) key := by
  induction h generalizing visited with
  | here => rw [List.append_nil, List.length_nil, Nat.add_zero]
  | @step name next passed hne hget hrest ih =>
      have hsplit : visited ++ name :: passed = (visited ++ [name]) ++ passed := by simp
      rw [List.length_cons] at hdepth ⊢
      rw [hsplit] at hnew ⊢
      -- The name is neither passed before, nor the last one that is allowed.
      have hgoes : ¬ (name ∈ visited ∨ scope.aliasDepth ≤ visited.length) := by
        rintro (hmem | hlong)
        · have hdisjoint := List.disjoint_of_nodup_append (List.nodup_append.mp hnew).1
          exact hdisjoint hmem (List.mem_singleton_self name)
        · omega
      rw [← ih hnew (by rw [List.length_append, List.length_singleton]; omega), ← Nat.add_assoc,
        follow]
      simp only [hget, if_neg hgoes]

/-! ### Scopes that differ in the target of an alias -/

/-- Scopes whose aliases differ in nothing but the target that is stored for one of them. -/
structure DiffersAt (key : Text) (scope other : Scope) : Prop where
  depth : other.aliasDepth = scope.aliasDepth
  stored : (scope.aliases.get? key).isSome = true
  storedToo : (other.aliases.get? key).isSome = true
  others : ∀ name, name ≠ key → other.aliases.get? name = scope.aliases.get? name

/-- Another target is stored for an alias. -/
theorem differsAt_setAlias (hstored : (scope.aliases.get? key).isSome = true) (target : Text) :
    DiffersAt key scope (scope.setAlias key target) where
  depth := rfl
  stored := hstored
  storedToo := by
    unfold setAlias
    rw [Table.get?_insert, if_pos rfl]
    rfl
  others name hne := by
    unfold setAlias
    rw [Table.get?_insert, if_neg hne]

namespace DiffersAt

variable (h : DiffersAt key scope other)

include h

theorem isSome_eq (name : Text) :
    (other.aliases.get? name).isSome = (scope.aliases.get? name).isSome := by
  by_cases hname : name = key
  · rw [hname, h.stored, h.storedToo]
  · rw [h.others name hname]

/-- There are as many aliases in the one as in the other. -/
theorem size_eq : other.aliases.size = scope.aliases.size := by
  have hnames : other.aliases.filterMap (fun _ => some ()) =
      scope.aliases.filterMap fun _ => some () := by
    refine Table.ext_get? fun name => ?_
    have hsome := h.isSome_eq name
    rw [Table.get?_filterMap, Table.get?_filterMap]
    cases hother : other.aliases.get? name <;> cases hscope : scope.aliases.get? name <;>
      simp_all
  have hlength := congrArg (fun table => table.entries.length) hnames
  simpa [Table.filterMap, Table.size] using hlength

/-- A chain does not read the target of the alias that it gets to. -/
theorem chain (hchain : scope.Chain key name passed) : other.Chain key name passed := by
  induction hchain with
  | here => exact .here
  | step hne hget _ ih => exact .step hne ((h.others _ hne).trans hget) ih

/-- **A name is followed alike** if its chain gets to the alias in which the scopes differ only
when the chain is too long already. -/
theorem follow_congr {fuel : Nat} {visited : List Text}
    (hlong : ∀ passed, scope.Chain key name passed →
      scope.aliasDepth ≤ visited.length + passed.length) :
    other.follow fuel visited name = scope.follow fuel visited name := by
  induction fuel generalizing visited name with
  | zero => rfl
  | succ fuel ih =>
      unfold follow
      rw [h.depth]
      by_cases hname : name = key
      · -- The chain is refused here, whatever the targets are.
        have hstop : scope.aliasDepth ≤ visited.length := hlong [] (hname ▸ .here)
        obtain ⟨first, hfirst⟩ := Option.isSome_iff_exists.mp h.stored
        obtain ⟨second, hsecond⟩ := Option.isSome_iff_exists.mp h.storedToo
        simp only [hname, hfirst, hsecond, if_pos (Or.inr hstop)]
      · rw [h.others name hname]
        cases hget : scope.aliases.get? name with
        | none => rfl
        | some next =>
            dsimp only
            split
            · rfl
            · refine ih fun passed hpassed => ?_
              have hwhole := hlong (name :: passed) (.step hname hget hpassed)
              rw [List.length_append, List.length_singleton]
              rw [List.length_cons] at hwhole
              omega

theorem resolve?_congr (hname : name ≠ key) (hnot : ¬ scope.PassesThrough key name) :
    other.resolve? name = scope.resolve? name := by
  unfold resolve?
  rw [h.others name hname, h.size_eq]
  cases hget : scope.aliases.get? name with
  | none => rfl
  | some next =>
      dsimp only
      rw [h.follow_congr]
      intro passed hpassed
      by_contra hshort
      refine hnot ⟨name :: passed, .step hname hget hpassed, ?_⟩
      rw [List.length_singleton] at hshort
      rw [List.length_cons]
      omega

end DiffersAt

/-- A name whose chain gets to an alias stands for the target of that alias, if the chain ends
there. -/
theorem resolve?_of_passesThrough (hname : name ≠ key) (hpasses : scope.PassesThrough key name)
    (hget : scope.aliases.get? key = some target) (hend : scope.aliases.get? target = none) :
    scope.resolve? name = .ok (some target) := by
  obtain ⟨passed, hchain, hshort⟩ := hpasses
  have hfew : passed.length < scope.aliases.size := hchain.length_lt_size (by rw [hget]; rfl)
  obtain ⟨hnew, hnodup⟩ := List.nodup_cons.mp hchain.nodup
  cases hchain with
  | here => exact absurd rfl hname
  | @step name next passed hne hfirst hrest =>
      rw [List.length_cons] at hshort hfew
      obtain ⟨fuel, hfuel⟩ : ∃ fuel, scope.aliases.size + 1 = fuel + 2 + passed.length :=
        ⟨scope.aliases.size - 1 - passed.length, by omega⟩
      -- The alias itself is followed as well: it is new, and there is a step left for it.
      have hgoes : ¬ (key ∈ name :: passed ∨ scope.aliasDepth ≤ (name :: passed).length) := by
        rintro (hmem | hlong)
        · exact hnew hmem
        · rw [List.length_cons] at hlong
          omega
      have hfollow : scope.follow (fuel + 2 + passed.length) [name] next = .ok target := by
        rw [follow_of_chain hrest hnodup (by rw [List.length_singleton]; omega),
          List.singleton_append, follow]
        simp only [hget, if_neg hgoes]
        rw [follow, hend]
      unfold resolve?
      rw [hfirst, hfuel]
      dsimp only
      rw [hfollow]
      rfl

end Scope

namespace Eval

open Scope

variable {ctx : Context} {scope : Scope} {key name : Text}

theorem expansion?_of_expanding (h : ctx.isExpanding name = true) :
    expansion? ctx scope name = .ok none := by
  unfold expansion?
  rw [if_pos h]

theorem expansion?_eq_resolve? (h : ctx.isExpanding name = false) :
    expansion? ctx scope name = (scope.resolve? name).mapError .aliasCycle := by
  unfold expansion?
  rw [if_neg (by rw [h]; exact Bool.false_ne_true)]

/-- There are always more names than those in use. -/
theorem exists_unused (scope : Scope) (taken : Text) :
    ∃ target, scope.aliases.get? target = none ∧ target ≠ taken := by
  obtain ⟨target, hnew⟩ := Infinite.exists_notMem_finset (taken :: scope.aliases.keys).toFinset
  rw [List.mem_toFinset, List.mem_cons, not_or] at hnew
  refine ⟨target, ?_, hnew.1⟩
  rw [← Option.not_isSome_iff_eq_none]
  intro hsome
  obtain ⟨value, hvalue⟩ := Option.isSome_iff_exists.mp hsome
  exact hnew.2 (List.mem_map.mpr ⟨_, Table.mem_of_get? hvalue, rfl⟩)

/-- An alias that a name passes through is followed, and so the name stands for its target. -/
theorem expansion?_setAlias (hname : name ≠ key) (hfree : ctx.isExpanding name = false)
    (hstored : (scope.aliases.get? key).isSome = true) (hpasses : scope.PassesThrough key name)
    {target : Text} (hend : scope.aliases.get? target = none) :
    expansion? ctx (scope.setAlias key target) name = .ok (some target) := by
  have hdiffers : DiffersAt key scope (scope.setAlias key target) :=
    differsAt_setAlias hstored target
  obtain ⟨passed, hchain, hshort⟩ := hpasses
  have htarget : target ≠ key := by
    rintro rfl
    rw [hend] at hstored
    cases hstored
  have hresolve : (scope.setAlias key target).resolve? name = .ok (some target) := by
    refine resolve?_of_passesThrough hname ⟨passed, hdiffers.chain hchain, hshort⟩ ?_ ?_
    · unfold setAlias
      rw [Table.get?_insert, if_pos rfl]
    · rw [hdiffers.others target htarget, hend]
  rw [expansion?_eq_resolve? hfree, hresolve]
  rfl

/-- **Of an alias that is being expanded, the name of a command is independent exactly if it does
not pass through it.** Let `key` be an alias that is being expanded. Whatever target is stored for
it, the name of a command stands for the same, or is refused in the same way, exactly if that name
is itself being expanded, or its chain of aliases does not get to `key` in fewer steps than the
scope allows. Otherwise the entry of `key` is followed although it is being expanded: the name
stands for whatever target is stored there, if that is not an alias. -/
theorem expansion_independent_iff (hexpanding : key ∈ ctx.expanding)
    (hstored : (scope.aliases.get? key).isSome = true) :
    ((∀ other, DiffersAt key scope other →
        expansion? ctx other name = expansion? ctx scope name) ↔
      ctx.isExpanding name = true ∨ ¬ scope.PassesThrough key name) ∧
    (ctx.isExpanding name = false → scope.PassesThrough key name →
      ∀ target, scope.aliases.get? target = none →
        expansion? ctx (scope.setAlias key target) name = .ok (some target)) := by
  have hother : ctx.isExpanding name = false → name ≠ key := by
    rintro hfree rfl
    have hheld : ctx.isExpanding name = true := List.contains_iff_mem.mpr hexpanding
    rw [hfree] at hheld
    cases hheld
  have hfollowed : ctx.isExpanding name = false → scope.PassesThrough key name →
      ∀ target, scope.aliases.get? target = none →
        expansion? ctx (scope.setAlias key target) name = .ok (some target) :=
    fun hfree hpasses target hend =>
      expansion?_setAlias (hother hfree) hfree hstored hpasses hend
  refine ⟨⟨?_, ?_⟩, hfollowed⟩
  · intro hsame
    by_contra hnot
    rw [not_or, Bool.not_eq_true, not_not] at hnot
    obtain ⟨hfree, hpasses⟩ := hnot
    -- Two unused names as targets give two results.
    obtain ⟨first, hfirst, -⟩ := exists_unused scope []
    obtain ⟨second, hsecond, hdifferent⟩ := exists_unused scope first
    have hboth := (hsame _ (differsAt_setAlias hstored first)).trans
      (hsame _ (differsAt_setAlias hstored second)).symm
    rw [hfollowed hfree hpasses first hfirst, hfollowed hfree hpasses second hsecond] at hboth
    cases hboth
    exact hdifferent rfl
  · rintro (hheld | hnot) other hdiffers
    · rw [expansion?_of_expanding hheld, expansion?_of_expanding hheld]
    · cases hheld : ctx.isExpanding name with
      | true => rw [expansion?_of_expanding hheld, expansion?_of_expanding hheld]
      | false =>
          rw [expansion?_eq_resolve? hheld, expansion?_eq_resolve? hheld,
            hdiffers.resolve?_congr (hother hheld) hnot]

/-- A scope in which `echo` is to write a mark first, with a command that goes by the name of
`say` and stands for `echo`. -/
def markedEcho : Scope :=
  { aliasDepth := 64
    aliases := (Table.empty.insert "echo" ("say [log]" : Text)).insert "say" ("echo" : Text) }

/-- The context in which the target of `echo` is evaluated. -/
def insideEcho : Context := { expanding := ["echo"] }

/-- While `echo` is being expanded, what `l-cat` stands for is independent of its target, and what
`say` stands for is that target. -/
theorem expansion_independent_iff_marked :
    (∀ other, DiffersAt "echo" markedEcho other →
      expansion? insideEcho other "l-cat" = expansion? insideEcho markedEcho "l-cat") ∧
    expansion? insideEcho (markedEcho.setAlias "echo" "l-echo") "say" =
      .ok (some ("l-echo" : Text)) := by
  have hcat : ¬ markedEcho.PassesThrough "echo" "l-cat" := by
    rintro ⟨passed, _ | ⟨hne, hget, hrest⟩, hshort⟩
    cases hget
  have hsay : markedEcho.PassesThrough "echo" "say" :=
    ⟨["say"], .step (by decide) rfl .here, by decide⟩
  constructor
  · exact (expansion_independent_iff List.mem_cons_self rfl).1.mpr (.inr hcat)
  · exact (expansion_independent_iff List.mem_cons_self rfl).2 rfl hsay "l-echo" rfl

/-- An alias that is being expanded is looked up again: `say` stands for different expressions
if different ones are stored for `echo`. So a call of `echo` expands `echo` inside of its own
target, and ends at the name `say`, which is no command. -/
theorem expanding_followed_again :
    ("echo" : Text) ∈ insideEcho.expanding ∧
    DiffersAt "echo" markedEcho (markedEcho.setAlias "echo" "l-echo") ∧
    expansion? insideEcho markedEcho "say" = .ok (some ("say [log]" : Text)) ∧
    expansion? insideEcho (markedEcho.setAlias "echo" "l-echo") "say" =
      .ok (some ("l-echo" : Text)) ∧
    (text (tokens (dispatch Process.start) 3) {} "echo hi" ⟨markedEcho, {}⟩).outcome =
      .failed (.commandNotFound "say") :=
  ⟨List.mem_cons_self, differsAt_setAlias rfl _, rfl, rfl, by decide +kernel⟩

end Eval

end Conch
