import Mathlib.Data.List.Basic
import Conch.Table

/-!
Looking up in tables: what a name stands for after a value was given to a name, after a name
was taken away, and after another table was merged in. A table lists each name once and in
order, so its look-ups determine it (`ext_get?`).
-/

namespace Conch.Table

variable {α β : Type}

theorem lookup_entry (key name : Text) (value : α) (rest : List (Text × α)) :
    ((key, value) :: rest).lookup name = if name = key then some value else rest.lookup name := by
  by_cases h : name = key
  · subst h
    simp
  · simp [List.lookup_cons, beq_false_of_ne h, h]

theorem lookup_insertInto (key name : Text) (value : α) (list : List (Text × α)) :
    (insertInto key value list).lookup name =
      if name = key then some value else list.lookup name := by
  induction list with
  | nil =>
      unfold insertInto
      exact lookup_entry key name value []
  | cons head rest ih =>
      obtain ⟨k, v⟩ := head
      unfold insertInto
      by_cases hless : key < k
      · rw [if_pos hless]
        exact lookup_entry key name value _
      · rw [if_neg hless]
        by_cases hsame : key = k
        · subst hsame
          rw [if_pos rfl, lookup_entry, lookup_entry]
          split_ifs <;> rfl
        · rw [if_neg hsame, lookup_entry, lookup_entry, ih]
          by_cases hk : name = k
          · subst hk
            rw [if_pos rfl, if_pos rfl, if_neg (Ne.symm hsame)]
          · rw [if_neg hk, if_neg hk]

theorem get?_insert (table : Table α) (key name : Text) (value : α) :
    (table.insert key value).get? name = if name = key then some value else table.get? name :=
  lookup_insertInto key name value table.entries

theorem mem_of_get? {table : Table α} {key : Text} {value : α} (h : table.get? key = some value) :
    (key, value) ∈ table.entries := by
  obtain ⟨before, after, hentries, -⟩ := List.lookup_eq_some_iff.mp h
  rw [hentries]
  exact List.mem_append_right before List.mem_cons_self

theorem lookup_filter_ne (key name : Text) (list : List (Text × α)) :
    (list.filter fun entry => entry.1 ≠ key).lookup name =
      if name = key then none else list.lookup name := by
  induction list with
  | nil => split_ifs <;> rfl
  | cons head rest ih =>
      obtain ⟨k, v⟩ := head
      by_cases hkey : k = key
      · subst hkey
        rw [List.filter_cons_of_neg (by simp), ih, lookup_entry]
        split_ifs <;> rfl
      · rw [List.filter_cons_of_pos (by simpa using hkey), lookup_entry, lookup_entry, ih]
        by_cases hk : name = k
        · subst hk
          rw [if_pos rfl, if_pos rfl, if_neg hkey]
        · rw [if_neg hk, if_neg hk]

theorem get?_erase (table : Table α) (key name : Text) :
    (table.erase key).get? name = if name = key then none else table.get? name :=
  lookup_filter_ne key name table.entries

@[simp] theorem contains_empty (name : Text) : (empty : Table α).contains name = false := rfl

theorem contains_insert (table : Table α) (key name : Text) (value : α) :
    (table.insert key value).contains name = true ↔
      name = key ∨ table.contains name = true := by
  unfold contains
  rw [get?_insert]
  split_ifs with h <;> simp [h]

theorem contains_erase (table : Table α) (key name : Text) :
    (table.erase key).contains name = true ↔ name ≠ key ∧ table.contains name = true := by
  unfold contains
  rw [get?_erase]
  split_ifs with h <;> simp [h]

/-! ### Tables by their look-ups -/

theorem ne_of_less {first second : Text} (h : first < second) : first ≠ second := by
  rintro rfl
  exact List.lt_irrefl first h

/-- A name has the value that it is listed with. -/
theorem get?_eq_some_iff {table : Table α} {key : Text} {value : α} :
    table.get? key = some value ↔ (key, value) ∈ table.entries := by
  refine ⟨mem_of_get?, fun h => ?_⟩
  obtain ⟨before, after, hentries⟩ := List.append_of_mem h
  have hascending := table.ascending
  rw [hentries, List.pairwise_append] at hascending
  refine List.lookup_eq_some_iff.mpr ⟨before, after, hentries, fun entry hentry => ?_⟩
  have hless : entry.1 < key := hascending.2.2 entry hentry (key, value) List.mem_cons_self
  simpa using (ne_of_less hless).symm

theorem nodup_entries (table : Table α) : table.entries.Nodup :=
  table.ascending.imp fun hless hsame => ne_of_less hless (congrArg Prod.fst hsame)

theorem keys_ascending (table : Table α) : table.keys.Pairwise (· < ·) :=
  List.pairwise_map.mpr table.ascending

theorem mem_keys_iff {table : Table α} {name : Text} :
    name ∈ table.keys ↔ table.contains name = true := by
  rw [keys, List.mem_map, contains, Option.isSome_iff_exists]
  simp only [get?_eq_some_iff]
  constructor
  · rintro ⟨⟨key, value⟩, hmem, rfl⟩
    exact ⟨value, hmem⟩
  · rintro ⟨value, hmem⟩
    exact ⟨(name, value), hmem, rfl⟩

/-- **Tables with the same look-ups are equal.** -/
theorem ext_get? {first second : Table α} (h : ∀ name, first.get? name = second.get? name) :
    first = second := by
  have hmem : ∀ entry, entry ∈ first.entries ↔ entry ∈ second.entries := by
    rintro ⟨key, value⟩
    rw [← get?_eq_some_iff, ← get?_eq_some_iff, h]
  have hperm : first.entries.Perm second.entries :=
    (List.perm_ext_iff_of_nodup first.nodup_entries second.nodup_entries).mpr hmem
  have hentries : first.entries = second.entries :=
    hperm.eq_of_pairwise (fun _ _ _ _ hless hmore => absurd hmore (List.lt_asymm hless))
      first.ascending second.ascending
  cases first
  cases second
  cases hentries
  rfl

/-- The values that a function keeps, changed by it, under the names that they had. -/
def filterMap (f : α → Option β) (table : Table α) : Table β where
  entries := table.entries.filterMap fun entry => (f entry.2).map (entry.1, ·)
  ascending := by
    refine List.pairwise_filterMap.mpr (table.ascending.imp ?_)
    rintro first second hless _ hfirst _ hsecond
    obtain ⟨-, -, rfl⟩ := Option.map_eq_some_iff.mp hfirst
    obtain ⟨-, -, rfl⟩ := Option.map_eq_some_iff.mp hsecond
    exact hless

theorem get?_filterMap (f : α → Option β) (table : Table α) (name : Text) :
    (table.filterMap f).get? name = (table.get? name).bind f := by
  refine Option.ext fun value => ?_
  rw [get?_eq_some_iff, Option.bind_eq_some_iff]
  simp only [filterMap, List.mem_filterMap, Option.map_eq_some_iff, Prod.mk.injEq]
  constructor
  · rintro ⟨⟨_, old⟩, hentry, _, hvalue, rfl, rfl⟩
    exact ⟨old, get?_eq_some_iff.mpr hentry, hvalue⟩
  · rintro ⟨old, hold, hvalue⟩
    exact ⟨(name, old), get?_eq_some_iff.mp hold, value, hvalue, rfl, rfl⟩

theorem lookup_foldl_insert {list : List (Text × α)} (h : list.Pairwise fun a b => a.1 < b.1)
    (table : Table α) (name : Text) :
    (list.foldl (fun merged entry => merged.insert entry.1 entry.2) table).get? name =
      (list.lookup name).or (table.get? name) := by
  induction list generalizing table with
  | nil => rfl
  | cons entry rest ih =>
      obtain ⟨key, value⟩ := entry
      obtain ⟨hbelow, hrest⟩ := List.pairwise_cons.mp h
      rw [List.foldl_cons, ih hrest, get?_insert, lookup_entry]
      by_cases hname : name = key
      · subst hname
        -- No entry behind the first has its name, so none overwrites it.
        have hnone : rest.lookup name = none := by
          refine List.lookup_eq_none_iff.mpr fun other hother => ?_
          simpa using ne_of_less (hbelow other hother)
        rw [if_pos rfl, if_pos rfl, hnone]
        rfl
      · rw [if_neg hname, if_neg hname]

/-- A merged table has the values of the other one, and else its own. -/
theorem get?_merge (table other : Table α) (name : Text) :
    (table.merge other).get? name = (other.get? name).or (table.get? name) :=
  lookup_foldl_insert other.ascending table name

end Conch.Table
