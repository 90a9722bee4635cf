import Mathlib.Data.Finmap
import Conch.Proofs.Tables
import Conch.Proofs.Utf8

/-!
Tables are finite maps that list their names in order. Any number of tables, told apart by labels,
are changed one after another: a name is given a value, a name is taken away, or one table is merged
into another or into itself. Beside them finite maps are changed, without any order of names.

* `Represents`: a table and a map with the same look-ups.
* `Represents.lists`: what a table answers and lists is settled by the map that it represents.
* `Change.represents_perform`: one change of tables and of maps gives back the same value, and
  tables that represent maps still do.
* `tables_sorted_maps`: so after any changes, all answers are those of the maps.
-/

namespace Conch.Table

variable {α ι : Type}

/-- A finite map from names to values. -/
abbrev Map (α : Type) := Finmap fun _ : Text => α

/-! ### A table beside a map -/

/-- The table has the values of the map. -/
def Represents (table : Table α) (map : Map α) : Prop :=
  ∀ key, table.get? key = map.lookup key

/-- A table answers as the map does and lists it, each name once and in the order of UTF-8 bytes. -/
structure Lists (table : Table α) (map : Map α) : Prop where
  get : ∀ key, table.get? key = map.lookup key
  contains : ∀ key, table.contains key = true ↔ key ∈ map
  size : table.size = map.keys.card
  isEmpty : table.isEmpty = true ↔ map = ∅
  mem_entries : ∀ key value, (key, value) ∈ table.entries ↔ map.lookup key = some value
  mem_keys : ∀ key, key ∈ table.keys ↔ key ∈ map
  keys_once : ∀ key ∈ map, table.keys.count key = 1
  keys_ascending : table.keys.Pairwise fun first second => Text.utf8 first < Text.utf8 second
  entries_ascending : table.entries.Pairwise fun first second =>
    Text.utf8 first.1 < Text.utf8 second.1

theorem nodup_keys (table : Table α) : table.keys.Nodup :=
  table.keys_ascending.imp ne_of_less

namespace Represents

variable {table other : Table α} {map otherMap : Map α}

theorem empty : (empty : Table α).Represents ∅ := fun _ => rfl

theorem contains_iff (h : table.Represents map) (key : Text) :
    table.contains key = true ↔ key ∈ map := by
  rw [Table.contains, h key, Finmap.lookup_isSome]

theorem mem_keys (h : table.Represents map) (key : Text) : key ∈ table.keys ↔ key ∈ map :=
  mem_keys_iff.trans (h.contains_iff key)

/-- The names of a table are those of the map, each of them once. -/
theorem toFinset_keys (h : table.Represents map) : table.keys.toFinset = map.keys := by
  ext key
  rw [List.mem_toFinset, Finmap.mem_keys, h.mem_keys]

theorem size_eq (h : table.Represents map) : table.size = map.keys.card := by
  rw [← h.toFinset_keys, List.toFinset_card_of_nodup table.nodup_keys, size, keys, List.length_map]

theorem isEmpty_iff (h : table.Represents map) : table.isEmpty = true ↔ map = ∅ := by
  rw [isEmpty, List.isEmpty_iff]
  constructor
  · intro hnone
    refine Finmap.ext_lookup fun key => ?_
    rw [← h key, get?, hnone]
    rfl
  · rintro rfl
    refine List.eq_nil_iff_forall_not_mem.mpr fun entry hentry => ?_
    have hvalue := get?_eq_some_iff.mpr hentry
    rw [h entry.1, Finmap.lookup_empty] at hvalue
    cases hvalue

/-- **What a table answers and lists is settled by the map that it represents.** -/
theorem lists (h : table.Represents map) : table.Lists map where
  get := h
  contains := h.contains_iff
  size := h.size_eq
  isEmpty := h.isEmpty_iff
  mem_entries key value := by rw [← h key, get?_eq_some_iff]
  mem_keys := h.mem_keys
  keys_once key hkey := List.count_eq_one_of_mem table.nodup_keys ((h.mem_keys key).mpr hkey)
  keys_ascending := table.keys_ascending.imp Text.utf8_lt_utf8
  entries_ascending := table.ascending.imp Text.utf8_lt_utf8

theorem insert (h : table.Represents map) (key : Text) (value : α) :
    (table.insert key value).Represents (map.insert key value) := by
  intro name
  rw [get?_insert]
  split_ifs with hname
  · rw [hname, Finmap.lookup_insert]
  · rw [Finmap.lookup_insert_of_ne _ hname, h name]

theorem erase (h : table.Represents map) (key : Text) :
    (table.erase key).Represents (map.erase key) := by
  intro name
  rw [get?_erase]
  split_ifs with hname
  · rw [hname, Finmap.lookup_erase]
  · rw [Finmap.lookup_erase_ne hname, h name]

theorem merge (h : table.Represents map) (hother : other.Represents otherMap) :
    (table.merge other).Represents (otherMap ∪ map) := by
  intro name
  rw [get?_merge, hother name, h name]
  by_cases hname : name ∈ otherMap
  · obtain ⟨value, hvalue⟩ := Finmap.mem_iff.mp hname
    rw [Finmap.lookup_union_left hname, hvalue, Option.some_or]
  · rw [Finmap.lookup_union_right hname, Finmap.lookup_eq_none.mpr hname, Option.none_or]

end Represents

/-! ### Changes of several tables -/

/-- A change of one of several tables. -/
inductive Change (ι α : Type) where
  /-- Gives a name a value. -/
  | insert (table : ι) (key : Text) (value : α)
  /-- Takes a name away. -/
  | remove (table : ι) (key : Text)
  /-- Copies all entries of another table, or of the same one. -/
  | merge (table other : ι)

/-- What a change gives back. -/
inductive Answer (α : Type) where
  /-- The value that the name had before. -/
  | previous (value : Option α)
  | merged

namespace Change

variable [DecidableEq ι]

/-- Changes one of several tables. -/
def perform (tables : ι → Table α) : Change ι α → (ι → Table α) × Answer α
  | .insert i key value =>
    let (old, table) := (tables i).exchange key value
    (Function.update tables i table, .previous old)
  | .remove i key =>
    let (old, table) := (tables i).extract key
    (Function.update tables i table, .previous old)
  | .merge i j => (Function.update tables i ((tables i).merge (tables j)), .merged)

/-- Changes one of several maps. The values of the other map come first when two are merged. -/
def performMap (maps : ι → Map α) : Change ι α → (ι → Map α) × Answer α
  | .insert i key value =>
    (Function.update maps i ((maps i).insert key value), .previous ((maps i).lookup key))
  | .remove i key => (Function.update maps i ((maps i).erase key), .previous ((maps i).lookup key))
  | .merge i j => (Function.update maps i (maps j ∪ maps i), .merged)

/-- Makes changes one after another: where that leads, and what each of them gives back. -/
def run {σ : Type} (change : σ → Change ι α → σ × Answer α) :
    σ → List (Change ι α) → σ × List (Answer α)
  | state, [] => (state, [])
  | state, next :: rest =>
    let (state, answer) := change state next
    let (state, answers) := run change state rest
    (state, answer :: answers)

variable {tables : ι → Table α} {maps : ι → Map α}

theorem represents_update (h : ∀ i, (tables i).Represents (maps i)) (i : ι) {table : Table α}
    {map : Map α} (hchanged : table.Represents map) (j : ι) :
    (Function.update tables i table j).Represents (Function.update maps i map j) := by
  by_cases hj : j = i
  · subst hj
    rwa [Function.update_self, Function.update_self]
  · rw [Function.update_of_ne hj, Function.update_of_ne hj]
    exact h j

/-- **One change keeps tables and maps alike and gives back the same.** -/
theorem represents_perform (h : ∀ i, (tables i).Represents (maps i)) (change : Change ι α) :
    (change.perform tables).2 = (change.performMap maps).2 ∧
      ∀ i, ((change.perform tables).1 i).Represents ((change.performMap maps).1 i) := by
  cases change with
  | insert i key value =>
      exact ⟨congrArg Answer.previous (h i key), represents_update h i ((h i).insert key value)⟩
  | remove i key =>
      exact ⟨congrArg Answer.previous (h i key), represents_update h i ((h i).erase key)⟩
  | merge i j => exact ⟨rfl, represents_update h i ((h i).merge (h j))⟩

theorem represents_run (h : ∀ i, (tables i).Represents (maps i)) (changes : List (Change ι α)) :
    (run perform tables changes).2 = (run performMap maps changes).2 ∧
      ∀ i, ((run perform tables changes).1 i).Represents ((run performMap maps changes).1 i) := by
  induction changes generalizing tables maps with
  | nil => exact ⟨rfl, h⟩
  | cons change rest ih =>
      obtain ⟨hanswer, hnext⟩ := represents_perform h change
      obtain ⟨hanswers, hend⟩ := ih hnext
      exact ⟨congrArg₂ List.cons hanswer hanswers, hend⟩

theorem merge_self (table : Table α) : table.merge table = table := by
  refine ext_get? fun name => ?_
  rw [get?_merge, Option.or_self]

/-- A merge changes one table, and none if a table is merged into itself. -/
theorem perform_merge_of_ne_or_eq (tables : ι → Table α) {i j k : ι} (h : k ≠ i ∨ k = j) :
    ((merge i j).perform tables).1 k = tables k := by
  show Function.update tables i ((tables i).merge (tables j)) k = tables k
  by_cases hk : k = i
  · obtain rfl : k = j := h.resolve_left (not_not.mpr hk)
    rw [← hk, Function.update_self, merge_self]
  · rw [Function.update_of_ne hk]

end Change

/-- **Tables are finite maps that list their names in order.** Changes of any number of tables,
empty at first, give back what the same changes of finite maps do. After them each table answers
look-ups as its map does, has as many names as the map, and lists exactly what is in the map, each
name once and in strictly ascending order of UTF-8 bytes. In a merge the values of the other table
come first; the other table stays as it is, and so do all that are not merged into. -/
theorem tables_sorted_maps [DecidableEq ι] (changes : List (Change ι α)) :
    let reached := Change.run Change.perform (fun _ => .empty) changes
    let maps := Change.run Change.performMap (fun _ => ∅) changes
    reached.2 = maps.2 ∧
      (∀ i, (reached.1 i).Lists (maps.1 i)) ∧
      ∀ i j,
        (∀ key, (((Change.merge i j).perform reached.1).1 i).get? key =
          ((reached.1 j).get? key).or ((reached.1 i).get? key)) ∧
        ∀ k, k ≠ i ∨ k = j → ((Change.merge i j).perform reached.1).1 k = reached.1 k := by
  intro reached maps
  have hempty : ∀ _ : ι, (empty : Table α).Represents ∅ := fun _ => Represents.empty
  obtain ⟨hanswers, hend⟩ := Change.represents_run hempty changes
  refine ⟨hanswers, fun i => (hend i).lists, fun i j => ⟨fun key => ?_, fun k hk => ?_⟩⟩
  · show (Function.update reached.1 i ((reached.1 i).merge (reached.1 j)) i).get? key = _
    rw [Function.update_self, get?_merge]
  · exact Change.perform_merge_of_ne_or_eq reached.1 hk

/-- Capitals come before small letters, and those before letters outside ASCII. -/
example :
    let reached := Change.run Change.perform (fun _ : Bool => (.empty : Table Nat))
      [.insert false "é" 1, .insert false "a" 2, .insert true "Z" 3, .insert true "a" 4,
        .merge false true, .merge true true, .remove true "a"]
    (reached.1 false).entries = ([("Z", 3), ("a", 4), ("é", 1)] : List (Text × Nat)) ∧
      (reached.1 true).keys = (["Z"] : List Text) := by
  decide

end Conch.Table
