import Conch.Text.Basic

/-!
Tables: finite maps from names to values that list their entries in ascending
order of the names. Aliases, variables and returned values are all kept in tables.

The order of names is that of their characters, which is also the order of their
UTF-8 bytes. The entries of a table are ascending by construction, so two tables
with the same look-ups are equal.
-/

namespace Conch

variable {α : Type}

/-- A finite map from names to values. -/
structure Table (α : Type) where
  /-- The names with their values. -/
  entries : List (Text × α)
  /-- Each name comes before the next. -/
  ascending : entries.Pairwise fun a b => a.1 < b.1

namespace Table

/-- Puts a value at its place in an ascending list, over any value of the same name. -/
def insertInto (key : Text) (value : α) : List (Text × α) → List (Text × α)
  | [] => [(key, value)]
  | (k, v) :: rest =>
    if key < k then (key, value) :: (k, v) :: rest
    else if key = k then (key, value) :: rest
    else (k, v) :: insertInto key value rest

theorem mem_insertInto {key : Text} {value : α} {entry : Text × α} {list : List (Text × α)}
    (h : entry ∈ insertInto key value list) : entry = (key, value) ∨ entry ∈ list := by
  induction list with
  | nil => simpa [insertInto] using h
  | cons head rest ih =>
    obtain ⟨k, v⟩ := head
    unfold insertInto at h
    split at h
    · simpa using h
    · split at h
      · rcases List.mem_cons.1 h with eq | mem
        · exact .inl eq
        · exact .inr (List.mem_cons_of_mem _ mem)
      · rcases List.mem_cons.1 h with eq | mem
        · exact .inr (eq ▸ List.mem_cons_self)
        · exact (ih mem).imp_right (List.mem_cons_of_mem _)

theorem ascending_insertInto (key : Text) (value : α) {list : List (Text × α)}
    (h : list.Pairwise fun a b => a.1 < b.1) :
    (insertInto key value list).Pairwise fun a b => a.1 < b.1 := by
  induction list with
  | nil => simp [insertInto]
  | cons head rest ih =>
    obtain ⟨k, v⟩ := head
    obtain ⟨below, sorted⟩ := List.pairwise_cons.1 h
    unfold insertInto
    split
    · rename_i less
      refine List.pairwise_cons.2 ⟨fun entry mem => ?_, h⟩
      rcases List.mem_cons.1 mem with eq | mem
      · exact eq ▸ less
      · exact List.lt_trans less (below entry mem)
    · split
      · rename_i same
        exact List.pairwise_cons.2 ⟨fun entry mem => same ▸ below entry mem, sorted⟩
      · rename_i notLess different
        refine List.pairwise_cons.2 ⟨fun entry mem => ?_, ih sorted⟩
        rcases mem_insertInto mem with eq | mem
        · rcases Std.lt_trichotomy key k with less | same | greater
          · exact absurd less notLess
          · exact absurd same different
          · exact eq ▸ greater
        · exact below entry mem

/-- The table without entries. -/
def empty : Table α := ⟨[], .nil⟩

instance : Inhabited (Table α) := ⟨empty⟩

/-- The value of a name. -/
def get? (table : Table α) (key : Text) : Option α := table.entries.lookup key

/-- Whether a name has a value. -/
def contains (table : Table α) (key : Text) : Bool := (table.get? key).isSome

/-- Gives a name a value, in place of any that it had. -/
def insert (table : Table α) (key : Text) (value : α) : Table α :=
  ⟨insertInto key value table.entries, ascending_insertInto key value table.ascending⟩

/-- Takes a name away. -/
def erase (table : Table α) (key : Text) : Table α :=
  ⟨table.entries.filter fun entry => entry.1 ≠ key, table.ascending.filter _⟩

/-- Gives a name a value: the value that it had before, and the table after that. -/
def exchange (table : Table α) (key : Text) (value : α) : Option α × Table α :=
  (table.get? key, table.insert key value)

/-- Takes a name away: the value that it had, and the table without it. -/
def extract (table : Table α) (key : Text) : Option α × Table α :=
  (table.get? key, table.erase key)

/-- All entries of `other` over those of `table`. -/
def merge (table other : Table α) : Table α :=
  other.entries.foldl (fun merged entry => merged.insert entry.1 entry.2) table

/-- The names in ascending order. -/
def keys (table : Table α) : List Text := table.entries.map Prod.fst

/-- The number of names. -/
def size (table : Table α) : Nat := table.entries.length

/-- Whether there are no names. -/
def isEmpty (table : Table α) : Bool := table.entries.isEmpty

end Table

end Conch
