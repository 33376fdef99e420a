/-!
# Finite maps in key order

A table is the list of its entries with strictly ascending keys.  Two tables with the same entries
are therefore equal, and every walk over a table is in key order.  `find?_insert` and `find?_map`
describe the updates through look-up, and `contains_iff` ties look-up to the list of keys.
-/

namespace Workflow

/-- A finite map from `κ` to `α`, kept as its entries in ascending key order. -/
structure Table (κ α : Type) [Ord κ] where
  /-- The entries, smallest key first. -/
  entries : List (κ × α)
  /-- Keys ascend strictly, so each occurs once. -/
  ascending : entries.Pairwise fun first second => compare first.1 second.1 = .lt

namespace Table

variable {κ α β : Type} [Ord κ]

/-- The map without entries. -/
def empty : Table κ α :=
  ⟨[], .nil⟩

instance : EmptyCollection (Table κ α) :=
  ⟨empty⟩

instance : Inhabited (Table κ α) :=
  ⟨empty⟩

theorem eq_of_entries_eq {left right : Table κ α} (entries_eq : left.entries = right.entries) :
    left = right := by
  cases left
  cases right
  cases entries_eq
  rfl

instance [DecidableEq κ] [DecidableEq α] : DecidableEq (Table κ α) := fun left right =>
  decidable_of_iff (left.entries = right.entries)
    ⟨eq_of_entries_eq, fun tables_eq => tables_eq ▸ rfl⟩

/-- The keys, ascending. -/
def keys (table : Table κ α) : List κ :=
  table.entries.map (·.1)

/-- The values, in the order of their keys. -/
def values (table : Table κ α) : List α :=
  table.entries.map (·.2)

/-- How many keys the map has. -/
def size (table : Table κ α) : Nat :=
  table.entries.length

/-- Whether the map has no key. -/
def isEmpty (table : Table κ α) : Bool :=
  table.entries.isEmpty

/-- The value stored under `key` in a list of entries. -/
def entryAt? (key : κ) : List (κ × α) → Option α
  | [] => none
  | entry :: rest => if compare key entry.1 = .eq then some entry.2 else entryAt? key rest

/-- The value stored under a key. -/
def find? (table : Table κ α) (key : κ) : Option α :=
  entryAt? key table.entries

/-- Whether a key has a value. -/
def contains (table : Table κ α) (key : κ) : Bool :=
  (table.find? key).isSome

/-- Put an entry at its place among ascending entries, over an entry of the same key. -/
def insertEntry (key : κ) (value : α) : List (κ × α) → List (κ × α)
  | [] => [(key, value)]
  | entry :: rest =>
      match compare key entry.1 with
      | .lt => (key, value) :: entry :: rest
      | .eq => (key, value) :: rest
      | .gt => entry :: insertEntry key value rest

theorem mem_insertEntry {key : κ} {value : α} {entries : List (κ × α)} {entry : κ × α}
    (member : entry ∈ insertEntry key value entries) :
    entry = (key, value) ∨ entry ∈ entries := by
  induction entries with
  | nil => simpa [insertEntry] using member
  | cons head rest ih =>
      unfold insertEntry at member
      split at member
      · simpa using member
      · rcases List.mem_cons.1 member with same | later
        · exact .inl same
        · exact .inr (List.mem_cons_of_mem _ later)
      · rcases List.mem_cons.1 member with same | later
        · exact .inr (same ▸ List.mem_cons_self)
        · exact (ih later).imp_right (List.mem_cons_of_mem _)

theorem pairwise_insertEntry [Std.TransOrd κ] {key : κ} {value : α} {entries : List (κ × α)}
    (ascending : entries.Pairwise fun first second => compare first.1 second.1 = .lt) :
    (insertEntry key value entries).Pairwise
      fun first second => compare first.1 second.1 = .lt := by
  induction entries with
  | nil => simp [insertEntry]
  | cons head rest ih =>
      obtain ⟨head_lt, rest_ascending⟩ := List.pairwise_cons.1 ascending
      unfold insertEntry
      split
      · rename_i key_lt
        refine List.pairwise_cons.2 ⟨fun entry member => ?_, ascending⟩
        rcases List.mem_cons.1 member with rfl | later
        · exact key_lt
        · exact Std.TransCmp.lt_trans key_lt (head_lt entry later)
      · rename_i key_eq
        refine List.pairwise_cons.2 ⟨fun entry member => ?_, rest_ascending⟩
        exact Std.TransCmp.lt_of_eq_of_lt key_eq (head_lt entry member)
      · rename_i key_gt
        refine List.pairwise_cons.2 ⟨fun entry member => ?_, ih rest_ascending⟩
        rcases mem_insertEntry member with rfl | later
        · exact Std.OrientedCmp.lt_of_gt key_gt
        · exact head_lt entry later

/-- Store a value under a key, in place of any value that it had. -/
def insert [Std.TransOrd κ] (table : Table κ α) (key : κ) (value : α) : Table κ α :=
  ⟨insertEntry key value table.entries, pairwise_insertEntry table.ascending⟩

/-- Keep the entries that satisfy a test. -/
def filter (keep : κ → α → Bool) (table : Table κ α) : Table κ α :=
  ⟨table.entries.filter fun entry => keep entry.1 entry.2, table.ascending.filter _⟩

/-- Forget a key. -/
def erase (table : Table κ α) (key : κ) : Table κ α :=
  table.filter fun other _ => compare key other != .eq

/-- Replace each value by one computed from its entry; the keys stay. -/
def map (change : κ → α → β) (table : Table κ α) : Table κ β :=
  ⟨table.entries.map fun entry => (entry.1, change entry.1 entry.2),
    List.pairwise_map.2 table.ascending⟩

/-- The map of a list of entries, of which a later one replaces an earlier one of its key. -/
def ofList [Std.TransOrd κ] (entries : List (κ × α)) : Table κ α :=
  entries.foldl (fun table entry => table.insert entry.1 entry.2) empty

/-- Collect the values that a list pairs with each key, in list order. -/
def group [Std.TransOrd κ] (pairs : List (κ × α)) : Table κ (List α) :=
  pairs.foldl
    (fun table pair => table.insert pair.1 ((table.find? pair.1).getD [] ++ [pair.2])) empty

/-- The smallest key with its value, and the other entries. -/
def uncons? (table : Table κ α) : Option ((κ × α) × Table κ α) :=
  match table with
  | ⟨[], _⟩ => none
  | ⟨entry :: rest, ascending⟩ => some (entry, ⟨rest, ascending.of_cons⟩)

/-! ### Look-up after an update -/

theorem entryAt?_insertEntry [Std.TransOrd κ] (key other : κ) (value : α) (entries : List (κ × α)) :
    entryAt? other (insertEntry key value entries) =
      if compare other key = .eq then some value else entryAt? other entries := by
  induction entries with
  | nil => simp [insertEntry, entryAt?]
  | cons head rest ih =>
      unfold insertEntry
      split
      · simp [entryAt?]
      · rename_i key_eq
        by_cases same : compare other key = .eq
        · simp [entryAt?, same]
        · have other_ne : compare other head.1 ≠ .eq := fun other_eq =>
            same (Std.TransCmp.eq_trans other_eq (Std.OrientedCmp.eq_symm key_eq))
          simp [entryAt?, same, other_ne]
      · rename_i key_gt
        by_cases same : compare other key = .eq
        · have other_ne : compare other head.1 ≠ .eq := fun other_eq => by
            have : compare key head.1 = .eq :=
              Std.TransCmp.eq_trans (Std.OrientedCmp.eq_symm same) other_eq
            simp [this] at key_gt
          simp [entryAt?, same, other_ne, ih]
        · simp [entryAt?, same, ih]

theorem find?_insert [Std.TransOrd κ] [Std.LawfulEqOrd κ] [DecidableEq κ] (table : Table κ α)
    (key other : κ) (value : α) :
    (table.insert key value).find? other =
      if other = key then some value else table.find? other := by
  simp [find?, insert, entryAt?_insertEntry, Std.LawfulEqCmp.compare_eq_iff_eq]

@[simp]
theorem find?_empty (key : κ) : (empty : Table κ α).find? key = none := rfl

theorem entryAt?_map [Std.LawfulEqOrd κ] (change : κ → α → β) (key : κ) (entries : List (κ × α)) :
    entryAt? key (entries.map fun entry => (entry.1, change entry.1 entry.2)) =
      (entryAt? key entries).map (change key) := by
  induction entries with
  | nil => rfl
  | cons head rest ih =>
      by_cases same : compare key head.1 = .eq
      · have key_eq : key = head.1 := Std.LawfulEqCmp.eq_of_compare same
        simp [entryAt?, key_eq]
      · simp [entryAt?, same, ih]

@[simp]
theorem find?_map [Std.LawfulEqOrd κ] (change : κ → α → β) (table : Table κ α) (key : κ) :
    (table.map change).find? key = (table.find? key).map (change key) :=
  entryAt?_map change key table.entries

theorem entryAt?_isSome [Std.LawfulEqOrd κ] {key : κ} {entries : List (κ × α)} :
    (entryAt? key entries).isSome ↔ key ∈ entries.map (·.1) := by
  induction entries with
  | nil => simp [entryAt?]
  | cons head rest ih =>
      by_cases same : compare key head.1 = .eq
      · simp [entryAt?, Std.LawfulEqCmp.eq_of_compare same]
      · have key_ne : key ≠ head.1 := fun key_eq =>
          same (Std.LawfulEqCmp.compare_eq_iff_eq.2 key_eq)
        simp [entryAt?, same, ih, key_ne]

theorem contains_iff [Std.LawfulEqOrd κ] (table : Table κ α) (key : κ) :
    table.contains key = true ↔ key ∈ table.keys :=
  entryAt?_isSome

@[simp]
theorem keys_map (change : κ → α → β) (table : Table κ α) :
    (table.map change).keys = table.keys := by
  simp [keys, map, Function.comp_def]

end Table

/-- The members of a list in ascending order, each once. -/
def ascending {κ : Type} [Ord κ] [Std.TransOrd κ] (members : List κ) : List κ :=
  (Table.ofList (members.map (·, ()))).keys

end Workflow
