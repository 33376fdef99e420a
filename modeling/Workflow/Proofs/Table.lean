import Mathlib.Data.List.Induction
import Mathlib.Data.List.Nodup
import Workflow.Table

/-!
# Look-up in tables

The entries of a table are exactly the pairs that look-up finds, so a table is determined by its
look-up.  The tables that are built from lists are described the same way: `find?_ofList` says that
the last pair of a key counts, and `find?_group` that a group keeps the list order.
-/

namespace Workflow

/-- A member of one list is related to some member of the other. -/
theorem exists_of_mem_forall₂ {α β : Type} {relation : α → β → Prop} {left : List α}
    {right : List β} (related : List.Forall₂ relation left right) {first : α}
    (member : first ∈ left) : ∃ second ∈ right, relation first second := by
  induction related with
  | nil => simp at member
  | cons head_related _ ih =>
      rcases List.mem_cons.1 member with rfl | later
      · exact ⟨_, List.mem_cons_self, head_related⟩
      · obtain ⟨second, second_mem, related⟩ := ih later
        exact ⟨second, List.mem_cons_of_mem _ second_mem, related⟩

/-- A list is read if each member is, and gives what its members give, in order. -/
theorem mapM_eq_some_iff {α β : Type} {read : α → Option β} {items : List α} {results : List β} :
    items.mapM read = some results ↔
      List.Forall₂ (fun item result => read item = some result) items results := by
  induction items generalizing results with
  | nil => simp [eq_comm]
  | cons item items ih =>
      simp only [List.mapM_cons, bind, Option.bind_eq_some_iff, ih, List.forall₂_cons_left_iff]
      constructor
      · rintro ⟨first, first_eq, rest, related, results_eq⟩
        exact ⟨first, rest, first_eq, related, (Option.some.inj results_eq).symm⟩
      · rintro ⟨first, rest, first_eq, related, rfl⟩
        exact ⟨first, first_eq, rest, related, rfl⟩

namespace Table

variable {κ α : Type} [Ord κ]

/-! ### Entries, keys and values -/

theorem keys_ascending (table : Table κ α) :
    table.keys.Pairwise fun first second => compare first second = .lt :=
  List.pairwise_map.2 table.ascending

/-- Taking the smallest entry away leaves the larger ones. -/
theorem entries_of_uncons? {table rest : Table κ α} {entry : κ × α}
    (taken : table.uncons? = some (entry, rest)) : table.entries = entry :: rest.entries := by
  obtain ⟨_ | ⟨head, tail⟩, ascending⟩ := table
  · simp [uncons?] at taken
  · simp only [uncons?, Option.some.injEq, Prod.mk.injEq] at taken
    simp [← taken.1, ← taken.2]

theorem keys_of_uncons?_eq_none {table : Table κ α} (untaken : table.uncons? = none) :
    table.keys = [] := by
  obtain ⟨_ | ⟨head, tail⟩, ascending⟩ := table
  · rfl
  · simp [uncons?] at untaken

variable [Std.LawfulEqOrd κ]

theorem ne_of_compare_lt {left right : κ} (lt : compare left right = .lt) : left ≠ right := by
  rintro rfl
  simp at lt

theorem mem_of_entryAt? {key : κ} {value : α} {entries : List (κ × α)}
    (found : entryAt? key entries = some value) : (key, value) ∈ entries := by
  induction entries with
  | nil => simp [entryAt?] at found
  | cons head rest ih =>
      by_cases same : compare key head.1 = .eq
      · have key_eq : key = head.1 := Std.LawfulEqCmp.eq_of_compare same
        have value_eq : head.2 = value := by simpa [entryAt?, same] using found
        simp [key_eq, ← value_eq]
      · exact List.mem_cons_of_mem _ (ih (by simpa [entryAt?, same] using found))

theorem entryAt?_of_mem {key : κ} {value : α} {entries : List (κ × α)}
    (ascending : entries.Pairwise fun first second => compare first.1 second.1 = .lt)
    (member : (key, value) ∈ entries) : entryAt? key entries = some value := by
  induction entries with
  | nil => simp at member
  | cons head rest ih =>
      obtain ⟨head_lt, rest_ascending⟩ := List.pairwise_cons.1 ascending
      rcases List.mem_cons.1 member with rfl | later
      · simp [entryAt?]
      · have key_ne : key ≠ head.1 := (ne_of_compare_lt (head_lt _ later)).symm
        simp [entryAt?, key_ne, ih rest_ascending later]

theorem mem_entries_iff {table : Table κ α} {key : κ} {value : α} :
    (key, value) ∈ table.entries ↔ table.find? key = some value :=
  ⟨entryAt?_of_mem table.ascending, mem_of_entryAt?⟩

theorem mem_keys_iff {table : Table κ α} {key : κ} :
    key ∈ table.keys ↔ ∃ value, table.find? key = some value := by
  simp [keys, ← mem_entries_iff]

theorem mem_values_iff {table : Table κ α} {value : α} :
    value ∈ table.values ↔ ∃ key, table.find? key = some value := by
  simp [values, ← mem_entries_iff]

theorem keys_nodup (table : Table κ α) : table.keys.Nodup :=
  table.keys_ascending.imp ne_of_compare_lt

/-- A value that is stored once is stored under one key. -/
theorem eq_of_find?_eq_some {table : Table κ α} (nodup : table.values.Nodup) {first second : κ}
    {value : α} (first_found : table.find? first = some value)
    (second_found : table.find? second = some value) : first = second := by
  have same := List.inj_on_of_nodup_map nodup (mem_entries_iff.2 first_found)
    (mem_entries_iff.2 second_found) rfl
  exact congrArg Prod.fst same

theorem find?_filter (keep : κ → α → Bool) (table : Table κ α) (key : κ) :
    (table.filter keep).find? key = (table.find? key).filter (keep key) := by
  ext value
  rw [← mem_entries_iff, Option.filter_eq_some_iff, ← mem_entries_iff]
  exact List.mem_filter

theorem find?_erase [DecidableEq κ] (table : Table κ α) (key other : κ) :
    (table.erase key).find? other = if other = key then none else table.find? other := by
  rw [erase, find?_filter]
  split_ifs with same
  · simp [same]
  · have kept : (compare key other != .eq) = true := by
      simpa using fun equal => same (Std.LawfulEqOrd.eq_of_compare equal).symm
    cases table.find? other <;> simp [kept]

variable [Std.TransOrd κ]

private theorem eq_of_ascending {left right : List (κ × α)}
    (left_ascending : left.Pairwise fun first second => compare first.1 second.1 = .lt)
    (right_ascending : right.Pairwise fun first second => compare first.1 second.1 = .lt)
    (same : ∀ entry, entry ∈ left ↔ entry ∈ right) : left = right := by
  have nodup {entries : List (κ × α)}
      (ascending : entries.Pairwise fun first second => compare first.1 second.1 = .lt) :
      entries.Nodup :=
    ascending.imp fun lt equal => ne_of_compare_lt lt (congrArg Prod.fst equal)
  refine List.Perm.eq_of_pairwise (fun first second _ _ lt gt => ?_) left_ascending right_ascending
    ((List.perm_ext_iff_of_nodup (nodup left_ascending) (nodup right_ascending)).2 same)
  simp [Std.OrientedCmp.gt_of_lt lt] at gt

theorem eq_of_find?_eq {left right : Table κ α}
    (same : ∀ key, left.find? key = right.find? key) : left = right := by
  apply eq_of_entries_eq
  refine eq_of_ascending left.ascending right.ascending fun (key, value) => ?_
  rw [mem_entries_iff, mem_entries_iff, same]

theorem keys_eq_of_mem_iff {β : Type} {left : Table κ α} {right : Table κ β}
    (same : ∀ key, key ∈ left.keys ↔ key ∈ right.keys) : left.keys = right.keys := by
  have erased : (left.map fun _ _ => ()) = right.map fun _ _ => () := by
    refine eq_of_find?_eq fun key => ?_
    have present := same key
    rw [← contains_iff, ← contains_iff, contains, contains] at present
    rw [find?_map, find?_map]
    cases left_eq : left.find? key <;> cases right_eq : right.find? key <;> simp_all
  rw [← keys_map (fun _ _ => ()) left, erased, keys_map]

variable [DecidableEq κ]

theorem mem_keys_insert {table : Table κ α} {key other : κ} {value : α} :
    other ∈ (table.insert key value).keys ↔ other = key ∨ other ∈ table.keys := by
  by_cases same : other = key <;> simp [mem_keys_iff, find?_insert, same]

theorem mem_keys_insert_of_mem {table : Table κ α} {key other : κ} {value : α}
    (known : key ∈ table.keys) : other ∈ (table.insert key value).keys ↔ other ∈ table.keys := by
  rw [mem_keys_insert, or_iff_right_of_imp fun same => same ▸ known]

/-! ### Tables from lists -/

theorem find?_ofList (pairs : List (κ × α)) (key : κ) :
    (ofList pairs).find? key = entryAt? key pairs.reverse := by
  induction pairs using List.reverseRecOn with
  | nil => rfl
  | append_singleton pairs pair ih =>
      have split : ofList (pairs ++ [pair]) = (ofList pairs).insert pair.1 pair.2 := by
        simp [ofList]
      rw [split, find?_insert, ih]
      simp [entryAt?, Std.LawfulEqCmp.compare_eq_iff_eq]

/-- The entries of a table are among the pairs that it is built from. -/
theorem mem_of_mem_entries_ofList {pairs : List (κ × α)} {entry : κ × α}
    (member : entry ∈ (ofList pairs).entries) : entry ∈ pairs := by
  rw [mem_entries_iff, find?_ofList] at member
  exact List.mem_reverse.1 (mem_of_entryAt? member)

/-- Pairs whose keys differ become the entries in ascending order. -/
theorem entries_ofList {pairs entries : List (κ × α)}
    (ascending : entries.Pairwise fun first second => compare first.1 second.1 = .lt)
    (same : ∀ pair, pair ∈ pairs ↔ pair ∈ entries) : (ofList pairs).entries = entries := by
  refine eq_of_ascending (ofList pairs).ascending ascending fun (key, value) =>
    ⟨fun member => (same _).1 (mem_of_mem_entries_ofList member), fun member => ?_⟩
  have present : key ∈ pairs.reverse.map (·.1) :=
    List.mem_map_of_mem (List.mem_reverse.2 ((same _).2 member))
  obtain ⟨other, found⟩ := Option.isSome_iff_exists.1 (entryAt?_isSome.2 present)
  have found_mem := (same _).1 (List.mem_reverse.1 (mem_of_entryAt? found))
  have value_eq : some other = some value :=
    (entryAt?_of_mem ascending found_mem).symm.trans (entryAt?_of_mem ascending member)
  rw [mem_entries_iff, find?_ofList, found, value_eq]

theorem find?_ofList_map (keys : List κ) (value : κ → α) (key : κ) :
    (ofList (keys.map fun key => (key, value key))).find? key =
      if key ∈ keys then some (value key) else none := by
  induction keys using List.reverseRecOn with
  | nil => rfl
  | append_singleton keys last ih =>
      rw [find?_ofList] at ih ⊢
      by_cases same : key = last
      · simp [entryAt?, same]
      · simpa [entryAt?, same, Std.LawfulEqCmp.compare_eq_iff_eq] using ih

theorem getD_find?_ofList_map (keys : List κ) (value : κ → α) (key : κ) (default : α) :
    ((ofList (keys.map fun key => (key, value key))).find? key).getD default =
      if key ∈ keys then value key else default := by
  rw [find?_ofList_map]
  split <;> rfl

/-- A group keeps its values in list order. -/
theorem find?_group (pairs : List (κ × α)) (key : κ) :
    ((group pairs).find? key).getD [] = (pairs.filter (·.1 = key)).map (·.2) := by
  induction pairs using List.reverseRecOn with
  | nil => rfl
  | append_singleton pairs pair ih =>
      have split : group (pairs ++ [pair]) =
          (group pairs).insert pair.1 (((group pairs).find? pair.1).getD [] ++ [pair.2]) := by
        simp [group]
      rw [split, find?_insert]
      by_cases same : key = pair.1
      · simp [← same, ih]
      · simp [same, ih, Ne.symm same]

theorem mem_group {pairs : List (κ × α)} {key : κ} {value : α} :
    value ∈ ((group pairs).find? key).getD [] ↔ (key, value) ∈ pairs := by
  simp [find?_group]

end Table

section Ascending

variable {κ : Type} [Ord κ] [Std.TransOrd κ] [Std.LawfulEqOrd κ]

@[simp]
theorem mem_ascending [DecidableEq κ] {member : κ} {members : List κ} :
    member ∈ ascending members ↔ member ∈ members := by
  rw [ascending, Table.mem_keys_iff, Table.find?_ofList_map members fun _ => ()]
  by_cases present : member ∈ members <;> simp [present]

/-- The keys of a set are its members in ascending order. -/
theorem keys_eq_ascending [DecidableEq κ] {table : Table κ Unit} {members : List κ}
    (same : ∀ member, member ∈ table.keys ↔ member ∈ members) :
    table.keys = ascending members := by
  have table_eq : table = .ofList (members.map (·, ())) := by
    refine Table.eq_of_find?_eq fun key => ?_
    rw [Table.find?_ofList_map members fun _ => ()]
    by_cases member : key ∈ members
    · obtain ⟨_, found⟩ := Table.mem_keys_iff.1 ((same key).2 member)
      rw [found, if_pos member]
    · rw [if_neg member]
      refine Option.eq_none_iff_forall_ne_some.2 fun _ found => ?_
      exact member ((same key).1 (Table.mem_keys_iff.2 ⟨_, found⟩))
  rw [table_eq, ascending]

theorem ascending_nodup (members : List κ) : (ascending members).Nodup :=
  Table.keys_nodup _

end Ascending
end Workflow
