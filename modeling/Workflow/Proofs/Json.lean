import Workflow.Json.Record
import Workflow.Proofs.Table

/-!
# Free values

A free value is what is kept of a readable value: its canonical form.  It is readable itself, and
keeping it once more changes nothing.
-/

namespace Workflow
namespace Json

theorem canonicalFields_eq_self {fields : List (String × Json)}
    (kept : ∀ field ∈ fields, field.2.canonical = field.2) : canonicalFields fields = fields := by
  induction fields with
  | nil => rfl
  | cons field fields ih =>
      obtain ⟨head_kept, rest_kept⟩ := List.forall_mem_cons.1 kept
      rw [canonicalFields, head_kept, ih rest_kept]

theorem readableFields_iff {fields : List (String × Json)} :
    readableFields fields = true ↔ ∀ field ∈ fields, field.2.readable = true := by
  induction fields with
  | nil => simp [readableFields]
  | cons field fields ih => simp [readableFields, ih]

mutual

/-- A canonical form is its own canonical form. -/
theorem canonical_canonical : (value : Json) → value.canonical.canonical = value.canonical
  | .arr items => by rw [canonical, canonical, canonicalItems_canonicalItems items]
  | .obj fields => by
      have kept : canonicalFields (Table.ofList (canonicalFields fields)).entries =
          (Table.ofList (canonicalFields fields)).entries :=
        canonicalFields_eq_self fun field member =>
          canonical_of_mem_canonicalFields fields field (Table.mem_of_mem_entries_ofList member)
      rw [canonical, canonical, kept, Table.entries_ofList (Table.ascending _) fun _ => .rfl]
  | .null | .bool _ | .num _ | .str _ | .invalid => rfl

theorem canonicalItems_canonicalItems :
    (items : List Json) → canonicalItems (canonicalItems items) = canonicalItems items
  | [] => rfl
  | item :: items => by
      rw [canonicalItems, canonicalItems, canonical_canonical item,
        canonicalItems_canonicalItems items]

theorem canonical_of_mem_canonicalFields : (fields : List (String × Json)) →
    ∀ field ∈ canonicalFields fields, field.2.canonical = field.2
  | [], _, member => nomatch member
  | (_, value) :: fields, field, member => by
      rcases List.mem_cons.1 member with rfl | later
      · exact canonical_canonical value
      · exact canonical_of_mem_canonicalFields fields field later

end

mutual

/-- The canonical form of a readable value is readable. -/
theorem readable_canonical :
    (value : Json) → value.readable = true → value.canonical.readable = true
  | .arr items, readable => readableItems_canonicalItems items readable
  | .obj fields, readable => readableFields_iff.2 fun field member =>
      readable_of_mem_canonicalFields fields readable field (Table.mem_of_mem_entries_ofList member)
  | .null, _ | .bool _, _ | .num _, _ | .str _, _ => rfl

theorem readableItems_canonicalItems : (items : List Json) → readableItems items = true →
    readableItems (canonicalItems items) = true
  | [], _ => rfl
  | item :: items, readable => by
      obtain ⟨first, rest⟩ := Bool.and_eq_true_iff.1 readable
      exact Bool.and_eq_true_iff.2
        ⟨readable_canonical item first, readableItems_canonicalItems items rest⟩

theorem readable_of_mem_canonicalFields : (fields : List (String × Json)) →
    readableFields fields = true → ∀ field ∈ canonicalFields fields, field.2.readable = true
  | [], _, _, member => nomatch member
  | (_, value) :: fields, readable, field, member => by
      obtain ⟨first, rest⟩ := Bool.and_eq_true_iff.1 readable
      rcases List.mem_cons.1 member with rfl | later
      · exact readable_canonical value first
      · exact readable_of_mem_canonicalFields fields rest field later

end

/-- A value in the form in which free values are kept. -/
structure Free (value : Json) : Prop where
  /-- Every part of it has a value. -/
  readable : value.readable = true
  /-- It is in canonical form. -/
  canonical : value.canonical = value

theorem free_null : null.Free :=
  ⟨rfl, rfl⟩

theorem free_of_free? {written value : Json} (read : free? written = some value) : value.Free := by
  unfold free? at read
  split at read
  · rename_i readable
    obtain rfl := Option.some.inj read
    exact ⟨readable_canonical written readable, canonical_canonical written⟩
  · exact nomatch read

theorem Free.free?_eq {value : Json} (free : value.Free) : free? value = some value := by
  rw [free?, if_pos free.readable, free.canonical]

/-- The canonical form of an object has the same fields in ascending order. -/
theorem canonical_obj {fields entries : List (String × Json)}
    (ascending : (entries.map Prod.fst).Pairwise fun first second => compare first second = .lt)
    (same : ∀ field, field ∈ canonicalFields fields ↔ field ∈ entries) :
    (obj fields).canonical = .obj entries := by
  rw [Json.canonical, Table.entries_ofList (List.pairwise_map.1 ascending) same]

/-! ### Reading -/

private theorem exists_of_mem_mapM {α β : Type} {read : α → Option β} {items : List α}
    {results : List β} (mapped : items.mapM read = some results) {result : β}
    (member : result ∈ results) :
    ∃ item ∈ items, read item = some result := by
  induction items generalizing results with
  | nil =>
      obtain rfl : [] = results := by simpa using mapped
      simp at member
  | cons item items ih =>
      simp only [List.mapM_cons, bind, Option.bind_eq_some_iff] at mapped
      obtain ⟨first, first_eq, rest, rest_eq, results_eq⟩ := mapped
      obtain rfl := Option.some.inj results_eq
      rcases List.mem_cons.1 member with rfl | later
      · exact ⟨item, List.mem_cons_self, first_eq⟩
      · obtain ⟨other, other_mem, other_eq⟩ := ih rest_eq later
        exact ⟨other, List.mem_cons_of_mem _ other_mem, other_eq⟩

/-- Each value of a table that was read was read from some field. -/
theorem exists_of_mem_values_table? {κ α : Type} [Ord κ] [Std.TransOrd κ] [Std.LawfulEqOrd κ]
    [DecidableEq κ] {key : String → Option κ} {read : Json → Option α} {value : Json}
    {table : Table κ α} (tabled : table? key read value = some table) {stored : α}
    (member : stored ∈ table.values) : ∃ field, read field = some stored := by
  cases value with
  | obj fields =>
      obtain ⟨entries, mapped, rfl⟩ := Option.map_eq_some_iff.1 tabled
      obtain ⟨entry, entry_mem, rfl⟩ := List.mem_map.1 member
      obtain ⟨field, _, read_eq⟩ :=
        exists_of_mem_mapM mapped (Table.mem_of_mem_entries_ofList entry_mem)
      simp only [bind, Option.bind_eq_some_iff] at read_eq
      obtain ⟨_, _, stored, stored_eq, entry_eq⟩ := read_eq
      obtain rfl := Option.some.inj entry_eq
      exact ⟨_, stored_eq⟩
  | null | bool | num | str | arr | invalid => exact nomatch tabled

/-- A tag behind fields that are not tags is read with these fields, if they can be read. -/
theorem tagged?_concat {fields : List (String × Json)} (tag : String)
    (untagged : ∀ field ∈ fields, field.1 ≠ tagName) :
    tagged? (obj (fields ++ [(tagName, .str tag)])) =
      if readableFields fields then some (tag, obj fields) else none := by
  have tags : fields.filter (fun field => field.1 == tagName) = [] := by simpa using untagged
  have others : fields.filter (fun field => field.1 != tagName) = fields := by simpa using untagged
  have readable_eq : (obj (fields ++ [(tagName, .str tag)])).readable = readableFields fields := by
    rw [Bool.eq_iff_iff, readable, readableFields_iff, readableFields_iff]
    simp [or_imp, forall_and, readable]
  rw [tagged?, readable_eq]
  simp [List.filter_append, tags, others]

end Json
end Workflow
