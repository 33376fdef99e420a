import Workflow.Proofs.Json

/-!
# Reading what was written

A reader accepts more than is ever written: other spellings of keys, unknown fields, arrays for
records.  `RoundTrips` says that nothing is lost on the way: whatever a value was read from, it is
read from what is written for it.  Lists, tables and the fields of records inherit this from their
parts.
-/

namespace Workflow
namespace Json

/-- A value that was read is read again from what is written for it. -/
def RoundTrips {α : Type} (write : α → Json) (read : Json → Option α) : Prop :=
  ∀ written value, read written = some value → read (write value) = some value

section

variable {α : Type} {write : α → Json} {read : Json → Option α}

theorem roundTrips_of_inverse (inverse : ∀ value, read (write value) = some value) :
    RoundTrips write read :=
  fun _ value _ => inverse value

/-- Nothing is lost between what is read and what is written, and a written form that was read and
written again stays as it is. -/
structure Lossless (write : α → Json) (read : Json → Option α) : Prop where
  /-- A value that was read is read again from what is written for it. -/
  again : RoundTrips write read
  /-- To read and to write again changes no written form a second time. -/
  idempotent {written rewritten : Json} (first : (read written).map write = some rewritten) :
    (read rewritten).map write = some rewritten

theorem RoundTrips.lossless (roundTrips : RoundTrips write read) : Lossless write read where
  again := roundTrips
  idempotent := by
    intro written rewritten first
    obtain ⟨value, value_read, rfl⟩ := Option.map_eq_some_iff.1 first
    rw [roundTrips written value value_read, Option.map_some]

/-! ### Values without parts -/

theorem roundTrips_string : RoundTrips str string? :=
  roundTrips_of_inverse fun _ => rfl

theorem roundTrips_free : RoundTrips id free? :=
  fun _ _ value_read => (free_of_free? value_read).free?_eq

theorem roundTrips_name {names : List (String × α)} {name : α → String}
    (named : ∀ value, names.lookup (name value) = some value) :
    RoundTrips (fun value => str (name value)) (name? names) :=
  roundTrips_of_inverse named

theorem natBelow?_ofNat {bound value : Nat} (below : value < bound) :
    natBelow? bound (.ofNat value) = some value := by
  simp [natBelow?, ofNat, below]

/-! ### Lists and tables -/

theorem RoundTrips.list (roundTrips : RoundTrips write read) :
    RoundTrips (ofList write) (list? read) := by
  intro written values values_read
  cases written with
  | arr items =>
      have related := mapM_eq_some_iff.1 values_read
      refine mapM_eq_some_iff.2 (List.forall₂_map_left_iff.2 (List.forall₂_same.2 ?_))
      intro value member
      obtain ⟨item, -, item_read⟩ := exists_of_mem_forall₂ related.flip member
      exact roundTrips item value item_read
  | null | bool | num | str | obj | invalid => exact nomatch values_read

theorem RoundTrips.table {κ : Type} [Ord κ] [Std.TransOrd κ] [Std.LawfulEqOrd κ] [DecidableEq κ]
    [ToString κ] {key : String → Option κ} (keys : ∀ value, key (toString value) = some value)
    (roundTrips : RoundTrips write read) : RoundTrips (ofTable write) (table? key read) := by
  intro written table table_read
  have entries_read : (table.entries.map fun entry => (toString entry.1, write entry.2)).mapM
      (fun (name, field) => do
        let key ← key name
        let value ← read field
        some (key, value)) = some table.entries := by
    refine mapM_eq_some_iff.2 (List.forall₂_map_left_iff.2 (List.forall₂_same.2 ?_))
    intro entry member
    obtain ⟨field, field_read⟩ :=
      exists_of_mem_values_table? table_read (List.mem_map_of_mem member)
    simp [keys, roundTrips field entry.2 field_read]
  rw [ofTable, table?, entries_read]
  exact congrArg some (Table.eq_of_entries_eq (Table.entries_ofList table.ascending fun _ => .rfl))

/-! ### Fields of records -/

theorem RoundTrips.field (roundTrips : RoundTrips write read) {record : Record} {name : String}
    {value : α} (field_read : record.field? name read = some value) :
    read (write value) = some value := by
  obtain ⟨written, -, value_read⟩ := Option.bind_eq_some_iff.1 field_read
  exact roundTrips written value value_read

theorem RoundTrips.fieldOr (roundTrips : RoundTrips write read) {record : Record} {name : String}
    {missing value : α} (missing_read : read (write missing) = some missing)
    (field_read : record.fieldOr? name missing read = some value) :
    read (write value) = some value := by
  unfold Record.fieldOr? at field_read
  split at field_read
  · obtain rfl := Option.some.inj field_read
    exact missing_read
  · exact roundTrips _ value field_read

end

/-- A record that is written with its fields in order is read with all of them. -/
theorem record?_obj {names : List String} {fields : List (String × Json)} (nodup : names.Nodup)
    (names_eq : fields.map Prod.fst = names) : record? names (.obj fields) = some fields := by
  subst names_eq
  have all_known : fields.filter (fun field => (fields.map Prod.fst).contains field.1) = fields :=
    List.filter_eq_self.2 fun field member => by
      simpa using ⟨field.2, member⟩
  simp only [record?, all_known, if_pos nodup]

/-- A tag in front of fields that are not tags is read with these fields, if they can be read. -/
theorem tagged?_cons {fields : List (String × Json)} (tag : String)
    (untagged : ∀ field ∈ fields, field.1 ≠ tagName)
    (readable : ∀ field ∈ fields, field.2.readable = true) :
    tagged? (obj ((tagName, .str tag) :: fields)) = some (tag, obj fields) := by
  have tags : fields.filter (fun field => field.1 == tagName) = [] := by simpa using untagged
  have others : fields.filter (fun field => field.1 != tagName) = fields := by simpa using untagged
  have all_readable : (obj ((tagName, .str tag) :: fields)).readable = true :=
    readableFields_iff.2 (List.forall_mem_cons.2 ⟨rfl, readable⟩)
  rw [tagged?, if_pos all_readable]
  simp [tags, others]

end Json
end Workflow
