import Workflow.Proofs.Preview.Collection
import Workflow.Proofs.Stepwise

/-!
# Blobs read in turn

Operators and artifacts are read back in the order of their keys.  What is found of one of them
depends on the state of the store when its turn comes, which the reads for smaller keys have left.
`RunPaths.blob?` and `RunPaths.value?` say what is found in a state, and a store that notes its
accesses finds the same.
-/

namespace Workflow

namespace Table

variable {κ α : Type} [Ord κ] {table : Table κ α} {key : κ} {value : α}

/-- The entries whose keys are smaller than a given one. -/
def below (table : Table κ α) (key : κ) : List (κ × α) :=
  table.entries.filter fun entry => compare entry.1 key = .lt

variable [Std.TransOrd κ]

theorem below_eq {before after : List (κ × α)}
    (entries_eq : table.entries = before ++ (key, value) :: after) : table.below key = before := by
  have ascending := table.ascending
  rw [entries_eq] at ascending
  obtain ⟨_, rest, smaller⟩ := List.pairwise_append.1 ascending
  have greater := (List.pairwise_cons.1 rest).1
  have before_eq : before.filter (fun entry => compare entry.1 key = .lt) = before :=
    List.filter_eq_self.2 fun entry member => by
      simpa using smaller entry member _ List.mem_cons_self
  have after_eq : after.filter (fun entry => compare entry.1 key = .lt) = [] :=
    List.filter_eq_nil_iff.2 fun entry member => by
      simp [Std.OrientedCmp.gt_of_lt (greater entry member)]
  rw [below, entries_eq, List.filter_append, List.filter_cons, before_eq, after_eq]
  simp

/-- The entries are good one after the other if each is good after those with smaller keys. -/
theorem stepwise_entries_iff [Std.LawfulEqOrd κ] {good : List (κ × α) → κ × α → Prop} :
    Stepwise good table.entries ↔
      ∀ key value, table.find? key = some value → good (table.below key) (key, value) := by
  constructor
  · intro stepwise key value found
    obtain ⟨before, after, entries_eq⟩ := List.append_of_mem (mem_entries_iff.2 found)
    rw [below_eq entries_eq]
    exact stepwise before _ after entries_eq
  · rintro all_good before ⟨key, value⟩ after entries_eq
    have found : table.find? key = some value := mem_entries_iff.1 (by simp [entries_eq])
    rw [← below_eq entries_eq]
    exact all_good key value found

/-- Unless the entries are good one after the other, one with a smallest key is not good. -/
theorem exists_smallest_of_not_stepwise [Std.LawfulEqOrd κ] {good : List (κ × α) → κ × α → Prop}
    (bad : ¬Stepwise good table.entries) :
    ∃ key value after, table.entries = table.below key ++ (key, value) :: after ∧
      Stepwise good (table.below key) ∧ ¬good (table.below key) (key, value) ∧
      ∀ other otherValue, table.find? other = some otherValue → compare other key = .lt →
        good (table.below other) (other, otherValue) := by
  obtain ⟨before, ⟨key, value⟩, after, entries_eq, stepwise, value_bad⟩ :=
    exists_first_of_not_stepwise bad
  have before_eq := below_eq entries_eq
  rw [← before_eq] at entries_eq stepwise value_bad
  refine ⟨key, value, after, entries_eq, stepwise, value_bad, fun other otherValue found lt => ?_⟩
  have member : (other, otherValue) ∈ table.below key :=
    List.mem_filter.2 ⟨mem_entries_iff.2 found, by simpa using lt⟩
  obtain ⟨first, last, split⟩ := List.append_of_mem member
  have other_eq : table.below other = first :=
    below_eq (by rw [entries_eq, split, List.append_assoc, List.cons_append])
  rw [other_eq]
  exact stepwise first _ last split

end Table

variable {σ : Type}

namespace Store

theorem readJson_snd {α : Type} (store : Store σ) (read : Json → Option α) (path : String)
    (state : σ) : (store.readJson read path state).2 = (store.get path state).2 := by
  simp only [readJson, bind, StateT.bind]
  obtain ⟨content, next⟩ := store.get path state
  cases content with
  | error => rfl
  | ok content =>
      dsimp only
      cases (Json.read? content).bind read <;> rfl

theorem toOption_readJson {α : Type} (store : Store σ) (read : Json → Option α) (path : String)
    (state : σ) :
    (store.readJson read path state).1.toOption =
      (store.get path state).1.toOption.bind fun content => (Json.read? content).bind read := by
  simp only [readJson, bind, StateT.bind]
  obtain ⟨content, next⟩ := store.get path state
  cases content with
  | error => rfl
  | ok content =>
      change _ = (Json.read? content).bind read
      dsimp only
      cases (Json.read? content).bind read <;> rfl

theorem state_fetch_recording (store : Store σ) (fetched : List String) (recorded : Recorded σ) :
    (store.recording.fetch fetched recorded).state = store.fetch fetched recorded.state := by
  induction fetched generalizing recorded with
  | nil => rfl
  | cons path fetched ih => exact ih _

end Store

namespace RunPaths

theorem lookUp_of_eq_some {table : Table Uuid String} {id : Uuid} {path : String}
    (found : table.find? id = some path) : lookUp table id = .ok path := by
  rw [lookUp, found]

theorem lookUp_of_eq_none {table : Table Uuid String} {id : Uuid} (found : table.find? id = none) :
    lookUp table id = .error (.missingStoragePath id) := by
  rw [lookUp, found]

/-- The content of a blob of a run, which has none if it has no path or cannot be fetched. -/
def blob? (paths : RunPaths) (store : Store σ) (source : Source) (state : σ) : Option Bytes :=
  (paths.pathOf? source).bind fun path => (store.get path state).1.toOption

/-- What the content of a blob of a run says, if there is one that can be read. -/
def value? {α : Type} (paths : RunPaths) (store : Store σ) (source : Source)
    (read : Json → Option α) (state : σ) : Option α :=
  (paths.blob? store source state).bind fun content => (Json.read? content).bind read

theorem readJson_of_pathOf? {α : Type} {paths : RunPaths} {source : Source} {path : String}
    (found : paths.pathOf? source = some path) (store : Store σ) (read : Json → Option α)
    (state : σ) :
    (store.readJson read path state).1.toOption = paths.value? store source read state ∧
      (store.readJson read path state).2 =
        store.fetch (paths.pathOf? source).toList state := by
  rw [store.toOption_readJson, store.readJson_snd, value?, blob?, found]
  exact ⟨rfl, rfl⟩

end RunPaths
end Workflow
