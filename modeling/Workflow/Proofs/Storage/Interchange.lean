import Workflow.Proofs.Storage.PlainPath
import Workflow.Storage.Memory

/-!
# A directory in place of memory

As long as paths are plain and none leads through another, a directory and a memory that start empty
answer every sequence of calls alike.  `Mirrors` relates the two: a file stands at the segments of a
path exactly if the path has a blob, and the folders on its way are there.
-/

namespace Workflow

open BlobPath

/-- One call of a store. -/
inductive StoreCall
  /-- Fetch a blob. -/
  | get (path : String)
  /-- Write a blob. -/
  | put (path : String) (content : Bytes)
  /-- Remove a blob. -/
  | delete (path : String)

/-- The path of a call. -/
def StoreCall.path : StoreCall → String
  | get path | put path _ | delete path => path

/-- The answer of a store to a call: only fetching gives a content. -/
def Store.answer {σ : Type} (store : Store σ) :
    StoreCall → StateM σ (Except StorageError (Option Bytes))
  | .get path => return (← store.get path).map some
  | .put path content => return (← store.put path content).map fun _ => none
  | .delete path => return (← store.delete path).map fun _ => none

/-- The answers of a store to calls made one after the other. -/
def Store.answers {σ : Type} (store : Store σ) (calls : List StoreCall) :
    StateM σ (List (Except StorageError (Option Bytes))) :=
  calls.mapM store.answer

namespace Store

variable {σ : Type} (store : Store σ) (path : String) (state : σ)

theorem answer_get :
    store.answer (.get path) state =
      ((store.get path state).1.map some, (store.get path state).2) := rfl

theorem answer_put (content : Bytes) :
    store.answer (.put path content) state =
      ((store.put path content state).1.map fun _ => none, (store.put path content state).2) := rfl

theorem answer_delete :
    store.answer (.delete path) state =
      ((store.delete path state).1.map fun _ => none, (store.delete path state).2) := rfl

theorem answers_cons (call : StoreCall) (calls : List StoreCall) :
    store.answers (call :: calls) state =
      ((store.answer call state).1 :: (store.answers calls (store.answer call state).2).1,
        (store.answers calls (store.answer call state).2).2) := by
  rw [answers, List.mapM_cons]
  rfl

end Store

namespace Directory

/-- The regular files below the root with their contents. -/
def files (directory : Directory) : List (String × Bytes) :=
  directory.listing.filterMap fun (path, content?) => content?.map (path, ·)

/-- The path and the content of an entry that is a file. -/
def fileOf? : List String × DirectoryEntry → Option (String × Bytes)
  | (names, .file content) => some ("/".intercalate names, content)
  | (_, .folder) => none

theorem files_eq (directory : Directory) :
    directory.files = directory.entries.entries.filterMap fileOf? := by
  rw [files, listing, List.filterMap_filterMap]
  congr 1
  funext entry
  obtain ⟨names, content | _⟩ := entry
  · rfl
  · dsimp only [fileOf?]
    split <;> rfl

theorem fileOf?_eq_some_iff {names : List String} {entry : DirectoryEntry} {path : String}
    {content : Bytes} :
    fileOf? (names, entry) = some (path, content) ↔
      entry = .file content ∧ "/".intercalate names = path := by
  cases entry <;> simp [fileOf?, and_comm]

end Directory

/-- Plain paths of which none leads through another. -/
structure Separate (paths : List String) : Prop where
  /-- Every path is plain. -/
  plain : ∀ path ∈ paths, Plain path
  /-- No path is a proper prefix of another. -/
  apart : ∀ first ∈ paths, ∀ second ∈ paths, segments first <+: segments second → first = second

theorem separate_iff {paths : List String} :
    Separate paths ↔ (∀ path ∈ paths, Plain path) ∧
      ∀ first ∈ paths, ∀ second ∈ paths, segments first <+: segments second → first = second :=
  ⟨fun ⟨plain, apart⟩ => ⟨plain, apart⟩, fun ⟨plain, apart⟩ => ⟨plain, apart⟩⟩

instance (paths : List String) : Decidable (Separate paths) :=
  decidable_of_iff _ separate_iff.symm

/-- A directory holds the blobs of a memory, all of them under some given paths. -/
structure Mirrors (paths : List String) (directory : Directory) (blobs : Memory) : Prop where
  /-- At a path is the file of its blob, or nothing. -/
  blob : ∀ path ∈ paths,
    directory.entries.find? (segments path) = (blobs.find? path).map DirectoryEntry.file
  /-- Files are only at the given paths. -/
  file : ∀ names content, directory.entries.find? names = some (.file content) →
    ∃ path ∈ paths, names = segments path
  /-- All folders on the way to a file are there. -/
  way : ∀ names content, directory.entries.find? names = some (.file content) →
    ∀ front, front ≠ [] → front <+: names → front ≠ names →
      directory.entries.find? front = some .folder
  /-- Blobs are only at the given paths. -/
  stored : ∀ path ∈ blobs.keys, path ∈ paths
  /-- There is nothing below a root that does not exist. -/
  root : directory.exists? = false → ∀ names, directory.entries.find? names = none

theorem mirrors_empty (paths : List String) (exists? : Bool) :
    Mirrors paths ⟨exists?, .empty⟩ .empty where
  blob _ _ := rfl
  file _ _ found := by simp at found
  way _ _ found := by simp at found
  stored _ member := by simp [Table.mem_keys_iff] at member
  root _ _ := rfl

namespace Mirrors

variable {paths : List String} {directory : Directory} {blobs : Memory}

private theorem clear_way (mirrors : Mirrors paths directory blobs) (separate : Separate paths)
    {path : String} (path_mem : path ∈ paths) {front : List String}
    (front_leads : front <+: segments path) (front_ne : front ≠ segments path) (content : Bytes) :
    directory.entries.find? front ≠ some (.file content) := by
  intro found
  obtain ⟨other, other_mem, rfl⟩ := mirrors.file front content found
  exact front_ne (congrArg segments (separate.apart other other_mem path path_mem front_leads))

private theorem find_eq (mirrors : Mirrors paths directory blobs) (separate : Separate paths)
    {path : String} (path_mem : path ∈ paths) :
    directory.find path (plainPath path) =
      match blobs.find? path with
      | none => .missing
      | some content => .entry (.file content) := by
  have plain := separate.plain path path_mem
  have blob_eq := mirrors.blob path path_mem
  rw [Directory.find, if_neg (by simp [plain.no_nul]), if_neg (by simpa using plain.fits)]
  by_cases root_exists : directory.exists? = true
  · rw [if_neg (by simp [root_exists]), names_plainPath]
    cases blob : blobs.find? path with
    | none =>
        have vacant : directory.entries.find? (segments path) = none := by rw [blob_eq, blob]; rfl
        rw [Directory.follow_eq_missing plain.short (segments_ne_nil path) _ vacant]
        intro front content front_leads
        by_cases front_eq : front = segments path
        · simp [front_eq, vacant]
        · exact mirrors.clear_way separate path_mem front_leads front_eq content
    | some content =>
        have found : directory.entries.find? (segments path) = some (.file content) := by
          rw [blob_eq, blob]
          rfl
        rw [Directory.follow_eq_file plain.short (segments_ne_nil path)
          (mirrors.way _ content found) found]
        rfl
  · have vacant := mirrors.root (by simpa using root_exists) (segments path)
    have blob : blobs.find? path = none := by simpa [vacant] using blob_eq.symm
    simp [root_exists, blob]

/-! ### One call -/

private theorem get (mirrors : Mirrors paths directory blobs) (separate : Separate paths)
    {path : String} (path_mem : path ∈ paths) :
    Directory.get path directory = ((Memory.get path blobs).1, directory) := by
  rw [Directory.get, (separate.plain path path_mem).ofString?_eq, Memory.get]
  dsimp only
  rw [mirrors.find_eq separate path_mem]
  cases blobs.find? path <;> rfl

private theorem ne_of_folder (mirrors : Mirrors paths directory blobs) {path : String}
    (path_mem : path ∈ paths) {front : List String}
    (found : directory.entries.find? front = some .folder) : front ≠ segments path := by
  rintro rfl
  rw [mirrors.blob path path_mem, Option.map_eq_some_iff] at found
  simp at found

private theorem erase (mirrors : Mirrors paths directory blobs) {path : String}
    (path_mem : path ∈ paths) :
    Mirrors paths { directory with entries := directory.entries.erase (segments path) }
      (blobs.erase path) where
  blob other other_mem := by
    simp only [Table.find?_erase, segments_injective.eq_iff]
    split_ifs
    · rfl
    · exact mirrors.blob other other_mem
  file names content found := by
    rw [Table.find?_erase] at found
    split_ifs at found
    exact mirrors.file names content found
  way names content found front front_ne front_leads front_ne_names := by
    rw [Table.find?_erase] at found ⊢
    split_ifs at found
    have folder := mirrors.way names content found front front_ne front_leads front_ne_names
    rwa [if_neg (mirrors.ne_of_folder path_mem folder)]
  stored other member := by
    obtain ⟨content, found⟩ := Table.mem_keys_iff.1 member
    rw [Table.find?_erase] at found
    split_ifs at found
    exact mirrors.stored other (Table.mem_keys_iff.2 ⟨content, found⟩)
  root missing names := by
    rw [Table.find?_erase, mirrors.root missing, ite_self]

private theorem delete (mirrors : Mirrors paths directory blobs) (separate : Separate paths)
    {path : String} (path_mem : path ∈ paths) :
    ∃ after, Directory.delete path directory = (.ok (), after) ∧
      Mirrors paths after (blobs.erase path) := by
  rw [Directory.delete, (separate.plain path path_mem).ofString?_eq]
  dsimp only
  rw [mirrors.find_eq separate path_mem]
  cases blob : blobs.find? path with
  | none =>
      have erase_eq : blobs.erase path = blobs := by
        refine Table.eq_of_find?_eq fun other => ?_
        rw [Table.find?_erase]
        split_ifs with same
        · rw [same, blob]
        · rfl
      exact ⟨directory, rfl, erase_eq.symm ▸ mirrors⟩
  | some content => exact ⟨_, rfl, names_plainPath path ▸ mirrors.erase path_mem⟩

private theorem insert (mirrors : Mirrors paths directory blobs) {path : String}
    (path_mem : path ∈ paths) (root_exists : directory.exists? = true)
    (way : ∀ front, front ≠ [] → front <+: (plainPath path).folders →
      directory.entries.find? front = some .folder) (content : Bytes) :
    Mirrors paths
      { directory with entries := directory.entries.insert (segments path) (.file content) }
      (blobs.insert path content) where
  blob other other_mem := by
    simp only [Table.find?_insert, segments_injective.eq_iff]
    split_ifs
    · rfl
    · exact mirrors.blob other other_mem
  file names other found := by
    rw [Table.find?_insert] at found
    split_ifs at found with same
    · exact ⟨path, path_mem, same⟩
    · exact mirrors.file names other found
  way names other found front front_ne front_leads front_ne_names := by
    have folder : directory.entries.find? front = some .folder := by
      rw [Table.find?_insert] at found
      split_ifs at found with same
      · subst same
        exact way front front_ne ((prefix_segments_iff.1 front_leads).resolve_left front_ne_names)
      · exact mirrors.way names other found front front_ne front_leads front_ne_names
    rwa [Table.find?_insert, if_neg (mirrors.ne_of_folder path_mem folder)]
  stored other member := by
    rcases Table.mem_keys_insert.1 member with rfl | member
    · exact path_mem
    · exact mirrors.stored other member
  root missing := by simp [root_exists] at missing

private theorem makeParents (mirrors : Mirrors paths directory blobs) (separate : Separate paths)
    {path : String} (path_mem : path ∈ paths) :
    ∃ after, directory.makeParents (plainPath path) = (after, none) ∧ after.exists? = true ∧
      (∀ front, front ≠ [] → front <+: (plainPath path).folders →
        after.entries.find? front = some .folder) ∧
      Mirrors paths after blobs := by
  have plain := separate.plain path path_mem
  obtain ⟨parent_no_nul, parent_fits⟩ := plain.parent_admitted
  have short : ∀ name ∈ (plainPath path).folders, Directory.isTooLong name = false :=
    fun name member => plain.short name (List.mem_of_mem_dropLast member)
  have clear_way : ∀ front content, front <+: (plainPath path).folders →
      directory.entries.find? ([] ++ front) ≠ some (.file content) := by
    intro front content front_leads
    have front_ne : front ≠ segments path := by
      rintro rfl
      exact not_segments_prefix_folders path front_leads
    exact mirrors.clear_way separate path_mem (prefix_segments_iff.2 (.inr front_leads)) front_ne
      content
  obtain ⟨after, made_eq, exists_eq, folders, others⟩ :=
    @Directory.makeFolders_spec ⟨true, directory.entries⟩ [] _ short clear_way
  simp only [List.nil_append] at folders others
  have file_iff (names : List String) (content : Bytes) :
      after.entries.find? names = some (.file content) ↔
        directory.entries.find? names = some (.file content) := by
    by_cases made : names ≠ [] ∧ names <+: (plainPath path).folders
    · have not_file := clear_way names content made.2
      rw [List.nil_append] at not_file
      simp [folders names made.1 made.2, not_file]
    · rw [others names]
      rintro front front_ne front_leads rfl
      exact made ⟨front_ne, front_leads⟩
  refine ⟨after, ?_, exists_eq, folders, ?_, ?_, ?_, mirrors.stored, by simp [exists_eq]⟩
  · rw [Directory.makeParents]
    simpa [parent_no_nul, Nat.not_le.2 parent_fits] using made_eq
  · intro other other_mem
    rw [others, mirrors.blob other other_mem]
    rintro front front_ne front_leads rfl
    have same := separate.apart other other_mem path path_mem
      (prefix_segments_iff.2 (.inr front_leads))
    exact not_segments_prefix_folders path (same ▸ front_leads)
  · intro names content found
    exact mirrors.file names content ((file_iff names content).1 found)
  · intro names content found front front_ne front_leads front_ne_names
    have folder := mirrors.way names content ((file_iff names content).1 found) front front_ne
      front_leads front_ne_names
    by_cases made : front <+: (plainPath path).folders
    · exact folders front front_ne made
    · rw [others front fun other _ other_leads front_eq => made (front_eq ▸ other_leads), folder]

private theorem put (mirrors : Mirrors paths directory blobs) (separate : Separate paths)
    {path : String} (path_mem : path ∈ paths) (content : Bytes) :
    ∃ after, Directory.put path content directory = (.ok (), after) ∧
      Mirrors paths after (blobs.insert path content) := by
  obtain ⟨parents, made_eq, root_exists, folders, middle⟩ := mirrors.makeParents separate path_mem
  have written : parents.writeFile path (plainPath path) content =
      .ok { parents with entries := parents.entries.insert (segments path) (.file content) } := by
    rw [Directory.writeFile, if_neg (by simp), middle.find_eq separate path_mem]
    cases blobs.find? path <;> simp
  refine ⟨_, ?_, middle.insert path_mem root_exists folders content⟩
  rw [Directory.put, (separate.plain path path_mem).ofString?_eq]
  dsimp only
  rw [made_eq]
  dsimp only
  rw [written]

/-- Every call is answered alike, and the directory goes on holding the blobs of the memory. -/
theorem answer (mirrors : Mirrors paths directory blobs) (separate : Separate paths)
    {call : StoreCall} (path_mem : call.path ∈ paths) :
    (Directory.store.answer call directory).1 = (Memory.store.answer call blobs).1 ∧
      Mirrors paths (Directory.store.answer call directory).2
        (Memory.store.answer call blobs).2 := by
  cases call with
  | get path =>
      have read : Directory.store.get path directory = ((Memory.get path blobs).1, directory) :=
        mirrors.get separate path_mem
      have memory_eq : (Memory.get path blobs).2 = blobs := by
        rw [Memory.get]
        split <;> rfl
      rw [Store.answer_get, Store.answer_get, read]
      exact ⟨rfl, memory_eq.symm ▸ mirrors⟩
  | put path content =>
      obtain ⟨after, written, mirrors⟩ := mirrors.put separate path_mem content
      have written : Directory.store.put path content directory = (.ok (), after) := written
      rw [Store.answer_put, Store.answer_put, written]
      exact ⟨rfl, mirrors⟩
  | delete path =>
      obtain ⟨after, removed, mirrors⟩ := mirrors.delete separate path_mem
      have removed : Directory.store.delete path directory = (.ok (), after) := removed
      rw [Store.answer_delete, Store.answer_delete, removed]
      exact ⟨rfl, mirrors⟩

/-! ### Many calls -/

theorem answers (mirrors : Mirrors paths directory blobs) (separate : Separate paths)
    {calls : List StoreCall} (path_mem : ∀ call ∈ calls, call.path ∈ paths) :
    (Directory.store.answers calls directory).1 = (Memory.store.answers calls blobs).1 ∧
      Mirrors paths (Directory.store.answers calls directory).2
        (Memory.store.answers calls blobs).2 := by
  induction calls generalizing directory blobs with
  | nil => exact ⟨rfl, mirrors⟩
  | cons call calls ih =>
      obtain ⟨answer_eq, next⟩ := mirrors.answer separate (path_mem call List.mem_cons_self)
      obtain ⟨answers_eq, last⟩ := ih next fun call member =>
        path_mem call (List.mem_cons_of_mem _ member)
      rw [Store.answers_cons, Store.answers_cons]
      exact ⟨congrArg₂ List.cons answer_eq answers_eq, last⟩

/-- The files of a directory are the blobs of the memory that it mirrors. -/
theorem files_perm (mirrors : Mirrors paths directory blobs) :
    directory.files.Perm blobs.entries := by
  have blobs_nodup : blobs.entries.Nodup := List.Nodup.of_map _ blobs.keys_nodup
  have files_nodup : directory.files.Nodup := by
    rw [Directory.files_eq]
    refine List.pairwise_filterMap.2 (directory.entries.ascending.imp_of_mem ?_)
    rintro ⟨first, _⟩ ⟨second, _⟩ first_mem second_mem lt ⟨_, _⟩ first_file _ second_file rfl
    obtain ⟨rfl, first_eq⟩ := Directory.fileOf?_eq_some_iff.1 first_file
    obtain ⟨rfl, second_eq⟩ := Directory.fileOf?_eq_some_iff.1 second_file
    obtain ⟨path, -, rfl⟩ := mirrors.file _ _ (Table.mem_entries_iff.1 first_mem)
    obtain ⟨other, -, rfl⟩ := mirrors.file _ _ (Table.mem_entries_iff.1 second_mem)
    rw [intercalate_segments] at first_eq second_eq
    exact Table.ne_of_compare_lt lt (by rw [first_eq, second_eq])
  refine (List.perm_ext_iff_of_nodup files_nodup blobs_nodup).2 fun (path, content) => ?_
  rw [Table.mem_entries_iff, Directory.files_eq, List.mem_filterMap]
  constructor
  · rintro ⟨⟨names, entry⟩, member, file⟩
    obtain ⟨rfl, path_eq⟩ := Directory.fileOf?_eq_some_iff.1 file
    have found := Table.mem_entries_iff.1 member
    obtain ⟨other, other_mem, rfl⟩ := mirrors.file _ _ found
    obtain rfl := (intercalate_segments other).symm.trans path_eq
    simpa [mirrors.blob other other_mem] using found
  · intro found
    have path_mem := mirrors.stored path (Table.mem_keys_iff.2 ⟨content, found⟩)
    refine ⟨(segments path, .file content), Table.mem_entries_iff.2 ?_,
      Directory.fileOf?_eq_some_iff.2 ⟨rfl, intercalate_segments path⟩⟩
    rw [mirrors.blob path path_mem, found]
    rfl

end Mirrors

/-- A directory in which nothing stands yet and an empty memory answer all calls with plain and
separate paths alike, and end with the same blobs. -/
theorem directory_answers_as_memory (exists? : Bool) (calls : List StoreCall)
    (separate : Separate (calls.map StoreCall.path)) :
    (Directory.store.answers calls ⟨exists?, .empty⟩).1 =
        (Memory.store.answers calls .empty).1 ∧
      (Directory.store.answers calls ⟨exists?, .empty⟩).2.files.Perm
        (Memory.store.answers calls .empty).2.entries := by
  obtain ⟨answers_eq, mirrors⟩ := (mirrors_empty _ exists?).answers separate fun _ member =>
    List.mem_map_of_mem member
  exact ⟨answers_eq, mirrors.files_perm⟩

/-- A folder outlives its file and is used again, for another file and for the same. -/
theorem directory_answers_as_memory_nested :
    (Directory.store.answers
        [.put "a/b" [1], .delete "a/b", .get "a/b", .put "a/c" [2], .put "a/b" [3], .get "a/b"]
        .fresh).1 =
      [.ok none, .ok none, .error (.notFound "a/b"), .ok none, .ok none, .ok (some [3])] :=
  (directory_answers_as_memory false
    [.put "a/b" [1], .delete "a/b", .get "a/b", .put "a/c" [2], .put "a/b" [3], .get "a/b"]
    (by decide +kernel)).1.trans (by decide +kernel)

end Workflow
