import Workflow.Proofs.Storage.Interchange

/-!
# Paths without a blob

Under a path at which nothing was ever written there is no file, but something else may be in the
way: a file where the path needs a folder, or a folder at its end.  The directory is followed from
an empty root through any calls: `Built` says that all its files were written and that its folders
were made on the way to something.  `unwritten_answers` then tells what is answered for such a path,
and from which calls it follows that the blob is simply missing.
-/

namespace Workflow

/-! ### What calls write -/

/-- The names under which a call has written, if it did. -/
def StoreCall.written? : StoreCall × Except StorageError (Option Bytes) → Option (List String)
  | (.put text _, .ok _) => (BlobPath.ofString? text).map BlobPath.names
  | _ => none

/-- The names under which a call is to write, if it is. -/
def StoreCall.target? : StoreCall → Option (List String)
  | .put text _ => (BlobPath.ofString? text).map BlobPath.names
  | _ => none

/-- The names under which calls have written. -/
def StoreCall.written (calls : List StoreCall)
    (answers : List (Except StorageError (Option Bytes))) : List (List String) :=
  (calls.zip answers).filterMap written?

/-- The names under which calls are to write. -/
def StoreCall.targets (calls : List StoreCall) : List (List String) :=
  calls.filterMap target?

theorem StoreCall.written_cons (call : StoreCall) (calls : List StoreCall)
    (answer : Except StorageError (Option Bytes))
    (answers : List (Except StorageError (Option Bytes))) :
    written (call :: calls) (answer :: answers) =
      (written? (call, answer)).toList ++ written calls answers := by
  simp only [written, List.filterMap_eq_flatMap_toList, List.zip_cons_cons, List.flatMap_cons]

theorem StoreCall.targets_cons (call : StoreCall) (calls : List StoreCall) :
    targets (call :: calls) = call.target?.toList ++ targets calls := by
  simp only [targets, List.filterMap_eq_flatMap_toList, List.flatMap_cons]

namespace Directory

/-! ### Following names -/

section Follow

variable {directory : Directory} {folder front rest : List String}

private theorem follow_append (short : ∀ name ∈ front, isTooLong name = false)
    (open_way : ∀ way, way ≠ [] → way <+: front →
      directory.entries.find? (folder ++ way) = some .folder) :
    directory.follow folder (front ++ rest) = directory.follow (folder ++ front) rest := by
  induction front generalizing folder with
  | nil => rw [List.nil_append, List.append_nil]
  | cons name front ih =>
      have first : directory.entries.find? (folder ++ [name]) = some .folder :=
        open_way [name] (by simp) (by simp)
      rw [List.cons_append, follow, if_neg (by simp [short name List.mem_cons_self]), first]
      dsimp only
      rw [ih (fun name member => short name (List.mem_cons_of_mem _ member))]
      · rw [List.append_assoc, List.singleton_append]
      · intro way way_ne leads
        have := open_way (name :: way) (by simp) (by simpa using leads)
        simpa using this

/-- The first name leads to nothing, to a file if it is the last one, or to a folder in which the
others are followed. -/
theorem follow_cons_cases {name : String} {found : Found}
    (followed : directory.follow folder (name :: rest) = found)
    (looked : ∀ cause, found ≠ .refused cause) :
    directory.entries.find? (folder ++ [name]) = none ∧ found = .missing ∨
      (∃ content, directory.entries.find? (folder ++ [name]) = some (.file content) ∧ rest = [] ∧
        found = .entry (.file content)) ∨
      directory.entries.find? (folder ++ [name]) = some .folder ∧
        directory.follow (folder ++ [name]) rest = found := by
  rw [follow] at followed
  by_cases too_long : isTooLong name
  · rw [if_pos too_long] at followed
    exact absurd followed.symm (looked _)
  rw [if_neg too_long] at followed
  cases first : directory.entries.find? (folder ++ [name]) with
  | none =>
      rw [first] at followed
      exact .inl ⟨rfl, followed.symm⟩
  | some entry =>
      rw [first] at followed
      cases entry with
      | folder => exact .inr (.inr ⟨rfl, followed⟩)
      | file content =>
          dsimp only at followed
          split_ifs at followed with last
          · exact .inr (.inl ⟨content, rfl, List.isEmpty_iff.1 last, followed.symm⟩)
          · exact absurd followed.symm (looked _)

private theorem find?_of_follow_eq_file {content : Bytes}
    (followed : directory.follow folder rest = .entry (.file content)) :
    directory.entries.find? (folder ++ rest) = some (.file content) := by
  induction rest generalizing folder with
  | nil => cases followed
  | cons name rest ih =>
      rcases follow_cons_cases followed (by simp) with
        ⟨-, found_eq⟩ | ⟨other, first, rfl, found_eq⟩ | ⟨-, later⟩
      · cases found_eq
      · rw [first, Found.entry.inj found_eq]
      · simpa using ih later

private theorem exists_vacant_of_follow (followed : directory.follow folder rest = .missing) :
    ∃ front, front ≠ [] ∧ front <+: rest ∧ directory.entries.find? (folder ++ front) = none := by
  induction rest generalizing folder with
  | nil => cases followed
  | cons name rest ih =>
      rcases follow_cons_cases followed (by simp) with
        ⟨vacant, -⟩ | ⟨other, -, -, found_eq⟩ | ⟨-, later⟩
      · exact ⟨[name], by simp, by simp, vacant⟩
      · cases found_eq
      · obtain ⟨front, -, leads, vacant⟩ := ih later
        exact ⟨name :: front, by simp, by simpa using leads, by simpa using vacant⟩

/-- What is found at a path is what its names lead to, unless the root does not exist. -/
theorem follow_of_find {text : String} {path : BlobPath} {found : Found}
    (find_eq : directory.find text path = found) (looked : ∀ cause, found ≠ .refused cause) :
    directory.follow [] path.names = found ∨ directory.exists? = false ∧ found = .missing := by
  unfold find at find_eq
  split at find_eq
  · exact absurd find_eq.symm (looked _)
  split at find_eq
  · exact absurd find_eq.symm (looked _)
  split at find_eq
  · rename_i missing
    exact .inr ⟨by simpa using missing, find_eq.symm⟩
  split at find_eq
  · rename_i followed
    split at find_eq
    · exact .inl (followed.trans find_eq)
    · exact absurd find_eq.symm (looked _)
  · exact .inl find_eq

end Follow

/-! ### Directories that calls have built -/

/-- A place below which there can be entries: the root or a folder. -/
def IsOpen (directory : Directory) (folder : List String) : Prop :=
  folder = [] ∨ directory.entries.find? folder = some .folder

/-- A tree whose files have been written, and whose folders lead to what was to be written. -/
structure Built (written targets : List (List String)) (directory : Directory) : Prop where
  /-- There is nothing below a root that does not exist. -/
  root : directory.exists? = false → ∀ names, directory.entries.find? names = none
  /-- The root itself is no entry. -/
  top : directory.entries.find? [] = none
  /-- Whatever is there is in a folder that is there. -/
  above : ∀ folder name entry, directory.entries.find? (folder ++ [name]) = some entry →
    directory.IsOpen folder
  /-- Files were written. -/
  file : ∀ names content, directory.entries.find? names = some (.file content) → names ∈ written
  /-- Folders are on the way to something that was to be written. -/
  folder : ∀ names, directory.entries.find? names = some .folder →
    ∃ target ∈ targets, names <+: target ∧ names ≠ target

theorem built_fresh : Built [] [] fresh :=
  ⟨fun _ _ => rfl, rfl, nofun, nofun, nofun⟩

namespace Built

variable {written targets : List (List String)} {directory : Directory}

theorem mono (built : Built written targets directory)
    {moreWritten moreTargets : List (List String)} (written_subset : written ⊆ moreWritten)
    (targets_subset : targets ⊆ moreTargets) :
    Built moreWritten moreTargets directory :=
  ⟨built.root, built.top, built.above,
    fun names content found => written_subset (built.file names content found),
    fun names found => by
      obtain ⟨target, target_mem, leads⟩ := built.folder names found
      exact ⟨target, targets_subset target_mem, leads⟩⟩

/-- All the way to an entry there are folders. -/
theorem way (built : Built written targets directory) {names front : List String}
    {entry : DirectoryEntry} (found : directory.entries.find? names = some entry)
    (front_ne : front ≠ []) (leads : front <+: names) (proper : front ≠ names) :
    directory.entries.find? front = some .folder := by
  obtain ⟨later, rfl⟩ := leads
  -- From the entry upwards, one folder at a time.
  induction later using List.reverseRecOn generalizing entry with
  | nil => exact absurd (List.append_nil front).symm proper
  | append_singleton later name ih =>
      rw [← List.append_assoc] at found
      by_cases later_eq : later = []
      · subst later_eq
        rw [List.append_nil] at found
        exact (built.above front name entry found).resolve_left front_ne
      · have is_open := built.above (front ++ later) name entry found
        exact ih (is_open.resolve_left (by simp [front_ne])) (by simpa using later_eq)

private theorem exists_of_found (built : Built written targets directory) {names : List String}
    {entry : DirectoryEntry} (found : directory.entries.find? names = some entry) :
    directory.exists? = true := by
  cases exists_eq : directory.exists? with
  | true => rfl
  | false => exact nomatch (built.root exists_eq names).symm.trans found

/-! ### One change -/

/-- An entry may be added to a folder, but nothing may take the place of a folder. -/
theorem insert (built : Built written targets directory) {folder : List String} {name : String}
    {entry : DirectoryEntry} (exists_eq : directory.exists? = true)
    (is_open : directory.IsOpen folder)
    (kept : directory.entries.find? (folder ++ [name]) = some .folder → entry = .folder)
    (file : ∀ content, entry = .file content → folder ++ [name] ∈ written)
    (leads : entry = .folder → ∃ target ∈ targets, folder ++ [name] <+: target ∧
      folder ++ [name] ≠ target) :
    Built written targets
      { directory with entries := directory.entries.insert (folder ++ [name]) entry } where
  root missing := absurd missing (by simp [exists_eq])
  top := by
    rw [Table.find?_insert, if_neg (by simp)]
    exact built.top
  above other last found other_found := by
    have was_open : directory.IsOpen other := by
      rw [Table.find?_insert] at other_found
      split_ifs at other_found with same
      · obtain ⟨rfl, -⟩ := List.append_inj' same rfl
        exact is_open
      · exact built.above other last found other_found
    rcases was_open with other_eq | is_folder
    · exact .inl other_eq
    · refine .inr ?_
      rw [Table.find?_insert]
      split_ifs with same
      · rw [kept (same ▸ is_folder)]
      · exact is_folder
  file names content found := by
    rw [Table.find?_insert] at found
    split_ifs at found with same
    · rw [same]
      exact file content (Option.some.inj found)
    · exact built.file names content found
  folder names found := by
    rw [Table.find?_insert] at found
    split_ifs at found with same
    · rw [same]
      exact leads (Option.some.inj found)
    · exact built.folder names found

private theorem erase (built : Built written targets directory) {names : List String}
    {content : Bytes} (found : directory.entries.find? names = some (.file content)) :
    Built written targets { directory with entries := directory.entries.erase names } where
  root missing := absurd missing (by simp [built.exists_of_found found])
  top := by rw [Table.find?_erase, built.top, ite_self]
  above other last entry other_found := by
    rw [Table.find?_erase] at other_found
    split_ifs at other_found
    rcases built.above other last entry other_found with other_eq | is_folder
    · exact .inl other_eq
    · refine .inr ?_
      rw [Table.find?_erase, if_neg, is_folder]
      rintro rfl
      exact nomatch is_folder.symm.trans found
  file other otherContent other_found := by
    rw [Table.find?_erase] at other_found
    split_ifs at other_found
    exact built.file other otherContent other_found
  folder other other_found := by
    rw [Table.find?_erase] at other_found
    split_ifs at other_found
    exact built.folder other other_found

private theorem makeFolders (built : Built written targets directory) {folder rest : List String}
    (exists_eq : directory.exists? = true) (is_open : directory.IsOpen folder)
    (leads : ∀ front, front ≠ [] → front <+: rest → ∃ target ∈ targets,
      folder ++ front <+: target ∧ folder ++ front ≠ target) :
    Built written targets (directory.makeFolders folder rest).1 ∧
      (directory.makeFolders folder rest).1.exists? = true ∧
      ((directory.makeFolders folder rest).2 = none →
        (directory.makeFolders folder rest).1.IsOpen (folder ++ rest)) := by
  induction rest generalizing directory folder with
  | nil => exact ⟨built, exists_eq, fun _ => (List.append_nil folder).symm ▸ is_open⟩
  | cons name rest ih =>
      have later_leads : ∀ front, front ≠ [] → front <+: rest → ∃ target ∈ targets,
          folder ++ [name] ++ front <+: target ∧ folder ++ [name] ++ front ≠ target := by
        intro front _ front_leads
        simpa using leads (name :: front) (by simp) (by simpa using front_leads)
      rw [Directory.makeFolders]
      by_cases too_long : isTooLong name
      · rw [if_pos too_long]
        exact ⟨built, exists_eq, by simp⟩
      rw [if_neg too_long]
      cases first : directory.entries.find? (folder ++ [name]) with
      | none =>
          have grown : Built written targets
              { directory with entries := directory.entries.insert (folder ++ [name]) .folder } :=
            built.insert exists_eq is_open (fun _ => rfl) (by simp) fun _ =>
              leads [name] (by simp) (by simp)
          have made := ih grown exists_eq (.inr (by rw [Table.find?_insert, if_pos rfl]))
            later_leads
          simpa using made
      | some entry =>
          cases entry with
          | file content => exact ⟨built, exists_eq, by simp⟩
          | folder => simpa using ih built exists_eq (.inr first) later_leads

/-! ### One call -/

private theorem find?_of_find_eq_file {text : String} {path : BlobPath} {content : Bytes}
    (found : directory.find text path = .entry (.file content)) :
    directory.entries.find? path.names = some (.file content) := by
  rcases follow_of_find found nofun with followed | ⟨-, found_eq⟩
  · exact @find?_of_follow_eq_file directory [] path.names content followed
  · exact nomatch found_eq

private theorem find?_of_find_eq_missing (built : Built written targets directory) {text : String}
    {path : BlobPath} (found : directory.find text path = .missing) :
    directory.entries.find? path.names = none := by
  rcases follow_of_find found nofun with followed | ⟨missing, -⟩
  · obtain ⟨front, front_ne, leads, vacant⟩ := exists_vacant_of_follow followed
    rw [List.nil_append] at vacant
    by_contra occupied
    obtain ⟨entry, entry_eq⟩ := Option.ne_none_iff_exists'.1 occupied
    by_cases proper : front = path.names
    · exact occupied (proper ▸ vacant)
    · exact nomatch vacant.symm.trans (built.way entry_eq front_ne leads proper)
  · exact built.root missing path.names

private theorem names_of_prefix_folders {path : BlobPath} {front : List String}
    (leads : front <+: path.folders) : front <+: path.names ∧ front ≠ path.names := by
  refine ⟨leads.trans (List.prefix_append _ _), ?_⟩
  rintro rfl
  have length_le := leads.length_le
  rw [BlobPath.names, List.length_append, List.length_singleton] at length_le
  omega

private theorem makeParents (built : Built written targets directory) {path : BlobPath}
    (target_mem : path.names ∈ targets) :
    Built written targets (directory.makeParents path).1 ∧
      ((directory.makeParents path).2 = none →
        (directory.makeParents path).1.exists? = true ∧
          (directory.makeParents path).1.IsOpen path.folders) := by
  have rooted : Built written targets { directory with exists? := true } :=
    ⟨nofun, built.top, built.above, built.file, built.folder⟩
  unfold Directory.makeParents
  dsimp only
  split_ifs
  · exact ⟨built, nofun⟩
  · exact ⟨built, nofun⟩
  · obtain ⟨made, exists_eq, is_open⟩ := rooted.makeFolders rfl (.inl rfl)
      fun front _ leads => ⟨path.names, target_mem, names_of_prefix_folders leads⟩
    exact ⟨made, fun done => ⟨exists_eq, is_open done⟩⟩

private theorem writeFile (built : Built written targets directory) {text : String}
    {path : BlobPath} {content : Bytes} {after : Directory} (exists_eq : directory.exists? = true)
    (is_open : directory.IsOpen path.folders)
    (write_eq : directory.writeFile text path content = .ok after)
    (written_mem : path.names ∈ written) : Built written targets after := by
  have inserted (no_folder : directory.entries.find? path.names ≠ some .folder) :
      Built written targets
        { directory with entries := directory.entries.insert path.names (.file content) } :=
    built.insert exists_eq is_open (fun is_folder => absurd is_folder no_folder)
      (fun _ _ => written_mem) nofun
  unfold Directory.writeFile at write_eq
  split at write_eq
  · cases write_eq
  split at write_eq
  · cases write_eq
  · cases write_eq
  · rename_i found
    obtain rfl := Except.ok.inj write_eq
    exact inserted (by rw [find?_of_find_eq_file found]; simp)
  · rename_i found
    split at write_eq
    · obtain rfl := Except.ok.inj write_eq
      exact inserted (by rw [built.find?_of_find_eq_missing found]; simp)
    · cases write_eq

private theorem put (built : Built written targets directory) {text : String} {content : Bytes}
    {path : BlobPath} (accepted : BlobPath.ofString? text = some path)
    (target_mem : path.names ∈ targets)
    (written_mem : (Directory.put text content directory).1 = .ok () → path.names ∈ written) :
    Built written targets (Directory.put text content directory).2 := by
  obtain ⟨parents, open_parents⟩ := built.makeParents target_mem
  unfold Directory.put at written_mem ⊢
  rw [accepted] at written_mem ⊢
  dsimp only at written_mem ⊢
  rcases made_eq : directory.makeParents path with ⟨middle, _ | cause⟩
  · rw [made_eq] at written_mem parents open_parents
    dsimp only at written_mem parents open_parents ⊢
    cases write_eq : middle.writeFile text path content with
    | error failure => exact parents
    | ok after =>
        rw [write_eq] at written_mem
        obtain ⟨exists_eq, is_open⟩ := open_parents rfl
        exact parents.writeFile exists_eq is_open write_eq (written_mem rfl)
  · rw [made_eq] at parents
    exact parents

private theorem delete (built : Built written targets directory) (text : String) :
    Built written targets (Directory.delete text directory).2 := by
  unfold Directory.delete
  split
  · exact built
  · split
    · exact built
    · exact built
    · exact built
    · rename_i found
      exact built.erase (find?_of_find_eq_file found)

private theorem answer (built : Built written targets directory) (call : StoreCall) :
    Built
      (written ++ (StoreCall.written? (call, (store.answer call directory).1)).toList)
      (targets ++ call.target?.toList) (store.answer call directory).2 := by
  cases call with
  | get text =>
      have get_eq : (Directory.get text directory).2 = directory := by
        unfold Directory.get
        split
        · rfl
        · split <;> rfl
      exact (get_eq.symm ▸ built : Built written targets (Directory.get text directory).2).mono
        (List.subset_append_left _ _) (List.subset_append_left _ _)
  | delete text =>
      exact (built.delete text).mono (List.subset_append_left _ _) (List.subset_append_left _ _)
  | put text content =>
      have grown : Built
          (written ++ (StoreCall.written?
            (.put text content, (store.answer (.put text content) directory).1)).toList)
          (targets ++ (StoreCall.put text content).target?.toList) directory :=
        built.mono (List.subset_append_left _ _) (List.subset_append_left _ _)
      cases accepted : BlobPath.ofString? text with
      | none =>
          have put_eq : (Directory.put text content directory).2 = directory := by
            unfold Directory.put
            rw [accepted]
          exact put_eq.symm ▸ grown
      | some path =>
          refine grown.put accepted ?_ fun done => ?_
          · simp [StoreCall.target?, accepted]
          · have answer_eq : (store.answer (.put text content) directory).1 = .ok none := by
              rw [Store.answer_put]
              exact congrArg (Except.map fun _ => none) done
            simp [answer_eq, StoreCall.written?, accepted]

/-- Calls add what they write, and the way there. -/
theorem answers (built : Built written targets directory) (calls : List StoreCall) :
    Built (written ++ StoreCall.written calls (store.answers calls directory).1)
      (targets ++ StoreCall.targets calls) (store.answers calls directory).2 := by
  induction calls generalizing directory written targets with
  | nil => exact (List.append_nil _).symm ▸ (List.append_nil _).symm ▸ built
  | cons call calls ih =>
      have rest := ih (built.answer call)
      rw [List.append_assoc, List.append_assoc] at rest
      rw [Store.answers_cons, StoreCall.written_cons, StoreCall.targets_cons]
      exact rest

end Built

/-! ### Nothing was written -/

/-- A text that leads to a path which the file system admits. -/
structure Admitted (text : String) (path : BlobPath) : Prop where
  /-- The path is accepted. -/
  accepted : BlobPath.ofString? text = some path
  /-- There is no NUL character. -/
  no_nul : hasNul text = false
  /-- The whole path is not too long. -/
  fits : text.utf8ByteSize < pathLimit
  /-- No name is too long. -/
  short : ∀ name ∈ path.names, isTooLong name = false

private theorem admitted_iff {text : String} {path : BlobPath} :
    Admitted text path ↔ BlobPath.ofString? text = some path ∧ hasNul text = false ∧
      text.utf8ByteSize < pathLimit ∧ ∀ name ∈ path.names, isTooLong name = false :=
  ⟨fun ⟨accepted, no_nul, fits, short⟩ => ⟨accepted, no_nul, fits, short⟩,
    fun ⟨accepted, no_nul, fits, short⟩ => ⟨accepted, no_nul, fits, short⟩⟩

instance (text : String) (path : BlobPath) : Decidable (Admitted text path) :=
  decidable_of_iff _ admitted_iff.symm

/-- A file stands where names need a folder. -/
def Blocked (directory : Directory) (names : List String) : Prop :=
  ∃ front content, front <+: names ∧ front ≠ names ∧
    directory.entries.find? front = some (.file content)

section Unwritten

variable {written targets : List (List String)} {directory : Directory} {text : String}
  {path : BlobPath}

theorem find_eq_follow (admitted : Admitted text path) (exists_eq : directory.exists? = true)
    (unread : ∀ content, directory.follow [] path.names ≠ .entry (.file content)) :
    directory.find text path = directory.follow [] path.names := by
  rw [find, if_neg (by simp [admitted.no_nul]), if_neg (by simpa using admitted.fits),
    if_neg (by simp [exists_eq])]
  split
  · rename_i followed
    exact absurd followed (unread _)
  · rfl

private theorem find_of_blocked (built : Built written targets directory)
    (admitted : Admitted text path) (blocked : directory.Blocked path.names) :
    directory.find text path = .refused .notFolder := by
  obtain ⟨front, content, ⟨later, names_eq⟩, proper, found⟩ := blocked
  have later_ne : later ≠ [] := by
    rintro rfl
    exact proper (by rw [← names_eq, List.append_nil])
  have front_ne : front ≠ [] := by
    rintro rfl
    simp [built.top] at found
  obtain ⟨before, name, rfl⟩ : ∃ before name, front = before ++ [name] :=
    ⟨_, _, (List.dropLast_append_getLast front_ne).symm⟩
  have short := admitted.short
  rw [← names_eq] at short
  have followed : directory.follow [] path.names = .refused .notFolder := by
    rw [← names_eq, List.append_assoc, follow_append, List.nil_append, List.singleton_append,
      follow, if_neg (by simp [short name (by simp)]), found]
    · dsimp only
      rw [if_neg (by simpa using later_ne)]
    · exact fun name member => short name (by simp [member])
    · intro way way_ne leads
      refine built.way found way_ne (leads.trans (List.prefix_append _ _)) ?_
      rintro rfl
      exact absurd leads.length_le (by simp)
  rw [find_eq_follow admitted (built.exists_of_found found) (by simp [followed]), followed]

private theorem find_of_folder (built : Built written targets directory)
    (admitted : Admitted text path) (found : directory.entries.find? path.names = some .folder) :
    directory.find text path = .entry .folder := by
  have followed : directory.follow [] path.names = .entry .folder := by
    rw [← List.append_nil path.names, follow_append admitted.short]
    · rfl
    · intro way way_ne leads
      by_cases proper : way = path.names
      · rw [proper]
        exact found
      · exact built.way found way_ne leads proper
  rw [find_eq_follow admitted (built.exists_of_found found) (by simp [followed]), followed]

private theorem find_of_clear (admitted : Admitted text path)
    (clear : ¬directory.Blocked path.names) (vacant : directory.entries.find? path.names = none) :
    directory.find text path = .missing := by
  cases exists_eq : directory.exists? with
  | false =>
      rw [find, if_neg (by simp [admitted.no_nul]), if_neg (by simpa using admitted.fits),
        if_pos (by simp [exists_eq])]
  | true =>
      have followed : directory.follow [] path.names = .missing := by
        refine follow_eq_missing admitted.short (by simp [BlobPath.names])
          (fun front content leads found => ?_) vacant
        rw [List.nil_append] at found
        refine clear ⟨front, content, leads, ?_, found⟩
        rintro rfl
        simp [vacant] at found
      rw [find_eq_follow admitted exists_eq (by simp [followed]), followed]

/-- Without a file where the way or the end of a path would be, and without a folder at its end, the
path has no blob, which is no reason not to delete it. -/
theorem get_and_delete_of_clear (admitted : Admitted text path)
    (clear : ¬directory.Blocked path.names)
    (vacant : directory.entries.find? path.names = none) :
    store.get text directory = (.error (.notFound text), directory) ∧
      store.delete text directory = (.ok (), directory) := by
  have missing := find_of_clear admitted clear vacant
  simp only [store, get, delete, admitted.accepted, missing, and_self]

end Unwritten

/-- From an empty root, after any calls, a path under which none of them has written anything is
answered in one of three ways: as no folder if a file is on the way, as a folder if there is one at
its end, and otherwise as missing when it is fetched and with success when it is deleted.  This last
holds whenever no call has written to a part of the path or was to write to something below it. -/
theorem unwritten_answers (calls : List StoreCall) {text : String} {path : BlobPath}
    (admitted : Admitted text path) {answers : List (Except StorageError (Option Bytes))}
    {directory : Directory} (run : store.answers calls fresh = (answers, directory))
    (unwritten : path.names ∉ StoreCall.written calls answers) :
    (directory.Blocked path.names →
      store.get text directory = (.error (.io text .notFolder), directory) ∧
        store.delete text directory = (.error (.io text .notFolder), directory)) ∧
    (directory.entries.find? path.names = some .folder →
      store.get text directory = (.error (.io text .isFolder), directory) ∧
        store.delete text directory = (.error (.io text .isFolder), directory)) ∧
    (¬directory.Blocked path.names → directory.entries.find? path.names ≠ some .folder →
      store.get text directory = (.error (.notFound text), directory) ∧
        store.delete text directory = (.ok (), directory)) ∧
    ((∀ names ∈ StoreCall.written calls answers, ¬names <+: path.names) →
      (∀ names ∈ StoreCall.targets calls, path.names <+: names → path.names = names) →
      store.get text directory = (.error (.notFound text), directory) ∧
        store.delete text directory = (.ok (), directory)) := by
  have built : Built (StoreCall.written calls answers) (StoreCall.targets calls) directory := by
    have built := built_fresh.answers calls
    rwa [run] at built
  have vacant (no_folder : directory.entries.find? path.names ≠ some .folder) :
      directory.entries.find? path.names = none := by
    cases found : directory.entries.find? path.names with
    | none => rfl
    | some entry =>
        cases entry with
        | file content => exact absurd (built.file _ content found) unwritten
        | folder => exact absurd found no_folder
  refine ⟨fun blocked => ?_, fun is_folder => ?_, fun clear no_folder => ?_,
    fun unwritten_way untargeted => ?_⟩
  · have refused := find_of_blocked built admitted blocked
    simp only [store, get, delete, admitted.accepted, refused, and_self]
  · have found := find_of_folder built admitted is_folder
    simp only [store, get, delete, admitted.accepted, found, and_self]
  · exact get_and_delete_of_clear admitted clear (vacant no_folder)
  · refine get_and_delete_of_clear admitted ?_ (vacant fun is_folder => ?_)
    · rintro ⟨front, content, leads, -, found⟩
      exact unwritten_way front (built.file front content found) leads
    · obtain ⟨target, target_mem, leads, proper⟩ := built.folder _ is_folder
      exact proper (untargeted target target_mem leads)

/-- Around a blob, nothing was written below it, at its folder, or beside it. -/
theorem unwritten_answers_around :
    let directory := (store.answers [.put "a/b" [1], .delete "a/d"] fresh).2
    (store.get "a/b/c" directory).1 = .error (.io "a/b/c" .notFolder) ∧
      (store.delete "a" directory).1 = .error (.io "a" .isFolder) ∧
      (store.get "a/c" directory).1 = .error (.notFound "a/c") ∧
      (store.delete "a/c" directory).1 = .ok () := by
  have below : Admitted "a/b/c" ⟨["a", "b"], "c", .plain⟩ := by decide +kernel
  have folder : Admitted "a" ⟨[], "a", .plain⟩ := by decide +kernel
  have beside : Admitted "a/c" ⟨["a"], "c", .plain⟩ := by decide +kernel
  obtain ⟨blocked, -⟩ :=
    unwritten_answers [.put "a/b" [1], .delete "a/d"] below rfl (by decide +kernel)
  obtain ⟨-, is_folder, -⟩ :=
    unwritten_answers [.put "a/b" [1], .delete "a/d"] folder rfl (by decide +kernel)
  obtain ⟨-, -, -, missing⟩ :=
    unwritten_answers [.put "a/b" [1], .delete "a/d"] beside rfl (by decide +kernel)
  obtain ⟨fetched, deleted⟩ := missing (by decide +kernel) (by decide +kernel)
  exact ⟨congrArg Prod.fst (blocked ⟨["a", "b"], [1], by decide, by decide, by decide +kernel⟩).1,
    congrArg Prod.fst (is_folder (by decide +kernel)).2, congrArg Prod.fst fetched,
    congrArg Prod.fst deleted⟩

/-- Below a blob nothing was ever written, and yet fetching and deleting there fail with an error of
the file system. -/
theorem answers_below_file :
    Admitted "a/b" ⟨["a"], "b", .plain⟩ ∧
      ["a", "b"] ∉ StoreCall.written [.put "a" [1]] (store.answers [.put "a" [1]] fresh).1 ∧
      (store.answers [.put "a" [1], .get "a/b", .delete "a/b"] fresh).1 =
        [.ok none, .error (.io "a/b" .notFolder), .error (.io "a/b" .notFolder)] := by
  decide +kernel

end Directory
end Workflow
