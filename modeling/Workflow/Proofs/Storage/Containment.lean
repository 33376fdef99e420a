import Workflow.Proofs.Storage.PlainPath

/-!
# Paths stay below the root

A path is accepted if it is made of names alone, however many slashes and dots stand between them.
Appended to any root, it leads from the root down its names and nowhere else, and what is done there
changes nothing that is not on the way.  With any other path nothing is done.
-/

namespace Workflow

/-! ### The components of a path -/

/-- What a path is made of. -/
inductive PathComponent
  /-- The root of the file system. -/
  | root
  /-- The folder in which the path begins. -/
  | current
  /-- The folder above. -/
  | parent
  /-- A file or a folder. -/
  | name (text : String)
  deriving DecidableEq

namespace PathComponent

/-- The component is a name. -/
def IsName : PathComponent → Prop
  | name _ => True
  | root | current | parent => False

/-- The component that a segment stands for; empty segments and dots stand for none. -/
def ofSegment? (segment : String) : Option PathComponent :=
  if segment = ".." then some .parent
  else if BlobPath.isName segment then some (.name segment)
  else none

/-- The component that the first segment stands for, before some others: a dot is the folder in
which the path begins, and with nothing before the first slash it begins at the root. -/
def ofFirst? (first : String) (rest : List String) : Option PathComponent :=
  if first = "" then if rest = [] then none else some .root
  else if first = "." then some .current
  else ofSegment? first

private theorem isName_of_ofSegment? {segment : String} (level : segment ≠ "..")
    {component : PathComponent} (stands : ofSegment? segment = some component) :
    component.IsName := by
  rw [ofSegment?, if_neg level] at stands
  split at stands
  · rw [← Option.some.inj stands]
    trivial
  · exact nomatch stands

end PathComponent

namespace BlobPath

open PathComponent

variable {text : String} {path : BlobPath}

/-- The components of a path, first one first. -/
def components (text : String) : List PathComponent :=
  match segments text with
  | [] => []
  | first :: rest => (ofFirst? first rest).toList ++ rest.filterMap ofSegment?

/-! ### Segments -/

theorem isName_iff {segment : String} : isName segment = true ↔ segment ≠ "" ∧ segment ≠ "." := by
  simp [isName]

private theorem segments_append (front rest : String) :
    segments (front ++ "/" ++ rest) = segments front ++ segments rest := by
  have slash : "/".toList = ['/'] := rfl
  rw [segments, String.toList_append, String.toList_append, slash, List.append_assoc,
    List.singleton_append, List.splitOn_append_cons_self, List.map_append]
  rfl

private theorem head?_segments_eq_empty_iff :
    (segments text).head? = some "" ↔ text = "" ∨ text.toList.head? = some '/' := by
  rw [← String.toList_inj, segments]
  cases text.toList with
  | nil => simp
  | cons c chars =>
      obtain ⟨first, rest, split_eq⟩ :=
        List.exists_cons_of_ne_nil (List.splitOn_ne_nil '/' chars)
      rw [List.splitOn_cons_eq_if_modifyHead, split_eq]
      by_cases slash : c = '/' <;> simp [slash]

private theorem not_mem_of_mem_splitOn {α : Type} [DecidableEq α] {separator : α}
    {items part : List α} (member : part ∈ items.splitOn separator) : separator ∉ part := by
  induction items generalizing part with
  | nil =>
      rw [List.splitOn_nil, List.mem_singleton] at member
      simp [member]
  | cons item items ih =>
      obtain ⟨first, rest, split_eq⟩ :=
        List.exists_cons_of_ne_nil (List.splitOn_ne_nil separator items)
      rw [split_eq] at ih
      rw [List.splitOn_cons_eq_if_modifyHead, split_eq] at member
      by_cases same : item = separator
      · simp only [same, beq_self_eq_true, if_true, List.mem_cons] at member
        rcases member with rfl | member
        · simp
        · exact ih (List.mem_cons.2 member)
      · simp only [beq_iff_eq, same, if_false, List.modifyHead_cons, List.mem_cons] at member
        rcases member with rfl | member
        · simpa [Ne.symm same] using ih List.mem_cons_self
        · exact ih (List.mem_cons_of_mem _ member)

private theorem not_mem_of_mem_segments {segment : String} (member : segment ∈ segments text) :
    '/' ∉ segment.toList := by
  obtain ⟨part, part_mem, rfl⟩ := List.mem_map.1 member
  rw [String.toList_ofList]
  exact not_mem_of_mem_splitOn part_mem

/-! ### Accepted paths -/

/-- The names of an accepted path are its segments without the empty ones and the dots. -/
theorem names_of_ofString? (accepted : ofString? text = some path) :
    path.names = (segments text).filter isName := by
  unfold ofString? at accepted
  dsimp only at accepted
  split at accepted
  · rename_i name last_eq
    split at accepted
    · rw [← Option.some.inj accepted]
      exact List.dropLast_append_getLast? name last_eq
    · exact nomatch accepted
  · exact nomatch accepted

private theorem isAccepted_iff {segments : List String} :
    isAccepted segments = true ↔
      (∃ first, segments.head? = some first ∧ isName first = true) ∧ ".." ∉ segments := by
  simp [isAccepted, Option.any_eq_true]

/-- A path is accepted if its segments are, for then it has a name. -/
theorem isSome_ofString?_iff :
    (ofString? text).isSome = true ↔ isAccepted (segments text) = true := by
  unfold ofString?
  dsimp only
  split
  · split <;> simp [*]
  · rename_i unnamed
    rw [List.getLast?_eq_none_iff, List.filter_eq_nil_iff] at unnamed
    refine iff_of_false nofun fun accepted => ?_
    obtain ⟨⟨first, head_eq, named⟩, -⟩ := isAccepted_iff.1 accepted
    exact unnamed first (List.mem_of_mem_head? head_eq) named

private theorem isAccepted_segments_iff :
    isAccepted (segments text) = true ↔
      text ≠ "" ∧ text.toList.head? ≠ some '/' ∧ (segments text).head? ≠ some "." ∧
        ".." ∉ segments text := by
  obtain ⟨first, rest, segments_eq⟩ := List.exists_cons_of_ne_nil (segments_ne_nil text)
  have empty_iff := @head?_segments_eq_empty_iff text
  rw [isAccepted_iff, segments_eq]
  rw [segments_eq, List.head?_cons, Option.some_inj] at empty_iff
  simp only [List.head?_cons, Option.some.injEq, exists_eq_left', isName_iff, ne_eq, empty_iff,
    not_or, and_assoc]

/-- What is accepted is not empty and is made of names. -/
theorem isAccepted_segments_iff_components :
    isAccepted (segments text) = true ↔
      text ≠ "" ∧ ∀ component ∈ components text, component.IsName := by
  have text_eq := intercalate_segments text
  have first_eq := (@head?_segments_eq_empty_iff text).2
  obtain ⟨first, rest, segments_eq⟩ := List.exists_cons_of_ne_nil (segments_ne_nil text)
  rw [isAccepted_iff, components]
  rw [segments_eq] at text_eq first_eq ⊢
  rw [List.head?_cons, Option.some_inj] at first_eq
  simp only [List.head?_cons, Option.some.injEq, exists_eq_left', isName_iff, List.mem_append,
    Option.mem_toList, List.mem_filterMap]
  constructor
  case mp =>
    rintro ⟨⟨first_ne, first_ne_dot⟩, level⟩
    refine ⟨fun text_eq => first_ne (first_eq (.inl text_eq)), ?_⟩
    rintro component (stands | ⟨segment, segment_mem, stands⟩)
    · rw [ofFirst?, if_neg first_ne, if_neg first_ne_dot] at stands
      exact isName_of_ofSegment? (fun up => level (up ▸ List.mem_cons_self)) stands
    · exact isName_of_ofSegment?
        (fun up => level (up ▸ List.mem_cons_of_mem _ segment_mem)) stands
  case mpr =>
    rintro ⟨text_ne, names⟩
    have first_ne : first ≠ "" := by
      rintro rfl
      have rest_ne : rest ≠ [] := by
        rintro rfl
        exact text_ne text_eq.symm
      exact names .root (.inl (by simp [ofFirst?, rest_ne]))
    have first_ne_dot : first ≠ "." := by
      rintro rfl
      exact names .current (.inl rfl)
    refine ⟨⟨first_ne, first_ne_dot⟩, fun up => ?_⟩
    rcases List.mem_cons.1 up with rfl | later
    · exact names .parent (.inl rfl)
    · exact names .parent (.inr ⟨"..", later, rfl⟩)

/-! ### Paths behind a root -/

/-- The path begins at the root of the file system. -/
def IsAbsolute (text : String) : Prop :=
  text.toList.head? = some '/'

instance (text : String) : Decidable (IsAbsolute text) :=
  inferInstanceAs (Decidable (_ = _))

/-- A path behind a root, unless it begins at the root of the file system and so replaces it. -/
def join (root text : String) : String :=
  if IsAbsolute text then text
  else if root = "" ∨ root.toList.getLast? = some '/' then root ++ text
  else root ++ "/" ++ text

/-- The segments of a path without the empty ones and the dots. -/
def normalized (text : String) : List String :=
  (segments text).filter isName

/-- A segment that leads one level down. -/
structure Ordinary (segment : String) : Prop where
  /-- It names something. -/
  named : isName segment = true
  /-- It does not lead up. -/
  level : segment ≠ ".."
  /-- It is one segment. -/
  whole : '/' ∉ segment.toList

theorem normalized_append (front rest : String) :
    normalized (front ++ "/" ++ rest) = normalized front ++ normalized rest := by
  rw [normalized, segments_append, List.filter_append, normalized, normalized]

private theorem normalized_empty : normalized "" = [] := by
  decide

/-- What is not absolute comes behind the root. -/
theorem normalized_join {root : String} (relative : ¬IsAbsolute text) :
    normalized (join root text) = normalized root ++ normalized text := by
  rw [join, if_neg relative]
  split_ifs with ended
  · rcases ended with rfl | ended
    · rw [String.empty_append, normalized_empty, List.nil_append]
    · obtain ⟨front, front_eq⟩ := List.getLast?_eq_some_iff.1 ended
      have root_eq : root = String.ofList front ++ "/" := by
        rw [← String.toList_inj, front_eq]
        simp
      have whole := normalized_append (String.ofList front) ""
      rw [String.append_empty, normalized_empty, List.append_nil] at whole
      rw [root_eq, normalized_append, whole]
  · exact normalized_append root text

private theorem isAbsolute_join_iff {root : String} (relative : ¬IsAbsolute text) :
    IsAbsolute (join root text) ↔ IsAbsolute root := by
  rw [join, if_neg relative]
  by_cases root_eq : root = ""
  · subst root_eq
    simpa [IsAbsolute] using relative
  · have chars_ne : root.toList ≠ [] := by simpa using root_eq
    obtain ⟨first, rest, chars_eq⟩ := List.exists_cons_of_ne_nil chars_ne
    split_ifs <;> simp [IsAbsolute, chars_eq]

/-! ### The names of accepted paths -/

private theorem names_ne_nil (path : BlobPath) : path.names ≠ [] := by
  simp [names]

section Accepted

variable (accepted : ofString? text = some path)

include accepted

theorem isAccepted_of_ofString? : isAccepted (segments text) = true :=
  isSome_ofString?_iff.1 (by rw [accepted, Option.isSome_some])

theorem not_isAbsolute_of_ofString? : ¬IsAbsolute text :=
  (isAccepted_segments_iff.1 (isAccepted_of_ofString? accepted)).2.1

private theorem ordinary_of_mem_names {name : String} (member : name ∈ path.names) :
    Ordinary name := by
  rw [names_of_ofString? accepted, List.mem_filter] at member
  obtain ⟨segment_mem, named⟩ := member
  have level := (isAccepted_iff.1 (isAccepted_of_ofString? accepted)).2
  exact ⟨named, fun up => level (up ▸ segment_mem), not_mem_of_mem_segments segment_mem⟩

/-- Behind a root an accepted path leads from there down its names. -/
theorem normalized_join_of_ofString? (root : String) :
    normalized (join root text) = normalized root ++ path.names := by
  rw [normalized_join (not_isAbsolute_of_ofString? accepted), names_of_ofString? accepted]
  rfl

end Accepted
end BlobPath

namespace Directory

variable {directory : Directory} {text : String} {path : BlobPath}

/-! ### What is left alone -/

/-- All that differs between two directories is among some names. -/
def SameOutside (touched : List (List String)) (before after : Directory) : Prop :=
  ∀ names ∉ touched, after.entries.find? names = before.entries.find? names

private theorem find?_makeFolders {folder rest names : List String}
    (aside : ∀ front, front ≠ [] → front <+: rest → names ≠ folder ++ front) :
    (directory.makeFolders folder rest).1.entries.find? names =
      directory.entries.find? names := by
  induction rest generalizing directory folder with
  | nil => rfl
  | cons name rest ih =>
      have later : ∀ front, front ≠ [] → front <+: rest → names ≠ folder ++ [name] ++ front := by
        intro front _ leads
        simpa using aside (name :: front) (by simp) (by simpa using leads)
      rw [makeFolders]
      split
      · rfl
      · split
        · exact ih later
        · rfl
        · rw [ih later, Table.find?_insert, if_neg (aside [name] (by simp) (by simp))]

/-- The folders of a path are on the way to it. -/
theorem sameOutside_makeParents (directory : Directory) (path : BlobPath) :
    SameOutside path.names.inits directory (directory.makeParents path).1 := by
  intro names aside
  rw [List.mem_inits] at aside
  unfold makeParents
  dsimp only
  split
  · rfl
  split
  · rfl
  · refine find?_makeFolders fun front _ leads names_eq => aside ?_
    rw [names_eq, List.nil_append]
    exact leads.trans (List.prefix_append _ _)

private theorem writeFile_eq_ok {content : Bytes} {next : Directory}
    (written : directory.writeFile text path content = .ok next) :
    next = { directory with entries := directory.entries.insert path.names (.file content) } := by
  unfold writeFile at written
  split at written
  · cases written
  split at written
  · cases written
  · cases written
  · exact (Except.ok.inj written).symm
  · split at written
    · exact (Except.ok.inj written).symm
    · cases written

private theorem writeFile_ne_invalidPath {content : Bytes} :
    directory.writeFile text path content ≠ .error (.invalidPath text) := by
  unfold writeFile
  split
  · rintro ⟨⟩
  split
  · rintro ⟨⟩
  · rintro ⟨⟩
  · rintro ⟨⟩
  · split <;> rintro ⟨⟩

section Accepted

variable (accepted : BlobPath.ofString? text = some path)

include accepted

/-- Reading changes nothing. -/
theorem get_of_ofString? :
    (get text directory).1 ≠ .error (.invalidPath text) ∧ (get text directory).2 = directory := by
  simp only [get, accepted]
  split <;> exact ⟨nofun, rfl⟩

/-- Writing changes nothing but what is on the way. -/
theorem put_of_ofString? (content : Bytes) :
    (put text content directory).1 ≠ .error (.invalidPath text) ∧
      SameOutside path.names.inits directory (put text content directory).2 := by
  have parents_same := sameOutside_makeParents directory path
  simp only [put, accepted]
  split
  · rename_i after cause made
    rw [made] at parents_same
    exact ⟨nofun, parents_same⟩
  · rename_i after made
    rw [made] at parents_same
    split
    · rename_i failure unwritten
      refine ⟨fun same => ?_, parents_same⟩
      rw [Except.error.inj same] at unwritten
      exact writeFile_ne_invalidPath unwritten
    · rename_i next written
      refine ⟨nofun, fun names aside => ?_⟩
      have names_ne : names ≠ path.names := by
        rintro rfl
        exact aside ((List.mem_inits _ _).2 (List.prefix_refl _))
      rw [writeFile_eq_ok written, ← parents_same names aside]
      rw [Table.find?_insert, if_neg names_ne]

/-- Removing changes nothing but what is removed. -/
theorem delete_of_ofString? :
    (delete text directory).1 ≠ .error (.invalidPath text) ∧
      SameOutside [path.names] directory (delete text directory).2 := by
  simp only [delete, accepted]
  split
  · exact ⟨nofun, fun _ _ => rfl⟩
  · exact ⟨nofun, fun _ _ => rfl⟩
  · exact ⟨nofun, fun _ _ => rfl⟩
  · refine ⟨nofun, fun names aside => ?_⟩
    rw [Table.find?_erase, if_neg (by simpa using aside)]

end Accepted

/-! ### All paths -/

/-- A path is accepted if and only if it is not empty, begins neither with a slash nor with a dot
as a segment of its own and nowhere leads up, which is to say that it is made of names alone.
Behind any root an accepted path leads from there down one or more ordinary segments, and nothing is
changed but on the way; any other path is refused, and nothing is changed at all. -/
theorem paths_contained (text : String) :
    ((BlobPath.ofString? text).isSome = true ↔
      text ≠ "" ∧ text.toList.head? ≠ some '/' ∧ (BlobPath.segments text).head? ≠ some "." ∧
        ".." ∉ BlobPath.segments text) ∧
    ((BlobPath.ofString? text).isSome = true ↔
      text ≠ "" ∧ ∀ component ∈ BlobPath.components text, component.IsName) ∧
    (∀ path, BlobPath.ofString? text = some path →
      path.names ≠ [] ∧ (∀ name ∈ path.names, BlobPath.Ordinary name) ∧
      (∀ root, BlobPath.normalized (BlobPath.join root text) =
          BlobPath.normalized root ++ path.names ∧
        (BlobPath.IsAbsolute (BlobPath.join root text) ↔ BlobPath.IsAbsolute root)) ∧
      ∀ directory content,
        ((get text directory).1 ≠ .error (.invalidPath text) ∧
          (get text directory).2 = directory) ∧
        ((put text content directory).1 ≠ .error (.invalidPath text) ∧
          SameOutside path.names.inits directory (put text content directory).2) ∧
        (delete text directory).1 ≠ .error (.invalidPath text) ∧
          SameOutside [path.names] directory (delete text directory).2) ∧
    (BlobPath.ofString? text = none → ∀ directory content,
      get text directory = (.error (.invalidPath text), directory) ∧
      put text content directory = (.error (.invalidPath text), directory) ∧
      delete text directory = (.error (.invalidPath text), directory)) := by
  refine ⟨?lexical, ?components, ?accepted, ?refused⟩
  case lexical =>
    rw [BlobPath.isSome_ofString?_iff, BlobPath.isAccepted_segments_iff]
  case components =>
    rw [BlobPath.isSome_ofString?_iff, BlobPath.isAccepted_segments_iff_components]
  case accepted =>
    intro path accepted
    refine ⟨path.names_ne_nil, fun name => BlobPath.ordinary_of_mem_names accepted,
      fun root => ⟨BlobPath.normalized_join_of_ofString? accepted root,
        BlobPath.isAbsolute_join_iff (BlobPath.not_isAbsolute_of_ofString? accepted)⟩,
      fun directory content => ⟨get_of_ofString? accepted, put_of_ofString? accepted content,
        delete_of_ofString? accepted⟩⟩
  case refused =>
    intro refused directory content
    simp only [get, put, delete, refused, and_self]

theorem paths_contained_nested :
    BlobPath.normalized (BlobPath.join "/srv/blobs" "a//./b/") = ["srv", "blobs", "a", "b"] ∧
      ∀ directory, get "a/../b" directory = (.error (.invalidPath "a/../b"), directory) := by
  have nested : BlobPath.ofString? "a//./b/" = some ⟨["a"], "b", .slash⟩ := by
    decide +kernel
  have climbing : BlobPath.ofString? "a/../b" = none := by
    decide +kernel
  refine ⟨?_, fun directory => ((paths_contained "a/../b").2.2.2 climbing directory []).1⟩
  rw [(((paths_contained "a//./b/").2.2.1 _ nested).2.2.1 "/srv/blobs").1]
  decide +kernel

end Directory
end Workflow
