import Mathlib.Data.List.Infix
import Workflow.Proofs.Table
import Workflow.Storage.Directory

/-!
# Plain paths

A path is plain if its segments are names, so that cutting it at the slashes loses nothing, and if
the file system admits it.  Below, a plain path is followed from the root: it leads to a file if all
its folders are there, and is missing if no file stands in its way and nothing stands at its end.
-/

namespace Workflow
namespace BlobPath

theorem segments_ne_nil (text : String) : segments text ≠ [] := by
  simp [segments, List.splitOn_ne_nil]

theorem intercalate_segments (text : String) : "/".intercalate (segments text) = text := by
  refine String.toList_inj.1 ?_
  rw [String.toList_intercalate, segments, List.map_map]
  simp [Function.comp_def, List.intercalate_splitOn]

theorem segments_injective : Function.Injective segments :=
  Function.LeftInverse.injective intercalate_segments

/-- A path of names that the file system admits. -/
structure Plain (text : String) : Prop where
  /-- Every segment names something. -/
  named : ∀ segment ∈ segments text, isName segment = true
  /-- No segment leads up. -/
  level : ".." ∉ segments text
  /-- No segment is too long. -/
  short : ∀ segment ∈ segments text, Directory.isTooLong segment = false
  /-- There is no NUL character. -/
  no_nul : Directory.hasNul text = false
  /-- The whole path is not too long. -/
  fits : text.utf8ByteSize < Directory.pathLimit

theorem plain_iff {text : String} :
    Plain text ↔ (∀ segment ∈ segments text, isName segment = true ∧ segment ≠ ".." ∧
      Directory.isTooLong segment = false) ∧ Directory.hasNul text = false ∧
        text.utf8ByteSize < Directory.pathLimit := by
  constructor
  · rintro ⟨named, level, short, no_nul, fits⟩
    refine ⟨fun segment member => ⟨named segment member, ?_, short segment member⟩, no_nul, fits⟩
    exact fun up => level (up ▸ member)
  · rintro ⟨all, no_nul, fits⟩
    exact ⟨fun segment member => (all segment member).1, fun member => (all _ member).2.1 rfl,
      fun segment member => (all segment member).2.2, no_nul, fits⟩

instance (text : String) : Decidable (Plain text) :=
  decidable_of_iff _ plain_iff.symm

/-- The folders of a path, and its last name. -/
def plainPath (text : String) : BlobPath :=
  ⟨(segments text).dropLast, (segments text).getLast (segments_ne_nil text), .plain⟩

@[simp]
theorem names_plainPath (text : String) : (plainPath text).names = segments text :=
  List.dropLast_append_getLast (segments_ne_nil text)

@[simp]
theorem ending_plainPath (text : String) : (plainPath text).ending = .plain := rfl

/-- What leads to a path from the root is the path itself or leads to its last folder. -/
theorem prefix_segments_iff {text : String} {front : List String} :
    front <+: segments text ↔ front = segments text ∨ front <+: (plainPath text).folders := by
  rw [← names_plainPath, names, List.prefix_concat_iff]

theorem not_segments_prefix_folders (text : String) :
    ¬segments text <+: (plainPath text).folders := by
  intro leads
  have length_le := leads.length_le
  have length_pos := List.length_pos_of_ne_nil (segments_ne_nil text)
  rw [plainPath, List.length_dropLast] at length_le
  omega

namespace Plain

variable {text : String}

theorem ofString?_eq (plain : Plain text) : ofString? text = some (plainPath text) := by
  have last_mem := List.getLast_mem (segments_ne_nil text)
  have filter_eq : (segments text).filter isName = segments text :=
    List.filter_eq_self.2 plain.named
  have accepted : isAccepted (segments text) = true := by
    have head_named := plain.named _ (List.head_mem (segments_ne_nil text))
    simp [isAccepted, List.head?_eq_some_head (segments_ne_nil text), head_named, plain.level]
  have ending_eq : endingOf (segments text) = .plain := by
    rw [endingOf, ← List.dropLast_append_getLast (segments_ne_nil text)]
    simp [plain.named _ last_mem]
  simp [ofString?, filter_eq, List.getLast?_eq_some_getLast (segments_ne_nil text), accepted,
    ending_eq, plainPath]

theorem parent_admitted (plain : Plain text) :
    Directory.hasNul ("/".intercalate (plainPath text).folders) = false ∧
      ("/".intercalate (plainPath text).folders).utf8ByteSize < Directory.pathLimit := by
  by_cases folders_eq : (plainPath text).folders = []
  · rw [folders_eq]
    decide
  · have text_eq : text = "/".intercalate (plainPath text).folders ++ "/" ++
        "/".intercalate [(plainPath text).name] := by
      rw [← String.intercalate_append_of_ne_nil folders_eq (by simp)]
      exact (intercalate_segments text).symm.trans (by rw [← names_plainPath]; rfl)
    have no_nul := plain.no_nul
    have fits := plain.fits
    rw [text_eq] at no_nul fits
    simp only [Directory.hasNul, String.toList_append, List.contains_append, Bool.or_eq_false_iff]
      at no_nul
    simp only [String.utf8ByteSize_append] at fits
    exact ⟨no_nul.1.1, by omega⟩

end Plain
end BlobPath

namespace Directory

variable {directory : Directory} {folder rest : List String}

/-- Names lead to a file if all folders on the way are there. -/
theorem follow_eq_file (short : ∀ name ∈ rest, isTooLong name = false) (rest_ne : rest ≠ [])
    (open_way : ∀ front, front ≠ [] → front <+: rest → front ≠ rest →
      directory.entries.find? (folder ++ front) = some .folder)
    {content : Bytes} (found : directory.entries.find? (folder ++ rest) = some (.file content)) :
    directory.follow folder rest = .entry (.file content) := by
  induction rest generalizing folder with
  | nil => exact absurd rfl rest_ne
  | cons name rest ih =>
      have name_short := short name List.mem_cons_self
      rw [follow, if_neg (by simp [name_short])]
      by_cases last : rest = []
      · subst last
        simp [found]
      · have first_folder : directory.entries.find? (folder ++ [name]) = some .folder :=
          open_way [name] (by simp) (by simp) (by simp [Ne.symm last])
        rw [first_folder]
        refine ih (fun name member => short name (List.mem_cons_of_mem _ member)) last
          (fun front front_ne front_leads front_ne_rest => ?_) (by simpa using found)
        have := open_way (name :: front) (by simp) (by simpa using front_leads)
          (by simpa using front_ne_rest)
        simpa using this

/-- Names lead nowhere if no file is on the way and nothing at its end. -/
theorem follow_eq_missing (short : ∀ name ∈ rest, isTooLong name = false) (rest_ne : rest ≠ [])
    (clear_way : ∀ front content, front <+: rest →
      directory.entries.find? (folder ++ front) ≠ some (.file content))
    (vacant : directory.entries.find? (folder ++ rest) = none) :
    directory.follow folder rest = .missing := by
  induction rest generalizing folder with
  | nil => exact absurd rfl rest_ne
  | cons name rest ih =>
      have name_short := short name List.mem_cons_self
      rw [follow, if_neg (by simp [name_short])]
      have first_clear := clear_way [name]
      cases first : directory.entries.find? (folder ++ [name]) with
      | none => rfl
      | some entry =>
          cases entry with
          | file content => exact absurd first (first_clear content (by simp))
          | folder =>
              have last : rest ≠ [] := by
                rintro rfl
                simp [first] at vacant
              refine ih (fun name member => short name (List.mem_cons_of_mem _ member)) last
                (fun front content front_leads => ?_) (by simpa using vacant)
              simpa using clear_way (name :: front) content (by simpa using front_leads)

/-- Folders are made where there is none, and nothing else is changed. -/
theorem makeFolders_spec (short : ∀ name ∈ rest, isTooLong name = false)
    (clear_way : ∀ front content, front <+: rest →
      directory.entries.find? (folder ++ front) ≠ some (.file content)) :
    ∃ after, directory.makeFolders folder rest = (after, none) ∧
      after.exists? = directory.exists? ∧
      (∀ front, front ≠ [] → front <+: rest →
        after.entries.find? (folder ++ front) = some .folder) ∧
      ∀ names, (∀ front, front ≠ [] → front <+: rest → names ≠ folder ++ front) →
        after.entries.find? names = directory.entries.find? names := by
  induction rest generalizing directory folder with
  | nil => exact ⟨directory, rfl, rfl, by simp_all, by simp⟩
  | cons name rest ih =>
      have name_short := short name List.mem_cons_self
      obtain ⟨middle, step_eq, exists_eq, made, same⟩ : ∃ middle : Directory,
          directory.makeFolders folder (name :: rest) =
              middle.makeFolders (folder ++ [name]) rest ∧
            middle.exists? = directory.exists? ∧
              middle.entries.find? (folder ++ [name]) = some .folder ∧
                ∀ names, names ≠ folder ++ [name] →
                  middle.entries.find? names = directory.entries.find? names := by
        rw [makeFolders, if_neg (by simp [name_short])]
        cases first : directory.entries.find? (folder ++ [name]) with
        | none =>
            refine ⟨⟨directory.exists?, directory.entries.insert (folder ++ [name]) .folder⟩, rfl,
              rfl, ?_, fun names names_ne => ?_⟩
            · rw [Table.find?_insert, if_pos rfl]
            · rw [Table.find?_insert, if_neg names_ne]
        | some entry =>
            cases entry with
            | file content => exact absurd first (clear_way [name] content (by simp))
            | folder => exact ⟨directory, rfl, rfl, first, fun _ _ => rfl⟩
      have middle_clear : ∀ front content, front <+: rest →
          middle.entries.find? (folder ++ [name] ++ front) ≠ some (.file content) := by
        intro front content front_leads
        by_cases front_eq : front = []
        · simp [front_eq, made]
        · rw [same _ (by simpa using front_eq)]
          simpa using clear_way (name :: front) content (by simpa using front_leads)
      obtain ⟨after, run_eq, after_exists, folders, others⟩ :=
        ih (fun name member => short name (List.mem_cons_of_mem _ member)) middle_clear
      refine ⟨after, step_eq.trans run_eq, after_exists.trans exists_eq, fun front front_ne
        front_leads => ?_, fun names names_ne => ?_⟩
      · obtain ⟨first, front, rfl⟩ := List.exists_cons_of_ne_nil front_ne
        obtain ⟨rfl, tail_leads⟩ := List.cons_prefix_cons.1 front_leads
        by_cases front_eq : front = []
        · subst front_eq
          rw [others _ fun other other_ne _ => by simpa using other_ne, made]
        · simpa using folders front front_eq tail_leads
      · rw [others names fun front front_ne front_leads => ?_, same names ?_]
        · exact names_ne [name] (by simp) (by simp)
        · simpa using names_ne (name :: front) (by simp) (by simpa using front_leads)

end Directory
end Workflow
