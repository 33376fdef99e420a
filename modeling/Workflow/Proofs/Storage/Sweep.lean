import Workflow.Paths
import Workflow.Proofs.Table
import Workflow.Storage.Memory

/-!
# Deleting blobs

A store shows its blobs when they can be read off its state, and its accesses do to them what they
say.  Blobs are deleted one after the other whatever comes of each, so that only a blob whose own
deletion failed can be left.
-/

namespace Workflow

/-- The blobs outside some paths are the same. -/
def Memory.SameOutside (paths : List String) (before after : Memory) : Prop :=
  ∀ path, path ∉ paths → after.find? path = before.find? path

theorem Memory.SameOutside.mono {paths more : List String} {before after : Memory}
    (same : before.SameOutside paths after) (subset : paths ⊆ more) :
    before.SameOutside more after :=
  fun path outside => same path (mt (@subset path) outside)

theorem Memory.SameOutside.trans {paths : List String} {first second third : Memory}
    (front : first.SameOutside paths second) (back : second.SameOutside paths third) :
    first.SameOutside paths third :=
  fun path outside => (back path outside).trans (front path outside)

theorem Memory.sameOutside_foldl_insert (content : Bytes) (paths : List String) (blobs : Memory) :
    blobs.SameOutside paths (paths.foldl (fun blobs path => blobs.insert path content) blobs) := by
  induction paths generalizing blobs with
  | nil => exact fun _ _ => rfl
  | cons head paths ih =>
      intro path outside
      obtain ⟨path_ne, outside⟩ := not_or.1 (mt List.mem_cons.2 outside)
      exact (ih _ path outside).trans (by rw [Table.find?_insert, if_neg path_ne])

namespace Store

variable {σ ω : Type}

/-- The blobs of a store are a part of its state.  Fetching changes no blob, and a deletion changes
no other blob than its own, which is gone if the deletion does not fail. -/
structure Shows (store : Store σ) (blobs : σ → Memory) : Prop where
  /-- Fetching changes no blob. -/
  get (path : String) (state : σ) : blobs (store.get path state).2 = blobs state
  /-- A deletion changes no other blob. -/
  delete_other (path : String) (state : σ) :
    (blobs state).SameOutside [path] (blobs (store.delete path state).2)
  /-- A deleted blob is gone. -/
  delete_self {path : String} {state : σ} (deleted : (store.delete path state).1 = .ok ()) :
    (blobs (store.delete path state).2).find? path = none

theorem shows_memory : Memory.store.Shows id where
  get path blobs := by
    change (Memory.get path blobs).2 = blobs
    unfold Memory.get
    split <;> rfl
  delete_other path blobs other other_ne := by
    change (blobs.erase path).find? other = blobs.find? other
    rw [Table.find?_erase, if_neg (by simpa using other_ne)]
  delete_self {path blobs} _ := by
    change (blobs.erase path).find? path = none
    rw [Table.find?_erase, if_pos rfl]

theorem Shows.onSecond {store : Store σ} {blobs : σ → Memory} (shows : store.Shows blobs) :
    (store.onSecond : Store (ω × σ)).Shows fun whole => blobs whole.2 where
  get path whole := shows.get path whole.2
  delete_other path whole := shows.delete_other path whole.2
  delete_self deleted := shows.delete_self deleted

theorem Shows.failing {store : Store σ} {blobs : σ → Memory} (shows : store.Shows blobs)
    (refused : List AccessKind) : (store.failing refused).Shows blobs where
  get path state := by
    unfold Store.failing
    dsimp only
    split
    · rfl
    · exact shows.get path state
  delete_other path state := by
    unfold Store.failing
    dsimp only
    split
    · exact fun _ _ => rfl
    · exact shows.delete_other path state
  delete_self {path state} deleted := by
    unfold Store.failing at deleted ⊢
    dsimp only at deleted ⊢
    split at deleted
    · exact nomatch deleted
    · rename_i granted
      rw [if_neg granted]
      exact shows.delete_self deleted

/-! ### Sweeps -/

/-- Delete blobs one after the other, and tell what came of each deletion. -/
def sweep (store : Store σ) :
    List String → StateM σ (List (String × Except StorageError Unit))
  | [] => return []
  | path :: paths => do
      let result ← store.delete path
      return (path, result) :: (← store.sweep paths)

theorem paths_sweep (store : Store σ) (paths : List String) (state : σ) :
    (store.sweep paths state).1.map Prod.fst = paths := by
  induction paths generalizing state with
  | nil => rfl
  | cons path paths ih => exact congrArg (path :: ·) (ih _)

theorem not_mem_sweep {store : Store σ}
    (granted : ∀ path state, (store.delete path state).1 = .ok ()) (paths : List String) (state : σ)
    (path : String) (failure : StorageError) :
    (path, .error failure) ∉ (store.sweep paths state).1 := by
  induction paths generalizing state with
  | nil => exact List.not_mem_nil
  | cons head paths ih =>
      intro member
      rcases List.mem_cons.1 member with first | later
      · have refused : (store.delete head state).1 = .error failure := (Prod.mk.inj first).2.symm
        rw [granted] at refused
        exact nomatch refused
      · exact ih _ later

theorem foldl_delete (store : Store σ) (paths : List String) (state : σ) :
    paths.foldl (fun state path => (store.delete path state).2) state =
      (store.sweep paths state).2 := by
  induction paths generalizing state with
  | nil => rfl
  | cons path paths ih => exact ih _

variable {store : Store σ} {blobs : σ → Memory} (shows : store.Shows blobs)

include shows

/-- A sweep changes nothing but the blobs that it is to delete. -/
theorem Shows.sweep_outside (paths : List String) (state : σ) :
    (blobs state).SameOutside paths (blobs (store.sweep paths state).2) := by
  induction paths generalizing state with
  | nil => exact fun _ _ => rfl
  | cons head paths ih =>
      intro path outside
      obtain ⟨path_ne, outside⟩ := not_or.1 (mt List.mem_cons.2 outside)
      exact (ih _ path outside).trans (shows.delete_other head state path (by simpa using path_ne))

/-- After a sweep a path is empty that was empty before or is swept, unless its own deletion
failed. -/
theorem Shows.sweep_inside {path : String} {paths : List String} {state : σ}
    (inside : path ∈ paths ∨ (blobs state).find? path = none) :
    (blobs (store.sweep paths state).2).find? path = none ∨
      ∃ failure, (path, .error failure) ∈ (store.sweep paths state).1 := by
  induction paths generalizing state with
  | nil => exact .inl (inside.resolve_left List.not_mem_nil)
  | cons head paths ih =>
      have rest (empty : path ∈ paths ∨ (blobs (store.delete head state).2).find? path = none) :
          (blobs (store.sweep (head :: paths) state).2).find? path = none ∨
            ∃ failure, (path, .error failure) ∈ (store.sweep (head :: paths) state).1 :=
        (ih empty).imp_right fun ⟨failure, member⟩ => ⟨failure, List.mem_cons_of_mem _ member⟩
      by_cases same : path = head
      · subst same
        cases result_eq : (store.delete path state).1 with
        | ok => exact rest (.inr (shows.delete_self result_eq))
        | error failure =>
            refine .inr ⟨failure, ?_⟩
            rw [← result_eq]
            exact List.mem_cons_self
      · refine rest (inside.imp (fun member => (List.mem_cons.1 member).resolve_left same) ?_)
        intro empty
        rw [shows.delete_other head state path (by simpa using same), empty]

end Store

/-- A cleanup is a sweep over the disposable paths. -/
theorem RunPaths.cleanup_eq {σ : Type} (paths : RunPaths) (store : Store σ) (contents : Bool)
    (state : σ) :
    (paths.cleanup store contents state).2 = (store.sweep (paths.disposable contents) state).2 :=
  store.foldl_delete _ _

end Workflow
