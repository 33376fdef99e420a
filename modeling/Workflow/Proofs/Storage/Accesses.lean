import Workflow.Proofs.Storage.Sweep

/-!
# Accesses to a store

A store that notes its accesses tells which blobs were fetched and which were deleted, in order.
-/

namespace Workflow
namespace Store

variable {σ : Type}

/-- The state that is left when blobs have been fetched one after the other. -/
def fetch (store : Store σ) (fetched : List String) (state : σ) : σ :=
  fetched.foldl (fun state path => (store.get path state).2) state

theorem fetch_append (store : Store σ) (first second : List String) (state : σ) :
    store.fetch (first ++ second) state = store.fetch second (store.fetch first state) :=
  List.foldl_append

theorem Shows.fetch {store : Store σ} {blobs : σ → Memory} (shows : store.Shows blobs)
    (fetched : List String) (state : σ) : blobs (store.fetch fetched state) = blobs state := by
  induction fetched generalizing state with
  | nil => rfl
  | cons path fetched ih => exact (ih _).trans (shows.get path state)

/-- The accesses to a store can be read off its state, first one first. -/
structure Notes (store : Store σ) (accesses : σ → List Access) : Prop where
  /-- A blob that is fetched is noted. -/
  get (path : String) (state : σ) :
    accesses (store.get path state).2 = accesses state ++ [⟨.get, path⟩]
  /-- A blob that is written is noted. -/
  put (path : String) (content : Bytes) (state : σ) :
    accesses (store.put path content state).2 = accesses state ++ [⟨.put, path⟩]
  /-- A blob that is deleted is noted. -/
  delete (path : String) (state : σ) :
    accesses (store.delete path state).2 = accesses state ++ [⟨.delete, path⟩]

theorem notes_recording (store : Store σ) : store.recording.Notes Recorded.accesses where
  get _ _ := rfl
  put _ _ _ := rfl
  delete _ _ := rfl

section Notes

variable {store : Store σ} {accesses : σ → List Access} (notes : store.Notes accesses)

include notes

theorem Notes.fetch (fetched : List String) (state : σ) :
    accesses (store.fetch fetched state) =
      accesses state ++ fetched.map fun path => ⟨.get, path⟩ := by
  induction fetched generalizing state with
  | nil => exact (List.append_nil _).symm
  | cons path fetched ih =>
      change accesses (store.fetch fetched (store.get path state).2) = _
      rw [ih, notes.get, List.append_assoc]
      rfl

theorem Notes.sweep (paths : List String) (state : σ) :
    accesses (store.sweep paths state).2 =
      accesses state ++ paths.map fun path => ⟨.delete, path⟩ := by
  induction paths generalizing state with
  | nil => exact (List.append_nil _).symm
  | cons path paths ih =>
      change accesses (store.sweep paths (store.delete path state).2).2 = _
      rw [ih, notes.delete, List.append_assoc]
      rfl

end Notes

end Store
end Workflow
