import Workflow.Preview
import Workflow.Proofs.Storage.Sweep

/-!
# Reading results back

The results of a run are read back without a change to any blob, whether or not an access fails.
What is read does not depend on how the store deletes.
-/

namespace Workflow

variable {σ : Type} {blobs : σ → Memory}

/-- An action leaves all blobs as they are. -/
def Reads {α : Type} (blobs : σ → Memory) (action : StateM σ α) : Prop :=
  ∀ state, blobs (action state).2 = blobs state

theorem reads_pure {α : Type} (value : α) : Reads blobs (pure value) :=
  fun _ => rfl

theorem Reads.bind {α β : Type} {action : StateM σ α} {next : α → StateM σ β}
    (reads : Reads blobs action) (next_reads : ∀ value, Reads blobs (next value)) :
    Reads blobs (action >>= next) :=
  fun state => (next_reads _ _).trans (reads state)

section Results

variable {store : Store σ} (shows : store.Shows blobs)

include shows

theorem reads_readJson {α : Type} (read : Json → Option α) (path : String) :
    Reads blobs (store.readJson read path) := by
  refine Reads.bind (shows.get path) fun result => ?_
  cases result with
  | error => exact reads_pure _
  | ok content =>
      dsimp only
      split <;> exact reads_pure _

namespace Results

variable (paths : RunPaths)

theorem reads_operatorResult (report : RunReport) (id : Uuid) (state : OperatorState) :
    Reads blobs (operatorResult store paths report id state) := by
  unfold operatorResult
  split
  · exact reads_pure _
  · refine (reads_readJson shows _ _).bind fun metadata => ?_
    cases metadata <;> exact reads_pure _

theorem reads_operatorEntries (report : RunReport) (entries : List (Uuid × OperatorState)) :
    Reads blobs (operatorEntries store paths report entries) := by
  induction entries with
  | nil => exact reads_pure _
  | cons entry entries ih =>
      obtain ⟨id, state⟩ := entry
      rw [operatorEntries]
      split
      · exact (reads_pure _).bind fun _ => ih.bind fun _ => reads_pure _
      · exact (reads_operatorResult shows paths report id state).bind fun _ =>
          ih.bind fun _ => reads_pure _

theorem reads_collectOperators (report : RunReport) :
    Reads blobs (collectOperators store paths report) :=
  (reads_operatorEntries shows paths report _).bind fun _ => reads_pure _

theorem reads_tableMetadata (id : Uuid) : Reads blobs (tableMetadata store paths id) := by
  unfold tableMetadata
  split
  · exact reads_pure _
  · refine (reads_readJson shows _ _).bind fun metadata => ?_
    cases metadata <;> exact reads_pure _

theorem reads_artifactResult (id : Uuid) (artifact : Artifact) :
    Reads blobs (artifactResult store paths id artifact) := by
  unfold artifactResult
  split
  · exact reads_pure _
  · refine Reads.bind (shows.get _) fun content => ?_
    cases content with
    | error => exact reads_pure _
    | ok content =>
        cases artifact.kind with
        | float | bool | json => exact reads_pure _
        | table => exact (reads_tableMetadata shows paths id).bind fun _ => reads_pure _

theorem reads_artifactEntries (entries : List (Uuid × Artifact)) :
    Reads blobs (artifactEntries store paths entries) := by
  induction entries with
  | nil => exact reads_pure _
  | cons entry entries ih =>
      refine (reads_artifactResult shows paths entry.1 entry.2).bind fun result => ?_
      cases result with
      | error => exact reads_pure _
      | ok => exact ih.bind fun _ => reads_pure _

end Results

end Results

/-- Nothing is written while results are read back. -/
theorem PreviewService.reads_collect {service : PreviewService σ}
    (shows : service.store.Shows blobs) (dag : Dag) (paths : RunPaths) (report : RunReport) :
    Reads blobs (service.collect dag paths report) := by
  refine (Results.reads_collectOperators shows paths report).bind fun operators => ?_
  refine Reads.bind ?_ fun artifacts => reads_pure _
  exact (Results.reads_artifactEntries shows paths _).bind fun _ => reads_pure _

/-! ### Reading and deleting -/

section Delete

variable (store : Store σ) (delete : String → StateM σ (Except StorageError Unit))
  (paths : RunPaths)

private theorem Results.operatorEntries_of_delete (report : RunReport)
    (entries : List (Uuid × OperatorState)) :
    operatorEntries { store with delete } paths report entries =
      operatorEntries store paths report entries := by
  induction entries with
  | nil => rfl
  | cons entry entries ih =>
      obtain ⟨id, state⟩ := entry
      rw [operatorEntries, operatorEntries, ih]
      rfl

private theorem Results.artifactEntries_of_delete (entries : List (Uuid × Artifact)) :
    artifactEntries { store with delete } paths entries = artifactEntries store paths entries := by
  induction entries with
  | nil => rfl
  | cons entry entries ih =>
      obtain ⟨id, artifact⟩ := entry
      rw [artifactEntries, artifactEntries, ih]
      rfl

end Delete

theorem PreviewService.collect_of_delete (service : PreviewService σ)
    (delete : String → StateM σ (Except StorageError Unit)) (dag : Dag) (paths : RunPaths)
    (report : RunReport) :
    { service with store := { service.store with delete } }.collect dag paths report =
      service.collect dag paths report := by
  unfold collect Results.collectOperators Results.collectArtifacts
  simp only [Results.operatorEntries_of_delete, Results.artifactEntries_of_delete]

end Workflow
