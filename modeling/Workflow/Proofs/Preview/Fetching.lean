import Workflow.Preview
import Workflow.Proofs.Run.Specification
import Workflow.Proofs.Storage.Accesses

/-!
# Fetching results

Results are read back by fetching blobs and by nothing else.  `Source` names the blobs of a run, and
`operatorSources` and `artifactSources` say which of them are fetched, in which order.  An artifact
that cannot be read ends the fetching with a fault.
-/

namespace Workflow

variable {σ : Type} {store : Store σ} {first : σ}

/-- After some fetches an action only fetches more blobs, and its result fits their paths. -/
def Fetches {α : Type} (store : Store σ) (first : σ) (fits : List String → α → Prop)
    (action : StateM σ α) : Prop :=
  ∀ before, ∃ fetched, fits fetched (action (store.fetch before first)).1 ∧
    (action (store.fetch before first)).2 = store.fetch (before ++ fetched) first

namespace Fetches

variable {α β : Type} {fits better : List String → α → Prop} {action : StateM σ α}

theorem value {value : α} (holds : fits [] value) : Fetches store first fits (pure value) :=
  fun before => ⟨[], holds, congrArg (store.fetch · first) (List.append_nil before).symm⟩

theorem get (path : String) :
    Fetches store first (fun fetched _ => fetched = [path]) (store.get path) :=
  fun before => ⟨[path], rfl, (store.fetch_append before [path] first).symm⟩

theorem mono (fetches : Fetches store first fits action)
    (imp : ∀ fetched value, fits fetched value → better fetched value) :
    Fetches store first better action := fun before =>
  have ⟨fetched, holds, left⟩ := fetches before
  ⟨fetched, imp _ _ holds, left⟩

private theorem observed (fetches : Fetches store first fits action) :
    Fetches store first
      (fun fetched value => fits fetched value ∧
        ∃ before, (action (store.fetch before first)).1 = value) action := fun before =>
  have ⟨fetched, holds, left⟩ := fetches before
  ⟨fetched, ⟨holds, before, rfl⟩, left⟩

theorem bind {next : α → StateM σ β} {both : List String → β → Prop}
    (fetches : Fetches store first fits action)
    (next_fetches : ∀ fetched value, fits fetched value →
      Fetches store first (fun more result => both (fetched ++ more) result) (next value)) :
    Fetches store first both (action >>= next) := by
  intro before
  obtain ⟨fetched, holds, left⟩ := fetches before
  obtain ⟨more, both_hold, left_more⟩ := next_fetches fetched _ holds (before ++ fetched)
  rw [← left] at both_hold left_more
  rw [List.append_assoc] at left_more
  exact ⟨fetched ++ more, both_hold, left_more⟩

end Fetches

/-- A blob of a run. -/
inductive Source
  /-- The metadata of an operator. -/
  | metadata (operator : Uuid)
  /-- The content of an artifact. -/
  | content (artifact : Uuid)
  /-- The schema of an artifact. -/
  | schema (artifact : Uuid)
  deriving DecidableEq

/-- The operator or artifact whose blob it is. -/
def Source.node : Source → Uuid
  | metadata id | content id | schema id => id

namespace RunPaths

variable {paths : RunPaths}

/-- Where a blob of a run is. -/
def pathOf? (paths : RunPaths) : Source → Option String
  | .metadata operator => paths.operatorMetadata.find? operator
  | .content artifact => paths.artifactContent.find? artifact
  | .schema artifact => paths.artifactMetadata.find? artifact

/-- Some paths are those of some blobs, one after the other. -/
def Located (paths : RunPaths) : List Source → List String → Prop :=
  List.Forall₂ fun source path => paths.pathOf? source = some path

theorem Located.append {first second : List Source} {first_paths second_paths : List String}
    (front : paths.Located first first_paths) (back : paths.Located second second_paths) :
    paths.Located (first ++ second) (first_paths ++ second_paths) :=
  List.rel_append front back

/-- Paths that differ belong to one blob each. -/
theorem pathOf?_injective (distinct : paths.all.Nodup) {first second : Source} {path : String}
    (first_path : paths.pathOf? first = some path)
    (second_path : paths.pathOf? second = some path) : first = second := by
  obtain ⟨others, schemas, schemas_apart⟩ := List.nodup_append.1 distinct
  obtain ⟨metadata, contents, contents_apart⟩ := List.nodup_append.1 others
  have stored {table : Table Uuid String} {id : Uuid} (found : table.find? id = some path) :
      path ∈ table.values := Table.mem_values_iff.2 ⟨id, found⟩
  have metadata_content {operator artifact : Uuid}
      (metadata_path : paths.pathOf? (.metadata operator) = some path)
      (content_path : paths.pathOf? (.content artifact) = some path) : False :=
    contents_apart path (stored metadata_path) path (stored content_path) rfl
  have metadata_schema {operator artifact : Uuid}
      (metadata_path : paths.pathOf? (.metadata operator) = some path)
      (schema_path : paths.pathOf? (.schema artifact) = some path) : False :=
    schemas_apart path (List.mem_append_left _ (stored metadata_path)) path (stored schema_path) rfl
  have content_schema {artifact other : Uuid}
      (content_path : paths.pathOf? (.content artifact) = some path)
      (schema_path : paths.pathOf? (.schema other) = some path) : False :=
    schemas_apart path (List.mem_append_right _ (stored content_path)) path (stored schema_path) rfl
  cases first with
  | metadata operator =>
      cases second with
      | metadata =>
          exact congrArg _ (Table.eq_of_find?_eq_some metadata first_path second_path)
      | content => exact (metadata_content first_path second_path).elim
      | schema => exact (metadata_schema first_path second_path).elim
  | content artifact =>
      cases second with
      | metadata => exact (metadata_content second_path first_path).elim
      | content => exact congrArg _ (Table.eq_of_find?_eq_some contents first_path second_path)
      | schema => exact (content_schema first_path second_path).elim
  | schema artifact =>
      cases second with
      | metadata => exact (metadata_schema second_path first_path).elim
      | content => exact (content_schema second_path first_path).elim
      | schema => exact congrArg _ (Table.eq_of_find?_eq_some schemas first_path second_path)

theorem Located.mem_of_pathOf? (distinct : paths.all.Nodup) {sources : List Source}
    {fetched : List String} (located : paths.Located sources fetched) {source : Source}
    {path : String} (path_eq : paths.pathOf? source = some path) (member : path ∈ fetched) :
    source ∈ sources := by
  have flipped : List.Forall₂ (fun path source => paths.pathOf? source = some path) fetched
      sources := .flip located
  obtain ⟨other, other_mem, other_path⟩ := exists_of_mem_forall₂ flipped member
  obtain rfl := pathOf?_injective distinct other_path path_eq
  exact other_mem

end RunPaths

/-- The fault of an artifact that cannot be read back. -/
def Fault.IsUnreadable : Fault → Prop
  | .malformedArtifact _ _ _ | .storage _ => True
  | .validation _ | .unknownOperator _ | .canceled _ | .deadlineExceeded _ _
  | .missingStoragePath _ => False

/-- What is told about an operator in a state: its metadata decides, if it can be read. -/
inductive OperatorResult.Reports (launchError : Option String)
    (reads : Except StorageError OperatorMetadata → Prop) : OperatorState → OperatorResult → Prop
  /-- A skipped operator has no metadata. -/
  | skipped : Reports launchError reads .skipped (.failed skippedMessage)
  /-- The metadata cannot be read. -/
  | withoutMetadata {state : OperatorState} {failure : StorageError} (ran : state ≠ .skipped)
      (read : reads (.error failure)) :
      Reports launchError reads state (.withoutMetadata launchError)
  /-- The metadata has been read. -/
  | ofMetadata {state : OperatorState} {metadata : OperatorMetadata} (ran : state ≠ .skipped)
      (read : reads (.ok metadata)) : Reports launchError reads state (.ofMetadata state metadata)

namespace Results

/-- What is read about operators: the metadata of those that were not skipped. -/
def operatorSources (operators : List (Uuid × OperatorState)) : List Source :=
  operators.flatMap fun (id, state) => if state = .skipped then [] else [.metadata id]

/-- What is read of artifacts: the content, and the schema of a table. -/
def artifactSources (artifacts : List (Uuid × Artifact)) : List Source :=
  artifacts.flatMap fun (id, artifact) =>
    .content id :: if artifact.kind = .table then [.schema id] else []

/-! ### Operators -/

/-- What is read of the metadata of an operator after some fetches. -/
def MetadataRead (store : Store σ) (first : σ) (paths : RunPaths) (operator : Uuid)
    (read : Except StorageError OperatorMetadata) : Prop :=
  ∃ path before, paths.pathOf? (.metadata operator) = some path ∧
    (store.readJson OperatorMetadata.ofJson? path (store.fetch before first)).1 = read

/-- The result of an operator fits its state and its metadata. -/
def Tells (store : Store σ) (first : σ) (paths : RunPaths) (report : RunReport)
    (operator : Uuid × OperatorState) (result : Uuid × OperatorResult) : Prop :=
  result.1 = operator.1 ∧
    OperatorResult.Reports (report.launchErrors.find? operator.1)
      (MetadataRead store first paths operator.1) operator.2 result.2

variable {paths : RunPaths} {report : RunReport}

theorem fetches_readJson {α : Type} (read : Json → Option α) (path : String) :
    Fetches store first (fun fetched _ => fetched = [path]) (store.readJson read path) := by
  refine (Fetches.get path).bind fun fetched result fetched_eq => ?_
  cases result with
  | error => exact .value (by simpa using fetched_eq)
  | ok content =>
      dsimp only
      split <;> exact .value (by simpa using fetched_eq)

theorem fetches_operatorResult {id : Uuid} {state : OperatorState} (ran : state ≠ .skipped)
    (covered : id ∈ paths.operatorMetadata.keys) :
    Fetches store first
      (fun fetched result => paths.Located [.metadata id] fetched ∧
        Tells store first paths report (id, state) (id, result))
      (operatorResult store paths report id state) := by
  obtain ⟨path, found⟩ := Table.mem_keys_iff.1 covered
  have path_eq : paths.operatorMetadataOf id = .ok path := by
    simp [RunPaths.operatorMetadataOf, RunPaths.lookUp, found]
  simp only [operatorResult, path_eq]
  refine (fetches_readJson _ path).observed.bind fun fetched metadata ⟨fetched_eq, observed⟩ => ?_
  have located : paths.Located [.metadata id] (fetched ++ []) := by
    rw [fetched_eq]
    exact .cons found .nil
  obtain ⟨before, read_eq⟩ := observed
  have read : MetadataRead store first paths id metadata := ⟨path, before, found, read_eq⟩
  cases metadata with
  | error => exact .value ⟨located, rfl, .withoutMetadata ran read⟩
  | ok metadata => exact .value ⟨located, rfl, .ofMetadata ran read⟩

/-- The result of each operator fits its state, and the metadata of each operator that was not
skipped is fetched once. -/
theorem fetches_operatorEntries {operators : List (Uuid × OperatorState)}
    (covered : ∀ entry ∈ operators, entry.1 ∈ paths.operatorMetadata.keys) :
    Fetches store first
      (fun fetched results => paths.Located (operatorSources operators) fetched ∧
        List.Forall₂ (Tells store first paths report) operators results)
      (operatorEntries store paths report operators) := by
  induction operators with
  | nil => exact .value ⟨.nil, .nil⟩
  | cons entry operators ih =>
      obtain ⟨id, state⟩ := entry
      obtain ⟨own_covered, rest_covered⟩ := List.forall_mem_cons.1 covered
      have own : Fetches store first
          (fun fetched result =>
            paths.Located (if state = .skipped then [] else [.metadata id]) fetched ∧
              Tells store first paths report (id, state) (id, result))
          (if state = .skipped then pure (.failed OperatorResult.skippedMessage)
            else operatorResult store paths report id state) := by
        split
        · rename_i skipped
          subst skipped
          exact .value ⟨.nil, rfl, .skipped⟩
        · rename_i ran
          exact fetches_operatorResult ran own_covered
      have entries_eq : operatorEntries store paths report ((id, state) :: operators) =
          (if state = .skipped then pure (.failed OperatorResult.skippedMessage)
            else operatorResult store paths report id state) >>= fun result =>
              (operatorEntries store paths report operators) >>= fun results =>
                pure ((id, result) :: results) := by
        rw [operatorEntries]
        split <;> rfl
      rw [entries_eq]
      refine own.bind fun fetched result ⟨located, told⟩ => ?_
      refine (ih rest_covered).bind fun more results ⟨rest_located, rest_told⟩ => ?_
      refine .value ⟨?_, .cons told rest_told⟩
      rw [List.append_nil]
      exact located.append rest_located

/-! ### Artifacts -/

section Conversions

variable {id : Uuid} {content : Bytes} {fault : Fault}

private theorem unreadable_of_textOf (failed : ArtifactResult.textOf id content = .error fault) :
    fault.IsUnreadable := by
  unfold ArtifactResult.textOf at failed
  split at failed <;> cases failed
  trivial

private theorem unreadable_of_floatOf (failed : ArtifactResult.floatOf id content = .error fault) :
    fault.IsUnreadable := by
  unfold ArtifactResult.floatOf at failed
  split at failed <;> cases failed
  trivial

private theorem unreadable_of_boolOf (failed : ArtifactResult.boolOf id content = .error fault) :
    fault.IsUnreadable := by
  unfold ArtifactResult.boolOf at failed
  split at failed <;> cases failed
  trivial

end Conversions

theorem fetches_tableMetadata {id : Uuid} (covered : id ∈ paths.artifactMetadata.keys) :
    Fetches store first (fun fetched _ => paths.Located [.schema id] fetched)
      (tableMetadata store paths id) := by
  obtain ⟨path, found⟩ := Table.mem_keys_iff.1 covered
  have path_eq : paths.artifactMetadataOf id = .ok path := by
    simp [RunPaths.artifactMetadataOf, RunPaths.lookUp, found]
  simp only [tableMetadata, path_eq]
  refine (fetches_readJson _ path).bind fun fetched metadata fetched_eq => ?_
  have located : paths.Located [.schema id] (fetched ++ []) := by
    rw [fetched_eq]
    exact .cons found .nil
  cases metadata <;> exact .value located

theorem fetches_interpret {id : Uuid} (covered : id ∈ paths.artifactMetadata.keys)
    (kind : ArtifactKind) (content : Bytes) :
    Fetches store first
      (fun fetched result =>
        paths.Located (if kind = .table then [.schema id] else []) fetched ∧
          Ensures (fun _ => True) Fault.IsUnreadable result)
      (interpret store paths id kind content) := by
  unfold interpret
  cases kind with
  | float =>
      cases float_eq : ArtifactResult.floatOf id content with
      | error fault => exact .value ⟨.nil, unreadable_of_floatOf float_eq⟩
      | ok value => exact .value ⟨.nil, trivial⟩
  | bool =>
      cases bool_eq : ArtifactResult.boolOf id content with
      | error fault => exact .value ⟨.nil, unreadable_of_boolOf bool_eq⟩
      | ok value => exact .value ⟨.nil, trivial⟩
  | json =>
      cases text_eq : ArtifactResult.textOf id content with
      | error fault => exact .value ⟨.nil, unreadable_of_textOf text_eq⟩
      | ok value => exact .value ⟨.nil, trivial⟩
  | table =>
      refine (fetches_tableMetadata covered).bind fun fetched schema located => ?_
      rw [← List.append_nil fetched] at located
      cases text_eq : ArtifactResult.textOf id content with
      | error fault => exact .value ⟨located, unreadable_of_textOf text_eq⟩
      | ok value => exact .value ⟨located, trivial⟩

/-- Some of the blobs were fetched, up to one of them. -/
def FetchedUpTo (paths : RunPaths) (sources : List Source) (fetched : List String) : Prop :=
  ∃ read, read <+: sources ∧ paths.Located read fetched

theorem fetches_artifactResult {id : Uuid} (content_covered : id ∈ paths.artifactContent.keys)
    (schema_covered : id ∈ paths.artifactMetadata.keys) (artifact : Artifact) :
    Fetches store first
      (fun fetched => Ensures
        (fun _ => paths.Located (artifactSources [(id, artifact)]) fetched)
        (fun fault => fault.IsUnreadable ∧
          FetchedUpTo paths (artifactSources [(id, artifact)]) fetched))
      (artifactResult store paths id artifact) := by
  obtain ⟨path, found⟩ := Table.mem_keys_iff.1 content_covered
  have path_eq : paths.artifactContentOf id = .ok path := by
    simp [RunPaths.artifactContentOf, RunPaths.lookUp, found]
  rw [artifactSources, List.flatMap_singleton]
  simp only [artifactResult, path_eq]
  refine (Fetches.get path).bind fun fetched content fetched_eq => ?_
  have located : paths.Located [.content id] fetched := by
    rw [fetched_eq]
    exact .cons found .nil
  cases content with
  | error failure =>
      refine .value ⟨trivial, [.content id], List.prefix_append _ _, ?_⟩
      rwa [List.append_nil]
  | ok content =>
      refine (fetches_interpret schema_covered artifact.kind content).mono
        fun more result ⟨rest_located, ensures⟩ => ?_
      have all_located := located.append rest_located
      exact ensures.mono (fun _ _ => all_located) fun fault unreadable =>
        ⟨unreadable, _, List.prefix_rfl, all_located⟩

/-- Either every artifact is read, or the first one that cannot be read gives the fault. -/
theorem fetches_artifactEntries {artifacts : List (Uuid × Artifact)}
    (contents_covered : ∀ entry ∈ artifacts, entry.1 ∈ paths.artifactContent.keys)
    (schemas_covered : ∀ entry ∈ artifacts, entry.1 ∈ paths.artifactMetadata.keys) :
    Fetches store first
      (fun fetched => Ensures
        (fun results => paths.Located (artifactSources artifacts) fetched ∧
          results.map Prod.fst = artifacts.map Prod.fst)
        (fun fault => fault.IsUnreadable ∧ FetchedUpTo paths (artifactSources artifacts) fetched))
      (artifactEntries store paths artifacts) := by
  induction artifacts with
  | nil => exact .value ⟨.nil, rfl⟩
  | cons entry artifacts ih =>
      obtain ⟨id, artifact⟩ := entry
      obtain ⟨content_covered, rest_contents⟩ := List.forall_mem_cons.1 contents_covered
      obtain ⟨schema_covered, rest_schemas⟩ := List.forall_mem_cons.1 schemas_covered
      have sources_eq : artifactSources ((id, artifact) :: artifacts) =
          artifactSources [(id, artifact)] ++ artifactSources artifacts := by
        simp [artifactSources]
      rw [artifactEntries, sources_eq]
      refine (fetches_artifactResult content_covered schema_covered artifact).bind
        fun fetched result ensures => ?_
      cases result with
      | error fault =>
          obtain ⟨unreadable, read, before, located⟩ := ensures
          refine .value ⟨unreadable, read, before.trans (List.prefix_append _ _), ?_⟩
          rwa [List.append_nil]
      | ok result =>
          refine (ih rest_contents rest_schemas).bind fun more results rest_ensures => ?_
          refine .value ?_
          rw [List.append_nil]
          cases results with
          | error fault =>
              obtain ⟨unreadable, read, before, located⟩ := rest_ensures
              exact ⟨unreadable, _, (List.prefix_append_right_inj _).2 before,
                ensures.append located⟩
          | ok results =>
              obtain ⟨rest_located, keys_eq⟩ := rest_ensures
              exact ⟨ensures.append rest_located, congrArg (id :: ·) keys_eq⟩

end Results
end Workflow
