import Workflow.Proofs.Preview.Cleanup
import Workflow.Proofs.Preview.Collection
import Workflow.Proofs.Task

/-!
# Agreement on paths

A job is told where its inputs are and where its outputs are to be.  Everyone who looks an artifact
up in the same paths means the same blob: the jobs that write and read the artifact, whoever
collects the results, and the cleanup.
-/

namespace Workflow

namespace RunPaths

variable {table : Table Uuid String} {ids others : List Uuid} {listed other_listed : List String}

private theorem Listed.rel_getElem? (lists : Listed table ids listed) (index : Nat) :
    Option.Rel (fun id path => table.find? id = some path) ids[index]? listed[index]? := by
  induction lists generalizing index with
  | nil => exact .none
  | cons found _ ih =>
      cases index with
      | zero => exact .some found
      | succ index => exact ih index

private theorem Listed.getElem?_eq (lists : Listed table ids listed) {index : Nat} {id : Uuid}
    (position : ids[index]? = some id) : listed[index]? = table.find? id := by
  have related := lists.rel_getElem? index
  rw [position] at related
  generalize listed[index]? = path at related ⊢
  cases related with
  | some found => exact found.symm

private theorem Listed.getElem?_eq_iff (distinct : table.values.Nodup)
    (lists : Listed table ids listed) (other_lists : Listed table others other_listed)
    (index other_index : Nat) :
    listed[index]? = other_listed[other_index]? ↔ ids[index]? = others[other_index]? := by
  have here := lists.rel_getElem? index
  have there := other_lists.rel_getElem? other_index
  generalize ids[index]? = id, listed[index]? = path at here ⊢
  generalize others[other_index]? = other, other_listed[other_index]? = other_path at there ⊢
  cases here with
  | none => cases there <;> simp
  | some found =>
      cases there with
      | none => simp
      | some other_found =>
          rw [Option.some_inj, Option.some_inj]
          constructor
          · rintro rfl
            exact Table.eq_of_find?_eq_some distinct found other_found
          · rintro rfl
            exact Option.some.inj (found.symm.trans other_found)

end RunPaths

namespace JobSpec

variable {paths : RunPaths} {spec consumer producer : JobSpec} {operator reader writer : Operator}

/-- As many paths as there are inputs and outputs. -/
structure Fits (spec : JobSpec) (operator : Operator) : Prop where
  /-- Each input has a content. -/
  inputContents : spec.inputContentPaths.length = operator.inputs.length
  /-- Each input has a schema. -/
  inputSchemas : spec.inputMetadataPaths.length = operator.inputs.length
  /-- Each output has a content. -/
  outputContents : spec.outputContentPaths.length = operator.outputs.length
  /-- Each output has a schema. -/
  outputSchemas : spec.outputMetadataPaths.length = operator.outputs.length

private theorem Locates.fits (locates : spec.Locates paths operator) : spec.Fits operator where
  inputContents := locates.inputContents.length_eq.symm
  inputSchemas := locates.inputSchemas.length_eq.symm
  outputContents := locates.outputContents.length_eq.symm
  outputSchemas := locates.outputSchemas.length_eq.symm

/-- A consumer reads at a path that a producer writes at exactly where an input of the one is an
output of the other. -/
structure Meets (consumer producer : JobSpec) (reader writer : Operator) : Prop where
  /-- The paths of contents. -/
  contents (input output : Nat) :
    consumer.inputContentPaths[input]? = producer.outputContentPaths[output]? ↔
      reader.inputs[input]? = writer.outputs[output]?
  /-- The paths of schemas. -/
  schemas (input output : Nat) :
    consumer.inputMetadataPaths[input]? = producer.outputMetadataPaths[output]? ↔
      reader.inputs[input]? = writer.outputs[output]?

private theorem Locates.meets (distinct : paths.all.Nodup)
    (consumes : consumer.Locates paths reader) (produces : producer.Locates paths writer) :
    consumer.Meets producer reader writer := by
  obtain ⟨others, schemas, _⟩ := List.nodup_append.1 distinct
  obtain ⟨_, contents, _⟩ := List.nodup_append.1 others
  exact ⟨consumes.inputContents.getElem?_eq_iff contents produces.outputContents,
    consumes.inputSchemas.getElem?_eq_iff schemas produces.outputSchemas⟩

end JobSpec

/-- Each job that writes a blob was told to write it at a path. -/
def Source.WrittenAt (dag : Dag) (specs : List JobSpec) (source : Source) (path : String) : Prop :=
  ∀ spec ∈ specs, ∀ operator, dag.operators.find? spec.operator = some operator →
    match source with
    | .metadata id => spec.operator = id → spec.metadataPath = path
    | .content id =>
        ∀ index : Nat, operator.outputs[index]? = some id →
          spec.outputContentPaths[index]? = some path
    | .schema id =>
        ∀ index : Nat, operator.outputs[index]? = some id →
          spec.outputMetadataPaths[index]? = some path

open Results

namespace Run

variable {ω : Type} {settings : RunSettings ω} {dag : Dag} {order : List Uuid} {paths : RunPaths}
  {fresh : Nat → Uuid} {id : Uuid} {canceledAt : Option Nat} {world : ω}
  {ended : RunEnd ω RunReport}

/-- A launched job is that of the operator that it names. -/
theorem locates_of_mem_specs (accepted : dag.executionOrder = .ok order)
    (keyed : dag.OperatorsKeyed)
    (ended_eq : ended = dag.execute settings order paths id canceledAt world) {spec : JobSpec}
    (member : spec ∈ ended.specs) :
    ∃ operator, dag.operators.find? spec.operator = some operator ∧ operator.id = spec.operator ∧
      spec.task = operator.task.toJson.canonical ∧ spec.Locates paths operator := by
  obtain ⟨call, call_mem, subject⟩ := RunEnd.mem_specs.1 member
  rw [ended_eq] at call_mem
  obtain ⟨operator, found, build_eq⟩ := build_eq_of_launch accepted call_mem subject
  obtain ⟨operator_eq, task_eq, locates⟩ :=
    (JobSpec.build_locates settings paths id operator).of_eq_ok build_eq
  rw [← Dag.operatorsKeyed_iff.1 keyed _ operator found, ← operator_eq] at found
  exact ⟨operator, found, operator_eq.symm, task_eq, locates⟩

private theorem writtenAt_of_pathOf? (accepted : dag.executionOrder = .ok order)
    (keyed : dag.OperatorsKeyed)
    (ended_eq : ended = dag.execute settings order paths id canceledAt world) {source : Source}
    {path : String} (path_eq : paths.pathOf? source = some path) :
    source.WrittenAt dag ended.specs path := by
  intro spec member operator found
  obtain ⟨other, other_found, id_eq, _, locates⟩ :=
    locates_of_mem_specs accepted keyed ended_eq member
  obtain rfl : other = operator := Option.some.inj (other_found.symm.trans found)
  cases source with
  | metadata operator =>
      rintro rfl
      have metadata := locates.metadata
      rw [id_eq] at metadata
      exact Option.some.inj (metadata.symm.trans path_eq)
  | content artifact =>
      exact fun index position => (locates.outputContents.getElem?_eq position).trans path_eq
  | schema artifact =>
      exact fun index position => (locates.outputSchemas.getElem?_eq position).trans path_eq

/-- Reading artifacts back fetches the contents of those that are wanted and the schemas of the
tables among them, up to the first one that is unreadable. -/
theorem collectArtifacts_fetches {σ : Type} (paths_eq : paths = .generate fresh dag)
    (store : Store σ) (skip : List Uuid) (state : σ) :
    ∃ sources fetched,
      (collectArtifacts store paths dag.artifacts skip state).2 = store.fetch fetched state ∧
      paths.Located sources fetched ∧
      sources <+: artifactSources (dag.artifacts.filter fun id _ => !skip.contains id).entries ∧
      Ensures
        (fun _ => sources =
          artifactSources (dag.artifacts.filter fun id _ => !skip.contains id).entries)
        Fault.IsUnreadable (collectArtifacts store paths dag.artifacts skip state).1 := by
  have fetches : Fetches store state _ (collectArtifacts store paths dag.artifacts skip) :=
    fetches_collectArtifacts (by simp [paths_eq]) (by simp [paths_eq]) rfl
  obtain ⟨fetched, ensures, left⟩ := fetches []
  change Ensures _ _ (collectArtifacts store paths dag.artifacts skip state).1 at ensures
  cases collected : (collectArtifacts store paths dag.artifacts skip state).1 with
  | ok results =>
      exact ⟨_, fetched, left, (ensures.of_eq_ok collected).1, List.prefix_rfl, rfl⟩
  | error fault =>
      obtain ⟨unreadable, sources, before, located⟩ := ensures.of_eq_error collected
      exact ⟨sources, fetched, left, located, before, unreadable⟩

/-- Everyone agrees on every path.  The jobs of an accepted workflow are told as many paths as their
operators have inputs and outputs, in their order, and the task of the operator is read back from
what they are told, if it is free as every task that was read is.  A consumer reads where a producer
writes exactly if they mean the same artifact.  No path is used for two purposes.  The artifacts are
read back from where the jobs were told to write them, and a cleanup deletes whatever a job was told
of. -/
theorem paths_agree (accepted : dag.executionOrder = .ok order) (keyed : dag.OperatorsKeyed)
    (distinct : ((List.range (RunPaths.demand dag)).map fresh).Nodup)
    (paths_eq : paths = .generate fresh dag)
    (ended_eq : ended = dag.execute settings order paths id canceledAt world) :
    (∀ spec ∈ ended.specs, ∃ operator, dag.operators.find? spec.operator = some operator ∧
      spec.Fits operator ∧ spec.Locates paths operator ∧
      (operator.task.Free → Task.ofJson? spec.task = some operator.task)) ∧
    (∀ consumer ∈ ended.specs, ∀ producer ∈ ended.specs, ∀ reader writer,
      dag.operators.find? consumer.operator = some reader →
        dag.operators.find? producer.operator = some writer →
          consumer.Meets producer reader writer) ∧
    (∀ source path, paths.pathOf? source = some path →
      source.WrittenAt dag ended.specs path ∧
        ∀ other, paths.pathOf? other = some path → other = source) ∧
    (∀ (σ : Type) (store : Store σ) (skip : List Uuid) (state : σ), ∃ sources fetched,
      (collectArtifacts store paths dag.artifacts skip state).2 = store.fetch fetched state ∧
      paths.Located sources fetched ∧
      sources <+: artifactSources (dag.artifacts.filter fun id _ => !skip.contains id).entries ∧
      Ensures
        (fun _ => sources =
          artifactSources (dag.artifacts.filter fun id _ => !skip.contains id).entries)
        Fault.IsUnreadable (collectArtifacts store paths dag.artifacts skip state).1) ∧
    (∀ (σ : Type) (store : Store σ) (accesses : σ → List Access), store.Notes accesses →
      ∀ state, ∀ spec ∈ ended.specs, ∀ path ∈ spec.allPaths,
        ⟨.delete, path⟩ ∈ accesses (paths.cleanup store true state).2) := by
  have paths_distinct : paths.all.Nodup := paths_eq ▸ RunPaths.nodup_all_generate distinct
  have locates {spec : JobSpec} (member : spec ∈ ended.specs) :=
    locates_of_mem_specs accepted keyed ended_eq member
  refine ⟨fun spec member => ?told, fun consumer consumes producer produces reader writer
    reader_found writer_found => ?met, fun source path path_eq => ⟨?written, ?apart⟩,
    fun σ store skip state => collectArtifacts_fetches paths_eq store skip state,
    fun σ store accesses notes state spec member path path_mem => ?deleted⟩
  case told =>
    obtain ⟨operator, found, _, task_eq, located⟩ := locates member
    refine ⟨operator, found, located.fits, located, fun free => ?_⟩
    rw [task_eq, Task.ofJson?_canonical_toJson free]
  case met =>
    obtain ⟨_, found, _, _, consumer_located⟩ := locates consumes
    obtain rfl := Option.some.inj (found.symm.trans reader_found)
    obtain ⟨_, found, _, _, producer_located⟩ := locates produces
    obtain rfl := Option.some.inj (found.symm.trans writer_found)
    exact consumer_located.meets paths_distinct producer_located
  case written => exact writtenAt_of_pathOf? accepted keyed ended_eq path_eq
  case apart =>
    exact fun other other_eq => RunPaths.pathOf?_injective paths_distinct other_eq path_eq
  case deleted =>
    obtain ⟨operator, _, _, _, located⟩ := locates member
    have disposed : path ∈ paths.disposable true :=
      RunPaths.mem_disposable.2 (located.subset_all path_mem)
    rw [RunPaths.cleanup_eq, notes.sweep]
    exact List.mem_append_right _ (List.mem_map_of_mem disposed)

/-- In a join the first input of the third job is what the first job writes, and nothing that the
second one writes. -/
theorem paths_agree_join :
    ∃ ended, ended = Dag.join.execute obliging [.ofNat 1, .ofNat 2, .ofNat 3, .ofNat 4]
        (.generate .ofNat .join) .nil none () ∧
      ended.specs.map JobSpec.operator = [1, 2, 3, 4].map .ofNat ∧
      ∀ consumer ∈ ended.specs, consumer.operator = .ofNat 3 → ∀ producer ∈ ended.specs,
        (producer.operator = .ofNat 1 →
          consumer.inputContentPaths[0]? = producer.outputContentPaths[0]?) ∧
        (producer.operator = .ofNat 2 →
          consumer.inputContentPaths[0]? ≠ producer.outputContentPaths[0]?) := by
  have keyed : Dag.join.OperatorsKeyed := by decide
  have distinct : ((List.range (RunPaths.demand .join)).map Uuid.ofNat).Nodup := by
    decide +kernel
  obtain ⟨_, meets, _⟩ := paths_agree Dag.executionOrder_join keyed distinct rfl
    (rfl : Dag.join.execute obliging _ (.generate .ofNat .join) .nil none () = _)
  obtain ⟨reader, reader_eq, inputs_eq⟩ : ∃ operator,
      Dag.join.operators.find? (.ofNat 3) = some operator ∧
        operator.inputs = [.ofNat 101, .ofNat 102] := ⟨_, rfl, rfl⟩
  obtain ⟨first, first_eq, first_outputs⟩ : ∃ operator,
      Dag.join.operators.find? (.ofNat 1) = some operator ∧ operator.outputs = [.ofNat 101] :=
    ⟨_, rfl, rfl⟩
  obtain ⟨second, second_eq, second_outputs⟩ : ∃ operator,
      Dag.join.operators.find? (.ofNat 2) = some operator ∧ operator.outputs = [.ofNat 102] :=
    ⟨_, rfl, rfl⟩
  refine ⟨_, rfl, by decide +kernel, fun consumer consumes third producer produces => ?_⟩
  rw [← third] at reader_eq
  refine ⟨fun one => ?_, fun two => ?_⟩
  · rw [← one] at first_eq
    rw [(meets consumer consumes producer produces _ _ reader_eq first_eq).contents, inputs_eq,
      first_outputs]
    rfl
  · rw [← two] at second_eq
    rw [Ne, (meets consumer consumes producer produces _ _ reader_eq second_eq).contents,
      inputs_eq, second_outputs]
    decide

end Run
end Workflow
