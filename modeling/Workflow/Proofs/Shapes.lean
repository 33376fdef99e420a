import Workflow.Dag.Edge
import Workflow.Job
import Workflow.Proofs.Json.RoundTrip
import Workflow.Proofs.Task
import Workflow.Proofs.Timestamp
import Workflow.Results

/-!
# Written records

Everything that is kept or sent in JSON is read again from its written form, whatever it was read
from at first.  A record is written with all its fields under their names, so this comes down to its
fields one by one.
-/

namespace Workflow

open Json

theorem Uuid.roundTrips : RoundTrips toJson ofJson? :=
  roundTrips_of_inverse ofJson?_toJson

theorem Status.roundTrips : RoundTrips toJson ofJson? :=
  roundTrips_name fun status => by cases status <;> rfl

/-! ### Workflows -/

theorem Connector.roundTrips : RoundTrips toJson ofJson? := by
  intro written connector read
  have free := free_of_ofJson? read
  simp [ofJson?, toJson, record?, Record.field?, Record.fieldOr?, string?, List.lookup_cons,
    Uuid.ofJson?_toJson, Free.free?_eq free]

private theorem Task.Free.fields_plain {task : Task} (free : task.Free) :
    ∀ field ∈ task.fields, field.1 ≠ tagName ∧ field.2.readable = true := by
  cases task with
  | function | metric => simp [fields, Code.fields, tagName, readable]
  | check code level => simp [fields, Code.fields, CheckLevel.toJson, tagName, readable]
  | extract connector | load connector =>
      have parameters_readable := (free connector rfl).readable
      simp [fields, Connector.toJson, Uuid.toJson, tagName, readable, readableFields,
        parameters_readable]

theorem Task.roundTrips : RoundTrips toJson ofJson? := by
  intro written task read
  have free := free_of_ofJson? read
  have tagged : tagged? task.toJson = some (task.name, .obj task.fields) :=
    tagged?_cons task.name (fun field member => (free.fields_plain field member).1)
      fun field member => (free.fields_plain field member).2
  rw [ofJson?, tagged]
  cases task with
  | function | metric => rfl
  | check code level => cases level <;> rfl
  | extract connector | load connector =>
      have connector_eq : Connector.ofJson? connector.toJson = some connector := by
        obtain ⟨rest, _, transfers⟩ := tagged?_of_ofJson? read
        obtain ⟨record, _, connector_read⟩ := Option.bind_eq_some_iff.1 (transfers connector rfl)
        exact Connector.roundTrips.field connector_read
      simp [name, fields, connectorOf?, record?, Record.field?, connector_eq]

theorem Operator.roundTrips : RoundTrips toJson ofJson? := by
  intro written operator read
  simp only [ofJson?, bind, Option.bind_eq_some_iff] at read
  obtain ⟨record, -, id, -, name, -, description, -, task, task_read, inputs, inputs_read, outputs,
    outputs_read, operator_eq⟩ := read
  obtain rfl := Option.some.inj operator_eq
  have task_eq := Task.roundTrips.field task_read
  have inputs_eq := Uuid.roundTrips.list.fieldOr rfl inputs_read
  have outputs_eq := Uuid.roundTrips.list.fieldOr rfl outputs_read
  simp [ofJson?, toJson, record?, Record.field?, Record.fieldOr?, string?, List.lookup_cons,
    Uuid.ofJson?_toJson, task_eq, inputs_eq, outputs_eq]

theorem ArtifactKind.roundTrips : RoundTrips toJson ofJson? :=
  roundTrips_of_inverse fun kind => by cases kind <;> rfl

theorem Artifact.roundTrips : RoundTrips toJson ofJson? := by
  intro written artifact read
  simp only [ofJson?, bind, Option.bind_eq_some_iff] at read
  obtain ⟨record, -, id, -, name, -, description, -, kind, kind_read, artifact_eq⟩ := read
  obtain rfl := Option.some.inj artifact_eq
  have kind_eq := ArtifactKind.roundTrips.field kind_read
  simp [ofJson?, toJson, record?, Record.field?, Record.fieldOr?, string?, List.lookup_cons,
    Uuid.ofJson?_toJson, kind_eq]

theorem Metadata.roundTrips : RoundTrips toJson ofJson? := by
  intro written metadata read
  simp only [ofJson?, bind, Option.bind_eq_some_iff] at read
  obtain ⟨record, -, id, -, name, -, createdAt, ⟨text, -, createdAt_read⟩, metadata_eq⟩ := read
  obtain rfl := Option.some.inj metadata_eq
  have createdAt_eq := Timestamp.ofString?_toString_of_ofString? createdAt_read
  simp [ofJson?, toJson, record?, Record.field?, string?, List.lookup_cons, Uuid.ofJson?_toJson,
    createdAt_eq]

theorem Dag.roundTrips : RoundTrips toJson ofJson? := by
  intro written dag read
  simp only [ofJson?, bind, Option.bind_eq_some_iff] at read
  obtain ⟨record, -, metadata, metadata_read, operators, operators_read, artifacts, artifacts_read,
    dag_eq⟩ := read
  obtain rfl := Option.some.inj dag_eq
  have metadata_eq := Metadata.roundTrips.field metadata_read
  have operators := Operator.roundTrips.table Uuid.ofString?_toString
  have operators_eq := operators.fieldOr rfl operators_read
  have artifacts := Artifact.roundTrips.table Uuid.ofString?_toString
  have artifacts_eq := artifacts.fieldOr rfl artifacts_read
  simp [ofJson?, toJson, record?, Record.field?, Record.fieldOr?, List.lookup_cons, metadata_eq,
    operators_eq, artifacts_eq]

theorem Edge.roundTrips : RoundTrips toJson ofJson? := by
  refine roundTrips_of_inverse fun edge => ?_
  have kind_eq : name? EdgeKind.names (.str edge.kind.name) = some edge.kind := by
    cases edge.kind <;> rfl
  have place_eq : natBelow? (Nat.pow 2 32) (.ofNat edge.place.toNat) = some edge.place.toNat :=
    natBelow?_ofNat edge.place.toNat_lt
  -- The bound is hidden, so that the power is not computed in unary.
  obtain ⟨bound, bound_eq⟩ : ∃ bound, bound = Nat.pow 2 32 := ⟨_, rfl⟩
  rw [ofJson?]
  rw [← bound_eq] at place_eq ⊢
  simp [toJson, record?, Record.field?, List.lookup_cons, Uuid.ofJson?_toJson, kind_eq, place_eq]

/-! ### Runs and jobs -/

theorem RunPaths.roundTrips : RoundTrips toJson ofJson? := by
  intro written paths read
  simp only [ofJson?, bind, Option.bind_eq_some_iff] at read
  obtain ⟨record, -, operators, operators_read, contents, contents_read, schemas, schemas_read,
    paths_eq⟩ := read
  obtain rfl := Option.some.inj paths_eq
  have table := roundTrips_string.table Uuid.ofString?_toString
  have operators_eq := table.field operators_read
  have contents_eq := table.field contents_read
  have schemas_eq := table.field schemas_read
  simp [ofJson?, toJson, record?, Record.field?, List.lookup_cons, operators_eq, contents_eq,
    schemas_eq]

theorem StorageConfig.roundTrips : RoundTrips toJson ofJson? :=
  roundTrips_of_inverse fun (.file _) => rfl

theorem SecretStoreConfig.roundTrips : RoundTrips toJson ofJson? :=
  roundTrips_of_inverse fun (.file _) => rfl

theorem BackendConfig.roundTrips : RoundTrips toJson ofJson? :=
  roundTrips_of_inverse fun (.process _ _) => rfl

theorem JobSpec.roundTrips : RoundTrips toJson ofJson? := by
  intro written spec read
  obtain ⟨record, -, read⟩ := Option.bind_eq_some_iff.1 read
  obtain ⟨name, -, read⟩ := Option.bind_eq_some_iff.1 read
  obtain ⟨operator, -, read⟩ := Option.bind_eq_some_iff.1 read
  obtain ⟨operatorName, -, read⟩ := Option.bind_eq_some_iff.1 read
  obtain ⟨task, task_read, read⟩ := Option.bind_eq_some_iff.1 read
  obtain ⟨storage, storage_read, read⟩ := Option.bind_eq_some_iff.1 read
  obtain ⟨secrets, secrets_read, read⟩ := Option.bind_eq_some_iff.1 read
  obtain ⟨backend, backend_read, read⟩ := Option.bind_eq_some_iff.1 read
  obtain ⟨metadataPath, -, read⟩ := Option.bind_eq_some_iff.1 read
  obtain ⟨inputContents, inputContents_read, read⟩ := Option.bind_eq_some_iff.1 read
  obtain ⟨inputSchemas, inputSchemas_read, read⟩ := Option.bind_eq_some_iff.1 read
  obtain ⟨outputContents, outputContents_read, read⟩ := Option.bind_eq_some_iff.1 read
  obtain ⟨outputSchemas, outputSchemas_read, spec_eq⟩ := Option.bind_eq_some_iff.1 read
  obtain rfl := Option.some.inj spec_eq
  have task_eq : free? task = some task := roundTrips_free.field task_read
  have storage_eq := StorageConfig.roundTrips.field storage_read
  have secrets_eq := SecretStoreConfig.roundTrips.field secrets_read
  have backend_eq := BackendConfig.roundTrips.field backend_read
  have inputContents_eq := roundTrips_string.list.field inputContents_read
  have inputSchemas_eq := roundTrips_string.list.field inputSchemas_read
  have outputContents_eq := roundTrips_string.list.field outputContents_read
  have outputSchemas_eq := roundTrips_string.list.field outputSchemas_read
  rw [ofJson?, toJson, record?_obj ?nodup ?names_eq]
  case nodup => decide
  case names_eq => rfl
  simp [Record.field?, string?, List.lookup_cons, Uuid.ofJson?_toJson, task_eq, storage_eq,
    secrets_eq, backend_eq, inputContents_eq, inputSchemas_eq, outputContents_eq, outputSchemas_eq]

/-! ### Results -/

/-- Logs, and the description of a column, are tables of texts by name. -/
theorem roundTrips_texts : RoundTrips (ofTable str) (table? some string?) :=
  roundTrips_string.table fun _ => rfl

theorem OperatorMetadata.roundTrips : RoundTrips toJson ofJson? := by
  intro written metadata read
  simp only [ofJson?, bind, Option.bind_eq_some_iff] at read
  obtain ⟨record, -, error, -, logs, logs_read, metadata_eq⟩ := read
  obtain rfl := Option.some.inj metadata_eq
  have logs_eq := roundTrips_texts.fieldOr rfl logs_read
  simp [ofJson?, toJson, record?, Record.fieldOr?, string?, List.lookup_cons, logs_eq]

theorem TableMetadata.roundTrips : RoundTrips toJson ofJson? := by
  intro written metadata read
  simp only [ofJson?, bind, Option.bind_eq_some_iff] at read
  obtain ⟨record, -, schema, schema_read, metadata_eq⟩ := read
  obtain rfl := Option.some.inj metadata_eq
  have schema_eq := roundTrips_texts.list.fieldOr rfl schema_read
  simp [ofJson?, toJson, record?, Record.fieldOr?, schema_eq]

theorem OperatorResult.roundTrips : RoundTrips toJson ofJson? := by
  intro written result read
  simp only [ofJson?, bind, Option.bind_eq_some_iff] at read
  obtain ⟨record, -, status, status_read, logs, logs_read, message, -, result_eq⟩ := read
  obtain rfl := Option.some.inj result_eq
  have status_eq := Status.roundTrips.field status_read
  have logs_eq := roundTrips_texts.field logs_read
  simp [ofJson?, toJson, record?, Record.field?, string?, List.lookup_cons, status_eq, logs_eq]

/-! ### All records -/

/-- Workflows, edges, the paths and jobs of runs, and all metadata and results are read again from
their written forms, whatever they were read from at first. -/
theorem records_lossless :
    Lossless Dag.toJson Dag.ofJson? ∧ Lossless Edge.toJson Edge.ofJson? ∧
      Lossless RunPaths.toJson RunPaths.ofJson? ∧ Lossless JobSpec.toJson JobSpec.ofJson? ∧
        Lossless OperatorMetadata.toJson OperatorMetadata.ofJson? ∧
          Lossless TableMetadata.toJson TableMetadata.ofJson? ∧
            Lossless OperatorResult.toJson OperatorResult.ofJson? :=
  ⟨Dag.roundTrips.lossless, Edge.roundTrips.lossless, RunPaths.roundTrips.lossless,
    JobSpec.roundTrips.lossless, OperatorMetadata.roundTrips.lossless,
    TableMetadata.roundTrips.lossless, OperatorResult.roundTrips.lossless⟩

/-- An edge written as an array with identifiers in other spellings, and metadata of which only an
unknown field is written. -/
theorem records_lossless_spellings :
    Edge.ofJson? (Edge.toJson ⟨.operatorToArtifact, .ofNat 10, .ofNat 11, 3⟩) =
        some ⟨.operatorToArtifact, .ofNat 10, .ofNat 11, 3⟩ ∧
      OperatorMetadata.ofJson? (OperatorMetadata.toJson ⟨"", .empty⟩) = some ⟨"", .empty⟩ := by
  refine ⟨records_lossless.2.1.again
    (.arr [.obj [("operator_to_artifact", .null)],
      .str "\x7b00000000-0000-0000-0000-00000000000A\x7d", .str "0000000000000000000000000000000b",
      .ofNat 3]) _ ?edge,
    records_lossless.2.2.2.2.1.again (.obj [("unknown", .invalid)]) _ ?metadata⟩
  case edge => decide +kernel
  case metadata => decide +kernel

end Workflow
