import Workflow.Proofs.Dag.Sorting
import Workflow.Proofs.Run.Attempt
import Workflow.Run.Execution

/-!
# The paths of a job

The specification of a job is made of paths of its run, and only a missing path keeps it from being
built.  Nothing is missing for an accepted workflow whose nodes are covered.
-/

namespace Workflow

theorem ensures_mapM {ε α β : Type} {items : List α} {action : α → Except ε β}
    {good : α → β → Prop} {bad : ε → Prop}
    (each : ∀ item ∈ items, Ensures (good item) bad (action item)) :
    Ensures (List.Forall₂ good items) bad (items.mapM action) := by
  induction items with
  | nil => exact .nil
  | cons item items ih =>
      rw [List.mapM_cons]
      refine (each item List.mem_cons_self).bind fun first first_good => ?_
      refine (ih fun other member => each other (List.mem_cons_of_mem _ member)).bind
        fun rest rest_good => ?_
      exact .cons first_good rest_good

namespace RunPaths

/-- Every operator and artifact of a workflow has its paths. -/
structure Covers (paths : RunPaths) (dag : Dag) : Prop where
  /-- Each operator has a path for its metadata. -/
  operators : ∀ operator ∈ dag.operators.values, operator.id ∈ paths.operatorMetadata.keys
  /-- Each artifact has a path for its content. -/
  contents : ∀ artifact ∈ dag.artifacts.keys, artifact ∈ paths.artifactContent.keys
  /-- Each artifact has a path for its schema. -/
  schemas : ∀ artifact ∈ dag.artifacts.keys, artifact ∈ paths.artifactMetadata.keys

/-- Some paths are those of some nodes, one after the other. -/
def Listed (paths : Table Uuid String) : List Uuid → List String → Prop :=
  List.Forall₂ fun id path => paths.find? id = some path

theorem Listed.subset_values {paths : Table Uuid String} {ids : List Uuid} {listed : List String}
    (lists : Listed paths ids listed) : listed ⊆ paths.values := by
  induction lists with
  | nil => exact List.nil_subset _
  | cons found _ ih => exact List.cons_subset.2 ⟨Table.mem_values_iff.2 ⟨_, found⟩, ih⟩

theorem lookUp_ensures (paths : Table Uuid String) (id : Uuid) :
    Ensures (fun path => paths.find? id = some path)
      (fun fault => fault = .missingStoragePath id ∧ id ∉ paths.keys) (lookUp paths id) := by
  unfold lookUp
  cases found_eq : paths.find? id with
  | none => exact ⟨rfl, by simp [Table.mem_keys_iff, found_eq]⟩
  | some path => exact rfl

end RunPaths

namespace JobSpec

variable {ω : Type} {settings : RunSettings ω} {paths : RunPaths} {id : Uuid}

/-- The paths at which a job is to write. -/
def writable (spec : JobSpec) : List String :=
  spec.metadataPath :: (spec.outputContentPaths ++ spec.outputMetadataPaths)

/-- The paths that a job is told. -/
def allPaths (spec : JobSpec) : List String :=
  spec.metadataPath :: (spec.inputContentPaths ++ spec.inputMetadataPaths) ++
    (spec.outputContentPaths ++ spec.outputMetadataPaths)

theorem writable_subset_allPaths (spec : JobSpec) : spec.writable ⊆ spec.allPaths := by
  intro path member
  simp only [writable, allPaths, List.mem_cons, List.mem_append] at member ⊢
  tauto

/-- A path is missing for an operator or for one of its artifacts. -/
def Lacks (paths : RunPaths) (operator : Operator) (node : Uuid) : Prop :=
  node = operator.id ∧ node ∉ paths.operatorMetadata.keys ∨
    node ∈ operator.inputs ++ operator.outputs ∧
      (node ∉ paths.artifactContent.keys ∨ node ∉ paths.artifactMetadata.keys)

/-- A specification names the paths that a run has for an operator and its artifacts. -/
structure Locates (spec : JobSpec) (paths : RunPaths) (operator : Operator) : Prop where
  /-- Where the metadata of the operator is. -/
  metadata : paths.operatorMetadata.find? operator.id = some spec.metadataPath
  /-- Where the contents of its inputs are. -/
  inputContents : RunPaths.Listed paths.artifactContent operator.inputs spec.inputContentPaths
  /-- Where the schemas of its inputs are. -/
  inputSchemas : RunPaths.Listed paths.artifactMetadata operator.inputs spec.inputMetadataPaths
  /-- Where the contents of its outputs are. -/
  outputContents : RunPaths.Listed paths.artifactContent operator.outputs spec.outputContentPaths
  /-- Where the schemas of its outputs are. -/
  outputSchemas : RunPaths.Listed paths.artifactMetadata operator.outputs spec.outputMetadataPaths

/-- A specification says what its operator does and where, and none is built only if a path is
missing. -/
theorem build_locates (settings : RunSettings ω) (paths : RunPaths) (id : Uuid)
    (operator : Operator) :
    Ensures
      (fun spec => spec.operator = operator.id ∧ spec.task = operator.task.toJson.canonical ∧
        spec.Locates paths operator)
      (fun fault => ∃ node, fault = .missingStoragePath node ∧ Lacks paths operator node)
      (build settings paths id operator) := by
  have content (artifact : Uuid) (member : artifact ∈ operator.inputs ++ operator.outputs) :=
    (RunPaths.lookUp_ensures paths.artifactContent artifact).mono_error
      fun _ ⟨fault_eq, absent⟩ => (⟨artifact, fault_eq, .inr ⟨member, .inl absent⟩⟩ :
        ∃ node, _ = Fault.missingStoragePath node ∧ Lacks paths operator node)
  have schema (artifact : Uuid) (member : artifact ∈ operator.inputs ++ operator.outputs) :=
    (RunPaths.lookUp_ensures paths.artifactMetadata artifact).mono_error
      fun _ ⟨fault_eq, absent⟩ => (⟨artifact, fault_eq, .inr ⟨member, .inr absent⟩⟩ :
        ∃ node, _ = Fault.missingStoragePath node ∧ Lacks paths operator node)
  have own := (RunPaths.lookUp_ensures paths.operatorMetadata operator.id).mono_error
    fun _ ⟨fault_eq, absent⟩ =>
      (⟨operator.id, fault_eq, .inl ⟨rfl, absent⟩⟩ :
        ∃ node, _ = Fault.missingStoragePath node ∧ Lacks paths operator node)
  have input {artifact : Uuid} (member : artifact ∈ operator.inputs) :=
    List.mem_append_left operator.outputs member
  have output {artifact : Uuid} (member : artifact ∈ operator.outputs) :=
    List.mem_append_right operator.inputs member
  refine own.bind fun _ metadata => ?_
  refine (ensures_mapM fun artifact member => content artifact (input member)).bind
    fun _ inputContents => ?_
  refine (ensures_mapM fun artifact member => schema artifact (input member)).bind
    fun _ inputSchemas => ?_
  refine (ensures_mapM fun artifact member => content artifact (output member)).bind
    fun _ outputContents => ?_
  refine (ensures_mapM fun artifact member => schema artifact (output member)).bind
    fun _ outputSchemas => ?_
  exact ⟨rfl, rfl, metadata, inputContents, inputSchemas, outputContents, outputSchemas⟩

theorem build_names (settings : RunSettings ω) (paths : RunPaths) (id : Uuid)
    (operator : Operator) :
    Ensures (fun spec => spec.name = jobName operator id ∧ spec.operatorName = operator.name)
      (fun _ => True) (build settings paths id operator) :=
  (ensures_true _).bind fun _ _ => (ensures_true _).bind fun _ _ => (ensures_true _).bind fun _ _ =>
    (ensures_true _).bind fun _ _ => (ensures_true _).bind fun _ _ => ⟨rfl, rfl⟩

theorem Locates.subset_all {spec : JobSpec} {operator : Operator}
    (locates : spec.Locates paths operator) : spec.allPaths ⊆ paths.all := by
  have metadata := Table.mem_values_iff.2 ⟨_, locates.metadata⟩
  have inputContents := locates.inputContents.subset_values
  have inputSchemas := locates.inputSchemas.subset_values
  have outputContents := locates.outputContents.subset_values
  have outputSchemas := locates.outputSchemas.subset_values
  intro path member
  simp only [allPaths, RunPaths.all, List.mem_cons, List.mem_append] at member ⊢
  grind

/-- A job writes only at paths of its run, and no specification is built only if a path is
missing. -/
theorem build_ensures (settings : RunSettings ω) (paths : RunPaths) (id : Uuid)
    (operator : Operator) :
    Ensures (fun spec => spec.operator = operator.id ∧ spec.writable ⊆ paths.all)
      (fun fault => ∃ node, fault = .missingStoragePath node ∧ Lacks paths operator node)
      (build settings paths id operator) :=
  (build_locates settings paths id operator).mono_value fun spec ⟨operator_eq, _, locates⟩ =>
    ⟨operator_eq, List.Subset.trans spec.writable_subset_allPaths locates.subset_all⟩

/-- Nothing is missing for an operator of an accepted workflow whose nodes are covered. -/
theorem not_lacks {dag : Dag} {order : List Uuid} (accepted : dag.executionOrder = .ok order)
    (covers : paths.Covers dag) {operator : Operator} (member : operator ∈ dag.operators.values)
    (node : Uuid) : ¬Lacks paths operator node := by
  obtain ⟨_, defined, _⟩ := Dag.executionOrder_eq_ok_iff.1 accepted
  simp only [Dag.referencesDefined, List.all_eq_true, Table.contains_iff] at defined
  rintro (⟨rfl, absent⟩ | ⟨mentioned, absent | absent⟩)
  · exact absent (covers.operators operator member)
  · exact absent (covers.contents node (defined operator member node mentioned))
  · exact absent (covers.schemas node (defined operator member node mentioned))

/-- Every operator of an accepted workflow whose nodes are covered has a specification. -/
theorem exists_build {dag : Dag} {order : List Uuid} (accepted : dag.executionOrder = .ok order)
    (covers : paths.Covers dag) {operator : Operator} (member : operator ∈ dag.operators.values)
    (settings : RunSettings ω) (id : Uuid) :
    ∃ spec, build settings paths id operator = .ok spec := by
  have located := build_locates settings paths id operator
  cases built : build settings paths id operator with
  | ok spec => exact ⟨spec, rfl⟩
  | error fault =>
      obtain ⟨node, _, lacks⟩ := located.of_eq_error built
      exact absurd lacks (not_lacks accepted covers member node)

end JobSpec
end Workflow
