import Workflow.Dag.Edge
import Workflow.Dag.Order
import Workflow.Proofs.Dag.Links

/-!
# Operators under their own identifiers

A workflow that is built from its parts or from edges keeps every operator under the identifier
that it carries.  In such a workflow the links of the graph join the keys of operators that feed one
another.
-/

namespace Workflow
namespace Dag

/-- Every operator is kept under the identifier that it carries. -/
def OperatorsKeyed (dag : Dag) : Prop :=
  ∀ entry ∈ dag.operators.entries, entry.2.id = entry.1

instance (dag : Dag) : Decidable dag.OperatorsKeyed :=
  inferInstanceAs (Decidable (∀ entry ∈ dag.operators.entries, entry.2.id = entry.1))

/-- The operator under one key writes an artifact that the operator under another reads. -/
def Feeds (dag : Dag) (producer consumer : Uuid) : Prop :=
  ∃ writer reader, dag.operators.find? producer = some writer ∧
    dag.operators.find? consumer = some reader ∧
      ∃ artifact ∈ writer.outputs, artifact ∈ reader.inputs

theorem Feeds.producer_mem {dag : Dag} {producer consumer : Uuid}
    (feeds : dag.Feeds producer consumer) : producer ∈ dag.operators.keys := by
  obtain ⟨writer, _, found, _⟩ := feeds
  exact Table.mem_keys_iff.2 ⟨writer, found⟩

theorem operatorsKeyed_iff {dag : Dag} :
    dag.OperatorsKeyed ↔
      ∀ key operator, dag.operators.find? key = some operator → operator.id = key := by
  simp only [OperatorsKeyed, Prod.forall, Table.mem_entries_iff]

/-- Between operators under their own identifiers, links are what feeds. -/
theorem OperatorsKeyed.links_iff_feeds {dag : Dag} (keyed : dag.OperatorsKeyed)
    {producer consumer : Uuid} : dag.Links producer consumer ↔ dag.Feeds producer consumer := by
  have id_eq := operatorsKeyed_iff.1 keyed
  constructor
  · rintro ⟨writer, writer_mem, reader, reader_mem, rfl, rfl, shared⟩
    obtain ⟨writer_key, writer_found⟩ := Table.mem_values_iff.1 writer_mem
    obtain ⟨reader_key, reader_found⟩ := Table.mem_values_iff.1 reader_mem
    obtain rfl := id_eq _ _ writer_found
    obtain rfl := id_eq _ _ reader_found
    exact ⟨writer, reader, writer_found, reader_found, shared⟩
  · rintro ⟨writer, reader, writer_found, reader_found, shared⟩
    exact ⟨writer, Table.mem_values_iff.2 ⟨_, writer_found⟩, reader,
      Table.mem_values_iff.2 ⟨_, reader_found⟩, id_eq _ _ writer_found, id_eq _ _ reader_found,
      shared⟩

/-- Between operators under their own identifiers, the links of the graph are what feeds. -/
theorem OperatorsKeyed.link_eq_feeds {dag : Dag} (keyed : dag.OperatorsKeyed) :
    (Graph.build dag).Link = dag.Feeds := by
  funext producer consumer
  exact propext (Graph.mem_predecessorsOf_build.trans keyed.links_iff_feeds)

/-! ### Workflows that are built -/

theorem find?_keyedOperators_id {operators : List Operator} {key : Uuid} {operator : Operator}
    (found : (keyedOperators operators).find? key = some operator) : operator.id = key := by
  rw [keyedOperators, Table.find?_ofList] at found
  have member := List.mem_reverse.1 (Table.mem_of_entryAt? found)
  obtain ⟨given, _, pair_eq⟩ := List.mem_map.1 member
  obtain ⟨rfl, rfl⟩ := Prod.mk.inj pair_eq
  rfl

/-- A workflow that is built from its parts keeps its operators under their own identifiers. -/
theorem operatorsKeyed_ofParts (metadata : Metadata) (operators : List Operator)
    (artifacts : List Artifact) : (ofParts metadata operators artifacts).OperatorsKeyed :=
  operatorsKeyed_iff.2 fun _ _ => find?_keyedOperators_id

@[simp]
theorem id_attach (operator : Operator) (edge : Edge) :
    (operator.attach edge).id = operator.id := by
  unfold Operator.attach
  split <;> rfl

private theorem find?_foldlM_attachEdge_id {edges : List Edge} {before after : Table Uuid Operator}
    (keyed : ∀ key operator, before.find? key = some operator → operator.id = key)
    (attached : edges.foldlM attachEdge before = .ok after) :
    ∀ key operator, after.find? key = some operator → operator.id = key := by
  induction edges generalizing before with
  | nil =>
      obtain rfl : before = after := by simpa [pure, Except.pure] using attached
      exact keyed
  | cons edge edges ih =>
      rw [List.foldlM_cons, attachEdge] at attached
      split at attached
      · simp [bind, Except.bind] at attached
      · rename_i target target_found
        refine ih (fun key operator found => ?_) attached
        rw [Table.find?_insert] at found
        split at found
        · rename_i key_eq
          obtain rfl := Option.some.inj found
          rw [id_attach, keyed _ _ target_found, key_eq]
        · exact keyed key operator found

/-- A workflow that is built from edges keeps its operators under their own identifiers. -/
theorem operatorsKeyed_ofEdges {metadata : Metadata} {operators : List Operator}
    {artifacts : List Artifact} {edges : List Edge} {dag : Dag}
    (built : ofEdges metadata operators artifacts edges = .ok dag) : dag.OperatorsKeyed := by
  unfold ofEdges at built
  simp only [bind, Except.bind] at built
  split at built
  · simp at built
  · rename_i table attached
    obtain rfl : (⟨metadata, table, keyedArtifacts artifacts⟩ : Dag) = dag := by
      simpa [pure, Except.pure] using built
    exact operatorsKeyed_iff.2
      (find?_foldlM_attachEdge_id (fun _ _ => find?_keyedOperators_id) attached)

/-- A workflow of functions, each with its identifier, inputs and outputs; the artifacts are the
outputs. -/
def ofFunctions (functions : List (Nat × List Nat × List Nat)) : Dag :=
  ofParts ⟨.nil, "", ⟨⟨2024, 1, 1⟩, 0, 0⟩⟩
    (functions.map fun (id, inputs, outputs) =>
      ⟨.ofNat id, "", "", .function ⟨"", ""⟩, inputs.map .ofNat, outputs.map .ofNat⟩)
    (functions.flatMap fun (_, _, outputs) => outputs.map fun id => ⟨.ofNat id, "", "", .json⟩)

/-- Two sources whose outputs are joined, and a sink that reads the join. -/
def join : Dag :=
  ofFunctions [(1, [], [101]), (2, [], [102]), (3, [101, 102], [103]), (4, [103], [])]

theorem executionOrder_join :
    join.executionOrder = .ok [.ofNat 1, .ofNat 2, .ofNat 3, .ofNat 4] := by
  decide

/-- Two operators that wait for each other. -/
def ring : Dag :=
  ofFunctions [(1, [102], [101]), (2, [101], [102])]

/-- Two operators that write one artifact; a third one reads what only the second of them writes. -/
def shared : Dag :=
  ofFunctions [(1, [], [101]), (2, [], [101, 102]), (3, [102], [103])]

end Dag
end Workflow
