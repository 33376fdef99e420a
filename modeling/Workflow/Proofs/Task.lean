import Workflow.Dag
import Workflow.Proofs.Json
import Workflow.Proofs.Uuid

/-!
# Tasks in specifications

A specification carries the task of its operator in canonical form, where the fields are in
ascending order.  The task is read back from that form, and no other kind of task is.
-/

namespace Workflow

theorem Uuid.ofJson?_toJson (id : Uuid) : ofJson? id.toJson = some id :=
  id.ofString?_toString

namespace Connector

private theorem canonical_toJson (connector : Connector) :
    connector.toJson.canonical =
      .obj [("integration_id", connector.integration.toJson),
        ("parameters", connector.parameters.canonical), ("service", .str connector.service)] := by
  refine Json.canonical_obj ?ascending fun field => ?same
  case ascending =>
    change ["integration_id", "parameters", "service"].Pairwise _
    decide
  case same =>
    simp only [Json.canonicalFields, Uuid.toJson, Json.canonical, List.mem_cons]
    tauto

/-- A connector with free parameters is read back from its canonical form. -/
theorem ofJson?_canonical_toJson {connector : Connector} (free : connector.parameters.Free) :
    ofJson? connector.toJson.canonical = some connector := by
  rw [canonical_toJson, free.canonical, ofJson?]
  simp [Json.record?, Json.Record.field?, Json.Record.fieldOr?, Json.string?, List.lookup_cons,
    Uuid.ofJson?_toJson, free.free?_eq]

/-- The parameters of a connector that was read are free. -/
theorem free_of_ofJson? {value : Json} {connector : Connector}
    (read : ofJson? value = some connector) : connector.parameters.Free := by
  simp only [ofJson?, bind, Option.bind_eq_some_iff] at read
  obtain ⟨record, _, _, _, _, _, parameters, parameters_eq, connector_eq⟩ := read
  obtain rfl := Option.some.inj connector_eq
  unfold Json.Record.fieldOr? at parameters_eq
  split at parameters_eq
  · obtain rfl := Option.some.inj parameters_eq
    exact Json.free_null
  · exact Json.free_of_free? parameters_eq

end Connector

namespace Task

/-- How the outside service of a task is reached, if there is one. -/
def connector? : Task → Option Connector
  | extract connector | load connector => some connector
  | function _ | metric _ | check _ _ => none

theorem isLoad_iff_name {task : Task} : task.isLoad = true ↔ task.name = "load" := by
  cases task <;> simp [isLoad, name]

/-- The parameters for the outside service are free, as they are in any task that was read. -/
def Free (task : Task) : Prop :=
  ∀ connector ∈ task.connector?, connector.parameters.Free

/-- The fields of a task beside its tag as its canonical form has them. -/
def sortedFields : Task → List (String × Json)
  | function code | metric code =>
      [("entry_point", .str code.entryPoint), ("storage_path", .str code.storagePath)]
  | check code level =>
      [("entry_point", .str code.entryPoint), ("level", level.toJson),
        ("storage_path", .str code.storagePath)]
  | extract connector | load connector => [("connector", connector.toJson.canonical)]

private theorem ascending_sortedFields (task : Task) :
    ((task.sortedFields ++ [(Json.tagName, Json.str task.name)]).map Prod.fst).Pairwise
      fun first second => compare first second = .lt := by
  rw [List.map_append]
  cases task with
  | function | metric =>
      change ["entry_point", "storage_path", "type"].Pairwise _
      decide
  | check =>
      change ["entry_point", "level", "storage_path", "type"].Pairwise _
      decide
  | extract | load =>
      change ["connector", "type"].Pairwise _
      decide

private theorem canonical_toJson (task : Task) :
    task.toJson.canonical = .obj (task.sortedFields ++ [(Json.tagName, .str task.name)]) := by
  refine Json.canonical_obj task.ascending_sortedFields fun field => ?_
  cases task <;>
  · simp only [fields, Code.fields, sortedFields, CheckLevel.toJson, List.cons_append,
      List.nil_append, Json.canonicalFields, Json.canonical, List.mem_cons]
    tauto

private theorem tagged?_canonical_toJson (task : Task) :
    Json.tagged? task.toJson.canonical =
      if Json.readableFields task.sortedFields then some (task.name, .obj task.sortedFields)
      else none := by
  rw [canonical_toJson]
  refine Json.tagged?_concat task.name fun field member => ?_
  have ascending := List.pairwise_append.1 (List.pairwise_map.1 task.ascending_sortedFields)
  exact Table.ne_of_compare_lt (ascending.2.2 field member _ List.mem_cons_self)

/-- A task is read under its own name, with the connector under its field. -/
theorem tagged?_of_ofJson? {value : Json} {task : Task} (read : ofJson? value = some task) :
    ∃ rest, Json.tagged? value = some (task.name, rest) ∧
      ∀ connector ∈ task.connector?, connectorOf? rest = some connector := by
  simp only [ofJson?, bind, Option.bind_eq_some_iff] at read
  obtain ⟨⟨tag, rest⟩, tagged, read⟩ := read
  dsimp only at read
  split at read
  · obtain ⟨code, _, rfl⟩ := Option.map_eq_some_iff.1 read
    exact ⟨rest, tagged, by simp [connector?]⟩
  · obtain ⟨code, _, rfl⟩ := Option.map_eq_some_iff.1 read
    exact ⟨rest, tagged, by simp [connector?]⟩
  · simp only [checkOf?, bind, Option.bind_eq_some_iff] at read
    obtain ⟨_, _, code, _, level, _, task_eq⟩ := read
    obtain rfl := Option.some.inj task_eq
    exact ⟨rest, tagged, by simp [connector?]⟩
  · obtain ⟨connector, connector_eq, rfl⟩ := Option.map_eq_some_iff.1 read
    exact ⟨rest, tagged, fun other same => Option.some.inj same ▸ connector_eq⟩
  · obtain ⟨connector, connector_eq, rfl⟩ := Option.map_eq_some_iff.1 read
    exact ⟨rest, tagged, fun other same => Option.some.inj same ▸ connector_eq⟩
  · exact nomatch read

/-- The canonical form of a task reads as no other kind of task. -/
theorem name_of_ofJson?_canonical_toJson {task other : Task}
    (read : ofJson? task.toJson.canonical = some other) : other.name = task.name := by
  obtain ⟨rest, tagged, _⟩ := tagged?_of_ofJson? read
  rw [tagged?_canonical_toJson] at tagged
  split at tagged
  · exact (Prod.mk.inj (Option.some.inj tagged)).1.symm
  · exact nomatch tagged

/-- A task that was read is free. -/
theorem free_of_ofJson? {value : Json} {task : Task} (read : ofJson? value = some task) :
    task.Free := by
  obtain ⟨rest, _, transfers⟩ := tagged?_of_ofJson? read
  intro connector member
  have read := transfers connector member
  simp only [connectorOf?, bind, Option.bind_eq_some_iff, Json.Record.field?] at read
  obtain ⟨_, _, value, _, connector_read⟩ := read
  exact Connector.free_of_ofJson? connector_read

private theorem Free.readableFields_sortedFields {task : Task} (free : task.Free) :
    Json.readableFields task.sortedFields = true := by
  cases task with
  | function | metric => rfl
  | check => rfl
  | extract connector | load connector =>
      have free := free connector rfl
      simp [sortedFields, Connector.canonical_toJson, Json.readableFields, Json.readable,
        Uuid.toJson, free.canonical, free.readable]

/-- A free task is read back from its canonical form. -/
theorem ofJson?_canonical_toJson {task : Task} (free : task.Free) :
    ofJson? task.toJson.canonical = some task := by
  rw [ofJson?, tagged?_canonical_toJson, if_pos free.readableFields_sortedFields]
  cases task with
  | function | metric => rfl
  | check code level => cases level <;> rfl
  | extract connector | load connector =>
      have read := Connector.ofJson?_canonical_toJson (free connector rfl)
      simp [name, sortedFields, connectorOf?, Json.record?, Json.Record.field?, read]

end Task

theorem Operator.free_of_ofJson? {value : Json} {operator : Operator}
    (read : ofJson? value = some operator) : operator.task.Free := by
  simp only [ofJson?, bind, Option.bind_eq_some_iff, Json.Record.field?] at read
  obtain ⟨_, _, _, _, _, _, _, _, task, ⟨_, _, task_read⟩, _, _, _, _, operator_eq⟩ := read
  obtain rfl := Option.some.inj operator_eq
  exact Task.free_of_ofJson? task_read

/-- Every task of a workflow that was read is free. -/
theorem Dag.free_of_ofJson? {value : Json} {dag : Dag} (read : ofJson? value = some dag) :
    ∀ operator ∈ dag.operators.values, operator.task.Free := by
  simp only [ofJson?, bind, Option.bind_eq_some_iff] at read
  obtain ⟨record, _, _, _, operators, operators_read, _, _, dag_eq⟩ := read
  obtain rfl := Option.some.inj dag_eq
  intro operator member
  unfold Json.Record.fieldOr? at operators_read
  split at operators_read
  · obtain rfl := Option.some.inj operators_read
    simp [Table.empty, Table.values] at member
  · obtain ⟨_, operator_read⟩ := Json.exists_of_mem_values_table? operators_read member
    exact Operator.free_of_ofJson? operator_read

end Workflow
