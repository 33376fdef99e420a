import Workflow.Proofs.Dag.Keys
import Workflow.Proofs.Run.Specification
import Workflow.Proofs.Uuid

/-!
# The paths that a run generates

The paths of a run are one identifier after the other from its supply: first those of the operators,
then the contents and the schemas of the artifacts.  So they are as distinct as the supply, and they
cover a workflow whose operators are kept under their own identifiers.
-/

namespace Workflow
namespace RunPaths

variable {fresh : Nat → Uuid} {dag : Dag} {paths : RunPaths}

/-- How many identifiers the paths of a run take from their supply. -/
def demand (dag : Dag) : Nat :=
  dag.operators.size + (dag.artifacts.size + dag.artifacts.size)

section Assign

variable {α : Type} (fresh : Nat → Uuid) (position : Nat) (nodes : Table Uuid α)

theorem map_fst_mapIdx (keys : List Uuid) (path : Nat → String) :
    (keys.mapIdx fun index id => (id, path index)).map Prod.fst = keys := by
  apply List.ext_getElem <;> simp

private theorem entries_assign :
    (assign fresh position nodes).entries =
      nodes.keys.mapIdx fun index id => (id, (fresh (position + index)).toString) := by
  have ascending := nodes.keys_ascending
  rw [← map_fst_mapIdx nodes.keys fun index => (fresh (position + index)).toString] at ascending
  exact Table.entries_ofList (List.pairwise_map.1 ascending) fun _ => .rfl

theorem keys_assign : (assign fresh position nodes).keys = nodes.keys := by
  rw [Table.keys, entries_assign, map_fst_mapIdx]

theorem values_assign :
    (assign fresh position nodes).values =
      (List.range nodes.size).map fun index => (fresh (position + index)).toString := by
  rw [Table.values, entries_assign]
  apply List.ext_getElem <;> simp [Table.keys, Table.size]

end Assign

@[simp]
theorem keys_operatorMetadata_generate (fresh : Nat → Uuid) (dag : Dag) :
    (generate fresh dag).operatorMetadata.keys = dag.operators.keys :=
  keys_assign _ _ _

@[simp]
theorem keys_artifactContent_generate (fresh : Nat → Uuid) (dag : Dag) :
    (generate fresh dag).artifactContent.keys = dag.artifacts.keys :=
  keys_assign _ _ _

@[simp]
theorem keys_artifactMetadata_generate (fresh : Nat → Uuid) (dag : Dag) :
    (generate fresh dag).artifactMetadata.keys = dag.artifacts.keys :=
  keys_assign _ _ _

/-- The paths of a run are its supply in order. -/
theorem all_generate (fresh : Nat → Uuid) (dag : Dag) :
    (generate fresh dag).all =
      (List.range (demand dag)).map fun index => (fresh index).toString := by
  simp only [all, generate, values_assign, demand, List.range_add, List.map_append, List.map_map]
  simp [Function.comp_def, Nat.add_assoc]

theorem nodup_all_generate (distinct : ((List.range (demand dag)).map fresh).Nodup) :
    (generate fresh dag).all.Nodup := by
  have written := distinct.map Uuid.toString_injective
  rwa [List.map_map, Function.comp_def, ← all_generate] at written

theorem covers_generate (keyed : dag.OperatorsKeyed) : (generate fresh dag).Covers dag where
  operators operator member := by
    obtain ⟨key, found⟩ := Table.mem_values_iff.1 member
    rw [keys_operatorMetadata_generate, Dag.operatorsKeyed_iff.1 keyed key operator found]
    exact Table.mem_keys_iff.2 ⟨operator, found⟩
  contents artifact member := by rwa [keys_artifactContent_generate]
  schemas artifact member := by rwa [keys_artifactMetadata_generate]

end RunPaths
end Workflow
