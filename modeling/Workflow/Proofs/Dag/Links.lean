import Mathlib.Logic.Relation
import Workflow.Dag.Graph
import Workflow.Proofs.Table

/-!
# Links between operators

A producer is linked to a consumer that reads one of its outputs.  The graph of a workflow keeps
every link in both directions, and the search of `Graph.explore` finds exactly what can be reached
over links, so that `mem_descendantsOf` replaces the search by the transitive closure.
-/

namespace Workflow

open Relation

namespace Dag

/-- Some operator known as `producer` writes an artifact that some operator known as `consumer`
reads. -/
def Links (dag : Dag) (producer consumer : Uuid) : Prop :=
  ∃ writer ∈ dag.operators.values, ∃ reader ∈ dag.operators.values,
    writer.id = producer ∧ reader.id = consumer ∧
      ∃ artifact ∈ writer.outputs, artifact ∈ reader.inputs

/-- The identifiers that the operators of a workflow carry. -/
def identifiers (dag : Dag) : List Uuid :=
  dag.operators.values.map Operator.id

theorem Links.producer_mem {dag : Dag} {producer consumer : Uuid}
    (link : dag.Links producer consumer) : producer ∈ dag.identifiers := by
  obtain ⟨writer, writer_mem, _, _, rfl, _⟩ := link
  exact List.mem_map_of_mem writer_mem

theorem Links.consumer_mem {dag : Dag} {producer consumer : Uuid}
    (link : dag.Links producer consumer) : consumer ∈ dag.identifiers := by
  obtain ⟨_, _, reader, reader_mem, _, rfl, _⟩ := link
  exact List.mem_map_of_mem reader_mem

end Dag

namespace Graph

/-- One operator is a predecessor of another. -/
def Link (graph : Graph) (producer consumer : Uuid) : Prop :=
  producer ∈ graph.predecessorsOf consumer

/-- The two directions of a graph agree, each link is kept once, and it joins operators. -/
structure Coherent (graph : Graph) : Prop where
  /-- The successors are the other ends of the links. -/
  mem_successorsOf {producer consumer : Uuid} :
    consumer ∈ graph.successorsOf producer ↔ graph.Link producer consumer
  /-- A predecessor is listed once. -/
  predecessors_nodup (operator : Uuid) : (graph.predecessorsOf operator).Nodup
  /-- A successor is listed once. -/
  successors_nodup (operator : Uuid) : (graph.successorsOf operator).Nodup
  /-- A producer is an operator. -/
  producer_mem {producer consumer : Uuid} (link : graph.Link producer consumer) :
    producer ∈ graph.operators
  /-- A consumer is an operator. -/
  consumer_mem {producer consumer : Uuid} (link : graph.Link producer consumer) :
    consumer ∈ graph.operators

/-! ### The graph of a workflow -/

private theorem mem_inputPairs {dag : Dag} {artifact consumer : Uuid} :
    (artifact, consumer) ∈ inputPairs dag ↔
      ∃ reader ∈ dag.operators.values, artifact ∈ reader.inputs ∧ reader.id = consumer := by
  simp [inputPairs]

private theorem mem_outputPairs {dag : Dag} {artifact producer : Uuid} :
    (artifact, producer) ∈ outputPairs dag ↔
      ∃ writer ∈ dag.operators.values, artifact ∈ writer.outputs ∧ writer.id = producer := by
  simp [outputPairs]

theorem mem_links {dag : Dag} {producer consumer : Uuid} :
    (producer, consumer) ∈ links (Table.group (outputPairs dag)) dag ↔
      dag.Links producer consumer := by
  simp only [links, List.mem_flatMap, Prod.exists, List.mem_map, Prod.mk.injEq, Table.mem_group,
    mem_inputPairs, mem_outputPairs]
  constructor
  · rintro ⟨artifact, _, ⟨reader, reader_mem, reads, rfl⟩, _, ⟨writer, writer_mem, writes, rfl⟩,
      rfl, rfl⟩
    exact ⟨writer, writer_mem, reader, reader_mem, rfl, rfl, artifact, writes, reads⟩
  · rintro ⟨writer, writer_mem, reader, reader_mem, rfl, rfl, artifact, writes, reads⟩
    exact ⟨artifact, _, ⟨reader, reader_mem, reads, rfl⟩, _, ⟨writer, writer_mem, writes, rfl⟩,
      rfl, rfl⟩

private theorem mem_operators_build {dag : Dag} {id : Uuid} :
    id ∈ (build dag).operators ↔ id ∈ dag.identifiers := by
  simp [operators, build, Table.mem_keys_iff, Table.find?_ofList_map, Dag.identifiers]

theorem predecessorsOf_build (dag : Dag) (consumer : Uuid) :
    (build dag).predecessorsOf consumer =
      if consumer ∈ dag.identifiers then
        ascending (((links (Table.group (outputPairs dag)) dag).filter (·.2 == consumer)).map (·.1))
      else [] := by
  simp [predecessorsOf, build, Table.getD_find?_ofList_map, Dag.identifiers]

theorem successorsOf_build (dag : Dag) (producer : Uuid) :
    (build dag).successorsOf producer =
      if producer ∈ dag.identifiers then
        ascending (((links (Table.group (outputPairs dag)) dag).filter (·.1 == producer)).map (·.2))
      else [] := by
  simp [successorsOf, build, Table.getD_find?_ofList_map, Dag.identifiers]

theorem mem_predecessorsOf_build {dag : Dag} {producer consumer : Uuid} :
    producer ∈ (build dag).predecessorsOf consumer ↔ dag.Links producer consumer := by
  rw [predecessorsOf_build]
  split
  · simp [mem_links]
  · rename_i absent
    exact ⟨fun member => absurd member List.not_mem_nil,
      fun link => absurd link.consumer_mem absent⟩

theorem mem_successorsOf_build {dag : Dag} {producer consumer : Uuid} :
    consumer ∈ (build dag).successorsOf producer ↔ dag.Links producer consumer := by
  rw [successorsOf_build]
  split
  · simp [mem_links]
  · rename_i absent
    exact ⟨fun member => absurd member List.not_mem_nil,
      fun link => absurd link.producer_mem absent⟩

/-- The graph of every workflow is coherent, whatever its keys and identifiers are. -/
theorem build_coherent (dag : Dag) : (build dag).Coherent where
  mem_successorsOf := mem_successorsOf_build.trans mem_predecessorsOf_build.symm
  predecessors_nodup consumer := by
    rw [predecessorsOf_build]
    split
    · exact ascending_nodup _
    · exact List.nodup_nil
  successors_nodup producer := by
    rw [successorsOf_build]
    split
    · exact ascending_nodup _
    · exact List.nodup_nil
  producer_mem link := mem_operators_build.2 (mem_predecessorsOf_build.1 link).producer_mem
  consumer_mem link := mem_operators_build.2 (mem_predecessorsOf_build.1 link).consumer_mem

/-! ### The search -/

/-- What the search takes from the unseen operators can be reached from the stack. -/
theorem reachable_of_not_mem_explore {graph : Graph} {unseen stack : List Uuid} {id : Uuid}
    (was_unseen : id ∈ unseen) (seen : id ∉ graph.explore unseen stack) :
    ∃ origin ∈ stack,
      ReflTransGen (fun producer consumer => consumer ∈ graph.successorsOf producer) origin id := by
  fun_induction Graph.explore graph unseen stack with
  | case1 unseen => exact absurd was_unseen seen
  | case2 unseen top stack top_unseen ih =>
      by_cases same : id = top
      · exact ⟨top, List.mem_cons_self, same ▸ .refl⟩
      · obtain ⟨origin, origin_mem, reach⟩ :=
          ih ((List.mem_erase_of_ne same).2 was_unseen) seen
        rcases List.mem_append.1 origin_mem with successor | below
        · exact ⟨top, List.mem_cons_self, .head successor reach⟩
        · exact ⟨origin, List.mem_cons_of_mem _ below, reach⟩
  | case3 unseen top stack _ ih =>
      obtain ⟨origin, origin_mem, reach⟩ := ih was_unseen seen
      exact ⟨origin, List.mem_cons_of_mem _ origin_mem, reach⟩

/-- Every successor of a seen operator is seen or waits on the stack. -/
def Frontier (graph : Graph) (unseen stack : List Uuid) : Prop :=
  ∀ producer, producer ∉ unseen → ∀ consumer ∈ graph.successorsOf producer,
    consumer ∉ unseen ∨ consumer ∈ stack

private theorem Frontier.visit {graph : Graph} {unseen stack : List Uuid} {top : Uuid}
    (nodup : unseen.Nodup) (frontier : graph.Frontier unseen (top :: stack)) :
    graph.Frontier (unseen.erase top) (graph.successorsOf top ++ stack) := by
  intro producer seen consumer successor
  by_cases same : producer = top
  · exact .inr (List.mem_append_left _ (same ▸ successor))
  · have producer_seen : producer ∉ unseen := fun member =>
      seen ((List.mem_erase_of_ne same).2 member)
    rcases frontier producer producer_seen consumer successor with consumer_seen | waiting
    · exact .inl fun member => consumer_seen (List.mem_of_mem_erase member)
    · rcases List.mem_cons.1 waiting with rfl | below
      · exact .inl fun member => (nodup.mem_erase_iff.1 member).1 rfl
      · exact .inr (List.mem_append_right _ below)

private theorem Frontier.skip {graph : Graph} {unseen stack : List Uuid} {top : Uuid}
    (top_seen : top ∉ unseen) (frontier : graph.Frontier unseen (top :: stack)) :
    graph.Frontier unseen stack := by
  intro producer seen consumer successor
  rcases frontier producer seen consumer successor with consumer_seen | waiting
  · exact .inl consumer_seen
  · rcases List.mem_cons.1 waiting with rfl | below
    · exact .inl top_seen
    · exact .inr below

/-- The search leaves nothing unseen that a seen operator or the stack leads to. -/
theorem explore_complete {graph : Graph} {unseen stack : List Uuid} (nodup : unseen.Nodup)
    (frontier : graph.Frontier unseen stack) :
    graph.Frontier (graph.explore unseen stack) [] ∧
      (∀ id ∈ stack, id ∉ graph.explore unseen stack) ∧
      ∀ id ∉ unseen, id ∉ graph.explore unseen stack := by
  fun_induction Graph.explore graph unseen stack with
  | case1 unseen => exact ⟨frontier, by simp, fun _ seen => seen⟩
  | case2 unseen top stack top_unseen ih =>
      obtain ⟨closed, stack_seen, seen⟩ := ih (nodup.erase top) (frontier.visit nodup)
      refine ⟨closed, fun id member => ?_, fun id absent => ?_⟩
      · rcases List.mem_cons.1 member with rfl | below
        · exact seen _ fun member => (nodup.mem_erase_iff.1 member).1 rfl
        · exact stack_seen id (List.mem_append_right _ below)
      · exact seen id fun member => absent (List.mem_of_mem_erase member)
  | case3 unseen top stack top_seen ih =>
      obtain ⟨closed, stack_seen, seen⟩ := ih nodup (frontier.skip top_seen)
      refine ⟨closed, fun id member => ?_, seen⟩
      rcases List.mem_cons.1 member with rfl | below
      · exact seen _ top_seen
      · exact stack_seen id below

/-- The descendants of an operator are what can be reached over one or more links. -/
theorem Coherent.mem_descendantsOf {graph : Graph} (coherent : graph.Coherent)
    {ancestor operator : Uuid} :
    operator ∈ graph.descendantsOf ancestor ↔ TransGen graph.Link ancestor operator := by
  have frontier : graph.Frontier graph.operators (graph.successorsOf ancestor) :=
    fun producer seen consumer successor =>
      absurd (coherent.producer_mem (coherent.mem_successorsOf.1 successor)) seen
  obtain ⟨closed, stack_seen, -⟩ := explore_complete (Table.keys_nodup _) frontier
  simp only [descendantsOf, List.mem_filter, List.contains_eq_mem, Bool.not_eq_true',
    decide_eq_false_iff_not]
  constructor
  · rintro ⟨member, seen⟩
    obtain ⟨origin, successor, reach⟩ := reachable_of_not_mem_explore member seen
    exact .head' (coherent.mem_successorsOf.1 successor)
      (reach.lift id fun _ _ => coherent.mem_successorsOf.1)
  · intro reach
    induction reach with
    | single link =>
        exact ⟨coherent.consumer_mem link, stack_seen _ (coherent.mem_successorsOf.2 link)⟩
    | tail _ link ih =>
        exact ⟨coherent.consumer_mem link,
          (closed _ ih.2 _ (coherent.mem_successorsOf.2 link)).resolve_right List.not_mem_nil⟩

end Graph
end Workflow
