import Workflow.Proofs.Dag.Validation

/-!
# Producers come first

The order of an accepted workflow puts whatever is linked to an operator before it.  Links join the
identifiers that operators carry, so this says something about the operators under two keys only
where both carry their keys; `producers_first` states it for these.  Operators that are kept under
other identifiers can wait for each other and be accepted, as `executionOrder_misfiledRing` shows.
-/

namespace Workflow

open Relation

private theorem Graph.Topological.sublist {graph : Graph} {order : List Uuid}
    {producer consumer : Uuid} (topological : graph.Topological order) (member : consumer ∈ order)
    (link : graph.Link producer consumer) : [producer, consumer].Sublist order := by
  obtain ⟨before, after, rfl⟩ := List.append_of_mem member
  have earlier : producer ∈ before := topological before consumer after rfl producer link
  exact (List.singleton_sublist.2 earlier).append (List.singleton_sublist.2 List.mem_cons_self)

namespace Dag

/-- The operator under a key carries it. -/
def CarriesKey (dag : Dag) (key : Uuid) : Prop :=
  (dag.operators.find? key).map Operator.id = some key

private theorem Feeds.links {dag : Dag} {producer consumer : Uuid}
    (feeds : dag.Feeds producer consumer) (producer_key : dag.CarriesKey producer)
    (consumer_key : dag.CarriesKey consumer) :
    dag.Links producer consumer := by
  obtain ⟨writer, reader, writer_found, reader_found, shared⟩ := feeds
  have writer_id : writer.id = producer := by simpa [CarriesKey, writer_found] using producer_key
  have reader_id : reader.id = consumer := by simpa [CarriesKey, reader_found] using consumer_key
  exact ⟨writer, Table.mem_values_iff.2 ⟨producer, writer_found⟩, reader,
    Table.mem_values_iff.2 ⟨consumer, reader_found⟩, writer_id, reader_id, shared⟩

theorem Feeds.consumer_mem {dag : Dag} {producer consumer : Uuid}
    (feeds : dag.Feeds producer consumer) : consumer ∈ dag.operators.keys := by
  obtain ⟨_, reader, _, found, _⟩ := feeds
  exact Table.mem_keys_iff.2 ⟨reader, found⟩

/-- The order of an accepted workflow puts whatever is linked to an operator before it, and nothing
in it is linked to itself over any number of links.  If the operators that feed one another carry
their keys, then none of them feeds itself in this way, and each stands before those that it
feeds. -/
theorem producers_first {dag : Dag} {order : List Uuid}
    (accepted : dag.executionOrder = .ok order) :
    (∀ producer consumer, dag.Links producer consumer → consumer ∈ order →
      [producer, consumer].Sublist order) ∧
    (∀ operator ∈ order, ¬TransGen dag.Links operator operator) ∧
    ((∀ producer consumer, dag.Feeds producer consumer →
        dag.CarriesKey producer ∧ dag.CarriesKey consumer) →
      (∀ key, ¬TransGen dag.Feeds key key) ∧
        ∀ producer consumer, dag.Feeds producer consumer →
          [producer, consumer].Sublist order) := by
  have topological := topological_of_executionOrder accepted
  have keys_perm := perm_keys_of_executionOrder accepted
  have link_eq : (Graph.build dag).Link = dag.Links := by
    funext producer consumer
    exact propext Graph.mem_predecessorsOf_build
  have acyclic : ∀ operator ∈ order, ¬TransGen dag.Links operator operator :=
    link_eq ▸ topological.acyclic
  have before {producer consumer : Uuid} (link : dag.Links producer consumer)
      (member : consumer ∈ order) : [producer, consumer].Sublist order :=
    topological.sublist member (Graph.mem_predecessorsOf_build.2 link)
  refine ⟨fun _ _ => before, acyclic, fun keyed => ?_⟩
  have links {producer consumer : Uuid} (feeds : dag.Feeds producer consumer) :
      dag.Links producer consumer :=
    feeds.links (keyed _ _ feeds).1 (keyed _ _ feeds).2
  refine ⟨fun key cycle => ?_, fun producer consumer feeds => ?_⟩
  · obtain ⟨next, feeds, _⟩ := TransGen.head'_iff.1 cycle
    exact acyclic key (keys_perm.mem_iff.2 feeds.producer_mem) (cycle.lift id fun _ _ => links)
  · exact before (links feeds) (keys_perm.mem_iff.2 feeds.consumer_mem)

/-- In a join the sink comes after the operator that it reads from. -/
theorem producers_first_join :
    join.executionOrder = .ok [.ofNat 1, .ofNat 2, .ofNat 3, .ofNat 4] ∧
      join.Links (.ofNat 3) (.ofNat 4) ∧
      [Uuid.ofNat 3, .ofNat 4].Sublist [.ofNat 1, .ofNat 2, .ofNat 3, .ofNat 4] := by
  have link : join.Links (.ofNat 3) (.ofNat 4) :=
    Graph.mem_predecessorsOf_build.1 (by decide)
  exact ⟨executionOrder_join, link,
    (producers_first executionOrder_join).1 (.ofNat 3) (.ofNat 4) link (by decide)⟩

/-- Two operators that wait for each other, each kept under an identifier that neither carries. -/
def misfiledRing : Dag :=
  { ring with
    operators := ring.operators.map fun key operator =>
      { operator with id := .ofNat (key.value.val + 10) } }

/-- Operators that feed each other are accepted when neither carries its key. -/
theorem executionOrder_misfiledRing :
    misfiledRing.executionOrder = .ok [.ofNat 1, .ofNat 2] ∧
      misfiledRing.Feeds (.ofNat 1) (.ofNat 2) ∧ misfiledRing.Feeds (.ofNat 2) (.ofNat 1) ∧
      TransGen misfiledRing.Feeds (.ofNat 1) (.ofNat 1) ∧
      ¬[Uuid.ofNat 2, .ofNat 1].Sublist [.ofNat 1, .ofNat 2] := by
  have forth : misfiledRing.Feeds (.ofNat 1) (.ofNat 2) :=
    ⟨_, _, rfl, rfl, .ofNat 101, by decide, by decide⟩
  have back : misfiledRing.Feeds (.ofNat 2) (.ofNat 1) :=
    ⟨_, _, rfl, rfl, .ofNat 102, by decide, by decide⟩
  exact ⟨by decide, forth, back, .tail (.single forth) back, by decide⟩

end Dag
end Workflow
