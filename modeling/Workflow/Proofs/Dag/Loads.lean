import Workflow.Dag.Plan
import Workflow.Proofs.Dag.Least
import Workflow.Proofs.Dag.Validation
import Workflow.Proofs.Task

/-!
# Workflows without their loads

Loads that write nothing are sinks of the graph.  To drop sinks takes no link away from the
operators that remain, so these wait for the same producers as before, and where the sort had a
choice its choices among them are the same.  The order that remains is therefore the old one without
the loads, and `plan_of_sinks` says the same of the plans.
-/

namespace Workflow

/-! ### Graphs without some sinks -/

private theorem exists_split_of_filter {α : Type} {keep : α → Bool} {items before after : List α}
    {item : α} (split : items.filter keep = before ++ item :: after) :
    ∃ front back, items = front ++ item :: back ∧ front.filter keep = before ∧
      keep item = true := by
  obtain ⟨first, second, rfl, first_eq, second_eq⟩ := List.filter_eq_append_iff.1 split
  obtain ⟨dropped, back, rfl, all_dropped, kept, _⟩ := List.filter_eq_cons_iff.1 second_eq
  refine ⟨first ++ dropped, back, (List.append_assoc ..).symm, ?_, kept⟩
  rw [List.filter_append, first_eq, List.filter_eq_nil_iff.2 all_dropped, List.append_nil]

namespace Graph

variable {graph pruned : Graph} {keep : Uuid → Bool} {operators order sorted : List Uuid}

/-- One graph is another one without some operators that nothing reads from. -/
structure Prunes (graph pruned : Graph) (keep : Uuid → Bool) : Prop where
  /-- The links to the operators that remain are the same. -/
  link_iff (producer consumer : Uuid) :
    pruned.Link producer consumer ↔ graph.Link producer consumer ∧ keep consumer = true
  /-- Every producer remains. -/
  keeps {producer consumer : Uuid} (link : graph.Link producer consumer) : keep producer = true

private theorem Prunes.topological (prunes : graph.Prunes pruned keep)
    (topological : graph.Topological order) : pruned.Topological (order.filter keep) := by
  intro before operator after split producer link
  obtain ⟨front, back, order_eq, rfl, _⟩ := exists_split_of_filter split
  have link := ((prunes.link_iff producer operator).1 link).1
  exact List.mem_filter.2
    ⟨topological front operator back order_eq producer link, prunes.keeps link⟩

private theorem Prunes.canFollow (prunes : graph.Prunes pruned keep) {front : List Uuid}
    {choice : Uuid}
    (follows : pruned.CanFollow (operators.filter keep) (front.filter keep) choice) :
    graph.CanFollow operators front choice := by
  obtain ⟨member, unsorted, producers⟩ := follows
  obtain ⟨known, kept⟩ := List.mem_filter.1 member
  refine ⟨known, fun earlier => unsorted (List.mem_filter.2 ⟨earlier, kept⟩), ?_⟩
  intro producer link
  have link := (prunes.link_iff producer choice).2 ⟨link, kept⟩
  exact (List.mem_filter.1 (producers producer link)).1

private theorem Prunes.smallestFirst (prunes : graph.Prunes pruned keep)
    (smallest : graph.SmallestFirst operators order) :
    pruned.SmallestFirst (operators.filter keep) (order.filter keep) := by
  intro before operator after split choice follows
  obtain ⟨front, back, order_eq, rfl, _⟩ := exists_split_of_filter split
  exact smallest front operator back order_eq choice (prunes.canFollow follows)

/-- A sort that gets as far as any is complete if some topological order is. -/
theorem MaximalSort.perm_of_topological (maximal : graph.MaximalSort operators sorted)
    (topological : graph.Topological order) (perm : order.Perm operators)
    (nodup : operators.Nodup) : sorted.Perm operators := by
  have all_sorted : ∀ operator ∈ order, operator ∈ sorted :=
    topological.induction fun operator member producers =>
      maximal.complete operator (perm.mem_iff.1 member) producers
  exact (List.perm_ext_iff_of_nodup maximal.nodup nodup).2 fun operator =>
    ⟨@maximal.subset operator, fun known => all_sorted operator (perm.mem_iff.2 known)⟩

end Graph

namespace Dag

variable {dag : Dag} {order : List Uuid}

/-- A workflow that breaks none of the first three rules is accepted with any order in which
producers come first and the smallest operator comes before others that could come next. -/
theorem executionOrder_eq_ok (nonempty : dag.operators.isEmpty = false)
    (defined : dag.referencesDefined = true) (produced : dag.artifactsProduced = true)
    (topological : (Graph.build dag).Topological order)
    (smallest : (Graph.build dag).SmallestFirst dag.operators.keys order)
    (perm : order.Perm dag.operators.keys) : dag.executionOrder = .ok order := by
  have nodup := dag.operators.keys_nodup
  have maximal := dag.sorted_sortedOperators
  have sorted_perm := maximal.perm_of_topological topological perm nodup
  have sorted_eq : dag.sortedOperators = order :=
    dag.smallestFirst_sortedOperators.unique smallest maximal.topological topological nodup
      sorted_perm perm
  exact executionOrder_eq_ok_iff.2 ⟨nonempty, defined, produced, sorted_perm, sorted_eq⟩

/-! ### Loads -/

/-- Whether the operator of a key sends data to a service. -/
def isLoad (dag : Dag) (key : Uuid) : Bool :=
  (dag.operators.find? key).any fun operator => operator.task.isLoad

/-- The operators that send data to a service write nothing. -/
def LoadsAreSinks (dag : Dag) : Prop :=
  ∀ operator ∈ dag.operators.values, operator.task.isLoad = true → operator.outputs = []

theorem find?_withoutLoads {key : Uuid} {operator : Operator} :
    dag.withoutLoads.operators.find? key = some operator ↔
      dag.operators.find? key = some operator ∧ operator.task.isLoad = false := by
  simp [withoutLoads, Table.find?_filter, Option.filter_eq_some_iff]

theorem mem_values_withoutLoads {operator : Operator} :
    operator ∈ dag.withoutLoads.operators.values ↔
      operator ∈ dag.operators.values ∧ operator.task.isLoad = false := by
  simp only [Table.mem_values_iff, find?_withoutLoads, exists_and_right]

theorem OperatorsKeyed.withoutLoads (keyed : dag.OperatorsKeyed) :
    dag.withoutLoads.OperatorsKeyed :=
  operatorsKeyed_iff.2 fun key operator found =>
    operatorsKeyed_iff.1 keyed key operator (find?_withoutLoads.1 found).1

private theorem keys_withoutLoads (dag : Dag) :
    dag.withoutLoads.operators.keys = dag.operators.keys.filter fun key => !dag.isLoad key := by
  simp only [Table.keys, withoutLoads, Table.filter, List.filter_map]
  refine congrArg _ (List.filter_congr fun entry member => ?_)
  have found : dag.operators.find? entry.1 = some entry.2 := Table.mem_entries_iff.1 member
  simp [isLoad, found]

private theorem LoadsAreSinks.feeds_iff (sinks : dag.LoadsAreSinks) (producer consumer : Uuid) :
    dag.withoutLoads.Feeds producer consumer ↔
      dag.Feeds producer consumer ∧ (!dag.isLoad consumer) = true := by
  simp only [Feeds, find?_withoutLoads]
  constructor
  · rintro ⟨writer, reader, ⟨writer_eq, _⟩, ⟨reader_eq, unloaded⟩, shared⟩
    exact ⟨⟨writer, reader, writer_eq, reader_eq, shared⟩, by simp [isLoad, reader_eq, unloaded]⟩
  · rintro ⟨⟨writer, reader, writer_eq, reader_eq, artifact, writes, reads⟩, unloaded⟩
    have writer_stays : writer.task.isLoad = false := by
      apply Bool.eq_false_of_not_eq_true
      intro loads
      have silent := sinks writer (Table.mem_values_iff.2 ⟨producer, writer_eq⟩) loads
      simp [silent] at writes
    have reader_stays : reader.task.isLoad = false := by simpa [isLoad, reader_eq] using unloaded
    exact ⟨writer, reader, ⟨writer_eq, writer_stays⟩, ⟨reader_eq, reader_stays⟩, artifact, writes,
      reads⟩

private theorem LoadsAreSinks.prunes (sinks : dag.LoadsAreSinks) (keyed : dag.OperatorsKeyed) :
    (Graph.build dag).Prunes (.build dag.withoutLoads) fun key => !dag.isLoad key where
  link_iff producer consumer := by
    rw [keyed.link_eq_feeds, keyed.withoutLoads.link_eq_feeds]
    exact sinks.feeds_iff producer consumer
  keeps {producer consumer} link := by
    rw [keyed.link_eq_feeds] at link
    obtain ⟨writer, _, writer_eq, _, artifact, writes, _⟩ := link
    have member := Table.mem_values_iff.2 ⟨producer, writer_eq⟩
    by_contra loads
    have silent := sinks writer member (by simpa [isLoad, writer_eq] using loads)
    simp [silent] at writes

/-- If an operator remains, the order without loads is the old order without them. -/
theorem LoadsAreSinks.executionOrder_withoutLoads (sinks : dag.LoadsAreSinks)
    (keyed : dag.OperatorsKeyed) (accepted : dag.executionOrder = .ok order)
    (remains : ∃ operator ∈ dag.operators.values, operator.task.isLoad = false) :
    dag.withoutLoads.executionOrder = .ok (order.filter fun key => !dag.isLoad key) := by
  obtain ⟨_, defined, produced, perm, rfl⟩ := executionOrder_eq_ok_iff.1 accepted
  have prunes := sinks.prunes keyed
  apply executionOrder_eq_ok
  · obtain ⟨operator, member, unloaded⟩ := remains
    obtain ⟨key, found⟩ := Table.mem_values_iff.1 (mem_values_withoutLoads.2 ⟨member, unloaded⟩)
    refine Bool.eq_false_iff.2 fun empty => ?_
    exact isEmpty_iff_breaks.1 empty key (Table.mem_keys_iff.2 ⟨operator, found⟩)
  · refine List.all_eq_true.2 fun operator member => ?_
    exact List.all_eq_true.1 defined operator (mem_values_withoutLoads.1 member).1
  · refine List.all_eq_true.2 fun artifact member => ?_
    obtain ⟨operator, operator_mem, writes⟩ :=
      List.any_eq_true.1 (List.all_eq_true.1 produced artifact member)
    refine List.any_eq_true.2 ⟨operator, mem_values_withoutLoads.2 ⟨operator_mem, ?_⟩, writes⟩
    refine Bool.eq_false_of_not_eq_true fun loads => ?_
    simp [sinks operator operator_mem loads] at writes
  · exact prunes.topological dag.sorted_sortedOperators.topological
  · rw [keys_withoutLoads]
    exact prunes.smallestFirst dag.smallestFirst_sortedOperators
  · rw [keys_withoutLoads]
    exact perm.filter _

/-- Without loads nothing remains of a workflow of loads. -/
theorem executionOrder_of_loads
    (loads : ∀ operator ∈ dag.operators.values, operator.task.isLoad = true) :
    dag.withoutLoads.executionOrder = .error .noOperator := by
  have empty : dag.withoutLoads.operators.isEmpty = true := by
    refine isEmpty_iff_breaks.2 fun key member => ?_
    obtain ⟨operator, found⟩ := Table.mem_keys_iff.1 member
    obtain ⟨found, unloaded⟩ := find?_withoutLoads.1 found
    simp [loads operator (Table.mem_values_iff.2 ⟨key, found⟩)] at unloaded
  rw [executionOrder, if_pos empty]

/-! ### Plans -/

/-- A plan fails as the order of execution does. -/
theorem plan_eq_error_iff {preview : Bool} {defect : Defect} :
    dag.plan preview = .error defect ↔
      (if preview then dag.withoutLoads else dag).executionOrder = .error defect := by
  unfold plan
  cases order_eq : (if preview then dag.withoutLoads else dag).executionOrder <;>
    simp [order_eq, bind, Except.bind, pure, Except.pure]

end Dag

namespace PlannedOperator

/-- The line of a plan for an operator at an index. -/
def ofOperator (index : Nat) (operator : Operator) : PlannedOperator :=
  ⟨index + 1, operator.id, operator.name, operator.task.name⟩

/-- The lines under new positions, which are numbered from one. -/
def renumbered (lines : List PlannedOperator) : List PlannedOperator :=
  lines.mapIdx fun index line => { line with position := index + 1 }

private theorem map_id_mapIdx (operators : List Operator) :
    (operators.mapIdx ofOperator).map id = operators.map Operator.id :=
  List.ext_getElem (by simp) fun index _ _ => by simp [ofOperator]

private theorem map_position_mapIdx (operators : List Operator) :
    (operators.mapIdx ofOperator).map position = List.range' 1 operators.length :=
  List.ext_getElem (by simp) fun index _ _ => by simp [ofOperator, Nat.add_comm]

private theorem renumbered_filter {keep : PlannedOperator → Bool} {wanted : Operator → Bool}
    (keep_eq : ∀ index operator, keep (ofOperator index operator) = wanted operator)
    (operators : List Operator) :
    renumbered ((operators.mapIdx ofOperator).filter keep) =
      (operators.filter wanted).mapIdx ofOperator := by
  induction operators using List.reverseRecOn with
  | nil => rfl
  | append_singleton operators last ih =>
      have length_eq : ((operators.mapIdx ofOperator).filter keep).length =
          (operators.filter wanted).length := by
        simpa [renumbered] using congrArg List.length ih
      rw [List.mapIdx_concat, List.filter_append, List.filter_append]
      by_cases stays : wanted last = true
      · rw [List.filter_singleton, List.filter_singleton, keep_eq, stays, cond_true, cond_true,
          renumbered, List.mapIdx_concat, List.mapIdx_concat, ← renumbered, ih, length_eq]
        rfl
      · simpa [List.filter_singleton, keep_eq, stays] using ih

end PlannedOperator

namespace Dag

variable {dag : Dag} {order : List Uuid}

/-- The lines tell about every operator of a workflow once, under the positions from one. -/
structure ListedBy (dag : Dag) (lines : List PlannedOperator) : Prop where
  /-- No operator is left out or repeated. -/
  ids_perm : (lines.map PlannedOperator.id).Perm dag.operators.keys
  /-- The positions are the numbers from one. -/
  positions : lines.map PlannedOperator.position = List.range' 1 lines.length
  /-- A line tells the name and the kind of its operator. -/
  tells : ∀ line ∈ lines, ∃ operator, dag.operators.find? line.id = some operator ∧
    line.name = operator.name ∧ line.kind = operator.task.name

theorem plan_false_eq_ok (accepted : dag.executionOrder = .ok order) :
    dag.plan false =
      .ok ((order.filterMap dag.operators.find?).mapIdx PlannedOperator.ofOperator) := by
  rw [plan, if_neg Bool.false_ne_true, accepted]
  rfl

private theorem OperatorsKeyed.map_id_filterMap (keyed : dag.OperatorsKeyed)
    (known : order ⊆ dag.operators.keys) :
    (order.filterMap dag.operators.find?).map Operator.id = order := by
  rw [List.map_filterMap]
  have found_id : ∀ key ∈ order, (dag.operators.find? key).map Operator.id = some key := by
    intro key member
    obtain ⟨operator, found⟩ := Table.mem_keys_iff.1 (known member)
    rw [found, Option.map_some, operatorsKeyed_iff.1 keyed key operator found]
  rw [List.filterMap_congr found_id, List.filterMap_some]

/-- The lines for the operators of a complete order tell about each of them once. -/
theorem OperatorsKeyed.listedBy (keyed : dag.OperatorsKeyed) (perm : order.Perm dag.operators.keys)
    {lines : List PlannedOperator}
    (lines_eq : lines =
      (order.filterMap dag.operators.find?).mapIdx PlannedOperator.ofOperator) :
    dag.ListedBy lines ∧ lines.map PlannedOperator.id = order := by
  have ids_eq : lines.map PlannedOperator.id = order := by
    rw [lines_eq, PlannedOperator.map_id_mapIdx]
    exact keyed.map_id_filterMap perm.subset
  refine ⟨⟨ids_eq ▸ perm, ?_, fun line member => ?_⟩, ids_eq⟩
  · rw [lines_eq, PlannedOperator.map_position_mapIdx, List.length_mapIdx]
  · rw [lines_eq] at member
    obtain ⟨index, bound, rfl⟩ := List.mem_mapIdx.1 member
    obtain ⟨key, _, found⟩ := List.mem_filterMap.1 (List.getElem_mem bound)
    refine ⟨_, ?_, rfl, rfl⟩
    rw [PlannedOperator.ofOperator, operatorsKeyed_iff.1 keyed key _ found]
    exact found

private theorem filterMap_find?_withoutLoads (dag : Dag) (order : List Uuid) :
    (order.filter fun key => !dag.isLoad key).filterMap dag.withoutLoads.operators.find? =
      (order.filterMap dag.operators.find?).filter fun operator => !operator.task.isLoad := by
  rw [List.filterMap_filter, List.filter_filterMap]
  refine List.filterMap_congr fun key _ => ?_
  rw [withoutLoads, Table.find?_filter]
  cases found : dag.operators.find? key with
  | none => simp [isLoad, found]
  | some operator =>
      cases loads : operator.task.isLoad <;> simp [isLoad, found, loads, Option.filter]

/-- Where loads write nothing, the order without loads is the old order without them, and the plan
without loads is the old plan without its loads under new positions from one.  Both plans tell about
each operator once.  A workflow of loads alone has neither an order nor a plan without them. -/
theorem plan_of_sinks (keyed : dag.OperatorsKeyed) (accepted : dag.executionOrder = .ok order)
    (sinks : dag.LoadsAreSinks) :
    ∃ lines, dag.plan false = .ok lines ∧ dag.ListedBy lines ∧
      lines.map PlannedOperator.id = order ∧
      ((∃ operator ∈ dag.operators.values, operator.task.isLoad = false) →
        dag.withoutLoads.executionOrder = .ok (order.filter fun key => !dag.isLoad key) ∧
        ∃ remaining, remaining =
            PlannedOperator.renumbered (lines.filter fun line => line.kind != "load") ∧
          dag.plan true = .ok remaining ∧ dag.withoutLoads.ListedBy remaining) ∧
      ((∀ operator ∈ dag.operators.values, operator.task.isLoad = true) →
        dag.withoutLoads.executionOrder = .error .noOperator ∧
          dag.plan true = .error .noOperator) := by
  obtain ⟨listed, ids_eq⟩ := keyed.listedBy (perm_keys_of_executionOrder accepted) rfl
  refine ⟨_, plan_false_eq_ok accepted, listed, ids_eq, fun remains => ?_, fun loads => ?_⟩
  · have remaining_accepted := sinks.executionOrder_withoutLoads keyed accepted remains
    have kind_eq (index : Nat) (operator : Operator) :
        ((PlannedOperator.ofOperator index operator).kind != "load") = !operator.task.isLoad := by
      rw [PlannedOperator.ofOperator]
      cases operator.task <;> rfl
    refine ⟨remaining_accepted, _, rfl, ?_, ?_⟩
    · rw [PlannedOperator.renumbered_filter kind_eq, ← filterMap_find?_withoutLoads]
      exact plan_false_eq_ok remaining_accepted
    · rw [PlannedOperator.renumbered_filter kind_eq, ← filterMap_find?_withoutLoads]
      exact (keyed.withoutLoads.listedBy (perm_keys_of_executionOrder remaining_accepted) rfl).1
  · have empty := executionOrder_of_loads loads
    exact ⟨empty, plan_eq_error_iff.2 empty⟩

/-- A source and what is computed from it, each sent to a service by a load whose identifier is
smaller than the other operator's. -/
private def delivered : Dag :=
  let operator (id : Nat) (task : Task) (inputs outputs : List Nat) : Operator :=
    ⟨.ofNat id, "", "", task, inputs.map .ofNat, outputs.map .ofNat⟩
  let connector : Connector := ⟨"", .nil, .null⟩
  .ofParts ⟨.nil, "", ⟨⟨2024, 1, 1⟩, 0, 0⟩⟩
    [operator 1 (.load connector) [101] [], operator 2 (.load connector) [102] [],
      operator 3 (.extract connector) [] [101], operator 4 (.function ⟨"", ""⟩) [101] [102]]
    [⟨.ofNat 101, "", "", .json⟩, ⟨.ofNat 102, "", "", .json⟩]

/-- The loads stand between the other operators and leave no gap. -/
theorem plan_of_sinks_delivered :
    delivered.OperatorsKeyed ∧ delivered.LoadsAreSinks ∧
      delivered.executionOrder = .ok [.ofNat 3, .ofNat 1, .ofNat 4, .ofNat 2] ∧
      delivered.withoutLoads.executionOrder = .ok [.ofNat 3, .ofNat 4] ∧
      delivered.plan true =
        .ok [⟨1, .ofNat 3, "", "extract"⟩, ⟨2, .ofNat 4, "", "function"⟩] := by
  have keyed : delivered.OperatorsKeyed := by decide
  have sinks : delivered.LoadsAreSinks := by unfold LoadsAreSinks; decide
  have accepted : delivered.executionOrder = .ok [.ofNat 3, .ofNat 1, .ofNat 4, .ofNat 2] := by
    decide
  obtain ⟨lines, lines_eq, _, _, remaining, _⟩ := plan_of_sinks keyed accepted sinks
  obtain ⟨order_eq, _, rfl, plan_eq, _⟩ := remaining ⟨_, List.mem_of_getElem? (i := 2) rfl, rfl⟩
  obtain rfl := Except.ok.inj (lines_eq.symm.trans rfl)
  exact ⟨keyed, sinks, accepted, order_eq, plan_eq⟩

end Dag
end Workflow
