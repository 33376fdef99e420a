import Mathlib.Tactic
import Workflow.Dag.Order
import Workflow.Proofs.Dag.Links
import Workflow.Proofs.Stepwise

/-!
# The topological sort

The counter of an operator is always the number of its predecessors that are not sorted yet, and the
ready operators are the unsorted ones whose counter is zero.  Each step keeps this, and a sort that
has taken one step for each operator can take no further one.  `sorted_sortedOperators` is what
remains of the counters: producers come first, and no operator is left out of which every
predecessor is sorted.
-/

namespace Workflow

open Relation

namespace Graph

/-- Every operator stands behind its predecessors. -/
def Topological (graph : Graph) : List Uuid → Prop :=
  Stepwise fun before operator => ∀ producer, graph.Link producer operator → producer ∈ before

theorem Topological.producer_mem {graph : Graph} {order : List Uuid} {producer consumer : Uuid}
    (topological : graph.Topological order) (member : consumer ∈ order)
    (link : graph.Link producer consumer) : producer ∈ order := by
  obtain ⟨before, before_subset, producers⟩ := topological.good_of_mem member
  exact before_subset (producers producer link)

/-- A topological order has with an operator everything that reaches it. -/
theorem Topological.ancestor_mem {graph : Graph} {order : List Uuid} {ancestor operator : Uuid}
    (topological : graph.Topological order) (member : operator ∈ order)
    (reach : TransGen graph.Link ancestor operator) : ancestor ∈ order := by
  induction reach using TransGen.head_induction_on with
  | single link => exact topological.producer_mem member link
  | head link _ ih => exact topological.producer_mem ih link

/-- What holds of an operator once it holds of its predecessors holds of a whole topological
order. -/
theorem Topological.induction {graph : Graph} {order : List Uuid} {motive : Uuid → Prop}
    (topological : graph.Topological order)
    (step : ∀ operator ∈ order, (∀ producer, graph.Link producer operator → motive producer) →
      motive operator) :
    ∀ operator ∈ order, motive operator := by
  induction order using List.reverseRecOn with
  | nil => simp
  | append_singleton order last ih =>
      obtain ⟨front, last_ready⟩ := stepwise_concat.1 topological
      have front_holds := ih front fun operator member =>
        step operator (List.mem_append_left _ member)
      intro operator member
      rcases List.mem_append.1 member with earlier | same
      · exact front_holds operator earlier
      · obtain rfl := List.mem_singleton.1 same
        exact step operator member fun producer link =>
          front_holds producer (last_ready producer link)

/-- The predecessors of an operator that are not sorted yet. -/
def awaited (graph : Graph) (sorted : List Uuid) (operator : Uuid) : List Uuid :=
  (graph.predecessorsOf operator).filter fun producer => !sorted.contains producer

theorem mem_awaited {graph : Graph} {sorted : List Uuid} {operator producer : Uuid} :
    producer ∈ graph.awaited sorted operator ↔
      graph.Link producer operator ∧ producer ∉ sorted := by
  simp [awaited, Link]

theorem awaited_eq_nil_iff {graph : Graph} {sorted : List Uuid} {operator : Uuid} :
    graph.awaited sorted operator = [] ↔
      ∀ producer, graph.Link producer operator → producer ∈ sorted := by
  simp [List.eq_nil_iff_forall_not_mem, mem_awaited]

/-- Sorting an operator takes it from what others await. -/
theorem awaited_concat (graph : Graph) (sorted : List Uuid) (last operator : Uuid) :
    graph.awaited (sorted ++ [last]) operator =
      (graph.awaited sorted operator).filter (· != last) := by
  simp only [awaited, List.filter_filter]
  apply List.filter_congr
  intro producer _
  by_cases same : producer = last <;> simp [same]

theorem Coherent.length_awaited_concat {graph : Graph} (coherent : graph.Coherent)
    {sorted : List Uuid} {last : Uuid} (unsorted : last ∉ sorted) (operator : Uuid) :
    (graph.awaited (sorted ++ [last]) operator).length =
      if operator ∈ graph.successorsOf last then (graph.awaited sorted operator).length - 1
      else (graph.awaited sorted operator).length := by
  have nodup : (graph.awaited sorted operator).Nodup :=
    (coherent.predecessors_nodup operator).filter _
  have awaits : last ∈ graph.awaited sorted operator ↔ operator ∈ graph.successorsOf last := by
    simp [mem_awaited, unsorted, coherent.mem_successorsOf]
  rw [awaited_concat, ← nodup.erase_eq_filter, List.length_erase]
  exact if_congr awaits rfl rfl

end Graph

namespace Sorting

/-! ### Releasing operators -/

private theorem find?_pending_release (sorting : Sorting) (operator other : Uuid) :
    (sorting.release operator).pending.find? other =
      if other = operator then (sorting.pending.find? other).map (· - 1)
      else sorting.pending.find? other := by
  unfold release
  split
  · rename_i unknown
    by_cases same : other = operator <;> simp [same, unknown]
  · rename_i count known
    by_cases same : other = operator <;> simp [Table.find?_insert, same, known]

private theorem mem_ready_release (sorting : Sorting) (operator other : Uuid) :
    other ∈ (sorting.release operator).ready.keys ↔
      other ∈ sorting.ready.keys ∨
        other = operator ∧ sorting.pending.find? other = some 1 := by
  unfold release
  split
  · rename_i unknown
    by_cases same : other = operator <;> simp [same, unknown]
  · rename_i count known
    by_cases same : other = operator
    · subst same
      by_cases last : count = 1 <;> simp [last, known, Table.mem_keys_insert]
    · by_cases last : count = 1 <;> simp [last, same, Table.mem_keys_insert]

@[simp]
theorem sorted_release (sorting : Sorting) (operator : Uuid) :
    (sorting.release operator).sorted = sorting.sorted := by
  unfold release
  split <;> rfl

theorem find?_pending_foldl_release {operators : List Uuid} (nodup : operators.Nodup)
    (sorting : Sorting) (other : Uuid) :
    (operators.foldl release sorting).pending.find? other =
      if other ∈ operators then (sorting.pending.find? other).map (· - 1)
      else sorting.pending.find? other := by
  induction operators generalizing sorting with
  | nil => simp
  | cons head rest ih =>
      obtain ⟨head_fresh, rest_nodup⟩ := List.nodup_cons.1 nodup
      rw [List.foldl_cons, ih rest_nodup, find?_pending_release]
      by_cases same : other = head
      · simp [same, head_fresh]
      · simp [same]

private theorem mem_ready_foldl_release {operators : List Uuid} (nodup : operators.Nodup)
    (sorting : Sorting) (other : Uuid) :
    other ∈ (operators.foldl release sorting).ready.keys ↔
      other ∈ sorting.ready.keys ∨
        other ∈ operators ∧ sorting.pending.find? other = some 1 := by
  induction operators generalizing sorting with
  | nil => simp
  | cons head rest ih =>
      obtain ⟨head_fresh, rest_nodup⟩ := List.nodup_cons.1 nodup
      rw [List.foldl_cons, ih rest_nodup, mem_ready_release, find?_pending_release]
      by_cases same : other = head
      · simp [same, head_fresh]
      · simp [same]

@[simp]
theorem sorted_foldl_release (operators : List Uuid) (sorting : Sorting) :
    (operators.foldl release sorting).sorted = sorting.sorted := by
  induction operators generalizing sorting with
  | nil => rfl
  | cons head rest ih => rw [List.foldl_cons, ih, sorted_release]

/-! ### Counters -/

/-- The counters and the ready operators of a sort say what is not sorted yet. -/
structure Sound (graph : Graph) (operators : List Uuid) (sorting : Sorting) : Prop where
  /-- No operator is sorted twice. -/
  sorted_nodup : sorting.sorted.Nodup
  /-- Only operators are sorted. -/
  sorted_subset : sorting.sorted ⊆ operators
  /-- Producers come first. -/
  topological : graph.Topological sorting.sorted
  /-- The counter of an operator is the number of its predecessors that are not sorted. -/
  find?_pending (operator : Uuid) :
    sorting.pending.find? operator =
      if operator ∈ operators then some (graph.awaited sorting.sorted operator).length else none
  /-- The ready operators are those that await nothing and are not sorted. -/
  mem_ready (operator : Uuid) :
    operator ∈ sorting.ready.keys ↔
      operator ∈ operators ∧ operator ∉ sorting.sorted ∧
        graph.awaited sorting.sorted operator = []

theorem sound_start (graph : Graph) (operators : List Uuid) :
    Sound graph operators (start graph operators) where
  sorted_nodup := List.nodup_nil
  sorted_subset := List.nil_subset _
  topological := stepwise_nil
  find?_pending operator := by
    simp [start, Table.find?_ofList_map, Graph.awaited]
  mem_ready operator := by
    simp only [start, Table.keys_map, Table.mem_keys_iff, Table.find?_filter,
      Table.find?_ofList_map]
    by_cases known : operator ∈ operators <;> simp [known, Graph.awaited]

/-- A step sorts the smallest ready operator and releases its successors. -/
theorem step_eq_some {graph : Graph} {sorting next : Sorting}
    (step_eq : sorting.step graph = some next) :
    ∃ operator rest, sorting.ready.entries = (operator, ()) :: rest.entries ∧
      next = (graph.successorsOf operator).foldl release
        { sorting with ready := rest, sorted := sorting.sorted ++ [operator] } := by
  unfold step at step_eq
  split at step_eq
  · simp at step_eq
  · rename_i operator _ rest taken
    exact ⟨operator, rest, Table.entries_of_uncons? taken, (Option.some.inj step_eq).symm⟩

theorem step_eq_none_iff {graph : Graph} {sorting : Sorting} :
    sorting.step graph = none ↔ sorting.ready.keys = [] := by
  unfold step
  split
  · rename_i untaken
    simp [Table.keys_of_uncons?_eq_none untaken]
  · rename_i operator _ rest taken
    simp [Table.keys, Table.entries_of_uncons? taken]

/-- Every step keeps the counters right. -/
theorem Sound.step {graph : Graph} {operators : List Uuid} {sorting next : Sorting}
    (coherent : graph.Coherent) (sound : Sound graph operators sorting)
    (step_eq : sorting.step graph = some next) :
    Sound graph operators next ∧
      ∃ operator ∈ sorting.ready.keys, next.sorted = sorting.sorted ++ [operator] ∧
        ∀ other ∈ sorting.ready.keys, other = operator ∨ compare operator other = .lt := by
  obtain ⟨operator, rest, entries_eq, rfl⟩ := step_eq_some step_eq
  have keys_eq : sorting.ready.keys = operator :: rest.keys := by simp [Table.keys, entries_eq]
  have smallest : ∀ other ∈ rest.keys, compare operator other = .lt :=
    (List.pairwise_cons.1 (keys_eq ▸ sorting.ready.keys_ascending)).1
  have operator_fresh : operator ∉ rest.keys :=
    (List.nodup_cons.1 (keys_eq ▸ sorting.ready.keys_nodup)).1
  have operator_ready : operator ∈ sorting.ready.keys := by simp [keys_eq]
  obtain ⟨known, unsorted, released⟩ := (sound.mem_ready operator).1 operator_ready
  have mem_rest (other : Uuid) :
      other ∈ rest.keys ↔ other ≠ operator ∧ other ∈ sorting.ready.keys := by
    by_cases same : other = operator
    · simp [same, operator_fresh]
    · simp [keys_eq, same]
  have nodup := coherent.successors_nodup operator
  have counted := coherent.length_awaited_concat unsorted
  refine ⟨⟨?_, ?_, ?_, fun other => ?_, fun other => ?_⟩, operator, operator_ready, by simp, ?_⟩
  · simpa [List.nodup_append, unsorted] using ⟨sound.sorted_nodup, fun _ member same =>
      unsorted (same ▸ member)⟩
  · simpa using ⟨sound.sorted_subset, known⟩
  · simpa [Graph.Topological, stepwise_concat] using
      ⟨sound.topological, Graph.awaited_eq_nil_iff.1 released⟩
  · rw [find?_pending_foldl_release nodup, sorted_foldl_release]
    simp only [sound.find?_pending, counted]
    by_cases other_known : other ∈ operators
    · by_cases successor : other ∈ graph.successorsOf operator <;> simp [other_known, successor]
    · simp [other_known]
  · rw [mem_ready_foldl_release nodup, sorted_foldl_release]
    simp only [mem_rest, sound.mem_ready, sound.find?_pending]
    simp only [← List.length_eq_zero_iff, counted, List.mem_append, List.mem_singleton, not_or]
    by_cases successor : other ∈ graph.successorsOf operator
    · have link := coherent.mem_successorsOf.1 successor
      have awaits : operator ∈ graph.awaited sorting.sorted other :=
        Graph.mem_awaited.2 ⟨link, unsorted⟩
      have positive := List.length_pos_of_mem awaits
      have other_ne : other ≠ operator := by
        rintro rfl
        simp [released] at awaits
      have other_unsorted : other ∉ sorting.sorted := fun member =>
        unsorted (sound.topological.producer_mem member link)
      have awaits_ne : graph.awaited sorting.sorted other ≠ [] := List.ne_nil_of_mem awaits
      have last_iff : (graph.awaited sorting.sorted other).length = 1 ↔
          (graph.awaited sorting.sorted other).length - 1 = 0 := by omega
      by_cases other_known : other ∈ operators <;>
        simp [successor, other_ne, other_unsorted, other_known, awaits_ne, last_iff]
    · simp only [successor]
      tauto
  · intro other member
    rcases List.mem_cons.1 (keys_eq ▸ member) with same | later
    · exact .inl same
    · exact .inr (smallest other later)

theorem Sound.run {graph : Graph} {operators : List Uuid} {sorting : Sorting}
    (coherent : graph.Coherent) (sound : Sound graph operators sorting) (steps : Nat) :
    Sound graph operators (sorting.run graph steps) := by
  induction steps generalizing sorting with
  | zero => exact sound
  | succ steps ih =>
      unfold Sorting.run
      split
      · exact sound
      · rename_i next step_eq
        exact ih (sound.step coherent step_eq).1

/-- A run sorts an operator in each step until it is stuck. -/
theorem sorted_run (graph : Graph) (sorting : Sorting) (steps : Nat) :
    ∃ more, (sorting.run graph steps).sorted = sorting.sorted ++ more ∧ more.length ≤ steps ∧
      (more.length = steps ∨ (sorting.run graph steps).step graph = none) := by
  induction steps generalizing sorting with
  | zero => exact ⟨[], (List.append_nil _).symm, le_rfl, .inl rfl⟩
  | succ steps ih =>
      rw [run]
      split
      · rename_i stuck
        exact ⟨[], (List.append_nil _).symm, Nat.zero_le _, .inr stuck⟩
      · rename_i next step_eq
        obtain ⟨operator, rest, -, next_eq⟩ := step_eq_some step_eq
        obtain ⟨more, sorted_eq, length_le, full⟩ := ih next
        refine ⟨operator :: more, ?_, Nat.succ_le_succ length_le, full.imp_left fun length_eq => ?_⟩
        · rw [sorted_eq, next_eq, sorted_foldl_release, List.append_assoc, List.singleton_append]
        · rw [List.length_cons, length_eq]

private theorem Sound.ready_eq_nil_of_length {graph : Graph} {operators : List Uuid}
    {sorting : Sorting} (sound : Sound graph operators sorting)
    (length_eq : sorting.sorted.length = operators.length) :
    sorting.ready.keys = [] := by
  have perm : sorting.sorted.Perm operators :=
    (sound.sorted_nodup.subperm sound.sorted_subset).perm_of_length_le length_eq.ge
  refine List.eq_nil_iff_forall_not_mem.2 fun operator ready => ?_
  obtain ⟨known, unsorted, _⟩ := (sound.mem_ready operator).1 ready
  exact unsorted (perm.mem_iff.2 known)

end Sorting

namespace Graph

/-- An order that puts producers first and leaves out no operator of which every predecessor is in
it. -/
structure MaximalSort (graph : Graph) (operators sorted : List Uuid) : Prop where
  /-- No operator occurs twice. -/
  nodup : sorted.Nodup
  /-- Only operators occur. -/
  subset : sorted ⊆ operators
  /-- Producers come first. -/
  topological : graph.Topological sorted
  /-- An operator that awaits nothing occurs. -/
  complete : ∀ operator ∈ operators,
    (∀ producer, graph.Link producer operator → producer ∈ sorted) → operator ∈ sorted

end Graph

namespace Dag

theorem size_eq_length_keys (dag : Dag) : dag.operators.size = dag.operators.keys.length := by
  simp [Table.size, Table.keys]

/-- After a step for each operator the sort is stuck. -/
theorem stuck_sortedOperators (dag : Dag) :
    ((Sorting.start (Graph.build dag) dag.operators.keys).run (Graph.build dag)
      dag.operators.size).ready.keys = [] := by
  have sound := (Sorting.sound_start (Graph.build dag) dag.operators.keys).run
    (Graph.build_coherent dag) dag.operators.size
  obtain ⟨sorted, sorted_eq, -, full | stuck⟩ := Sorting.sorted_run (Graph.build dag)
    (Sorting.start (Graph.build dag) dag.operators.keys) dag.operators.size
  · apply sound.ready_eq_nil_of_length
    rw [sorted_eq]
    simpa [Sorting.start, size_eq_length_keys] using full
  · exact Sorting.step_eq_none_iff.1 stuck

/-- The sort gets as far as any sort can. -/
theorem sorted_sortedOperators (dag : Dag) :
    (Graph.build dag).MaximalSort dag.operators.keys dag.sortedOperators := by
  have sound := (Sorting.sound_start (Graph.build dag) dag.operators.keys).run
    (Graph.build_coherent dag) dag.operators.size
  refine ⟨sound.sorted_nodup, sound.sorted_subset, sound.topological, fun operator known free => ?_⟩
  by_contra unsorted
  have ready := (sound.mem_ready operator).2 ⟨known, unsorted, Graph.awaited_eq_nil_iff.2 free⟩
  simp [dag.stuck_sortedOperators] at ready

theorem perm_sortedOperators_iff {dag : Dag} :
    dag.sortedOperators.length = dag.operators.size ↔
      dag.sortedOperators.Perm dag.operators.keys := by
  have maximal := dag.sorted_sortedOperators
  rw [size_eq_length_keys]
  refine ⟨fun length_eq => ?_, List.Perm.length_eq⟩
  exact (maximal.nodup.subperm maximal.subset).perm_of_length_le length_eq.ge

theorem executionOrder_eq_ok_iff {dag : Dag} {order : List Uuid} :
    dag.executionOrder = .ok order ↔
      dag.operators.isEmpty = false ∧ dag.referencesDefined = true ∧
        dag.artifactsProduced = true ∧ dag.sortedOperators.Perm dag.operators.keys ∧
          dag.sortedOperators = order := by
  simp only [executionOrder, ← perm_sortedOperators_iff]
  split_ifs <;> simp_all

theorem perm_keys_of_executionOrder {dag : Dag} {order : List Uuid}
    (accepted : dag.executionOrder = .ok order) : order.Perm dag.operators.keys := by
  obtain ⟨_, _, _, perm, rfl⟩ := executionOrder_eq_ok_iff.1 accepted
  exact perm

theorem nodup_of_executionOrder {dag : Dag} {order : List Uuid}
    (accepted : dag.executionOrder = .ok order) : order.Nodup :=
  (perm_keys_of_executionOrder accepted).nodup_iff.2 dag.operators.keys_nodup

theorem exists_writer {dag : Dag} {order : List Uuid} (accepted : dag.executionOrder = .ok order) :
    ∀ artifact ∈ dag.artifacts.keys, ∃ operator ∈ dag.operators.values,
      artifact ∈ operator.outputs := by
  obtain ⟨_, _, produced, _⟩ := executionOrder_eq_ok_iff.1 accepted
  simpa [artifactsProduced] using produced

theorem topological_of_executionOrder {dag : Dag} {order : List Uuid}
    (accepted : dag.executionOrder = .ok order) : (Graph.build dag).Topological order := by
  obtain ⟨_, _, _, _, rfl⟩ := executionOrder_eq_ok_iff.1 accepted
  exact dag.sorted_sortedOperators.topological

end Dag
end Workflow
