import Workflow.Proofs.Dag.Least
import Workflow.Proofs.Dag.Validation

/-!
# Counting down

The sort counts down the counter of a successor whenever it sorts an operator.  As the operator was
one of those that the successor awaited, there is always something left to count down, on every
graph.  After any number of steps the counters are right, no operator is sorted twice, and the sort
ends with what can be sorted at all: the operators to which only operators on no cycle lead.
`sort_counts_down` says so for every workflow, whatever its keys and identifiers are.
-/

namespace Workflow

open Relation

namespace Sorting

/-! ### Within a step -/

/-- The step from one state comes to another one, at which it releases an operator: the smallest
ready operator is sorted by then, and the successors before this one are released. -/
def Releasing (graph : Graph) (sorting now : Sorting) (consumer : Uuid) : Prop :=
  ∃ operator rest before after,
    sorting.ready.uncons? = some ((operator, ()), rest) ∧
      graph.successorsOf operator = before ++ consumer :: after ∧
        now = before.foldl release
          { sorting with ready := rest, sorted := sorting.sorted ++ [operator] }

variable {graph : Graph} {operators : List Uuid} {sorting now : Sorting} {consumer : Uuid}

/-- What is left of the step is to release this operator and those behind it. -/
theorem Releasing.step_eq (releasing : Releasing graph sorting now consumer) :
    ∃ after : List Uuid,
      sorting.step graph = some (after.foldl release (now.release consumer)) := by
  obtain ⟨operator, rest, before, after, taken, successors_eq, rfl⟩ := releasing
  refine ⟨after, ?_⟩
  rw [step, taken]
  simp [successors_eq]

/-- A counter that is about to be counted down still counts the operator that was just sorted. -/
theorem Sound.count_eq_of_releasing (coherent : graph.Coherent)
    (sound : Sound graph operators sorting) (releasing : Releasing graph sorting now consumer)
    {count : Nat} (found : now.pending.find? consumer = some count) :
    count = (graph.awaited now.sorted consumer).length + 1 := by
  obtain ⟨operator, rest, before, after, taken, successors_eq, rfl⟩ := releasing
  have ready : operator ∈ sorting.ready.keys := by
    simp [Table.keys, Table.entries_of_uncons? taken]
  have unsorted := ((sound.mem_ready operator).1 ready).2.1
  have successor : consumer ∈ graph.successorsOf operator := by simp [successors_eq]
  have awaits : operator ∈ graph.awaited sorting.sorted consumer :=
    Graph.mem_awaited.2 ⟨coherent.mem_successorsOf.1 successor, unsorted⟩
  have positive := List.length_pos_of_mem awaits
  -- A successor is listed once, so that its counter has not been touched in this step.
  have nodup := successors_eq ▸ coherent.successors_nodup operator
  have untouched : consumer ∉ before := fun member =>
    (List.nodup_append.1 nodup).2.2 consumer member consumer List.mem_cons_self rfl
  rw [find?_pending_foldl_release (List.nodup_append.1 nodup).1, if_neg untouched,
    sound.find?_pending] at found
  rw [sorted_foldl_release, coherent.length_awaited_concat unsorted, if_pos successor]
  split at found
  · have := Option.some.inj found
    omega
  · simp at found

/-! ### From step to step -/

private theorem run_of_stuck (stuck : sorting.step graph = none) (steps : Nat) :
    sorting.run graph steps = sorting := by
  cases steps with
  | zero => rfl
  | succ steps => rw [run, stuck]

private theorem run_add (graph : Graph) (sorting : Sorting) (first second : Nat) :
    sorting.run graph (first + second) = (sorting.run graph first).run graph second := by
  induction first generalizing sorting with
  | zero => rw [Nat.zero_add, run]
  | succ first ih =>
      rw [Nat.add_right_comm, run, run]
      split
      · rename_i stuck
        rw [run_of_stuck stuck]
      · exact ih _

end Sorting

namespace Graph

/-- The number of predecessors of an operator that are not sorted yet. -/
def awaitedCount (graph : Graph) (sorted : List Uuid) (operator : Uuid) : Nat :=
  (graph.awaited sorted operator).toFinset.card

private theorem Coherent.awaitedCount_eq {graph : Graph} (coherent : graph.Coherent)
    (sorted : List Uuid) (operator : Uuid) :
    graph.awaitedCount sorted operator = (graph.awaited sorted operator).length :=
  List.toFinset_card_of_nodup ((coherent.predecessors_nodup operator).filter _)

/-- Operators that can be sorted one after the other: none occurs twice, and producers come
first. -/
structure PartialSort (graph : Graph) (operators sorted : List Uuid) : Prop where
  /-- No operator occurs twice. -/
  nodup : sorted.Nodup
  /-- Only operators occur. -/
  subset : sorted ⊆ operators
  /-- Producers come first. -/
  topological : graph.Topological sorted

theorem PartialSort.front {graph : Graph} {operators before after : List Uuid}
    (legal : graph.PartialSort operators (before ++ after)) :
    graph.PartialSort operators before where
  nodup := (List.nodup_append.1 legal.nodup).1
  subset _ member := legal.subset (List.mem_append_left _ member)
  topological front operator rest split :=
    legal.topological front operator (rest ++ after) (by simp [split])

private theorem MaximalSort.partialSort {graph : Graph} {operators sorted : List Uuid}
    (maximal : graph.MaximalSort operators sorted) : graph.PartialSort operators sorted :=
  ⟨maximal.nodup, maximal.subset, maximal.topological⟩

/-- A sort that gets as far as any has the operators that can come behind all that reaches them. -/
theorem MaximalSort.mem_iff_partialSort {graph : Graph} {operators sorted : List Uuid}
    (maximal : graph.MaximalSort operators sorted) {operator : Uuid} :
    operator ∈ sorted ↔ operator ∈ operators ∧
      ∃ before, graph.PartialSort operators before ∧ operator ∉ before ∧
        ∀ ancestor, TransGen graph.Link ancestor operator → ancestor ∈ before := by
  constructor
  · intro member
    obtain ⟨before, after, rfl⟩ := List.append_of_mem member
    obtain ⟨known, apart, producers⟩ :=
      maximal.topological.canFollow maximal.nodup maximal.subset rfl
    have legal := maximal.partialSort.front
    refine ⟨known, before, legal, apart, fun ancestor reach => ?_⟩
    obtain ⟨producer, reach, link⟩ := TransGen.tail'_iff.1 reach
    have producer_mem := producers producer link
    rcases reflTransGen_iff_eq_or_transGen.1 reach with same | reach
    · exact same ▸ producer_mem
    · exact legal.topological.ancestor_mem producer_mem reach
  · rintro ⟨known, before, legal, -, ancestors⟩
    have sorted_before : ∀ id ∈ before, id ∈ sorted :=
      legal.topological.induction fun id member producers =>
        maximal.complete id (legal.subset member) producers
    exact maximal.complete operator known fun producer link =>
      sorted_before producer (ancestors producer (.single link))

end Graph

namespace Dag

/-! ### The sort of a workflow -/

/-- The topological sort of a workflow after a number of steps. -/
def sortingAfter (dag : Dag) (steps : Nat) : Sorting :=
  (Sorting.start (.build dag) dag.operators.keys).run (.build dag) steps

private theorem sound_sortingAfter (dag : Dag) (steps : Nat) :
    (dag.sortingAfter steps).Sound (.build dag) dag.operators.keys :=
  (Sorting.sound_start _ _).run (Graph.build_coherent dag) steps

private theorem sortingAfter_add (dag : Dag) (first second : Nat) :
    dag.sortingAfter (first + second) = (dag.sortingAfter first).run (.build dag) second :=
  Sorting.run_add _ _ first second

private theorem sortingAfter_size_add (dag : Dag) (steps : Nat) :
    dag.sortingAfter (dag.operators.size + steps) = dag.sortingAfter dag.operators.size := by
  rw [sortingAfter_add, Sorting.run_of_stuck]
  exact Sorting.step_eq_none_iff.2 dag.stuck_sortedOperators

private theorem sortedOperators_of_stuck {dag : Dag} {steps : Nat}
    (stuck : (dag.sortingAfter steps).step (.build dag) = none) :
    dag.sortedOperators = (dag.sortingAfter steps).sorted := by
  have same : dag.sortingAfter dag.operators.size = dag.sortingAfter steps := by
    rw [← sortingAfter_size_add dag steps, Nat.add_comm, sortingAfter_add,
      Sorting.run_of_stuck stuck]
  exact congrArg Sorting.sorted same

private theorem sorted_sortingAfter (dag : Dag) (steps : Nat) :
    (dag.sortingAfter steps).sorted = dag.sortedOperators.take steps := by
  obtain ⟨sorted, sorted_eq, length_le, full | stuck⟩ :=
    Sorting.sorted_run (.build dag) (.start (.build dag) dag.operators.keys) steps
  · obtain ⟨rest, rest_eq, -⟩ :=
      Sorting.sorted_run (.build dag) (dag.sortingAfter steps) dag.operators.size
    have final_eq : dag.sortedOperators = (dag.sortingAfter steps).sorted ++ rest := by
      rw [← rest_eq, ← sortingAfter_add, Nat.add_comm, sortingAfter_size_add]
      rfl
    have length_eq : (dag.sortingAfter steps).sorted.length = steps := by
      rw [sortingAfter, sorted_eq]
      exact full
    rw [final_eq, List.take_left' length_eq]
  · have length_le : (dag.sortingAfter steps).sorted.length ≤ steps := by
      rw [sortingAfter, sorted_eq]
      exact length_le
    rw [sortedOperators_of_stuck stuck, List.take_of_length_le length_le]

/-- The sort ends after as many steps as it sorts operators. -/
theorem step_sortingAfter_eq_none_iff (dag : Dag) (steps : Nat) :
    (dag.sortingAfter steps).step (.build dag) = none ↔ dag.sortedOperators.length ≤ steps := by
  constructor
  · intro stuck
    rw [sortedOperators_of_stuck stuck, sorted_sortingAfter]
    exact List.length_take_le _ _
  · intro length_le
    by_contra unfinished
    obtain ⟨next, step_eq⟩ := Option.ne_none_iff_exists'.1 unfinished
    obtain ⟨operator, rest, -, next_eq⟩ := Sorting.step_eq_some step_eq
    have next_after : dag.sortingAfter (steps + 1) = next := by
      rw [sortingAfter_add, Sorting.run, step_eq]
      rfl
    have longer := congrArg List.length (sorted_sortingAfter dag (steps + 1))
    rw [next_after, next_eq, Sorting.sorted_foldl_release, sorted_sortingAfter,
      List.take_of_length_le length_le, List.take_of_length_le (length_le.trans (Nat.le_succ _)),
      List.length_append] at longer
    simp at longer

/-- The sort of a workflow, whatever its keys and identifiers are and whether it has cycles or not,
counts a counter down only where it is at least one; it is then right for what was sorted, as all
counters are between the steps.  Each step sorts an operator that was not sorted before, until the
sort ends with the operators that can be sorted behind everything that reaches them: those to which
only operators on no cycle lead. -/
theorem sort_counts_down (dag : Dag) :
    (∀ steps,
      (∀ now consumer count,
        (dag.sortingAfter steps).Releasing (.build dag) now consumer →
          now.pending.find? consumer = some count →
            1 ≤ count ∧ count - 1 = (Graph.build dag).awaitedCount now.sorted consumer) ∧
      (∀ operator, (dag.sortingAfter steps).pending.find? operator =
        if operator ∈ dag.operators.keys then
          some ((Graph.build dag).awaitedCount (dag.sortingAfter steps).sorted operator)
        else none) ∧
      (dag.sortingAfter steps).sorted = dag.sortedOperators.take steps ∧
      ((dag.sortingAfter steps).step (.build dag) = none ↔
        dag.sortedOperators.length ≤ steps)) ∧
    dag.sortedOperators.Nodup ∧
    ∀ operator,
      (operator ∈ dag.sortedOperators ↔ operator ∈ dag.operators.keys ∧
        ∃ before, (Graph.build dag).PartialSort dag.operators.keys before ∧ operator ∉ before ∧
          ∀ ancestor, TransGen (Graph.build dag).Link ancestor operator → ancestor ∈ before) ∧
      (operator ∈ dag.sortedOperators ↔ operator ∈ dag.operators.keys ∧
        ∀ ancestor, TransGen (Graph.build dag).Link ancestor operator →
          ancestor ∈ dag.operators.keys ∧ ¬TransGen (Graph.build dag).Link ancestor ancestor) := by
  have coherent := Graph.build_coherent dag
  have maximal := dag.sorted_sortedOperators
  refine ⟨fun steps => ⟨fun now consumer count releasing found => ?counted, fun operator => ?right,
    sorted_sortingAfter dag steps, step_sortingAfter_eq_none_iff dag steps⟩, maximal.nodup,
    fun operator => ⟨maximal.mem_iff_partialSort, maximal.mem_iff_acyclic⟩⟩
  case counted =>
    have count_eq := (dag.sound_sortingAfter steps).count_eq_of_releasing coherent releasing found
    rw [coherent.awaitedCount_eq]
    omega
  case right =>
    rw [coherent.awaitedCount_eq]
    exact (dag.sound_sortingAfter steps).find?_pending operator

/-- A source under a foreign identifier with an operator that waits for it, and an operator that
waits for itself. -/
private def strays : Dag :=
  let dag := ofFunctions
    [(1, [], [101]), (2, [101], [102]), (3, [], [103]), (4, [103], []), (5, [101, 105], [105])]
  { dag with
    operators := dag.operators.map fun key operator =>
      if key = .ofNat 3 then { operator with id := .ofNat 9 } else operator }

/-- The first step counts down what the operator that waits for itself awaits.  It is never sorted,
nor is the one that waits for the foreign identifier. -/
theorem sort_counts_down_strays :
    ∃ now, (strays.sortingAfter 0).Releasing (.build strays) now (.ofNat 5) ∧
      now.pending.find? (.ofNat 5) = some 2 ∧
      (1 ≤ 2 ∧ 2 - 1 = (Graph.build strays).awaitedCount now.sorted (.ofNat 5)) ∧
      strays.sortedOperators = [.ofNat 1, .ofNat 2, .ofNat 3] := by
  have releasing : (strays.sortingAfter 0).Releasing (.build strays) _ (.ofNat 5) :=
    ⟨.ofNat 1, _, [.ofNat 2], [], rfl, by decide, rfl⟩
  exact ⟨_, releasing, by decide,
    ((sort_counts_down strays).1 0).1 _ (.ofNat 5) 2 releasing (by decide), by decide⟩

end Dag
end Workflow
