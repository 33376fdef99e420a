import Workflow.Proofs.Dag.Validation
import Workflow.Proofs.Progress.Consistency

/-!
# The greedy run

The greedy run completes the smallest ready operator again and again until none is ready.  It goes
in step with the topological sort: after as many steps the completed operators are the sorted ones,
so that both make the same choice next and get stuck at the same place.  A workflow is therefore
executable exactly when its greedy run completes every operator, and `greedy_executionOrder` says
that its order is the one of the greedy run.
-/

namespace Workflow
namespace Progress

/-! ### Completing operators -/

/-- The smallest operator that is ready. -/
def smallestReady? (progress : Progress) : Option Uuid :=
  (ascending progress.ready).head?

/-- The progress after the job of an operator was launched and has succeeded. -/
def complete (progress : Progress) (operator : Uuid) : Progress :=
  ((progress.markDispatched operator).record operator .succeeded).2

/-- The operators that have not come to an end, in order. -/
def unsettled (progress : Progress) : List Uuid :=
  progress.order.filter fun operator =>
    !(progress.state? operator).any OperatorState.isTerminal

theorem mem_ready_iff {progress : Progress} {operator : Uuid} :
    operator ∈ progress.ready ↔
      operator ∈ progress.order ∧ progress.state? operator = some .ready := by
  simp [ready, inState]

private theorem mem_ready_of_smallestReady? {progress : Progress} {operator : Uuid}
    (smallest : progress.smallestReady? = some operator) : operator ∈ progress.ready :=
  mem_ascending.1 (List.mem_of_mem_head? smallest)

@[simp]
theorem order_complete (progress : Progress) (operator : Uuid) :
    (progress.complete operator).order = progress.order :=
  (order_move (progress.markDispatched operator) (.record operator .succeeded)).trans
    (order_move progress (.dispatch operator))

@[simp]
theorem graph_complete (progress : Progress) (operator : Uuid) :
    (progress.complete operator).graph = progress.graph :=
  (graph_move (progress.markDispatched operator) (.record operator .succeeded)).trans
    (graph_move progress (.dispatch operator))

private theorem state?_complete {progress : Progress} {operator : Uuid}
    (ready : progress.state? operator = some .ready) (other : Uuid) :
    (progress.complete operator).state? other =
      if other = operator then some .succeeded
      else if progress.state? other = some .notReady ∧
        ∀ producer ∈ progress.graph.predecessorsOf other,
          producer = operator ∨ progress.state? producer = some .succeeded then some .ready
      else progress.state? other := by
  have complete_eq :
      progress.complete operator = (progress.setState operator .dispatched).succeed operator := by
    have dispatched : (progress.setState operator .dispatched).state? operator =
        some .dispatched := by
      rw [state?_setState, if_pos rfl]
    simp only [complete, markDispatched, ready, record, dispatched]
    rfl
  have others_eq (producer : Uuid) (other_ne : producer ≠ operator) :
      (progress.setState operator .dispatched).state? producer = progress.state? producer := by
    rw [state?_setState, if_neg other_ne]
  have succeeded_iff (producer : Uuid) :
      (progress.setState operator .dispatched).state? producer = some .succeeded ↔
        progress.state? producer = some .succeeded :=
    state?_dispatch_iff ready .succeeded rfl producer
  rw [complete_eq, state?_succeed]
  simp only [isSatisfied_setState_iff, succeeded_succeed_iff, succeeded_iff, graph_setState,
    Graph.Link]
  split_ifs with same waiting waiting <;> simp_all

private theorem length_unsettled_complete {progress : Progress} {operator : Uuid}
    (ready : operator ∈ progress.ready) :
    (progress.complete operator).unsettled.length < progress.unsettled.length := by
  obtain ⟨known, ready⟩ := mem_ready_iff.1 ready
  have own : (progress.complete operator).state? operator = some .succeeded := by
    rw [state?_complete ready, if_pos rfl]
  have settled_imp (other : Uuid)
      (settled : (progress.state? other).any OperatorState.isTerminal = true) :
      ((progress.complete operator).state? other).any OperatorState.isTerminal = true := by
    rw [state?_complete ready]
    split_ifs with same waiting
    · rfl
    · simp [waiting.1, OperatorState.isTerminal] at settled
    · exact settled
  have part : (progress.complete operator).unsettled = progress.unsettled.filter fun other =>
      !((progress.complete operator).state? other).any OperatorState.isTerminal := by
    rw [unsettled, unsettled, order_complete, List.filter_filter]
    refine List.filter_congr fun other _ => ?_
    cases settled : (progress.state? other).any OperatorState.isTerminal with
    | false => simp
    | true => simp [settled_imp other settled]
  rw [part, List.length_filter_lt_length_iff_exists]
  refine ⟨operator, ?_, ?_⟩
  · simp [unsettled, known, ready, OperatorState.isTerminal]
  · simp [own, OperatorState.isTerminal]

/-- Complete the smallest ready operator again and again until none is ready; returns the completed
operators, first one first. -/
def greedy (progress : Progress) : List Uuid × Progress :=
  match _smallest : progress.smallestReady? with
  | none => ([], progress)
  | some operator =>
      let (later, final) := (progress.complete operator).greedy
      (operator :: later, final)
termination_by progress.unsettled.length
decreasing_by exact length_unsettled_complete (mem_ready_of_smallestReady? _smallest)

theorem greedy_of_none {progress : Progress} (stuck : progress.smallestReady? = none) :
    progress.greedy = ([], progress) := by
  unfold greedy
  split
  · rfl
  · rename_i smallest
    simp [stuck] at smallest

theorem greedy_of_some {progress : Progress} {operator : Uuid}
    (smallest : progress.smallestReady? = some operator) :
    progress.greedy =
      (operator :: (progress.complete operator).greedy.1,
        (progress.complete operator).greedy.2) := by
  rw [greedy]
  split
  · rename_i stuck
    simp [smallest] at stuck
  · rename_i other other_smallest
    obtain rfl : operator = other := Option.some.inj (smallest.symm.trans other_smallest)
    rfl

/-! ### In step with the sort -/

/-- Where an operator stands once some operators are completed and no other one was launched. -/
def standing (graph : Graph) (completed : List Uuid) (operator : Uuid) : OperatorState :=
  if operator ∈ completed then .succeeded
  else if graph.awaited completed operator = [] then .ready
  else .notReady

/-- Some of the operators are completed, and no other one was launched. -/
structure Completed (graph : Graph) (operators completed : List Uuid) (progress : Progress) :
    Prop where
  /-- The operators depend on each other as the graph says. -/
  graph_eq : progress.graph = graph
  /-- The operators are considered in their order. -/
  order_eq : progress.order = operators
  /-- Only operators are completed. -/
  subset : completed ⊆ operators
  /-- Every operator stands where the completed ones have brought it. -/
  state?_eq (operator : Uuid) :
    progress.state? operator =
      if operator ∈ operators then some (standing graph completed operator) else none

private theorem completed_start (graph : Graph) (operators : List Uuid) :
    Completed graph operators [] (start operators graph) where
  graph_eq := rfl
  order_eq := rfl
  subset := List.nil_subset _
  state?_eq operator := by
    have awaited_eq : graph.awaited [] operator = graph.predecessorsOf operator := by
      simp [Graph.awaited]
    rw [state?_start, standing, awaited_eq]
    split_ifs <;> simp_all

section Completed

variable {graph : Graph} {operators completed : List Uuid} {progress : Progress}

theorem Completed.succeeded_iff (holds : Completed graph operators completed progress)
    {operator : Uuid} : progress.state? operator = some .succeeded ↔ operator ∈ completed := by
  rw [holds.state?_eq, standing]
  split_ifs with known done awaits
  · simp [done]
  · simp [done]
  · simp [done]
  · simpa using fun done => known (holds.subset done)

theorem Completed.mem_ready_iff (holds : Completed graph operators completed progress)
    {operator : Uuid} :
    operator ∈ progress.ready ↔ operator ∈ operators ∧ operator ∉ completed ∧
      graph.awaited completed operator = [] := by
  rw [Progress.mem_ready_iff, holds.order_eq, holds.state?_eq, standing]
  split_ifs <;> simp_all

/-- To complete a ready operator brings every operator where it then belongs. -/
theorem Completed.complete (holds : Completed graph operators completed progress) {operator : Uuid}
    (ready : operator ∈ progress.ready) :
    Completed graph operators (completed ++ [operator]) (progress.complete operator) where
  graph_eq := by rw [graph_complete, holds.graph_eq]
  order_eq := by rw [order_complete, holds.order_eq]
  subset := by
    simpa using ⟨holds.subset, (holds.mem_ready_iff.1 ready).1⟩
  state?_eq other := by
    have awaits_iff : graph.awaited (completed ++ [operator]) other = [] ↔
        ∀ producer ∈ graph.predecessorsOf other,
          producer = operator ∨ progress.state? producer = some .succeeded := by
      simp [Graph.awaited_eq_nil_iff, Graph.Link, holds.succeeded_iff, or_comm]
    have own := (Progress.mem_ready_iff.1 ready).2
    rw [state?_complete own, holds.graph_eq]
    simp only [← awaits_iff]
    simp only [holds.state?_eq, standing]
    have awaited_imp (free : graph.awaited completed other = []) :
        graph.awaited (completed ++ [operator]) other = [] := by
      rw [Graph.awaited_concat, free, List.filter_nil]
    by_cases same : other = operator
    · simp [same, (holds.mem_ready_iff.1 ready).1]
    · by_cases known : other ∈ operators
      · by_cases done : other ∈ completed
        · simp [same, known, done]
        · by_cases free : graph.awaited completed other = []
          · simp [same, known, done, free, awaited_imp free]
          · by_cases freed : graph.awaited (completed ++ [operator]) other = [] <;>
              simp [same, known, done, free, freed]
      · simp [same, known]

/-- The smallest ready operator is the one that the sort takes next. -/
theorem Completed.smallestReady?_eq {sorting : Sorting} (sound : sorting.Sound graph operators)
    (holds : Completed graph operators sorting.sorted progress) :
    progress.smallestReady? = sorting.ready.keys.head? := by
  have same (operator : Uuid) :
      operator ∈ sorting.ready.keys ↔ operator ∈ progress.ready :=
    (sound.mem_ready operator).trans holds.mem_ready_iff.symm
  rw [smallestReady?, keys_eq_ascending same]

/-- The greedy run ends where the sort gets stuck, and has completed what was sorted. -/
theorem Completed.greedy {sorting : Sorting} (coherent : graph.Coherent)
    (sound : sorting.Sound graph operators)
    (holds : Completed graph operators sorting.sorted progress) {steps : Nat}
    (stuck : (sorting.run graph steps).ready.keys = []) :
    (sorting.run graph steps).sorted = sorting.sorted ++ progress.greedy.1 ∧
      Completed graph operators (sorting.run graph steps).sorted progress.greedy.2 := by
  -- Each step sorts the operator that the greedy run completes, and both go on from there.
  induction steps generalizing sorting progress with
  | zero =>
      have smallest : progress.smallestReady? = none := by
        rw [holds.smallestReady?_eq sound, show sorting.ready.keys = [] from stuck, List.head?_nil]
      rw [greedy_of_none smallest]
      exact ⟨(List.append_nil _).symm, holds⟩
  | succ steps ih =>
      unfold Sorting.run at stuck ⊢
      cases step_eq : sorting.step graph with
      | none =>
          have smallest : progress.smallestReady? = none := by
            rw [holds.smallestReady?_eq sound, Sorting.step_eq_none_iff.1 step_eq, List.head?_nil]
          rw [greedy_of_none smallest]
          exact ⟨(List.append_nil _).symm, holds⟩
      | some next =>
          rw [step_eq] at stuck
          obtain ⟨operator, rest, entries_eq, next_eq⟩ := Sorting.step_eq_some step_eq
          have smallest : progress.smallestReady? = some operator := by
            rw [holds.smallestReady?_eq sound, Table.keys, entries_eq]
            rfl
          have sorted_eq : next.sorted = sorting.sorted ++ [operator] := by simp [next_eq]
          have completed := holds.complete (mem_ready_of_smallestReady? smallest)
          obtain ⟨rest_eq, final⟩ :=
            ih (sound.step coherent step_eq).1 (sorted_eq ▸ completed) stuck
          rw [greedy_of_some smallest]
          refine ⟨?_, final⟩
          rw [rest_eq, sorted_eq, List.append_assoc]
          rfl

end Completed

/-! ### Executability -/

/-- A workflow that breaks none of the first three rules has an execution order exactly when its
greedy run, which considers the operators in key order, ends with every operator succeeded, and the
order is the one in which the greedy run completes them. -/
theorem greedy_executionOrder {dag : Dag}
    (rules : ∀ defect, defect ≠ .unexecutableOperator → ¬dag.Breaks defect)
    {completed : List Uuid} {final : Progress}
    (greedy_eq : (start dag.operators.keys (.build dag)).greedy = (completed, final))
    (order : List Uuid) :
    dag.executionOrder = .ok order ↔
      (∀ operator ∈ dag.operators.keys, final.state? operator = some .succeeded) ∧
        order = completed := by
  have coherent := Graph.build_coherent dag
  obtain ⟨sorted_eq, ends⟩ := (completed_start (.build dag) dag.operators.keys).greedy coherent
    (Sorting.sound_start (.build dag) dag.operators.keys) dag.stuck_sortedOperators
  have sorted_eq : dag.sortedOperators = completed := by
    rw [greedy_eq] at sorted_eq
    exact sorted_eq
  have ends : Completed (.build dag) dag.operators.keys dag.sortedOperators final := by
    rw [greedy_eq] at ends
    exact ends
  have accepted_iff : dag.executionOrder = .ok order ↔
      dag.sortedOperators.Perm dag.operators.keys ∧ dag.sortedOperators = order := by
    have nonempty := Bool.eq_false_iff.2 (mt Dag.isEmpty_iff_breaks.1 (rules .noOperator nofun))
    have defined := mt Dag.referencesDefined_iff_breaks.1 (rules .undefinedArtifact nofun)
    have produced := mt Dag.artifactsProduced_iff_breaks.1 (rules .unreachableArtifact nofun)
    simp only [Bool.not_eq_false] at defined produced
    simp [Dag.executionOrder_eq_ok_iff, nonempty, defined, produced]
  have maximal := dag.sorted_sortedOperators
  have perm_iff : dag.sortedOperators.Perm dag.operators.keys ↔
      ∀ operator ∈ dag.operators.keys, final.state? operator = some .succeeded := by
    simp only [ends.succeeded_iff]
    refine ⟨fun perm operator => perm.mem_iff.2, fun all_sorted => ?_⟩
    exact (List.perm_ext_iff_of_nodup maximal.nodup dag.operators.keys_nodup).2 fun operator =>
      ⟨@maximal.subset operator, all_sorted operator⟩
  rw [accepted_iff, perm_iff, sorted_eq, eq_comm]

/-- The greedy run of a join completes both sources, then what joins them, and last the sink. -/
theorem greedy_join :
    ∃ completed final, (start Dag.join.operators.keys (.build .join)).greedy = (completed, final) ∧
      (∀ operator ∈ Dag.join.operators.keys, final.state? operator = some .succeeded) ∧
        [Uuid.ofNat 1, .ofNat 2, .ofNat 3, .ofNat 4] = completed := by
  refine ⟨_, _, rfl, (greedy_executionOrder ?rules rfl _).1 Dag.executionOrder_join⟩
  case rules =>
    intro defect other broken
    cases defect with
    | noOperator => exact broken (.ofNat 1) (by decide)
    | undefinedArtifact => exact absurd (Dag.referencesDefined_iff_breaks.2 broken) (by decide)
    | unreachableArtifact => exact absurd (Dag.artifactsProduced_iff_breaks.2 broken) (by decide)
    | unexecutableOperator => exact other rfl

end Progress
end Workflow
