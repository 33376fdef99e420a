import Workflow.Proofs.Dag.Keys
import Workflow.Proofs.Dag.Sorting
import Workflow.Proofs.Progress.Moves

/-!
# What the states of a run say

At any time the released operators are those whose producers have all succeeded, and the skipped
ones are the descendants of the failed ones.  Every move keeps this, as `Consistent.move` says.  As
soon as no operator is active, an operator that still waited would await another one that still
waits, which a topological order rules out.
-/

namespace Workflow

open Relation

namespace Progress

/-- The operator is part of the run. -/
def Known (progress : Progress) (operator : Uuid) : Prop :=
  ∃ state, progress.state? operator = some state

/-- The operator is ready or has been so. -/
def Released (progress : Progress) (operator : Uuid) : Prop :=
  ∃ state, progress.state? operator = some state ∧ state.isReleased = true

/-- The states of a run agree with its graph. -/
structure Consistent (progress : Progress) : Prop where
  /-- An operator is released once its producers have succeeded. -/
  released {operator : Uuid} (known : progress.Known operator) :
    progress.Released operator ↔
      ∀ producer, progress.graph.Link producer operator →
        progress.state? producer = some .succeeded
  /-- An operator is skipped once an ancestor has failed. -/
  skipped {operator : Uuid} (known : progress.Known operator) :
    progress.state? operator = some .skipped ↔
      ∃ ancestor, progress.state? ancestor = some .failed ∧
        TransGen progress.graph.Link ancestor operator

theorem Released.known {progress : Progress} {operator : Uuid}
    (released : progress.Released operator) : progress.Known operator :=
  released.imp fun _ => And.left

theorem released_of_state {progress : Progress} {operator : Uuid} {state : OperatorState}
    (known : progress.state? operator = some state) (released : state.isReleased = true) :
    progress.Released operator :=
  ⟨state, known, released⟩

/-- Every ancestor of a released operator has succeeded. -/
theorem Consistent.ancestor_succeeded {progress : Progress} (consistent : progress.Consistent)
    {ancestor operator : Uuid} (reach : TransGen progress.graph.Link ancestor operator)
    (released : progress.Released operator) : progress.state? ancestor = some .succeeded := by
  induction reach with
  | single link => exact (consistent.released released.known).1 released _ link
  | tail _ link ih =>
      have producer := (consistent.released released.known).1 released _ link
      exact ih (released_of_state producer rfl)

/-! ### Dispatching -/

private theorem known_dispatch {progress : Progress} {operator : Uuid}
    (ready : progress.state? operator = some .ready) (other : Uuid) :
    (progress.setState operator .dispatched).Known other ↔ progress.Known other := by
  by_cases same : other = operator <;> simp [Known, state?_setState, same, ready]

private theorem released_dispatch_iff {progress : Progress} {operator : Uuid}
    (ready : progress.state? operator = some .ready) (other : Uuid) :
    (progress.setState operator .dispatched).Released other ↔ progress.Released other := by
  by_cases same : other = operator <;>
    simp [Released, state?_setState, same, ready, OperatorState.isReleased]

theorem state?_dispatch_iff {progress : Progress} {operator : Uuid}
    (ready : progress.state? operator = some .ready) (state : OperatorState)
    (inactive : state.isActive = false) (other : Uuid) :
    (progress.setState operator .dispatched).state? other = some state ↔
      progress.state? other = some state := by
  rw [state?_setState]
  split_ifs with same
  · rw [same, ready]
    cases state <;> simp [OperatorState.isActive] at inactive ⊢
  · rfl

theorem Consistent.dispatch {progress : Progress} (consistent : progress.Consistent)
    {operator : Uuid} (ready : progress.state? operator = some .ready) :
    (progress.setState operator .dispatched).Consistent := by
  refine ⟨fun {other} known => ?_, fun {other} known => ?_⟩
  · simp only [graph_setState, released_dispatch_iff ready,
      state?_dispatch_iff ready .succeeded rfl]
    exact consistent.released ((known_dispatch ready other).1 known)
  · simp only [graph_setState, state?_dispatch_iff ready .failed rfl,
      state?_dispatch_iff ready .skipped rfl]
    exact consistent.skipped ((known_dispatch ready other).1 known)

/-! ### Success -/

private theorem known_succeed {progress : Progress} {operator : Uuid}
    (dispatched : progress.state? operator = some .dispatched) (other : Uuid) :
    (progress.succeed operator).Known other ↔ progress.Known other := by
  rw [Known, Known, state?_succeed]
  split_ifs with same waiting <;> simp_all

theorem succeeded_succeed_iff {progress : Progress} {operator other : Uuid} :
    (progress.succeed operator).state? other = some .succeeded ↔
      other = operator ∨ progress.state? other = some .succeeded := by
  rw [state?_succeed]
  split_ifs with same waiting <;> simp_all

theorem failed_succeed_iff {progress : Progress} {operator : Uuid}
    (dispatched : progress.state? operator = some .dispatched) (other : Uuid) :
    (progress.succeed operator).state? other = some .failed ↔
      progress.state? other = some .failed := by
  rw [state?_succeed]
  split_ifs with same waiting <;> simp_all

theorem skipped_succeed_iff {progress : Progress} {operator : Uuid}
    (dispatched : progress.state? operator = some .dispatched) (other : Uuid) :
    (progress.succeed operator).state? other = some .skipped ↔
      progress.state? other = some .skipped := by
  rw [state?_succeed]
  split_ifs with same waiting <;> simp_all

/-- The promotion after a success looks at the states in which it results. -/
theorem isSatisfied_setState_iff {progress : Progress} {operator other : Uuid} :
    (progress.setState operator .succeeded).isSatisfied other = true ↔
      ∀ producer, progress.graph.Link producer other →
        (progress.succeed operator).state? producer = some .succeeded := by
  have set_iff (producer : Uuid) :
      (progress.setState operator .succeeded).state? producer = some .succeeded ↔
        producer = operator ∨ progress.state? producer = some .succeeded := by
    by_cases same : producer = operator <;> simp [state?_setState, same]
  simp only [isSatisfied_iff, set_iff, succeeded_succeed_iff]
  rfl

private theorem released_succeed_iff {progress : Progress} {operator : Uuid}
    (dispatched : progress.state? operator = some .dispatched) (other : Uuid) :
    (progress.succeed operator).Released other ↔
      progress.Released other ∨ progress.state? other = some .notReady ∧
        (progress.setState operator .succeeded).isSatisfied other = true := by
  rw [Released, Released, state?_succeed]
  split_ifs with same waiting <;> simp_all [OperatorState.isReleased]

private theorem Consistent.not_skipped {progress : Progress} (consistent : progress.Consistent)
    {operator other : Uuid} (dispatched : progress.state? operator = some .dispatched)
    (awaited : ∀ producer, progress.graph.Link producer other →
      producer = operator ∨ progress.state? producer = some .succeeded) :
    progress.state? other ≠ some .skipped := by
  intro found
  obtain ⟨ancestor, failed, reach⟩ := (consistent.skipped ⟨_, found⟩).1 found
  obtain ⟨producer, above, link⟩ := TransGen.tail'_iff.1 reach
  have producer_released : progress.Released producer := by
    rcases awaited producer link with rfl | succeeded
    · exact released_of_state dispatched rfl
    · exact released_of_state succeeded rfl
  rcases reflTransGen_iff_eq_or_transGen.1 above with rfl | above
  · rcases awaited producer link with rfl | succeeded
    · simp [dispatched] at failed
    · simp [succeeded] at failed
  · simp [consistent.ancestor_succeeded above producer_released] at failed

theorem Consistent.succeed {progress : Progress} (consistent : progress.Consistent)
    {operator : Uuid} (dispatched : progress.state? operator = some .dispatched) :
    (progress.succeed operator).Consistent := by
  refine ⟨fun {other} known => ?_, fun {other} known => ?_⟩
  · rw [graph_succeed, released_succeed_iff dispatched]
    constructor
    · rintro (earlier | ⟨_, satisfied⟩)
      · intro producer link
        exact succeeded_succeed_iff.2
          (.inr ((consistent.released earlier.known).1 earlier producer link))
      · exact isSatisfied_setState_iff.1 satisfied
    · intro awaited
      obtain ⟨state, found⟩ := (known_succeed dispatched other).1 known
      have unskipped := consistent.not_skipped dispatched fun producer link =>
        succeeded_succeed_iff.1 (awaited producer link)
      cases state with
      | notReady => exact .inr ⟨found, isSatisfied_setState_iff.2 awaited⟩
      | skipped => exact absurd found unskipped
      | ready | dispatched | succeeded | failed => exact .inl (released_of_state found rfl)
  · simp only [graph_succeed, failed_succeed_iff dispatched, skipped_succeed_iff dispatched]
    exact consistent.skipped ((known_succeed dispatched other).1 known)

/-! ### Failure -/

theorem failed_fail_iff {progress : Progress} {operator other : Uuid} :
    (progress.fail operator).2.state? other = some .failed ↔
      other = operator ∨ progress.state? other = some .failed := by
  rw [state?_fail]
  split_ifs with same waiting
  · simp [same]
  · simp [same, waiting.2]
  · simp [same]

section Failure

variable {progress : Progress} {operator : Uuid}
  (active : progress.state? operator = some .ready ∨ progress.state? operator = some .dispatched)

include active

private theorem released_of_active : progress.Released operator := by
  rcases active with ready | dispatched
  · exact released_of_state ready rfl
  · exact released_of_state dispatched rfl

private theorem known_fail (other : Uuid) :
    (progress.fail operator).2.Known other ↔ progress.Known other := by
  rw [Known, Known, state?_fail]
  split_ifs with same waiting
  · exact iff_of_true ⟨_, rfl⟩ (same ▸ (released_of_active active).known)
  · exact iff_of_true ⟨_, rfl⟩ ⟨_, waiting.2⟩
  · rfl

private theorem released_fail_iff (other : Uuid) :
    (progress.fail operator).2.Released other ↔ progress.Released other := by
  rw [Released, Released, state?_fail]
  split_ifs with same waiting
  · exact iff_of_true ⟨_, rfl, rfl⟩ (same ▸ released_of_active active)
  · simp [waiting.2, OperatorState.isReleased]
  · rfl

theorem succeeded_fail_iff (other : Uuid) :
    (progress.fail operator).2.state? other = some .succeeded ↔
      progress.state? other = some .succeeded := by
  rw [state?_fail]
  split_ifs with same waiting
  · rcases active with ready | dispatched <;> simp_all
  · simp [waiting.2]
  · rfl

private theorem Consistent.skipped_of_descends (coherent : progress.graph.Coherent)
    (consistent : progress.Consistent) {other : Uuid}
    (reach : TransGen progress.graph.Link operator other) (known : progress.Known other) :
    (progress.fail operator).2.state? other = some .skipped := by
  have unreleased : ¬progress.Released other := fun released => by
    have succeeded := consistent.ancestor_succeeded reach released
    simp [succeeded] at active
  obtain ⟨state, found⟩ := known
  apply (skipped_fail_iff active).2
  cases state with
  | skipped => exact .inl found
  | notReady =>
      refine .inr (mem_fail.2 ⟨?_, coherent.mem_descendantsOf.2 reach, found⟩)
      rintro rfl
      exact unreleased (released_of_active active)
  | ready | dispatched | succeeded | failed =>
      exact absurd (released_of_state found rfl) unreleased

theorem Consistent.fail (coherent : progress.graph.Coherent) (consistent : progress.Consistent) :
    (progress.fail operator).2.Consistent := by
  refine ⟨fun {other} known => ?_, fun {other} known => ⟨fun skipped => ?_, ?_⟩⟩
  · simp only [graph_fail, released_fail_iff active, succeeded_fail_iff active]
    exact consistent.released ((known_fail active other).1 known)
  · rcases (skipped_fail_iff active).1 skipped with earlier | newly
    · obtain ⟨ancestor, failed, reach⟩ := (consistent.skipped ⟨_, earlier⟩).1 earlier
      exact ⟨ancestor, failed_fail_iff.2 (.inr failed), reach⟩
    · have reach := coherent.mem_descendantsOf.1 (mem_fail.1 newly).2.1
      exact ⟨operator, failed_fail_iff.2 (.inl rfl), reach⟩
  · rw [graph_fail]
    rintro ⟨ancestor, failed, reach⟩
    have known_before := (known_fail active other).1 known
    rcases failed_fail_iff.1 failed with rfl | earlier
    · exact consistent.skipped_of_descends active coherent reach known_before
    · have skipped := (consistent.skipped known_before).2 ⟨ancestor, earlier, reach⟩
      exact (skipped_fail_iff active).2 (.inl skipped)

end Failure

/-! ### Moves -/

theorem Consistent.move {progress : Progress} (coherent : progress.graph.Coherent)
    (consistent : progress.Consistent) (move : Move) : (progress.move move).2.Consistent := by
  have effect := progress.effect_move move
  generalize progress.move move = result at effect ⊢
  cases effect with
  | ignored => exact consistent
  | dispatched ready => exact consistent.dispatch ready
  | succeeded dispatched => exact consistent.succeed dispatched
  | failed active _ => exact consistent.fail active coherent

/-! ### Runs -/

@[simp]
theorem graph_move (progress : Progress) (move : Move) :
    (progress.move move).2.graph = progress.graph := by
  have effect := progress.effect_move move
  generalize progress.move move = result at effect ⊢
  cases effect <;> rfl

@[simp]
theorem order_move (progress : Progress) (move : Move) :
    (progress.move move).2.order = progress.order := by
  have effect := progress.effect_move move
  generalize progress.move move = result at effect ⊢
  cases effect <;> rfl

@[simp]
theorem graph_after (progress : Progress) (moves : List Move) :
    (progress.after moves).graph = progress.graph := by
  induction moves using List.reverseRecOn with
  | nil => rfl
  | append_singleton moves move ih => rw [after_concat, graph_move, ih]

theorem known_move (progress : Progress) (move : Move) (operator : Uuid) :
    (progress.move move).2.Known operator ↔ progress.Known operator := by
  have effect := progress.effect_move move
  generalize progress.move move = result at effect ⊢
  cases effect with
  | ignored => rfl
  | dispatched ready => exact known_dispatch ready operator
  | succeeded dispatched => exact known_succeed dispatched operator
  | failed active _ => exact known_fail active operator

theorem known_after (progress : Progress) (moves : List Move) (operator : Uuid) :
    (progress.after moves).Known operator ↔ progress.Known operator := by
  induction moves using List.reverseRecOn with
  | nil => rfl
  | append_singleton moves move ih => rw [after_concat, known_move, ih]

@[simp]
theorem graph_start (order : List Uuid) (graph : Graph) : (start order graph).graph = graph := rfl

theorem state?_start (order : List Uuid) (graph : Graph) (operator : Uuid) :
    (start order graph).state? operator =
      if operator ∈ order then
        if graph.predecessorsOf operator = [] then some .ready else some .notReady
      else none := by
  have waiting (other : Uuid) :
      Progress.state? ⟨order, graph, .ofList (order.map (·, .notReady))⟩ other =
        if other ∈ order then some .notReady else none :=
    Table.find?_ofList_map order (fun _ => OperatorState.notReady) other
  have unsatisfied : Progress.isSatisfied ⟨order, graph, .ofList (order.map (·, .notReady))⟩
      operator = true ↔ graph.predecessorsOf operator = [] := by
    rw [isSatisfied_iff, List.eq_nil_iff_forall_not_mem]
    refine forall_congr' fun producer => ?_
    rw [waiting]
    split <;> simp [Graph.Link]
  rw [start, state?_promote, waiting]
  simp only [unsatisfied]
  split_ifs <;> simp_all

theorem known_start {order : List Uuid} {graph : Graph} {operator : Uuid} :
    (start order graph).Known operator ↔ operator ∈ order := by
  rw [Known, state?_start]
  split_ifs <;> simp_all

theorem consistent_start (order : List Uuid) (graph : Graph) :
    (start order graph).Consistent := by
  have untouched (operator : Uuid) {state : OperatorState}
      (found : (start order graph).state? operator = some state) :
      state = .ready ∨ state = .notReady := by
    rw [state?_start] at found
    split_ifs at found <;> simp_all
  refine ⟨fun {operator} known => ?_, fun {operator} known => ?_⟩
  · have none_succeeded (producer : Uuid) :
        (start order graph).state? producer ≠ some .succeeded := fun found => by
      simpa using untouched producer found
    have released_iff :
        (start order graph).Released operator ↔ graph.predecessorsOf operator = [] := by
      rw [Released, state?_start, if_pos (known_start.1 known)]
      split_ifs with free <;> simp [free, OperatorState.isReleased]
    simp [released_iff, none_succeeded, List.eq_nil_iff_forall_not_mem, Graph.Link]
  · constructor
    · intro skipped
      simpa using untouched operator skipped
    · rintro ⟨ancestor, failed, _⟩
      simpa using untouched ancestor failed

theorem consistent_after {graph : Graph} (coherent : graph.Coherent) (order : List Uuid)
    (moves : List Move) : ((start order graph).after moves).Consistent := by
  induction moves using List.reverseRecOn with
  | nil => exact consistent_start order graph
  | append_singleton moves move ih =>
      rw [after_concat]
      exact ih.move ((graph_after _ moves).symm ▸ coherent) move

/-! ### The end of a run -/

theorem isFinished_iff {progress : Progress} :
    progress.isFinished = true ↔
      ∀ operator state, progress.state? operator = some state → state.isActive = false := by
  simp only [isFinished, Bool.not_eq_true', List.any_eq_false, Bool.not_eq_true,
    Table.mem_values_iff, state?]
  exact ⟨fun idle operator state found => idle state ⟨operator, found⟩,
    fun idle state ⟨operator, found⟩ => idle operator state found⟩

theorem overall_eq_failed_iff {progress : Progress} :
    progress.overall = .failed ↔
      ∃ operator state, progress.state? operator = some state ∧ state ≠ .succeeded := by
  have overall_iff : progress.overall = .failed ↔
      ¬progress.states.values.all (· == .succeeded) = true := by
    rw [overall]
    split_ifs with successful
    · exact iff_of_false nofun (not_not_intro successful)
    · exact iff_of_true rfl successful
  simp only [overall_iff, List.all_eq_true, beq_iff_eq, not_forall, Table.mem_values_iff, state?]
  exact ⟨fun ⟨state, ⟨operator, found⟩, other⟩ => ⟨operator, state, found, other⟩,
    fun ⟨operator, state, found, other⟩ => ⟨state, ⟨operator, found⟩, other⟩⟩

theorem overall_cases (progress : Progress) :
    progress.overall = .succeeded ∨ progress.overall = .failed := by
  unfold overall
  split <;> simp

/-- A run is a success exactly if every operator has succeeded. -/
theorem overall_eq_succeeded_iff {progress : Progress} :
    progress.overall = .succeeded ↔
      ∀ operator ∈ progress.states.keys, progress.state? operator = some .succeeded := by
  have ne_failed : progress.overall = .succeeded ↔ ¬progress.overall = .failed := by
    rcases progress.overall_cases with overall_eq | overall_eq <;> simp [overall_eq]
  rw [ne_failed, overall_eq_failed_iff]
  constructor
  · intro successful operator member
    obtain ⟨state, found⟩ := Table.mem_keys_iff.1 member
    by_contra unsuccessful
    exact successful ⟨operator, state, found, fun same => unsuccessful (same ▸ found)⟩
  · rintro successful ⟨operator, state, found, other⟩
    have succeeded := successful operator (Table.mem_keys_iff.2 ⟨state, found⟩)
    exact other (Option.some.inj (found.symm.trans succeeded))

/-- Operators that have come to an end and did not succeed have skipped their consumers. -/
theorem Consistent.skipped_of_producer {progress : Progress} (consistent : progress.Consistent)
    {producer operator : Uuid} {state : OperatorState} (known : progress.Known operator)
    (link : progress.graph.Link producer operator) (found : progress.state? producer = some state)
    (terminal : state.isTerminal = true) (unsuccessful : state ≠ .succeeded) :
    progress.state? operator = some .skipped := by
  apply (consistent.skipped known).2
  cases state with
  | failed => exact ⟨producer, found, .single link⟩
  | skipped =>
      obtain ⟨ancestor, failed, reach⟩ := (consistent.skipped ⟨_, found⟩).1 found
      exact ⟨ancestor, failed, .tail reach link⟩
  | succeeded => exact absurd rfl unsuccessful
  | notReady | ready | dispatched => simp [OperatorState.isTerminal] at terminal

/-- When no operator is active any more, none has been left behind. -/
theorem Consistent.terminal_of_finished {progress : Progress} (consistent : progress.Consistent)
    {order : List Uuid} (topological : progress.graph.Topological order)
    (known_iff : ∀ operator, progress.Known operator ↔ operator ∈ order)
    (finished : progress.isFinished = true) :
    ∀ operator ∈ order, ∀ state, progress.state? operator = some state →
      state.isTerminal = true := by
  have idle := isFinished_iff.1 finished
  refine topological.induction fun operator member producers_terminal state found => ?_
  cases state with
  | ready | dispatched => exact absurd (idle operator _ found) (by simp [OperatorState.isActive])
  | succeeded | failed | skipped => rfl
  | notReady =>
      exfalso
      have unreleased : ¬progress.Released operator := by
        simp [Released, found, OperatorState.isReleased]
      rw [consistent.released ⟨_, found⟩] at unreleased
      push Not at unreleased
      obtain ⟨producer, link, unsuccessful⟩ := unreleased
      obtain ⟨producer_state, producer_found⟩ :=
        (known_iff producer).2 (topological.producer_mem member link)
      have terminal := producers_terminal producer link producer_state producer_found
      have skipped := consistent.skipped_of_producer ⟨_, found⟩ link producer_found terminal
        (fun succeeded => unsuccessful (succeeded ▸ producer_found))
      simp [found] at skipped

/-- After any moves of a run of an accepted workflow, an operator is released exactly when its
predecessors have succeeded, skipped exactly when it descends from a failed operator, and not ready
in every other case.  As soon as none is active, all of them have come to an end, and the run as a
whole has failed exactly when one of them has. -/
theorem states_after_moves {dag : Dag} {order permuted : List Uuid}
    (accepted : dag.executionOrder = .ok order) (perm : permuted.Perm order) {moves : List Move}
    {progress : Progress} (reached : progress = (start permuted (.build dag)).after moves) :
    (∀ operator, operator ∈ dag.operators.keys ↔
      ∃ state, progress.state? operator = some state) ∧
    (∀ operator state, progress.state? operator = some state →
      (state ∈ [.ready, .dispatched, .succeeded, .failed] ↔
        ∀ producer ∈ (Graph.build dag).predecessorsOf operator,
          progress.state? producer = some .succeeded) ∧
      (state = .skipped ↔ ∃ failed, progress.state? failed = some .failed ∧
        operator ∈ (Graph.build dag).descendantsOf failed) ∧
      (state = .notReady ↔
        (¬∀ producer ∈ (Graph.build dag).predecessorsOf operator,
          progress.state? producer = some .succeeded) ∧
        ¬∃ failed, progress.state? failed = some .failed ∧
          operator ∈ (Graph.build dag).descendantsOf failed)) ∧
    (progress.isFinished = true →
      (∀ operator state, progress.state? operator = some state → state.isTerminal = true) ∧
      (progress.overall = .failed ↔
        ∃ operator, progress.state? operator = some .failed)) := by
  have coherent := Graph.build_coherent dag
  have graph_eq : progress.graph = .build dag := by simp [reached]
  have consistent : progress.Consistent := reached ▸ consistent_after coherent permuted moves
  have known_iff (operator : Uuid) : progress.Known operator ↔ operator ∈ order := by
    rw [reached, known_after, known_start, perm.mem_iff]
  refine ⟨fun operator => ?_, fun operator state found => ?_, fun finished => ?_⟩
  · rw [← (Dag.perm_keys_of_executionOrder accepted).mem_iff, ← known_iff, Known]
  · have released := consistent.released ⟨_, found⟩
    have skipped := consistent.skipped ⟨_, found⟩
    simp only [graph_eq, Released, found, Option.some.injEq, exists_eq_left'] at released
    simp only [graph_eq, found, Option.some.injEq] at skipped
    simp only [coherent.mem_descendantsOf]
    change (_ ↔ ∀ producer, (Graph.build dag).Link producer operator → _) ∧ _ ∧
      (_ ↔ ¬(∀ producer, (Graph.build dag).Link producer operator → _) ∧ _)
    rw [← released, ← skipped]
    cases state <;> simp [OperatorState.isReleased]
  · have topological : progress.graph.Topological order :=
      graph_eq ▸ Dag.topological_of_executionOrder accepted
    have terminal (operator : Uuid) (state : OperatorState)
        (found : progress.state? operator = some state) : state.isTerminal = true :=
      consistent.terminal_of_finished topological known_iff finished operator
        ((known_iff operator).1 ⟨_, found⟩) state found
    refine ⟨terminal, overall_eq_failed_iff.trans ⟨?_, ?_⟩⟩
    · rintro ⟨operator, state, found, unsuccessful⟩
      have ended := terminal operator state found
      cases state with
      | failed => exact ⟨operator, found⟩
      | skipped =>
          obtain ⟨ancestor, failed, _⟩ := (consistent.skipped ⟨_, found⟩).1 found
          exact ⟨ancestor, failed⟩
      | succeeded => exact absurd rfl unsuccessful
      | notReady | ready | dispatched => simp [OperatorState.isTerminal] at ended
    · rintro ⟨operator, failed⟩
      exact ⟨operator, _, failed, nofun⟩

/-- Early and late reports and a failure leave no operator of a join behind. -/
theorem states_of_join :
    ∃ progress : Progress,
      progress = (start [.ofNat 4, .ofNat 2, .ofNat 3, .ofNat 1] (.build .join)).after
        [.record (.ofNat 3) .succeeded, .dispatch (.ofNat 1), .record (.ofNat 2) .failed,
          .record (.ofNat 1) .succeeded, .record (.ofNat 1) .canceled] ∧
      (∀ operator state, progress.state? operator = some state → state.isTerminal = true) ∧
        (progress.overall = .failed ↔ ∃ operator, progress.state? operator = some .failed) := by
  refine ⟨_, rfl, (states_after_moves Dag.executionOrder_join ?permuted rfl).2.2 ?finished⟩
  case permuted => decide
  case finished => cbv

end Progress
end Workflow
