import Workflow.Proofs.Progress.Consistency

/-!
# The order of events does not matter

When every job has a fixed outcome, the final states are determined by recursion along the graph,
and `settled_unique` says that only one table of states satisfies the recursion.  A finished run
satisfies it whatever the order of its moves was, and has returned every skipped operator once.
-/

namespace Workflow

namespace Graph

/-- How an operator ends, given how its predecessors do. -/
def verdict (graph : Graph) (outcome : Uuid → Bool) (states : Table Uuid OperatorState)
    (operator : Uuid) : OperatorState :=
  if ∀ producer ∈ graph.predecessorsOf operator, states.find? producer = some .succeeded then
    if outcome operator then .succeeded else .failed
  else .skipped

/-- Each of the operators ends as its predecessors and its outcome say. -/
def Settled (graph : Graph) (operators : List Uuid) (outcome : Uuid → Bool)
    (states : Table Uuid OperatorState) : Prop :=
  ∀ operator, states.find? operator =
    if operator ∈ operators then some (graph.verdict outcome states operator) else none

private theorem verdict_congr {graph : Graph} {outcome : Uuid → Bool}
    {left right : Table Uuid OperatorState} {operator : Uuid}
    (same : ∀ producer, graph.Link producer operator →
      left.find? producer = right.find? producer) :
    graph.verdict outcome left operator = graph.verdict outcome right operator := by
  have satisfied_iff :
      (∀ producer ∈ graph.predecessorsOf operator, left.find? producer = some .succeeded) ↔
        ∀ producer ∈ graph.predecessorsOf operator, right.find? producer = some .succeeded :=
    forall₂_congr fun producer link => by rw [same producer link]
  rw [verdict, verdict]
  exact if_congr satisfied_iff rfl rfl

theorem Settled.perm {graph : Graph} {operators others : List Uuid} {outcome : Uuid → Bool}
    {states : Table Uuid OperatorState} (settled : graph.Settled operators outcome states)
    (perm : operators.Perm others) : graph.Settled others outcome states := by
  intro operator
  rw [settled operator]
  exact if_congr perm.mem_iff rfl rfl

/-- Only one table is settled. -/
theorem settled_unique {graph : Graph} {order : List Uuid} (topological : graph.Topological order)
    {outcome : Uuid → Bool} {left right : Table Uuid OperatorState}
    (left_settled : graph.Settled order outcome left)
    (right_settled : graph.Settled order outcome right) : left = right := by
  have agree : ∀ operator ∈ order, left.find? operator = right.find? operator := by
    refine topological.induction fun operator member producers_agree => ?_
    rw [left_settled, right_settled, if_pos member, if_pos member, verdict_congr producers_agree]
  refine Table.eq_of_find?_eq fun operator => ?_
  by_cases member : operator ∈ order
  · exact agree operator member
  · rw [left_settled, right_settled, if_neg member, if_neg member]

/-- A settled table can be filled along a topological order. -/
theorem exists_settled {graph : Graph} {order : List Uuid} (topological : graph.Topological order)
    (nodup : order.Nodup) (outcome : Uuid → Bool) :
    ∃ states, graph.Settled order outcome states := by
  induction order using List.reverseRecOn with
  | nil => exact ⟨∅, fun operator => (Table.find?_empty operator).trans (if_neg nofun).symm⟩
  | append_singleton order last ih =>
      obtain ⟨front, last_ready⟩ := stepwise_concat.1 topological
      obtain ⟨front_nodup, _, apart⟩ := List.nodup_append.1 nodup
      have last_new : last ∉ order := fun member =>
        apart last member last (List.mem_singleton_self last) rfl
      obtain ⟨states, settled⟩ := ih front front_nodup
      have verdict_insert (operator : Uuid)
          (producers : ∀ producer, graph.Link producer operator → producer ∈ order) :
          graph.verdict outcome (states.insert last (graph.verdict outcome states last)) operator =
            graph.verdict outcome states operator := by
        apply verdict_congr
        intro producer link
        rw [Table.find?_insert, if_neg]
        rintro rfl
        exact last_new (producers producer link)
      refine ⟨states.insert last (graph.verdict outcome states last), fun operator => ?_⟩
      rw [Table.find?_insert]
      by_cases same : operator = last
      · rw [if_pos same, if_pos (by simp [same]), same, verdict_insert last last_ready]
      · rw [if_neg same, settled operator]
        by_cases member : operator ∈ order
        · rw [if_pos member, if_pos (List.mem_append_left _ member),
            verdict_insert operator fun producer => Topological.producer_mem front member]
        · rw [if_neg member, if_neg (by simp [member, same])]

end Graph

namespace Progress

/-- The report changes the state of the operator. -/
def TakesEffect (progress : Progress) (operator : Uuid) (status : Status) : Prop :=
  (progress.record operator status).2.state? operator ≠ progress.state? operator

/-- Whatever terminal status takes effect is the outcome of its operator. -/
def Conforming (progress : Progress) (outcome : Uuid → Bool) : List Move → Prop :=
  Stepwise fun before move => ∀ operator status, move = .record operator status →
    status.isTerminal = true → (progress.after before).TakesEffect operator status →
      (status = .succeeded ↔ outcome operator = true)

/-- Operators have succeeded and failed as their outcomes say. -/
structure Agrees (progress : Progress) (outcome : Uuid → Bool) : Prop where
  /-- An operator that has succeeded was to succeed. -/
  succeeded {operator : Uuid} (found : progress.state? operator = some .succeeded) :
    outcome operator = true
  /-- An operator that has failed was to fail. -/
  failed {operator : Uuid} (found : progress.state? operator = some .failed) :
    outcome operator = false

private theorem Agrees.move {progress : Progress} {outcome : Uuid → Bool}
    (agrees : progress.Agrees outcome) {move : Move}
    (conforms : ∀ operator status, move = .record operator status → status.isTerminal = true →
      progress.TakesEffect operator status → (status = .succeeded ↔ outcome operator = true)) :
    (progress.move move).2.Agrees outcome := by
  have effect := progress.effect_move move
  generalize progress.move move = result at effect ⊢
  cases effect with
  | ignored => exact agrees
  | dispatched ready =>
      refine ⟨fun {other} found => ?_, fun {other} found => ?_⟩
      · exact agrees.succeeded ((state?_dispatch_iff ready .succeeded rfl other).1 found)
      · exact agrees.failed ((state?_dispatch_iff ready .failed rfl other).1 found)
  | @succeeded operator dispatched =>
      have takes_effect : progress.TakesEffect operator .succeeded := by
        rw [TakesEffect, state?_record_succeeded_self dispatched, dispatched]
        exact nofun
      have outcome_eq := (conforms operator .succeeded rfl rfl takes_effect).1 rfl
      refine ⟨fun {other} found => ?_, fun {other} found => ?_⟩
      · rcases succeeded_succeed_iff.1 found with rfl | earlier
        · exact outcome_eq
        · exact agrees.succeeded earlier
      · exact agrees.failed ((failed_succeed_iff dispatched other).1 found)
  | @failed operator status active unsuccessful =>
      have takes_effect : progress.TakesEffect operator status := by
        rw [TakesEffect, state?_record_self active unsuccessful]
        rcases active with ready | dispatched
        · exact ready ▸ nofun
        · exact dispatched ▸ nofun
      have outcome_eq : outcome operator = false := by
        have conforms := conforms operator status rfl
        rcases unsuccessful with rfl | rfl
        · simpa using conforms rfl takes_effect
        · simpa using conforms rfl takes_effect
      refine ⟨fun {other} found => ?_, fun {other} found => ?_⟩
      · exact agrees.succeeded ((succeeded_fail_iff active other).1 found)
      · rcases failed_fail_iff.1 found with rfl | earlier
        · exact outcome_eq
        · exact agrees.failed earlier

private theorem agrees_start (order : List Uuid) (graph : Graph) (outcome : Uuid → Bool) :
    (start order graph).Agrees outcome := by
  constructor <;> intro operator found <;> rw [state?_start] at found <;>
    split_ifs at found <;> simp at found

theorem agrees_after {order : List Uuid} {graph : Graph} {outcome : Uuid → Bool} {moves : List Move}
    (conforming : (start order graph).Conforming outcome moves) :
    ((start order graph).after moves).Agrees outcome := by
  induction moves using List.reverseRecOn with
  | nil => exact agrees_start order graph outcome
  | append_singleton moves move ih =>
      rw [after_concat]
      exact (ih conforming.front).move conforming.last

/-! ### What is skipped -/

private theorem move_ascending (progress : Progress) (move : Move) :
    (progress.move move).1.Pairwise fun first second => compare first second = .lt := by
  have effect := progress.effect_move move
  generalize progress.move move = result at effect ⊢
  cases effect with
  | ignored | dispatched | succeeded => exact .nil
  | failed => exact ((Table.keys_ascending _).filter _).filter _

private theorem notReady_of_mem_move {progress : Progress} {move : Move} {operator : Uuid}
    (skipped : operator ∈ (progress.move move).1) : progress.state? operator = some .notReady := by
  have effect := progress.effect_move move
  generalize progress.move move = result at effect skipped
  cases effect with
  | ignored | dispatched | succeeded => simp at skipped
  | failed => exact (mem_fail.1 skipped).2.2

theorem skipped_move_iff {progress : Progress} {move : Move} {operator : Uuid} :
    (progress.move move).2.state? operator = some .skipped ↔
      progress.state? operator = some .skipped ∨ operator ∈ (progress.move move).1 := by
  have effect := progress.effect_move move
  generalize progress.move move = result at effect ⊢
  cases effect with
  | ignored => simp
  | dispatched ready => simp [state?_dispatch_iff ready .skipped rfl]
  | succeeded dispatched => simp [skipped_succeed_iff dispatched]
  | failed active _ => exact skipped_fail_iff active

/-- The moves return every skipped operator once, and each of them returns an ascending list. -/
structure Returned (progress : Progress) (returns : List (List Uuid)) : Prop where
  /-- Each list ascends. -/
  ascending : ∀ list ∈ returns, list.Pairwise fun first second => compare first second = .lt
  /-- No operator is returned twice. -/
  disjoint : returns.Pairwise List.Disjoint
  /-- What is returned is what is skipped. -/
  mem_iff (operator : Uuid) :
    (∃ list ∈ returns, operator ∈ list) ↔ progress.state? operator = some .skipped

private theorem Returned.move {progress : Progress} {returns : List (List Uuid)}
    (returned : progress.Returned returns) (move : Move) :
    (progress.move move).2.Returned (returns ++ [(progress.move move).1]) where
  ascending list member := by
    rcases List.mem_append.1 member with earlier | last
    · exact returned.ascending list earlier
    · rw [List.mem_singleton.1 last]
      exact progress.move_ascending move
  disjoint := by
    refine List.pairwise_append.2 ⟨returned.disjoint, List.pairwise_singleton _ _, ?_⟩
    intro list member last last_eq operator earlier again
    rw [List.mem_singleton.1 last_eq] at again
    have skipped := (returned.mem_iff operator).1 ⟨list, member, earlier⟩
    simp [notReady_of_mem_move again] at skipped
  mem_iff operator := by
    rw [skipped_move_iff, ← returned.mem_iff]
    simp [or_and_right, exists_or]

theorem returned_after (order : List Uuid) (graph : Graph) (moves : List Move) :
    ((start order graph).after moves).Returned ((start order graph).returns moves) := by
  induction moves using List.reverseRecOn with
  | nil =>
      refine ⟨by simp [returns], .nil, fun operator => ?_⟩
      rw [after_nil, state?_start]
      split_ifs <;> simp [returns]
  | append_singleton moves move ih =>
      rw [after_concat, returns_concat]
      exact ih.move move

/-! ### The final states -/

/-- The states of a finished run are settled. -/
theorem Consistent.settled {progress : Progress} (consistent : progress.Consistent)
    {order : List Uuid} (topological : progress.graph.Topological order)
    (known_iff : ∀ operator, progress.Known operator ↔ operator ∈ order)
    (finished : progress.isFinished = true) {outcome : Uuid → Bool}
    (agrees : progress.Agrees outcome) :
    progress.graph.Settled order outcome progress.states := by
  intro operator
  change progress.state? operator = _
  by_cases member : operator ∈ order
  · obtain ⟨state, found⟩ := (known_iff operator).2 member
    have terminal := consistent.terminal_of_finished topological known_iff finished operator member
      state found
    have released : progress.Released operator ↔
        ∀ producer ∈ progress.graph.predecessorsOf operator,
          progress.states.find? producer = some .succeeded := consistent.released ⟨_, found⟩
    rw [if_pos member, found, Graph.verdict]
    congr 1
    cases state with
    | succeeded =>
        have satisfied := released.1 (released_of_state found rfl)
        rw [if_pos satisfied, agrees.succeeded found, if_pos rfl]
    | failed =>
        have satisfied := released.1 (released_of_state found rfl)
        rw [if_pos satisfied, agrees.failed found, if_neg Bool.false_ne_true]
    | skipped =>
        have unreleased : ¬progress.Released operator := by
          simp [Released, found, OperatorState.isReleased]
        exact (if_neg (mt released.2 unreleased)).symm
    | notReady | ready | dispatched => simp [OperatorState.isTerminal] at terminal
  · rw [if_neg member]
    refine Option.eq_none_iff_forall_ne_some.2 fun state found => ?_
    exact member ((known_iff operator).1 ⟨state, found⟩)

/-- There is one table in which every operator succeeds or fails as its outcome says unless a
predecessor does not succeed, and every finished run of an accepted workflow whose reports are these
outcomes ends with it, in whatever order its operators are considered and its moves are made.  The
lists of skipped operators ascend, do not meet, and contain what is skipped in the end. -/
theorem final_states_confluent {dag : Dag} {order : List Uuid}
    (accepted : dag.executionOrder = .ok order) (outcome : Uuid → Bool) :
    ∃ final, (Graph.build dag).Settled dag.operators.keys outcome final ∧
      (∀ states, (Graph.build dag).Settled dag.operators.keys outcome states → states = final) ∧
      ∀ permuted moves, permuted.Perm order →
        (start permuted (.build dag)).Conforming outcome moves →
        ((start permuted (.build dag)).after moves).isFinished = true →
          ((start permuted (.build dag)).after moves).states = final ∧
          (∀ skipped ∈ (start permuted (.build dag)).returns moves,
            skipped.Pairwise fun first second => compare first second = .lt) ∧
          ((start permuted (.build dag)).returns moves).Pairwise List.Disjoint ∧
          ∀ operator, (∃ skipped ∈ (start permuted (.build dag)).returns moves,
            operator ∈ skipped) ↔ final.find? operator = some .skipped := by
  have coherent := Graph.build_coherent dag
  have topological := Dag.topological_of_executionOrder accepted
  have keys_perm := Dag.perm_keys_of_executionOrder accepted
  have nodup := Dag.nodup_of_executionOrder accepted
  obtain ⟨final, settled⟩ := Graph.exists_settled topological nodup outcome
  have unique (states : Table Uuid OperatorState)
      (other : (Graph.build dag).Settled order outcome states) : states = final :=
    Graph.settled_unique topological other settled
  refine ⟨final, settled.perm keys_perm,
    fun states other => unique states (other.perm keys_perm.symm),
    fun permuted moves perm conforming finished => ?_⟩
  have consistent := consistent_after coherent permuted moves
  have graph_eq : ((start permuted (.build dag)).after moves).graph = .build dag := by simp
  have known_iff (operator : Uuid) :
      ((start permuted (.build dag)).after moves).Known operator ↔ operator ∈ order := by
    rw [known_after, known_start, perm.mem_iff]
  have states_settled := consistent.settled (graph_eq.symm ▸ topological) known_iff finished
    (agrees_after conforming)
  have states_eq := unique _ (graph_eq ▸ states_settled)
  have returned := returned_after permuted (.build dag) moves
  exact ⟨states_eq, returned.ascending, returned.disjoint, fun operator =>
    states_eq ▸ returned.mem_iff operator⟩

/-- A success and an early failure on a join end as they would in any other order. -/
theorem final_states_join :
    ∃ final, (Graph.build .join).Settled Dag.join.operators.keys (· ≠ .ofNat 2) final ∧
      ((start [.ofNat 3, .ofNat 1, .ofNat 4, .ofNat 2] (.build .join)).after
        [.dispatch (.ofNat 1), .record (.ofNat 2) .canceled,
          .record (.ofNat 1) .succeeded]).states = final := by
  obtain ⟨final, settled, _, confluent⟩ :=
    final_states_confluent Dag.executionOrder_join (· ≠ .ofNat 2)
  refine ⟨final, settled, (confluent _ _ ?permuted ?conforming ?finished).1⟩
  case permuted => decide
  case conforming =>
    rintro (_ | ⟨_, _ | ⟨_, _ | ⟨_, before⟩⟩⟩) _ after split operator status rfl terminal _ <;>
      simp at split
    · obtain ⟨⟨rfl, rfl⟩, _⟩ := split.2
      decide
    · obtain ⟨⟨rfl, rfl⟩, _⟩ := split.2.2
      decide
  case finished => cbv

end Progress
end Workflow
