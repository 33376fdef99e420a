import Workflow.Proofs.Dag.Keys
import Workflow.Proofs.Dag.Sorting

/-!
# The least order

The sort always takes the smallest operator that can come next.  Where another order that puts
producers first differs from it for the first time, both have the same operators behind them, so
what the other order takes there was a choice for the sort too.  The execution order is therefore
the first of all such orders in a dictionary, and no other list is, as `executionOrder_first` says.
-/

namespace Workflow

/-- The first list stands before the second one in a dictionary. -/
def Earlier : List Uuid → List Uuid → Prop :=
  List.Lex fun left right => compare left right = .lt

theorem Earlier.asymm {first second : List Uuid} (earlier : Earlier first second) :
    ¬Earlier second first := by
  apply List.lex_asymm _ earlier
  intro left right lt gt
  simp [Std.OrientedCmp.gt_of_lt lt] at gt

namespace Graph

variable {graph : Graph} {operators order other : List Uuid}

/-- The operator can come next behind those that are sorted. -/
def CanFollow (graph : Graph) (operators sorted : List Uuid) (operator : Uuid) : Prop :=
  operator ∈ operators ∧ operator ∉ sorted ∧
    ∀ producer, graph.Link producer operator → producer ∈ sorted

/-- Each operator is the smallest of those that could come next. -/
def SmallestFirst (graph : Graph) (operators : List Uuid) : List Uuid → Prop :=
  Stepwise fun before operator => ∀ choice, graph.CanFollow operators before choice →
    choice = operator ∨ compare operator choice = .lt

/-- In a topological order each operator could come next where it stands. -/
theorem Topological.canFollow (topological : graph.Topological order) (nodup : order.Nodup)
    (subset : order ⊆ operators) {before after : List Uuid} {operator : Uuid}
    (split : order = before ++ operator :: after) : graph.CanFollow operators before operator := by
  refine ⟨subset (by simp [split]), fun member => ?_, topological before operator after split⟩
  rw [split] at nodup
  exact (List.nodup_append.1 nodup).2.2 operator member operator List.mem_cons_self rfl

private theorem SmallestFirst.behind (smallest : graph.SmallestFirst operators order)
    (topological : graph.Topological other) (nodup : other.Nodup) (subset : other ⊆ operators)
    {front rest others : List Uuid} (order_eq : order = front ++ rest)
    (other_eq : other = front ++ others) (length_le : rest.length ≤ others.length) :
    rest = others ∨ Earlier rest others := by
  induction rest generalizing front others with
  | nil =>
      cases others with
      | nil => exact .inl rfl
      | cons head others => exact .inr .nil
  | cons head rest ih =>
      cases others with
      | nil => simp at length_le
      | cons choice others =>
          have follows := topological.canFollow nodup subset other_eq
          rcases smallest front head rest order_eq choice follows with rfl | lt
          · have order_split : order = (front ++ [choice]) ++ rest := by simpa using order_eq
            have other_split : other = (front ++ [choice]) ++ others := by simpa using other_eq
            rcases ih order_split other_split (Nat.le_of_succ_le_succ length_le) with same | earlier
            · exact .inl (congrArg _ same)
            · exact .inr (.cons earlier)
          · exact .inr (.rel lt)

/-- An order that takes the smallest operator first is the first one in a dictionary. -/
theorem SmallestFirst.eq_or_earlier (smallest : graph.SmallestFirst operators order)
    (topological : graph.Topological other) (nodup : operators.Nodup)
    (order_perm : order.Perm operators) (other_perm : other.Perm operators) :
    order = other ∨ Earlier order other :=
  smallest.behind topological (other_perm.nodup_iff.2 nodup) other_perm.subset
    (List.nil_append order).symm (List.nil_append other).symm
    (order_perm.trans other_perm.symm).length_eq.le

/-- Only one complete topological order takes the smallest operator first. -/
theorem SmallestFirst.unique (smallest : graph.SmallestFirst operators order)
    (other_smallest : graph.SmallestFirst operators other) (topological : graph.Topological order)
    (other_topological : graph.Topological other) (nodup : operators.Nodup)
    (order_perm : order.Perm operators) (other_perm : other.Perm operators) : order = other := by
  rcases smallest.eq_or_earlier other_topological nodup order_perm other_perm with same | earlier
  · exact same
  · rcases other_smallest.eq_or_earlier topological nodup other_perm order_perm with same | later
    · exact same.symm
    · exact absurd later earlier.asymm

end Graph

/-- Every step sorts the smallest operator that can come next. -/
theorem Sorting.Sound.smallestFirst_run {graph : Graph} {operators : List Uuid} {sorting : Sorting}
    (coherent : graph.Coherent) (sound : Sound graph operators sorting)
    (smallest : graph.SmallestFirst operators sorting.sorted) (steps : Nat) :
    graph.SmallestFirst operators (sorting.run graph steps).sorted := by
  induction steps generalizing sorting with
  | zero => exact smallest
  | succ steps ih =>
      rw [Sorting.run]
      split
      · exact smallest
      · rename_i next step_eq
        obtain ⟨next_sound, operator, _, sorted_eq, least⟩ := sound.step coherent step_eq
        apply ih next_sound
        rw [sorted_eq]
        refine stepwise_concat.2 ⟨smallest, fun choice follows => least choice ?_⟩
        obtain ⟨known, unsorted, producers⟩ := follows
        exact (sound.mem_ready choice).2
          ⟨known, unsorted, Graph.awaited_eq_nil_iff.2 producers⟩

namespace Dag

variable {dag : Dag} {order : List Uuid}

theorem smallestFirst_sortedOperators (dag : Dag) :
    (Graph.build dag).SmallestFirst dag.operators.keys dag.sortedOperators :=
  (Sorting.sound_start (Graph.build dag) dag.operators.keys).smallestFirst_run
    (Graph.build_coherent dag) stepwise_nil dag.operators.size

private theorem smallestFirst_of_executionOrder (accepted : dag.executionOrder = .ok order) :
    (Graph.build dag).SmallestFirst dag.operators.keys order := by
  obtain ⟨_, _, _, _, rfl⟩ := executionOrder_eq_ok_iff.1 accepted
  exact dag.smallestFirst_sortedOperators

/-- The list has every operator of a workflow once, each behind those that feed it. -/
structure Arranges (dag : Dag) (order : List Uuid) : Prop where
  /-- Every operator stands in it once. -/
  perm : order.Perm dag.operators.keys
  /-- What feeds an operator stands before it. -/
  fed : ∀ before consumer after, order = before ++ consumer :: after →
    ∀ producer, dag.Feeds producer consumer → producer ∈ before

/-- The list arranges a workflow, and no other list that does stands before it in a dictionary. -/
structure FirstArrangement (dag : Dag) (order : List Uuid) : Prop where
  /-- It arranges the workflow. -/
  arranges : dag.Arranges order
  /-- Any other list that does comes later. -/
  first : ∀ other, dag.Arranges other → other = order ∨ Earlier order other

/-- The execution order of a workflow whose operators are kept under their own identifiers is the
only list that is the first in a dictionary of those that have every operator once and each behind
what feeds it. -/
theorem executionOrder_first (keyed : dag.OperatorsKeyed)
    (accepted : dag.executionOrder = .ok order) :
    dag.FirstArrangement order ∧ ∀ other, dag.FirstArrangement other → other = order := by
  have perm := perm_keys_of_executionOrder accepted
  have topological_iff (list : List Uuid) : (Graph.build dag).Topological list ↔
      ∀ before consumer after, list = before ++ consumer :: after →
        ∀ producer, dag.Feeds producer consumer → producer ∈ before := by
    rw [← keyed.link_eq_feeds]
    rfl
  have arranges : dag.Arranges order :=
    ⟨perm, (topological_iff order).1 (topological_of_executionOrder accepted)⟩
  have first (other : List Uuid) (other_arranges : dag.Arranges other) :
      other = order ∨ Earlier order other := by
    have other_topological := (topological_iff other).2 other_arranges.fed
    rcases (smallestFirst_of_executionOrder accepted).eq_or_earlier other_topological
      dag.operators.keys_nodup perm other_arranges.perm with same | earlier
    · exact .inl same.symm
    · exact .inr earlier
  refine ⟨⟨arranges, first⟩, fun other other_first => ?_⟩
  rcases first other other_first.arranges with same | later
  · exact same
  · rcases other_first.first order arranges with same | earlier
    · exact same.symm
    · exact absurd later earlier.asymm

/-- The smallest operator waits for the largest one, which waits for a third. -/
private def entangled : Dag :=
  ofFunctions [(1, [104], []), (2, [], [102]), (3, [], []), (4, [102], [104])]

/-- The operators that wait for nothing come first, and the smallest one comes last. -/
theorem executionOrder_first_entangled :
    entangled.OperatorsKeyed ∧
      entangled.executionOrder = .ok [.ofNat 2, .ofNat 3, .ofNat 4, .ofNat 1] ∧
      entangled.FirstArrangement [.ofNat 2, .ofNat 3, .ofNat 4, .ofNat 1] := by
  have keyed : entangled.OperatorsKeyed := by decide
  have accepted : entangled.executionOrder = .ok [.ofNat 2, .ofNat 3, .ofNat 4, .ofNat 1] := by
    decide
  exact ⟨keyed, accepted, (executionOrder_first keyed accepted).1⟩

end Dag
end Workflow
