import Mathlib.Data.Finset.Lattice.Fold
import Workflow.Proofs.Dag.Sorting

/-!
# Levels of operators

An operator without predecessors is on the first level, and every other one is on the level after
the highest one of its predecessors.  In a topological order the levels can be computed one operator
after the other.
-/

namespace Workflow
namespace Graph

variable {graph : Graph} {order : List Uuid} {operator last : Uuid}

/-- The levels of operators of which the last one comes first; all others are on no level. -/
def levelBehind (graph : Graph) : List Uuid → Uuid → Nat
  | [], _ => 0
  | last :: earlier, operator =>
      if operator = last then
        1 + (graph.predecessorsOf operator).toFinset.sup (graph.levelBehind earlier)
      else graph.levelBehind earlier operator

/-- The level of an operator in a topological order. -/
def level (graph : Graph) (order : List Uuid) (operator : Uuid) : Nat :=
  graph.levelBehind order.reverse operator

private theorem level_concat :
    graph.level (order ++ [last]) operator =
      if operator = last then
        1 + (graph.predecessorsOf operator).toFinset.sup (graph.level order)
      else graph.level order operator := by
  unfold level
  rw [List.reverse_append]
  rfl

private theorem sup_level_concat {operators : List Uuid} (absent : last ∉ operators) :
    operators.toFinset.sup (graph.level (order ++ [last])) =
      operators.toFinset.sup (graph.level order) := by
  apply Finset.sup_congr rfl
  intro operator member
  rw [level_concat, if_neg]
  rintro rfl
  exact absent (List.mem_toFinset.1 member)

/-- The level of an operator is the one after the highest level of its predecessors. -/
theorem Topological.level_eq (topological : graph.Topological order) (nodup : order.Nodup)
    (member : operator ∈ order) :
    graph.level order operator =
      1 + (graph.predecessorsOf operator).toFinset.sup (graph.level order) := by
  induction order using List.reverseRecOn with
  | nil => exact absurd member List.not_mem_nil
  | append_singleton order last ih =>
      obtain ⟨front, last_ready⟩ : graph.Topological order ∧ _ := stepwise_concat.1 topological
      have last_notMem : last ∉ order := by
        rw [← List.concat_eq_append, List.nodup_concat] at nodup
        exact nodup.1
      by_cases same : operator = last
      · subst same
        rw [sup_level_concat fun link => last_notMem (last_ready operator link), level_concat,
          if_pos rfl]
      · have earlier : operator ∈ order := by
          rcases List.mem_append.1 member with earlier | at_end
          · exact earlier
          · exact absurd (List.mem_singleton.1 at_end) same
        rw [sup_level_concat fun link => last_notMem (front.producer_mem earlier link),
          level_concat, if_neg same]
        exact ih front (nodup.sublist (List.sublist_append_left _ _)) earlier

/-- An operator comes before another if it is on a lower level, or on the same one and earlier in
the order. -/
def Ahead (graph : Graph) (order : List Uuid) (first second : Uuid) : Prop :=
  graph.level order first < graph.level order second ∨
    graph.level order first = graph.level order second ∧ order.idxOf first < order.idxOf second

end Graph

/-- The members of a part of a list without repetitions have ascending positions. -/
theorem pairwise_idxOf {α : Type} [DecidableEq α] {items part : List α} (nodup : items.Nodup)
    (sublist : part.Sublist items) :
    part.Pairwise fun first second => items.idxOf first < items.idxOf second := by
  refine List.Pairwise.sublist sublist (List.pairwise_iff_getElem.2 fun i j i_lt j_lt lt => ?_)
  rwa [nodup.idxOf_getElem, nodup.idxOf_getElem]

end Workflow
