import Mathlib.Data.List.Chain
import Workflow.Proofs.Dag.Links

/-!
# What the graph of a workflow tells

The graph of a workflow lists who writes and who reads each artifact, and keeps every link in both
directions.  The search for descendants takes one turn for each link out of the operator or out of
what it finds, on cycles as anywhere else, so that it always comes to an end.  `build_faithful`
puts this together for every workflow, whatever its keys and identifiers are.
-/

namespace Workflow

open Relation

namespace Dag

/-- The identifiers of the operators that list an artifact, in the order of their keys and as often
as they list it. -/
def listing (dag : Dag) (artifacts : Operator → List Uuid) (artifact : Uuid) : List Uuid :=
  dag.operators.entries.flatMap fun entry =>
    List.replicate ((artifacts entry.2).count artifact) entry.2.id

/-- The operator lies on a cycle: a way over links leads from it back to it. -/
def OnCycle (dag : Dag) (operator : Uuid) : Prop :=
  ∃ way : List Uuid, (operator :: (way ++ [operator])).IsChain dag.Links

end Dag

private theorem transGen_iff_exists_isChain {α : Type} {relation : α → α → Prop} {first last : α} :
    TransGen relation first last ↔
      ∃ way : List α, (first :: (way ++ [last])).IsChain relation := by
  constructor
  · intro reach
    induction reach using TransGen.head_induction_on with
    | single step => exact ⟨[], by simpa using step⟩
    | head step _ ih =>
        obtain ⟨way, chain⟩ := ih
        exact ⟨_ :: way, by simpa using ⟨step, chain⟩⟩
  · rintro ⟨way, chain⟩
    induction way generalizing first with
    | nil => exact .single (by simpa using chain)
    | cons next way ih =>
        obtain ⟨step, rest⟩ : relation first next ∧ _ := by simpa using chain
        exact .head step (ih rest)

namespace Graph

/-! ### Who writes and who reads -/

/-- Grouping operators by the artifacts that they list gives the listing of each artifact. -/
theorem getD_find?_group_eq_listing (dag : Dag) (artifacts : Operator → List Uuid)
    (artifact : Uuid) :
    ((Table.group (dag.operators.values.flatMap fun operator =>
        (artifacts operator).map (·, operator.id))).find? artifact).getD [] =
      dag.listing artifacts artifact := by
  have own (operator : Operator) :
      (((artifacts operator).map (·, operator.id)).filter (·.1 = artifact)).map (·.2) =
        List.replicate ((artifacts operator).count artifact) operator.id := by
    rw [List.filter_map, List.map_map, List.count_eq_length_filter]
    exact List.map_const' ..
  simp only [Table.find?_group, Table.values, Dag.listing, List.flatMap_map, List.filter_flatMap,
    List.map_flatMap, own]

theorem producersOf_build (dag : Dag) (artifact : Uuid) :
    (build dag).producersOf artifact = dag.listing Operator.outputs artifact :=
  getD_find?_group_eq_listing dag Operator.outputs artifact

theorem consumersOf_build (dag : Dag) (artifact : Uuid) :
    (build dag).consumersOf artifact = dag.listing Operator.inputs artifact :=
  getD_find?_group_eq_listing dag Operator.inputs artifact

/-! ### The turns of the search -/

/-- A search under way. -/
structure Search where
  /-- The operators that were not seen yet. -/
  unseen : List Uuid
  /-- What is to be followed, next one first. -/
  stack : List Uuid

/-- Take the next operator from the stack, and follow it unless it was seen before. -/
def Search.turn (graph : Graph) (search : Search) : Search :=
  match search.stack with
  | [] => search
  | id :: stack =>
      if id ∈ search.unseen then ⟨search.unseen.erase id, graph.successorsOf id ++ stack⟩
      else ⟨search.unseen, stack⟩

/-- The search for the descendants of an operator after a number of turns. -/
def searchAfter (graph : Graph) (operator : Uuid) (turns : Nat) : Search :=
  (Search.turn graph)^[turns] ⟨graph.operators, graph.successorsOf operator⟩

/-- The operators that a search has seen. -/
def Search.seen (graph : Graph) (search : Search) : List Uuid :=
  graph.operators.filter fun id => !search.unseen.contains id

/-- The number of links out of some operators. -/
def linksOut (graph : Graph) (operators : List Uuid) : Nat :=
  (operators.flatMap graph.successorsOf).length

variable {graph : Graph} {unseen stack : List Uuid}

private theorem explore_sublist : (graph.explore unseen stack).Sublist unseen := by
  fun_induction Graph.explore graph unseen stack with
  | case1 unseen => exact .refl _
  | case2 unseen top stack _ ih => exact ih.trans List.erase_sublist
  | case3 unseen top stack _ ih => exact ih

private theorem explore_turn (search : Search) :
    graph.explore (search.turn graph).unseen (search.turn graph).stack =
      graph.explore search.unseen search.stack := by
  obtain ⟨unseen, _ | ⟨top, stack⟩⟩ := search
  · rfl
  · by_cases member : top ∈ unseen <;> simp [Search.turn, explore, member]

private theorem explore_iterate_turn (search : Search) (turns : Nat) :
    graph.explore ((Search.turn graph)^[turns] search).unseen
        ((Search.turn graph)^[turns] search).stack =
      graph.explore search.unseen search.stack := by
  induction turns generalizing search with
  | zero => rfl
  | succ turns ih => rw [Function.iterate_succ_apply, ih, explore_turn]

private theorem linksOut_visit (nodup : unseen.Nodup) {top : Uuid} (top_unseen : top ∈ unseen)
    {final : List Uuid} (sublist : final.Sublist (unseen.erase top)) :
    graph.linksOut (unseen.filter fun id => !final.contains id) =
      (graph.successorsOf top).length +
        graph.linksOut ((unseen.erase top).filter fun id => !final.contains id) := by
  have top_seen : top ∉ final := fun member =>
    (nodup.mem_erase_iff.1 (sublist.subset member)).1 rfl
  have perm := (List.perm_cons_erase top_unseen).filter fun id => !final.contains id
  rw [List.filter_cons_of_pos (by simpa using top_seen)] at perm
  rw [linksOut, (perm.flatMap_right _).length_eq, List.flatMap_cons, List.length_append, linksOut]

private theorem stack_iterate_turn_eq_nil_iff (nodup : unseen.Nodup) (turns : Nat) :
    ((Search.turn graph)^[turns] ⟨unseen, stack⟩).stack = [] ↔
      stack.length +
          graph.linksOut (unseen.filter fun id => !(graph.explore unseen stack).contains id) ≤
        turns := by
  -- Each turn takes one member off the stack; the links out of what is found come onto it once.
  fun_induction Graph.explore graph unseen stack generalizing turns with
  | case1 unseen =>
      have fixed : (Search.turn graph)^[turns] ⟨unseen, []⟩ = ⟨unseen, []⟩ :=
        Function.iterate_fixed rfl turns
      have all_unseen : (unseen.filter fun id => !unseen.contains id) = [] := by
        simp [List.filter_eq_nil_iff]
      rw [fixed, all_unseen]
      simp [linksOut]
  | case2 unseen top stack top_unseen ih =>
      rw [linksOut_visit nodup top_unseen explore_sublist]
      cases turns with
      | zero => simp
      | succ turns =>
          have turn_eq : Search.turn graph ⟨unseen, top :: stack⟩ =
              ⟨unseen.erase top, graph.successorsOf top ++ stack⟩ := by
            simp [Search.turn, top_unseen]
          rw [Function.iterate_succ_apply, turn_eq, ih (nodup.erase top), List.length_append,
            List.length_cons]
          omega
  | case3 unseen top stack top_seen ih =>
      cases turns with
      | zero => simp
      | succ turns =>
          have turn_eq : Search.turn graph ⟨unseen, top :: stack⟩ = ⟨unseen, stack⟩ := by
            simp [Search.turn, top_seen]
          rw [Function.iterate_succ_apply, turn_eq, ih nodup, List.length_cons]
          omega

/-- One turn for each link out of an operator, where it starts, or out of a descendant. -/
def searchLength (graph : Graph) (operator : Uuid) : Nat :=
  graph.linksOut (operator :: graph.descendantsOf operator)

/-- The search comes to an end, cycles or not. -/
theorem stack_searchAfter_eq_nil_iff (operator : Uuid) (turns : Nat) :
    (graph.searchAfter operator turns).stack = [] ↔ graph.searchLength operator ≤ turns := by
  rw [searchLength, linksOut, List.flatMap_cons, List.length_append]
  exact stack_iterate_turn_eq_nil_iff (Table.keys_nodup _) turns

/-- A search that has ended has seen the descendants. -/
theorem seen_searchAfter {operator : Uuid} {turns : Nat}
    (ended : (graph.searchAfter operator turns).stack = []) :
    (graph.searchAfter operator turns).seen graph = graph.descendantsOf operator := by
  have unseen_eq : graph.explore (graph.searchAfter operator turns).unseen
      (graph.searchAfter operator turns).stack =
        graph.explore graph.operators (graph.successorsOf operator) :=
    explore_iterate_turn _ turns
  rw [ended, explore] at unseen_eq
  rw [Search.seen, unseen_eq, descendantsOf]

/-! ### The whole graph -/

/-- The graph of a workflow, whatever its keys and identifiers are, lists the operators that write
and that read each artifact, in key order and as often as they name it, and joins in both directions
those of which one writes what the other reads.  The search for descendants ends after one turn for
each link out of the operator or out of a descendant, and has then seen the descendants: these are
what can be reached over one or more links, each once and in ascending order, and the operator is
among them exactly if it lies on a cycle. -/
theorem build_faithful (dag : Dag) :
    (∀ artifact,
      (build dag).producersOf artifact = dag.listing Operator.outputs artifact ∧
        (build dag).consumersOf artifact = dag.listing Operator.inputs artifact) ∧
    (∀ producer consumer,
      (producer ∈ (build dag).predecessorsOf consumer ↔
          consumer ∈ (build dag).successorsOf producer) ∧
        (consumer ∈ (build dag).successorsOf producer ↔ dag.Links producer consumer)) ∧
    ∀ operator,
      (∀ turns, ((build dag).searchAfter operator turns).stack = [] ↔
        (build dag).searchLength operator ≤ turns) ∧
      ((build dag).searchAfter operator ((build dag).searchLength operator)).seen (build dag) =
        (build dag).descendantsOf operator ∧
      (∀ id, id ∈ (build dag).descendantsOf operator ↔
        TransGen (fun producer consumer => consumer ∈ (build dag).successorsOf producer)
          operator id) ∧
      ((build dag).descendantsOf operator).Pairwise (compare · · = .lt) ∧
      (operator ∈ (build dag).descendantsOf operator ↔ dag.OnCycle operator) := by
  have coherent := build_coherent dag
  have link_eq : (build dag).Link = dag.Links := by
    funext producer consumer
    exact propext mem_predecessorsOf_build
  have step_eq : (fun producer consumer => consumer ∈ (build dag).successorsOf producer) =
      (build dag).Link := by
    funext producer consumer
    exact propext coherent.mem_successorsOf
  refine ⟨fun artifact => ⟨producersOf_build dag artifact, consumersOf_build dag artifact⟩,
    fun producer consumer => ⟨coherent.mem_successorsOf.symm, mem_successorsOf_build⟩,
    fun operator => ⟨stack_searchAfter_eq_nil_iff operator, ?seen, fun id => ?reach, ?ascending,
      ?cycle⟩⟩
  case seen => exact seen_searchAfter ((stack_searchAfter_eq_nil_iff operator _).2 le_rfl)
  case reach => rw [coherent.mem_descendantsOf, step_eq]
  case ascending => exact (Table.keys_ascending _).filter _
  case cycle =>
    rw [coherent.mem_descendantsOf, link_eq, transGen_iff_exists_isChain]
    rfl

end Graph
end Workflow
