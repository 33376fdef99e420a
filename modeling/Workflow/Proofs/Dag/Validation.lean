import Mathlib.Data.Fintype.Card
import Workflow.Proofs.Dag.Keys
import Workflow.Proofs.Dag.Sorting

/-!
# What validation decides

`Dag.Breaks` says for each of the four rules what it means to break it, without sorting anything:
the last one is broken by operators that feed one another in a cycle.  Validation reports the first
rule that is broken, and accepts a workflow that breaks none.
-/

namespace Workflow

open Relation

instance : Finite Uuid :=
  Finite.of_injective Uuid.value fun left right value_eq => by
    cases left
    cases right
    exact congrArg Uuid.mk value_eq

namespace Graph

theorem Topological.acyclic {graph : Graph} {order : List Uuid}
    (topological : graph.Topological order) :
    ∀ operator ∈ order, ¬TransGen graph.Link operator operator := by
  refine topological.induction fun operator _ producers_acyclic cycle => ?_
  obtain ⟨producer, reach, link⟩ := TransGen.tail'_iff.1 cycle
  exact producers_acyclic producer link (.head' link reach)

private theorem exists_minimal {graph : Graph} {members : Set Uuid} (nonempty : members.Nonempty)
    (acyclic : ∀ operator ∈ members, ¬TransGen graph.Link operator operator) :
    ∃ operator ∈ members, ∀ producer ∈ members, ¬graph.Link producer operator := by
  let reaches (first second : members) : Prop := TransGen graph.Link first second
  have : IsTrans members reaches := ⟨fun _ _ _ => TransGen.trans⟩
  have : Std.Irrefl reaches := ⟨fun operator => acyclic operator operator.2⟩
  obtain ⟨operator, -, minimal⟩ := (Finite.wellFounded_of_trans_of_irrefl reaches).has_min .univ
    ⟨⟨_, nonempty.some_mem⟩, trivial⟩
  exact ⟨operator, operator.2, fun producer producer_mem link =>
    minimal ⟨producer, producer_mem⟩ trivial (.single link)⟩

/-- A sort that gets as far as any reaches the operators to which only operators on no cycle
lead. -/
theorem MaximalSort.mem_iff_acyclic {graph : Graph} {operators sorted : List Uuid}
    (maximal : graph.MaximalSort operators sorted) {operator : Uuid} :
    operator ∈ sorted ↔ operator ∈ operators ∧
      ∀ ancestor, TransGen graph.Link ancestor operator →
        ancestor ∈ operators ∧ ¬TransGen graph.Link ancestor ancestor := by
  constructor
  · refine fun member => ⟨maximal.subset member, fun ancestor reach => ?_⟩
    have ancestor_mem := maximal.topological.ancestor_mem member reach
    exact ⟨maximal.subset ancestor_mem, maximal.topological.acyclic ancestor ancestor_mem⟩
  · rintro ⟨known, ancestors⟩
    by_contra unsorted
    -- Of what is not sorted and leads to the operator, some operator awaits nothing of the kind.
    let missing := {id | id ∉ sorted ∧ ReflTransGen graph.Link id operator}
    have acyclic : ∀ id ∈ missing, ¬TransGen graph.Link id id := by
      rintro id ⟨-, reach⟩ cycle
      exact (ancestors id (cycle.trans_left reach)).2 cycle
    have nonempty : missing.Nonempty := ⟨operator, unsorted, .refl⟩
    obtain ⟨first, ⟨first_unsorted, reach⟩, minimal⟩ := exists_minimal nonempty acyclic
    have first_known : first ∈ operators := by
      rcases reflTransGen_iff_eq_or_transGen.1 reach with same | reach
      · exact same ▸ known
      · exact (ancestors first reach).1
    refine first_unsorted (maximal.complete first first_known fun producer link => ?_)
    by_contra producer_unsorted
    exact minimal producer ⟨producer_unsorted, .head link reach⟩ link

/-- A sort that gets as far as any is complete exactly when there is no cycle. -/
theorem MaximalSort.perm_iff_acyclic {graph : Graph} {operators sorted : List Uuid}
    (maximal : graph.MaximalSort operators sorted) (nodup : operators.Nodup)
    (closed : ∀ {producer consumer}, graph.Link producer consumer → producer ∈ operators) :
    sorted.Perm operators ↔ ∀ operator, ¬TransGen graph.Link operator operator := by
  have known {ancestor operator : Uuid} (reach : TransGen graph.Link ancestor operator) :
      ancestor ∈ operators := by
    obtain ⟨next, link, _⟩ := TransGen.head'_iff.1 reach
    exact closed link
  constructor
  · intro perm operator cycle
    exact maximal.topological.acyclic operator (perm.mem_iff.2 (known cycle)) cycle
  · intro acyclic
    refine (List.perm_ext_iff_of_nodup maximal.nodup nodup).2 fun operator =>
      ⟨@maximal.subset operator, fun member => maximal.mem_iff_acyclic.2 ⟨member, ?_⟩⟩
    exact fun ancestor reach => ⟨known reach, acyclic ancestor⟩

end Graph

namespace Defect

/-- The number of the rule that a defect breaks; rules are checked in this order. -/
def rule : Defect → Nat
  | noOperator => 1
  | undefinedArtifact => 2
  | unreachableArtifact => 3
  | unexecutableOperator => 4

theorem forall_iff {motive : Defect → Prop} :
    (∀ defect, motive defect) ↔
      motive .noOperator ∧ motive .undefinedArtifact ∧ motive .unreachableArtifact ∧
        motive .unexecutableOperator :=
  ⟨fun all => ⟨all _, all _, all _, all _⟩, fun ⟨first, second, third, fourth⟩ defect => by
    cases defect <;> assumption⟩

end Defect

namespace Dag

/-- What it means to break a rule. -/
def Breaks (dag : Dag) : Defect → Prop
  | .noOperator => ∀ key, key ∉ dag.operators.keys
  | .undefinedArtifact =>
      ∃ operator ∈ dag.operators.values, ∃ artifact,
        (artifact ∈ operator.inputs ∨ artifact ∈ operator.outputs) ∧ artifact ∉ dag.artifacts.keys
  | .unreachableArtifact =>
      ∃ artifact ∈ dag.artifacts.keys, ∀ operator ∈ dag.operators.values,
        artifact ∉ operator.outputs
  | .unexecutableOperator => ∃ operator, TransGen dag.Feeds operator operator

theorem isEmpty_iff_breaks {dag : Dag} :
    dag.operators.isEmpty = true ↔ dag.Breaks .noOperator := by
  rw [Table.isEmpty, List.isEmpty_iff, ← List.map_eq_nil_iff (f := Prod.fst)]
  exact List.eq_nil_iff_forall_not_mem

theorem referencesDefined_iff_breaks {dag : Dag} :
    dag.referencesDefined = false ↔ dag.Breaks .undefinedArtifact := by
  simp only [Breaks, referencesDefined, ← Table.contains_iff, List.all_eq_false,
    Bool.not_eq_true, List.mem_append]

theorem artifactsProduced_iff_breaks {dag : Dag} :
    dag.artifactsProduced = false ↔ dag.Breaks .unreachableArtifact := by
  simp [Breaks, artifactsProduced]

/-- The sort is incomplete exactly when operators feed one another in a cycle. -/
theorem sortedOperators_iff_breaks {dag : Dag} (keyed : dag.OperatorsKeyed) :
    dag.sortedOperators.length ≠ dag.operators.size ↔ dag.Breaks .unexecutableOperator := by
  have link_eq := keyed.link_eq_feeds
  have maximal := dag.sorted_sortedOperators
  rw [Ne, perm_sortedOperators_iff,
    maximal.perm_iff_acyclic dag.operators.keys_nodup
      (fun link => (link_eq ▸ link : dag.Feeds _ _).producer_mem), link_eq]
  simp [Breaks]

/-- Validation reports the first rule that is broken and accepts a workflow that breaks none. -/
theorem validate_verdict {dag : Dag} (keyed : dag.OperatorsKeyed) :
    (∀ defect, dag.validate = .error defect ↔
      dag.Breaks defect ∧ ∀ earlier, earlier.rule < defect.rule → ¬dag.Breaks earlier) ∧
        (dag.validate = .ok () ↔ ∀ defect, ¬dag.Breaks defect) := by
  simp only [Defect.forall_iff, Defect.rule, ← isEmpty_iff_breaks, ← referencesDefined_iff_breaks,
    ← artifactsProduced_iff_breaks, ← sortedOperators_iff_breaks keyed, validate, executionOrder]
  split_ifs <;> simp_all [Except.map]

/-- Two operators that wait for each other break the last rule and no other one. -/
theorem validate_ring :
    ring.OperatorsKeyed ∧ ring.validate = .error .unexecutableOperator := by
  have keyed : ring.OperatorsKeyed := by decide
  have forth : ring.Feeds (.ofNat 1) (.ofNat 2) :=
    ⟨_, _, rfl, rfl, .ofNat 101, by decide, by decide⟩
  have back : ring.Feeds (.ofNat 2) (.ofNat 1) :=
    ⟨_, _, rfl, rfl, .ofNat 102, by decide, by decide⟩
  refine ⟨keyed, ((validate_verdict keyed).1 _).2 ⟨⟨.ofNat 1, .tail (.single forth) back⟩, ?_⟩⟩
  intro earlier lower broken
  cases earlier with
  | noOperator => exact broken (.ofNat 1) (by decide)
  | undefinedArtifact => exact absurd (referencesDefined_iff_breaks.2 broken) (by decide)
  | unreachableArtifact => exact absurd (artifactsProduced_iff_breaks.2 broken) (by decide)
  | unexecutableOperator => exact absurd lower (by decide)

end Dag
end Workflow
