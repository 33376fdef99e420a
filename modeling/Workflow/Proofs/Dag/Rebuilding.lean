import Mathlib.Data.List.Permutation
import Workflow.Proofs.Dag.Edges

/-!
# Workflows rebuilt from their edges

Attaching sorts the edges by place, so the edges on one side of an operator are attached in the
order of their places, in whatever order they are given.  Where the places on a side are those that
`Dag.edges` gives, this order is unique, and both ways between workflows and edges follow.
-/

namespace Workflow

private theorem filter_flatMap_of_key {α β κ : Type} [DecidableEq κ] {parts : α → List β}
    {key : β → κ} {owner : α → κ} {members : List α}
    (own : ∀ member ∈ members, ∀ part ∈ parts member, key part = owner member) (wanted : κ) :
    (members.flatMap parts).filter (key · = wanted) =
      (members.filter (owner · = wanted)).flatMap parts := by
  induction members with
  | nil => rfl
  | cons head members ih =>
      have rest_eq := ih fun member found => own member (List.mem_cons_of_mem _ found)
      have head_own := own head List.mem_cons_self
      rw [List.flatMap_cons, List.filter_append, rest_eq]
      by_cases same : owner head = wanted
      · have all : (parts head).filter (key · = wanted) = parts head :=
          List.filter_eq_self.2 fun part found => by simp [head_own part found, same]
        simp [all, same]
      · have none : (parts head).filter (key · = wanted) = [] :=
          List.filter_eq_nil_iff.2 fun part found => by simp [head_own part found, same]
        simp [none, same]

private theorem eq_range_of_perm {places : List Nat} {count : Nat}
    (ascending : places.Pairwise (· ≤ ·)) (perm : places.Perm (List.range count)) :
    places = List.range count :=
  perm.eq_of_pairwise (fun _ _ _ _ => Nat.le_antisymm) ascending (List.pairwise_le_range)

namespace Operator

/-- Every place on a side of the operator is a place that an edge can have. -/
def Indexable (operator : Operator) : Prop :=
  operator.inputs.length ≤ UInt32.size ∧ operator.outputs.length ≤ UInt32.size

instance (operator : Operator) : Decidable operator.Indexable :=
  inferInstanceAs (Decidable (_ ∧ _))

private theorem Indexable.side_pairwise {operator : Operator} (indexable : operator.Indexable)
    (kind : EdgeKind) :
    (operator.side kind).Pairwise fun first second => first.place < second.place := by
  have bound : (operator.artifacts kind).length ≤ UInt32.size := by
    cases kind
    exacts [indexable.2, indexable.1]
  refine List.pairwise_iff_getElem.2 fun first second first_lt second_lt lt => ?_
  simp only [side, List.length_mapIdx] at first_lt second_lt
  simp only [side, List.getElem_mapIdx, Edge.place_between, UInt32.lt_iff_toNat_lt]
  rwa [UInt32.toNat_ofNat_of_lt' (by omega), UInt32.toNat_ofNat_of_lt' (by omega)]

private theorem Indexable.eq_side {operator : Operator} (indexable : operator.Indexable)
    {kind : EdgeKind} {edges : List Edge}
    (sorted : edges.Pairwise fun first second => first.place ≤ second.place)
    (perm : edges.Perm (operator.side kind)) : edges = operator.side kind := by
  have strict := indexable.side_pairwise kind
  have places_nodup : ((operator.side kind).map Edge.place).Nodup :=
    List.pairwise_map.2 (strict.imp UInt32.ne_of_lt)
  refine perm.eq_of_pairwise (fun first second first_mem second_mem le ge => ?_) sorted
    (strict.imp UInt32.le_of_lt)
  exact List.inj_on_of_nodup_map places_nodup (perm.mem_iff.1 first_mem) second_mem
    (UInt32.le_antisymm le ge)

private theorem side_eq_of_places {operator : Operator} {kind : EdgeKind} {edges : List Edge}
    (artifacts_eq : operator.artifacts kind = edges.map Edge.artifact)
    (own : ∀ edge ∈ edges, edge.operator = operator.id ∧ edge.kind = kind)
    (places_eq : edges.map (·.place.toNat) = List.range edges.length) :
    operator.side kind = edges := by
  rw [side, artifacts_eq]
  refine List.ext_getElem (by simp) fun place _ bound => ?_
  obtain ⟨operator_eq, kind_eq⟩ := own _ (List.getElem_mem bound)
  have place_eq : edges[place].place.toNat = place := by
    have := congrArg (·[place]?) places_eq
    simpa [bound] using this
  have ofNat_eq : UInt32.ofNat place = edges[place].place :=
    (congrArg UInt32.ofNat place_eq.symm).trans UInt32.ofNat_toNat
  rw [List.getElem_mapIdx, List.getElem_map, ofNat_eq]
  exact (congrArg₂ (Edge.between · · _ _) kind_eq.symm operator_eq.symm).trans (Edge.between_eq _)

end Operator

namespace Dag

/-! ### The edges of a workflow -/

/-- Every place in a list of the workflow is a place that an edge can have. -/
def Indexable (dag : Dag) : Prop :=
  ∀ operator ∈ dag.operators.values, operator.Indexable

instance (dag : Dag) : Decidable dag.Indexable :=
  inferInstanceAs (Decidable (∀ operator ∈ dag.operators.values, operator.Indexable))

instance (dag : Dag) : Decidable dag.KeysMatch :=
  inferInstanceAs (Decidable ((∀ entry ∈ dag.operators.entries, entry.2.id = entry.1) ∧
    ∀ entry ∈ dag.artifacts.entries, entry.2.id = entry.1))

private theorem edges_eq (dag : Dag) : dag.edges = dag.operators.entries.flatMap (·.2.edges) :=
  List.flatMap_map ..

private theorem operator_of_mem_edges {operator : Operator} {edge : Edge}
    (member : edge ∈ operator.edges) : edge.operator = operator.id := by
  rw [Operator.edges_eq] at member
  obtain ⟨kind, _, member⟩ := List.mem_flatMap.1 member
  exact (Operator.mem_side member).1

private theorem OperatorsKeyed.sideEdges_edges {dag : Dag} (keyed : dag.OperatorsKeyed) {key : Uuid}
    {operator : Operator} (found : dag.operators.find? key = some operator) (kind : EdgeKind) :
    sideEdges key kind dag.edges = operator.side kind := by
  have own : ∀ entry ∈ dag.operators.entries, ∀ edge ∈ entry.2.edges, edge.operator = entry.1 :=
    fun entry entry_mem edge edge_mem =>
      (operator_of_mem_edges edge_mem).trans (keyed entry entry_mem)
  rw [sideEdges, edges_eq, filter_flatMap_of_key own, Table.filter_entries_eq, found]
  simpa using operator.filter_kind_edges kind

private theorem OperatorsKeyed.operator_mem_keys {dag : Dag} (keyed : dag.OperatorsKeyed)
    {edge : Edge} (member : edge ∈ dag.edges) : edge.operator ∈ dag.operators.keys := by
  rw [edges_eq] at member
  obtain ⟨entry, entry_mem, member⟩ := List.mem_flatMap.1 member
  rw [operator_of_mem_edges member, keyed entry entry_mem]
  exact List.mem_map_of_mem entry_mem

/-! ### From a workflow to its edges and back -/

private theorem OperatorsKeyed.keyedOperators_eq {dag : Dag} (keyed : dag.OperatorsKeyed)
    {operators : List Operator} (perm : operators.Perm dag.operators.values) :
    keyedOperators (operators.map Operator.detached) =
      dag.operators.map fun _ operator => operator.detached := by
  refine Table.eq_of_entries_eq (Table.entries_ofList (Table.ascending _) fun pair => ?_)
  rw [List.map_map, (perm.map _).mem_iff, Table.values, List.map_map]
  show pair ∈ List.map _ _ ↔ pair ∈ List.map _ _
  rw [List.map_congr_left fun entry entry_mem => ?_]
  simp [Operator.detached, keyed entry entry_mem]

private theorem KeysMatch.keyedArtifacts_eq {dag : Dag} (keysMatch : dag.KeysMatch)
    {artifacts : List Artifact} (perm : artifacts.Perm dag.artifacts.values) :
    keyedArtifacts artifacts = dag.artifacts := by
  refine Table.eq_of_entries_eq (Table.entries_ofList (Table.ascending _) fun pair => ?_)
  rw [(perm.map _).mem_iff, Table.values, List.map_map,
    List.map_congr_left fun entry entry_mem => ?_, List.map_id]
  simp [keysMatch.2 entry entry_mem]

/-- A workflow is rebuilt from its parts and its edges, each in any order. -/
theorem KeysMatch.ofEdges_eq_ok {dag : Dag} (keysMatch : dag.KeysMatch) (indexable : dag.Indexable)
    {operators : List Operator} (operators_perm : operators.Perm dag.operators.values)
    {artifacts : List Artifact} (artifacts_perm : artifacts.Perm dag.artifacts.values)
    {edges : List Edge} (edges_perm : edges.Perm dag.edges) :
    ofEdges dag.metadata operators artifacts edges = .ok dag := by
  have keyed : dag.OperatorsKeyed := keysMatch.1
  rw [ofEdges_eq_ok_iff, keyed.keyedOperators_eq operators_perm,
    keysMatch.keyedArtifacts_eq artifacts_perm, Table.keys_map]
  refine ⟨fun edge member => keyed.operator_mem_keys (edges_perm.mem_iff.1 member), ?_⟩
  have operators_eq :
      attached (byPlace edges) (dag.operators.map fun _ operator => operator.detached) =
        dag.operators := by
    refine Table.eq_of_find?_eq fun key => ?_
    rw [attached, Table.find?_map, Table.find?_map]
    cases found : dag.operators.find? key with
    | none => rfl
    | some operator =>
        refine congrArg some (Operator.eq_of_sides ?_ fun kind => ?_)
        · exact Operator.detached_foldl_attach _ _
        · have side_perm : (sideEdges key kind (byPlace edges)).Perm (operator.side kind) := by
            rw [← keyed.sideEdges_edges found]
            exact (((byPlace_perm edges).trans edges_perm).filter _).filter _
          have side_eq := (indexable operator (Table.mem_values_iff.2 ⟨key, found⟩)).eq_side
            (((byPlace_pairwise edges).filter _).filter _) side_perm
          rw [Operator.artifacts_foldl_attach, ← operator.map_artifact_side, ← side_eq]
          cases kind <;> rfl
  rw [operators_eq]

private theorem find?_keyedArtifacts_id {artifacts : List Artifact} {entry : Uuid × Artifact}
    (member : entry ∈ (keyedArtifacts artifacts).entries) : entry.2.id = entry.1 := by
  obtain ⟨artifact, _, rfl⟩ := List.mem_map.1 (Table.mem_of_mem_entries_ofList member)
  rfl

/-- The operators that edges name are in what the edges build. -/
theorem operator_mem_keys_of_ofEdges {metadata : Metadata} {operators : List Operator}
    {artifacts : List Artifact} {edges : List Edge} {dag : Dag}
    (built : ofEdges metadata operators artifacts edges = .ok dag) {edge : Edge}
    (member : edge ∈ edges) : edge.operator ∈ dag.operators.keys := by
  obtain ⟨known, rfl⟩ := ofEdges_eq_ok_iff.1 built
  rw [attached, Table.keys_map]
  exact known edge member

theorem keysMatch_ofEdges {metadata : Metadata} {operators : List Operator}
    {artifacts : List Artifact} {edges : List Edge} {dag : Dag}
    (built : ofEdges metadata operators artifacts edges = .ok dag) : dag.KeysMatch := by
  refine ⟨operatorsKeyed_ofEdges built, ?_⟩
  obtain ⟨_, rfl⟩ := ofEdges_eq_ok_iff.1 built
  exact fun _ => find?_keyedArtifacts_id

/-! ### From edges to a workflow and back -/

/-- The places of the edges on each side of each operator count from zero without gap. -/
def Counted (edges : List Edge) : Prop :=
  ∀ key kind, ∃ count,
    ((sideEdges key kind edges).map (·.place.toNat)).Perm (List.range count)

private theorem counted_iff {edges : List Edge} :
    Counted edges ↔ ∀ edge ∈ edges,
      ((sideEdges edge.operator edge.kind edges).map (·.place.toNat)).Perm
        (List.range (sideEdges edge.operator edge.kind edges).length) := by
  constructor
  · intro counted edge _
    obtain ⟨count, perm⟩ := counted edge.operator edge.kind
    have length_eq : (sideEdges edge.operator edge.kind edges).length = count := by
      simpa using perm.length_eq
    rwa [length_eq]
  · intro counted key kind
    refine ⟨(sideEdges key kind edges).length, ?_⟩
    cases side_eq : sideEdges key kind edges with
    | nil => exact .refl _
    | cons edge rest =>
        have member : edge ∈ sideEdges key kind edges := side_eq ▸ List.mem_cons_self
        simp only [sideEdges, List.mem_filter, decide_eq_true_eq] at member
        obtain ⟨⟨edge_mem, rfl⟩, rfl⟩ := member
        exact side_eq ▸ counted edge edge_mem

instance (edges : List Edge) : Decidable (Counted edges) :=
  decidable_of_iff _ counted_iff.symm

private theorem Counted.places_eq {edges : List Edge} (counted : Counted edges) (key : Uuid)
    (kind : EdgeKind) :
    (sideEdges key kind (byPlace edges)).map (·.place.toNat) =
      List.range (sideEdges key kind (byPlace edges)).length := by
  obtain ⟨count, perm⟩ := counted key kind
  have sorted := ((byPlace_pairwise edges).filter (·.operator = key)).filter (·.kind = kind)
  have ascending : ((sideEdges key kind (byPlace edges)).map (·.place.toNat)).Pairwise (· ≤ ·) :=
    List.pairwise_map.2 (sorted.imp UInt32.le_iff_toNat_le.1)
  have side_perm := ((((byPlace_perm edges).filter _).filter _).map _).trans perm
  have places_eq := eq_range_of_perm ascending side_perm
  have length_eq := congrArg List.length places_eq
  rw [List.length_map, List.length_range] at length_eq
  rw [places_eq, length_eq]

private theorem artifacts_of_detached {operators : List Operator} {key : Uuid} {operator : Operator}
    (found : (keyedOperators (operators.map Operator.detached)).find? key = some operator)
    (kind : EdgeKind) : operator.artifacts kind = [] := by
  have member := Table.mem_of_mem_entries_ofList (Table.mem_entries_iff.2 found)
  rw [List.map_map] at member
  obtain ⟨given, _, pair_eq⟩ := List.mem_map.1 member
  obtain ⟨-, rfl⟩ := Prod.mk.inj pair_eq
  cases kind <;> rfl

private theorem Counted.operator_edges_perm {edges : List Edge} (counted : Counted edges)
    {operators : List Operator} {key : Uuid} {operator : Operator}
    (found :
      (attached (byPlace edges) (keyedOperators (operators.map Operator.detached))).find? key =
        some operator) :
    operator.edges.Perm ((byPlace edges).filter (·.operator = key)) := by
  rw [attached, Table.find?_map, Option.map_eq_some_iff] at found
  obtain ⟨bare, bare_found, rfl⟩ := found
  have bare_id : bare.id = key := find?_keyedOperators_id bare_found
  have id_eq : (((byPlace edges).filter (·.operator = key)).foldl Operator.attach bare).id = key :=
    (congrArg Operator.id (Operator.detached_foldl_attach _ bare)).trans bare_id
  have side_eq (kind : EdgeKind) :
      (((byPlace edges).filter (·.operator = key)).foldl Operator.attach bare).side kind =
        sideEdges key kind (byPlace edges) := by
    refine Operator.side_eq_of_places ?_ (fun edge member => ?_) (counted.places_eq key kind)
    · rw [Operator.artifacts_foldl_attach, artifacts_of_detached bare_found]
      rfl
    · rw [id_eq]
      simp only [sideEdges, List.mem_filter, decide_eq_true_eq] at member
      exact ⟨member.1.2, member.2⟩
  rw [Operator.edges_eq, List.flatMap_congr fun kind _ => side_eq kind]
  exact flatMap_filter_perm (by decide) fun edge _ => by cases edge.kind <;> decide

/-- Edges whose places count from zero on every side are the edges of what they build. -/
theorem Counted.edges_perm {edges : List Edge} (counted : Counted edges) {metadata : Metadata}
    {operators : List Operator} {artifacts : List Artifact} {dag : Dag}
    (built : ofEdges metadata operators artifacts edges = .ok dag) : dag.edges.Perm edges := by
  have covered : ∀ edge ∈ byPlace edges, edge.operator ∈ dag.operators.keys := fun _ member =>
    operator_mem_keys_of_ofEdges built ((byPlace_perm edges).mem_iff.1 member)
  obtain ⟨-, rfl⟩ := ofEdges_eq_ok_iff.1 built
  rw [edges_eq]
  refine (List.Perm.flatMap_left _ fun entry entry_mem =>
    counted.operator_edges_perm (Table.mem_entries_iff.1 entry_mem)).trans ?_
  have by_key := flatMap_filter_perm (Table.keys_nodup _) covered
  rw [Table.keys, List.flatMap_map] at by_key
  exact by_key.trans (byPlace_perm edges)

/-- The edges of a workflow are a faithful form of it.  With its parts, all in any order, they
rebuild it; a workflow that some edges build is rebuilt from its own edges; and edges whose places
count from zero on every side are the edges of the workflow that they build. -/
theorem edges_faithful :
    (∀ dag : Dag, dag.KeysMatch → dag.Indexable → ∀ operators artifacts edges,
      operators.Perm dag.operators.values → artifacts.Perm dag.artifacts.values →
        edges.Perm dag.edges → ofEdges dag.metadata operators artifacts edges = .ok dag) ∧
      ∀ metadata operators artifacts edges dag,
        ofEdges metadata operators artifacts edges = .ok dag →
          (dag.Indexable →
            ofEdges dag.metadata dag.operators.values dag.artifacts.values dag.edges = .ok dag) ∧
          (Counted edges → dag.edges.Perm edges) := by
  refine ⟨fun dag keysMatch indexable operators artifacts edges operators_perm artifacts_perm
    edges_perm => ?_, fun metadata operators artifacts edges dag built => ⟨fun indexable => ?_,
      fun counted => counted.edges_perm built⟩⟩
  · exact keysMatch.ofEdges_eq_ok indexable operators_perm artifacts_perm edges_perm
  · exact (keysMatch_ofEdges built).ofEdges_eq_ok indexable (.refl _) (.refl _) (.refl _)

/-- One operator that reads an artifact twice. -/
private def repeated : Dag :=
  ofFunctions [(3, [101, 101, 102], [])]

/-- Edges of `repeated` with gaps between the places and two equal places. -/
private def gapped : List Edge :=
  [⟨.artifactToOperator, .ofNat 101, .ofNat 3, 7⟩, ⟨.artifactToOperator, .ofNat 102, .ofNat 3, 7⟩,
    ⟨.artifactToOperator, .ofNat 101, .ofNat 3, 2⟩]

theorem edges_faithful_examples :
    ofEdges join.metadata join.operators.values join.artifacts.values join.edges.reverse =
        .ok join ∧
      join.edges.Perm join.edges.reverse ∧
        ofEdges repeated.metadata repeated.operators.values [] gapped = .ok repeated ∧
          ofEdges repeated.metadata repeated.operators.values [] repeated.edges = .ok repeated := by
  have built := edges_faithful.1 join (by decide) (by decide) _ _ _ (.refl _) (.refl _)
    (List.reverse_perm join.edges)
  have gapped_built :
      ofEdges repeated.metadata repeated.operators.values [] gapped = .ok repeated := by
    cbv
  exact ⟨built, (edges_faithful.2 _ _ _ _ _ built).2 (by decide), gapped_built,
    (edges_faithful.2 _ _ _ _ _ gapped_built).1 (by decide)⟩

end Dag
end Workflow
