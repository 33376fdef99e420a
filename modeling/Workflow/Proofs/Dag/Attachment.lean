import Mathlib
import Workflow.Proofs.Dag.Rebuilding

/-!
# Which edges a workflow is built from

To build a workflow from edges is to sort them once, with ties left in their order, and then to
give every operator the edges that name it.  A stable sort is determined by the order of the places
and by the order within each place, and both pass to the edges on one side of one operator; so each
list of an operator is sorted by this one sort, and only the order of ties on one side matters.
-/

namespace Workflow

/-! ### Stable sorting -/

/-- A list in ascending order of a key in which the members of one key keep the order that they have
in another list. -/
structure StablySorted {α κ : Type} [LE κ] [DecidableEq κ] (key : α → κ) (given sorted : List α) :
    Prop where
  /-- Keys ascend. -/
  ascending : sorted.Pairwise fun first second => key first ≤ key second
  /-- Members of one key are those of the given list, in their order. -/
  ties : ∀ tie, sorted.filter (key · = tie) = given.filter (key · = tie)

namespace StablySorted

variable {α κ : Type} [LE κ] [DecidableEq κ] {key : α → κ} {given sorted other : List α}

theorem mem_iff (stable : StablySorted key given sorted) {member : α} :
    member ∈ sorted ↔ member ∈ given := by
  have tie_iff := congrArg (member ∈ ·) (stable.ties (key member))
  simpa using tie_iff

private theorem filter (stable : StablySorted key given sorted) (keep : α → Bool) :
    StablySorted key (given.filter keep) (sorted.filter keep) where
  ascending := stable.ascending.filter keep
  ties tie := by
    rw [List.filter_comm, stable.ties, List.filter_comm]

variable [Std.IsLinearOrder κ]

private theorem key_le {first member : α} {rest : List α}
    (stable : StablySorted key given (first :: rest)) (found : member ∈ given) :
    key first ≤ key member := by
  rcases List.mem_cons.1 (stable.mem_iff.2 found) with rfl | later
  · exact Std.le_refl _
  · exact (List.pairwise_cons.1 stable.ascending).1 member later

/-- There is only one stable sort of a list. -/
theorem unique (stable : StablySorted key given sorted) (also : StablySorted key given other) :
    sorted = other := by
  induction sorted generalizing given other with
  | nil =>
      refine (List.eq_nil_iff_forall_not_mem.2 fun member found => ?_).symm
      exact List.not_mem_nil (stable.mem_iff.2 (also.mem_iff.1 found))
  | cons first rest ih =>
      obtain _ | ⟨head, tail⟩ := other
      · exact absurd (also.mem_iff.2 (stable.mem_iff.1 List.mem_cons_self)) List.not_mem_nil
      · have key_eq : key head = key first :=
          Std.le_antisymm (also.key_le (stable.mem_iff.1 List.mem_cons_self))
            (stable.key_le (also.mem_iff.1 List.mem_cons_self))
        have ties_eq (tie : κ) : (first :: rest).filter (key · = tie) =
            (head :: tail).filter (key · = tie) :=
          (stable.ties tie).trans (also.ties tie).symm
        obtain rfl : first = head := by
          have same := ties_eq (key first)
          rw [List.filter_cons_of_pos (by simp), List.filter_cons_of_pos (by simp [key_eq])] at same
          exact (List.cons.inj same).1
        refine congrArg (first :: ·) (ih ⟨stable.ascending.of_cons, fun _ => rfl⟩
          ⟨also.ascending.of_cons, fun tie => ?_⟩)
        have same := ties_eq tie
        by_cases here : key first = tie
        · rw [List.filter_cons_of_pos (by simp [here]),
            List.filter_cons_of_pos (by simp [here])] at same
          exact (List.cons.inj same).2.symm
        · rw [List.filter_cons_of_neg (by simp [here]),
            List.filter_cons_of_neg (by simp [here])] at same
          exact same.symm

end StablySorted

/-! ### Members under their own keys -/

private theorem Table.find?_ofList_keyed {κ α : Type} [Ord κ] [Std.TransOrd κ] [Std.LawfulEqOrd κ]
    [DecidableEq κ] (id : α → κ) (members : List α) (key : κ) :
    (Table.ofList (members.map fun member => (id member, member))).find? key =
      (members.filter (id · = key)).getLast? := by
  induction members using List.reverseRecOn with
  | nil => rfl
  | append_singleton members last ih =>
      rw [Table.find?_ofList] at ih ⊢
      by_cases same : id last = key
      · simp [Table.entryAt?, same]
      · have key_ne : key ≠ id last := Ne.symm same
        simpa [Table.entryAt?, same, key_ne] using ih

namespace Dag

/-! ### The order in which edges are attached -/

private theorem stablySorted_byPlace (edges : List Edge) :
    StablySorted Edge.place edges (byPlace edges) where
  ascending := byPlace_pairwise edges
  ties tie := by
    have ascending : (edges.filter (·.place = tie)).Pairwise fun first second =>
        decide (first.place ≤ second.place) = true := by
      refine List.pairwise_of_forall_mem_list fun first first_mem second second_mem => ?_
      have first_eq : first.place = tie := by simpa using (List.mem_filter.1 first_mem).2
      have second_eq : second.place = tie := by simpa using (List.mem_filter.1 second_mem).2
      simp [first_eq, second_eq]
    have kept : (edges.filter (·.place = tie)).Sublist (byPlace edges) := by
      refine List.sublist_mergeSort (fun first second third le le' => ?_)
        (fun first second => ?_) ascending List.filter_sublist
      · simp only [decide_eq_true_eq] at le le' ⊢
        exact UInt32.le_trans le le'
      · simpa using UInt32.le_total first.place second.place
    have kept := kept.filter (·.place = tie)
    rw [List.filter_filter, List.filter_congr fun _ _ => Bool.and_self _] at kept
    exact (kept.eq_of_length ((byPlace_perm edges).filter _).length_eq.symm).symm

private theorem sideEdges_byPlace_eq {edges reordered : List Edge} {key : Uuid} {kind : EdgeKind}
    (ties : ∀ place, (sideEdges key kind reordered).filter (·.place = place) =
      (sideEdges key kind edges).filter (·.place = place)) :
    sideEdges key kind (byPlace reordered) = sideEdges key kind (byPlace edges) := by
  have sorted := ((stablySorted_byPlace edges).filter (·.operator = key)).filter (·.kind = kind)
  have also := ((stablySorted_byPlace reordered).filter (·.operator = key)).filter (·.kind = kind)
  refine StablySorted.unique ⟨also.ascending, fun place => ?_⟩ sorted
  exact (also.ties place).trans (ties place)

private theorem foldlM_attachEdge_eq_error_iff {edges : List Edge} {before : Table Uuid Operator}
    {unknown : UnknownOperator} :
    edges.foldlM attachEdge before = .error unknown ↔
      ∃ edge, edges.find? (·.operator ∉ before.keys) = some edge ∧ unknown = ⟨edge.operator⟩ := by
  induction edges generalizing before with
  | nil => simp [pure, Except.pure]
  | cons edge edges ih =>
      rw [List.foldlM_cons, attachEdge, List.find?_cons]
      cases found : before.find? edge.operator with
      | none =>
          have missing : edge.operator ∉ before.keys := by simp [Table.mem_keys_iff, found]
          simp [bind, Except.bind, missing, eq_comm]
      | some operator =>
          have known : edge.operator ∈ before.keys := Table.mem_keys_iff.2 ⟨operator, found⟩
          simp [bind, Except.bind, ih, Table.mem_keys_insert_of_mem known, known]

/-! ### The workflow that is built -/

/-- The inputs that an operator has in some edges. -/
def inputsIn (edges : List Edge) (key : Uuid) : List Uuid :=
  (edges.filter fun edge => edge.kind = .artifactToOperator ∧ edge.target = key).map Edge.source

/-- The outputs that an operator has in some edges. -/
def outputsIn (edges : List Edge) (key : Uuid) : List Uuid :=
  (edges.filter fun edge => edge.kind = .operatorToArtifact ∧ edge.source = key).map Edge.target

/-- A workflow has the given operators and artifacts, the last one of each identifier, and the lists
of its operators are those in some edges. -/
structure BuiltFrom (metadata : Metadata) (operators : List Operator) (artifacts : List Artifact)
    (edges : List Edge) (dag : Dag) : Prop where
  /-- The metadata is as given. -/
  metadata_eq : dag.metadata = metadata
  /-- The last operator of each identifier is there, with new lists. -/
  operator_eq : ∀ key, dag.operators.find? key =
    (operators.filter (·.id = key)).getLast?.map fun given =>
      { given with inputs := inputsIn edges key, outputs := outputsIn edges key }
  /-- The last artifact of each identifier is there. -/
  artifact_eq : ∀ key, dag.artifacts.find? key = (artifacts.filter (·.id = key)).getLast?

private theorem map_artifact_sideEdges (edges : List Edge) (key : Uuid) (kind : EdgeKind) :
    (sideEdges key kind edges).map Edge.artifact =
      match kind with
      | .artifactToOperator => inputsIn edges key
      | .operatorToArtifact => outputsIn edges key := by
  induction edges with
  | nil => cases kind <;> rfl
  | cons edge edges ih =>
      obtain ⟨_ | _, source, target, place⟩ := edge
      · by_cases same : source = key <;> cases kind <;>
          simp_all [sideEdges, inputsIn, outputsIn, Edge.operator, Edge.artifact]
      · by_cases same : target = key <;> cases kind <;>
          simp_all [sideEdges, inputsIn, outputsIn, Edge.operator, Edge.artifact]

private theorem foldl_attach_detached (edges : List Edge) (key : Uuid) (given : Operator) :
    (edges.filter (·.operator = key)).foldl Operator.attach given.detached =
      { given with inputs := inputsIn edges key, outputs := outputsIn edges key } := by
  refine Operator.eq_of_sides (Operator.detached_foldl_attach _ _) fun kind => ?_
  have listed := map_artifact_sideEdges edges key kind
  rw [Operator.artifacts_foldl_attach, ← sideEdges, listed]
  cases kind <;> rfl

theorem mem_keys_keyedOperators {operators : List Operator} {key : Uuid} :
    key ∈ (keyedOperators (operators.map Operator.detached)).keys ↔
      key ∈ operators.map Operator.id := by
  rw [Table.mem_keys_iff, keyedOperators, Table.find?_ofList_keyed]
  constructor
  · rintro ⟨operator, found⟩
    obtain ⟨member, id_eq⟩ := List.mem_filter.1 (List.mem_of_getLast? found)
    obtain ⟨given, given_mem, rfl⟩ := List.mem_map.1 member
    exact List.mem_map.2 ⟨given, given_mem, of_decide_eq_true id_eq⟩
  · intro member
    obtain ⟨given, given_mem, rfl⟩ := List.mem_map.1 member
    have kept : given.detached ∈ (operators.map Operator.detached).filter (·.id = given.id) :=
      List.mem_filter.2 ⟨List.mem_map_of_mem given_mem, by simp [Operator.detached]⟩
    exact ⟨_, List.getLast?_eq_some_getLast (List.ne_nil_of_mem kept)⟩

private theorem find?_attached_keyedOperators (edges : List Edge) (operators : List Operator)
    (key : Uuid) :
    (attached edges (keyedOperators (operators.map Operator.detached))).find? key =
      (operators.filter (·.id = key)).getLast?.map fun given =>
        { given with inputs := inputsIn edges key, outputs := outputsIn edges key } := by
  have bare : (operators.map Operator.detached).filter (·.id = key) =
      (operators.filter (·.id = key)).map Operator.detached := List.filter_map ..
  rw [attached, Table.find?_map, keyedOperators, Table.find?_ofList_keyed, bare,
    List.getLast?_map, Option.map_map]
  exact congrArg (Option.map · _) (funext fun given => foldl_attach_detached edges key given)

variable {metadata : Metadata} {operators : List Operator} {artifacts : List Artifact}
  {edges : List Edge}

/-- No workflow is built exactly if an edge does not name a given operator, and the first such edge
in the order of attachment is told. -/
theorem ofEdges_eq_error_iff {unknown : UnknownOperator} :
    ofEdges metadata operators artifacts edges = .error unknown ↔
      ∃ edge, (byPlace edges).find? (·.operator ∉ operators.map Operator.id) = some edge ∧
        unknown = ⟨edge.operator⟩ := by
  simp only [← mem_keys_keyedOperators, ← foldlM_attachEdge_eq_error_iff]
  show ((byPlace edges).foldlM attachEdge _ >>= fun operators => _) = _ ↔ _
  cases (byPlace edges).foldlM attachEdge (keyedOperators (operators.map Operator.detached)) <;>
    simp [bind, Except.bind, pure, Except.pure]

private theorem builtFrom_of_ofEdges {dag : Dag}
    (built : ofEdges metadata operators artifacts edges = .ok dag) :
    BuiltFrom metadata operators artifacts (byPlace edges) dag := by
  obtain ⟨_, rfl⟩ := ofEdges_eq_ok_iff.1 built
  exact ⟨rfl, find?_attached_keyedOperators _ _, Table.find?_ofList_keyed Artifact.id artifacts⟩

private theorem length_inputsIn_add_length_outputsIn (edges : List Edge) (key : Uuid) :
    (inputsIn edges key).length + (outputsIn edges key).length =
      (edges.filter (·.operator = key)).length := by
  have inputs_eq : (sideEdges key .artifactToOperator edges).map Edge.artifact =
      inputsIn edges key := map_artifact_sideEdges ..
  have outputs_eq : (sideEdges key .operatorToArtifact edges).map Edge.artifact =
      outputsIn edges key := map_artifact_sideEdges ..
  have by_kind : (EdgeKind.all.flatMap fun kind => sideEdges key kind edges).Perm
      (edges.filter (·.operator = key)) :=
    flatMap_filter_perm (by decide) fun edge _ => by cases edge.kind <;> decide
  rw [← inputs_eq, ← outputs_eq, List.length_map, List.length_map, ← by_kind.length_eq]
  simp [EdgeKind.all]

/-- Every edge is one input or one output of the workflow. -/
theorem sum_lengths_of_ofEdges {dag : Dag}
    (built : ofEdges metadata operators artifacts edges = .ok dag) :
    (dag.operators.values.map fun operator =>
      operator.inputs.length + operator.outputs.length).sum = edges.length := by
  have count_eq : ∀ entry ∈ dag.operators.entries,
      entry.2.inputs.length + entry.2.outputs.length =
        ((byPlace edges).filter (·.operator = entry.1)).length := by
    rintro ⟨key, operator⟩ member
    have found := Table.mem_entries_iff.1 member
    rw [(builtFrom_of_ofEdges built).operator_eq, Option.map_eq_some_iff] at found
    obtain ⟨given, -, rfl⟩ := found
    exact length_inputsIn_add_length_outputsIn _ _
  have covered : ∀ edge ∈ byPlace edges, edge.operator ∈ dag.operators.keys := fun _ member =>
    operator_mem_keys_of_ofEdges built ((byPlace_perm edges).mem_iff.1 member)
  calc (dag.operators.values.map fun operator =>
        operator.inputs.length + operator.outputs.length).sum
    _ = (dag.operators.keys.map fun key =>
          ((byPlace edges).filter (·.operator = key)).length).sum := by
        rw [Table.values, Table.keys, List.map_map, List.map_map]
        exact congrArg List.sum (List.map_congr_left count_eq)
    _ = (dag.operators.keys.flatMap fun key =>
          (byPlace edges).filter (·.operator = key)).length := List.length_flatMap.symm
    _ = (byPlace edges).length := (flatMap_filter_perm dag.operators.keys_nodup covered).length_eq
    _ = edges.length := (byPlace_perm edges).length_eq

/-- Edges in another order build the same if ties on one side of an operator stay in their order. -/
theorem ofEdges_reordered {reordered : List Edge} (perm : reordered.Perm edges)
    (ties : ∀ key kind place, (sideEdges key kind reordered).filter (·.place = place) =
      (sideEdges key kind edges).filter (·.place = place)) (dag : Dag) :
    ofEdges metadata operators artifacts reordered = .ok dag ↔
      ofEdges metadata operators artifacts edges = .ok dag := by
  have attached_eq (operators : Table Uuid Operator) :
      attached (byPlace reordered) operators = attached (byPlace edges) operators := by
    refine Table.eq_of_find?_eq fun key => ?_
    rw [attached, attached, Table.find?_map, Table.find?_map]
    refine congrArg (Option.map · _) (funext fun operator => ?_)
    refine Operator.eq_of_sides ?_ fun kind => ?_
    · rw [Operator.detached_foldl_attach, Operator.detached_foldl_attach]
    · rw [Operator.artifacts_foldl_attach, Operator.artifacts_foldl_attach, ← sideEdges,
        ← sideEdges, sideEdges_byPlace_eq (ties key kind)]
  simp only [ofEdges_eq_ok_iff, perm.mem_iff, attached_eq]

/-- Of some edges there is exactly one stable sort by place, and they are attached in its order.  If
an edge does not name a given operator, the first such edge is told.  Otherwise the last operator of
each identifier is there, its lists are made of the edges that name it, and every edge is in one
list; edges in another order then build the same if ties on one side of an operator stay in their
order. -/
theorem ofEdges_attaches (metadata : Metadata) (operators : List Operator)
    (artifacts : List Artifact) (edges : List Edge) :
    ∃ ordered, (∀ other, StablySorted Edge.place edges other ↔ other = ordered) ∧
      ((∃ unknown, ofEdges metadata operators artifacts edges = .error unknown) ↔
        ∃ edge ∈ edges, edge.operator ∉ operators.map Operator.id) ∧
      (∀ unknown, ofEdges metadata operators artifacts edges = .error unknown ↔
        ∃ edge, ordered.find? (·.operator ∉ operators.map Operator.id) = some edge ∧
          unknown = ⟨edge.operator⟩) ∧
      (∀ dag, ofEdges metadata operators artifacts edges = .ok dag →
        BuiltFrom metadata operators artifacts ordered dag ∧
          (dag.operators.values.map fun operator =>
            operator.inputs.length + operator.outputs.length).sum = edges.length) ∧
      ∀ reordered, reordered.Perm edges →
        (∀ key kind place,
          reordered.filter (fun edge =>
              edge.operator = key ∧ edge.kind = kind ∧ edge.place = place) =
            edges.filter fun edge =>
              edge.operator = key ∧ edge.kind = kind ∧ edge.place = place) →
          ∀ dag, ofEdges metadata operators artifacts reordered = .ok dag ↔
            ofEdges metadata operators artifacts edges = .ok dag := by
  have sorted := stablySorted_byPlace edges
  refine ⟨byPlace edges, fun other => ⟨(·.unique sorted), fun same => same ▸ sorted⟩, ?_,
    fun unknown => ofEdges_eq_error_iff, fun dag built => ⟨builtFrom_of_ofEdges built,
      sum_lengths_of_ofEdges built⟩, fun reordered perm ties => ofEdges_reordered perm ?_⟩
  · simp only [ofEdges_eq_error_iff]
    constructor
    · rintro ⟨_, edge, found, rfl⟩
      have missing := List.find?_some found
      exact ⟨edge, sorted.mem_iff.1 (List.mem_of_find?_eq_some found), of_decide_eq_true missing⟩
    · rintro ⟨edge, member, missing⟩
      have present : ((byPlace edges).find? (·.operator ∉ operators.map Operator.id)).isSome :=
        List.find?_isSome.2 ⟨edge, sorted.mem_iff.2 member, decide_eq_true missing⟩
      obtain ⟨first, found⟩ := Option.isSome_iff_exists.1 present
      exact ⟨_, first, found, rfl⟩
  · intro key kind place
    have split (given : List Edge) : (sideEdges key kind given).filter (·.place = place) =
        given.filter fun edge => edge.operator = key ∧ edge.kind = kind ∧ edge.place = place := by
      rw [sideEdges, List.filter_filter, List.filter_filter]
      refine List.filter_congr fun edge _ => ?_
      simp only [Bool.decide_and]
      ac_rfl
    rw [split, split, ties]

/-- An operator with a name and with lists. -/
def named (id : Nat) (name : String) (inputs outputs : List Nat) : Operator :=
  ⟨.ofNat id, name, "", .function ⟨"", ""⟩, inputs.map .ofNat, outputs.map .ofNat⟩

/-- An input and an output of one operator, at the same place. -/
private def crossing : Edge × Edge :=
  (⟨.artifactToOperator, .ofNat 101, .ofNat 3, 7⟩, ⟨.operatorToArtifact, .ofNat 3, .ofNat 103, 7⟩)

/-- Inputs of this operator, one of them at that place again, and of another one. -/
private def entwined : List Edge :=
  [⟨.artifactToOperator, .ofNat 102, .ofNat 3, 7⟩, ⟨.artifactToOperator, .ofNat 103, .ofNat 4, 5⟩,
    ⟨.artifactToOperator, .ofNat 101, .ofNat 3, 2⟩]

/-- Of an operator that is given twice the last one is kept, without the lists that it had; and the
input and the output at one place may be exchanged. -/
theorem ofEdges_attaches_crossing :
    ∃ dag,
      ofEdges join.metadata [named 3 "old" [9] [], named 4 "sink" [] [], named 3 "new" [8] []] []
        (crossing.2 :: crossing.1 :: entwined) = .ok dag ∧
      dag.operators.values = [named 3 "new" [101, 101, 102] [103], named 4 "sink" [103] []] ∧
      (dag.operators.values.map fun operator =>
        operator.inputs.length + operator.outputs.length).sum = 5 := by
  have built :
      ofEdges join.metadata [named 3 "old" [9] [], named 4 "sink" [] [], named 3 "new" [8] []] []
        (crossing.1 :: crossing.2 :: entwined) =
      .ok (ofParts join.metadata
        [named 3 "new" [101, 101, 102] [103], named 4 "sink" [103] []] []) := by
    cbv
  obtain ⟨_, _, _, _, builds, reorders⟩ := ofEdges_attaches join.metadata
    [named 3 "old" [9] [], named 4 "sink" [] [], named 3 "new" [8] []] []
    (crossing.1 :: crossing.2 :: entwined)
  have apart : ∀ key kind place,
      (crossing.2 :: crossing.1 :: entwined).filter (fun edge =>
          edge.operator = key ∧ edge.kind = kind ∧ edge.place = place) =
        (crossing.1 :: crossing.2 :: entwined).filter fun edge =>
          edge.operator = key ∧ edge.kind = kind ∧ edge.place = place := by
    intro key kind place
    cases kind <;> simp [crossing, List.filter_cons]
  exact ⟨_, (reorders _ (.swap _ _ _) apart _).2 built, by decide, (builds _ built).2⟩

end Dag
end Workflow
