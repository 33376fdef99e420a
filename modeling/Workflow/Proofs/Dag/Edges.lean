import Mathlib.Data.List.Sort
import Workflow.Proofs.Dag.Keys

/-!
# Workflows and their edges

Each input and each output of an operator is one edge, placed by its position.  A workflow whose
operators are kept under their own identifiers is therefore rebuilt from its edges in any order, and
edges whose places count the inputs and the outputs of every operator from zero are the edges of the
workflow that they build.
-/

namespace Workflow

/-! ### Members of a list by a key -/

/-- A list is, up to order, its members under one key after another. -/
theorem flatMap_filter_perm {α κ : Type} [DecidableEq κ] {key : α → κ} {keys : List κ}
    {members : List α} (keys_nodup : keys.Nodup) (covered : ∀ member ∈ members, key member ∈ keys) :
    (keys.flatMap fun wanted => members.filter (key · = wanted)).Perm members := by
  induction keys generalizing members with
  | nil =>
      obtain rfl : members = [] :=
        List.eq_nil_iff_forall_not_mem.2 fun member found => by simpa using covered member found
      exact .refl _
  | cons head keys ih =>
      obtain ⟨head_new, keys_nodup⟩ := List.nodup_cons.1 keys_nodup
      have rest_covered :
          ∀ member ∈ members.filter (fun member => !decide (key member = head)),
            key member ∈ keys := by
        intro member found
        obtain ⟨found, key_ne⟩ := List.mem_filter.1 found
        exact (List.mem_cons.1 (covered member found)).resolve_left (by simpa using key_ne)
      have later_eq : ∀ wanted ∈ keys,
          (members.filter fun member => !decide (key member = head)).filter (key · = wanted) =
            members.filter (key · = wanted) := by
        intro wanted found
        have wanted_ne : wanted ≠ head := fun same => head_new (same ▸ found)
        rw [List.filter_filter]
        refine List.filter_congr fun member _ => ?_
        by_cases same : key member = wanted <;> simp [same, wanted_ne]
      rw [List.flatMap_cons, ← List.flatMap_congr later_eq]
      exact ((ih keys_nodup rest_covered).append_left _).trans (List.filter_append_perm _ _)

namespace Table

variable {κ α β : Type} [Ord κ] [Std.LawfulEqOrd κ]

theorem filter_entries_eq [DecidableEq κ] (table : Table κ α) (key : κ) :
    table.entries.filter (·.1 = key) = (table.find? key).toList.map (key, ·) := by
  obtain ⟨entries, ascending⟩ := table
  show entries.filter _ = (entryAt? key entries).toList.map _
  induction entries with
  | nil => rfl
  | cons head rest ih =>
      obtain ⟨head_lt, rest_ascending⟩ := List.pairwise_cons.1 ascending
      by_cases same : head.1 = key
      · obtain rfl := same
        have rest_ne : rest.filter (·.1 = head.1) = [] :=
          List.filter_eq_nil_iff.2 fun entry member => by
            simpa using (ne_of_compare_lt (head_lt entry member)).symm
        simp [entryAt?, rest_ne]
      · have key_ne : key ≠ head.1 := Ne.symm same
        simp [entryAt?, same, key_ne, ih rest_ascending]

end Table

/-! ### The two sides of an operator -/

namespace Edge

/-- The end of an edge that is an artifact. -/
def artifact (edge : Edge) : Uuid :=
  match edge.kind with
  | .operatorToArtifact => edge.target
  | .artifactToOperator => edge.source

/-- The edge of a kind between an operator and an artifact. -/
def between (kind : EdgeKind) (operator artifact : Uuid) (place : UInt32) : Edge :=
  match kind with
  | .operatorToArtifact => ⟨kind, operator, artifact, place⟩
  | .artifactToOperator => ⟨kind, artifact, operator, place⟩

variable (kind : EdgeKind) (key artifact : Uuid) (place : UInt32)

@[simp]
theorem kind_between : (between kind key artifact place).kind = kind := by
  cases kind <;> rfl

@[simp]
theorem operator_between : (between kind key artifact place).operator = key := by
  cases kind <;> rfl

@[simp]
theorem artifact_between : (between kind key artifact place).artifact = artifact := by
  cases kind <;> rfl

@[simp]
theorem place_between : (between kind key artifact place).place = place := by
  cases kind <;> rfl

theorem between_eq (edge : Edge) :
    between edge.kind edge.operator edge.artifact edge.place = edge := by
  obtain ⟨_ | _, _, _, _⟩ := edge <;> rfl

end Edge

/-- Every kind of edge, in the order in which an operator lists its edges. -/
def EdgeKind.all : List EdgeKind :=
  [.artifactToOperator, .operatorToArtifact]

/-- The edges on one side of one operator. -/
def sideEdges (key : Uuid) (kind : EdgeKind) (edges : List Edge) : List Edge :=
  (edges.filter (·.operator = key)).filter (·.kind = kind)

namespace Operator

/-- The artifacts on one side of an operator, in order. -/
def artifacts (operator : Operator) : EdgeKind → List Uuid
  | .operatorToArtifact => operator.outputs
  | .artifactToOperator => operator.inputs

/-- The edges on one side of an operator, in order. -/
def side (operator : Operator) (kind : EdgeKind) : List Edge :=
  (operator.artifacts kind).mapIdx fun place artifact =>
    .between kind operator.id artifact (.ofNat place)

theorem edges_eq (operator : Operator) : operator.edges = EdgeKind.all.flatMap operator.side := by
  simp [edges, EdgeKind.all, side, artifacts, Edge.between]

theorem eq_of_sides {left right : Operator} (detached_eq : left.detached = right.detached)
    (artifacts_eq : ∀ kind, left.artifacts kind = right.artifacts kind) : left = right := by
  have inputs_eq := artifacts_eq .artifactToOperator
  have outputs_eq := artifacts_eq .operatorToArtifact
  cases left
  cases right
  simp_all [detached, artifacts]

@[simp]
theorem detached_attach (operator : Operator) (edge : Edge) :
    (operator.attach edge).detached = operator.detached := by
  unfold attach
  split <;> rfl

theorem artifacts_attach (operator : Operator) (edge : Edge) (kind : EdgeKind) :
    (operator.attach edge).artifacts kind =
      operator.artifacts kind ++ if edge.kind = kind then [edge.artifact] else [] := by
  obtain ⟨_ | _, _, _, _⟩ := edge <;> cases kind <;> simp [attach, artifacts, Edge.artifact]

theorem detached_foldl_attach (edges : List Edge) (operator : Operator) :
    (edges.foldl attach operator).detached = operator.detached := by
  induction edges generalizing operator with
  | nil => rfl
  | cons edge edges ih => rw [List.foldl_cons, ih, detached_attach]

theorem artifacts_foldl_attach (edges : List Edge) (operator : Operator) (kind : EdgeKind) :
    (edges.foldl attach operator).artifacts kind =
      operator.artifacts kind ++ (edges.filter (·.kind = kind)).map Edge.artifact := by
  induction edges generalizing operator with
  | nil => simp
  | cons edge edges ih =>
      rw [List.foldl_cons, ih, artifacts_attach, List.append_assoc]
      by_cases same : edge.kind = kind <;> simp [same]

theorem map_artifact_side (operator : Operator) (kind : EdgeKind) :
    (operator.side kind).map Edge.artifact = operator.artifacts kind := by
  simp [side, List.mapIdx_eq_zipIdx_map, Function.comp_def]

theorem mem_side {operator : Operator} {kind : EdgeKind} {edge : Edge}
    (member : edge ∈ operator.side kind) : edge.operator = operator.id ∧ edge.kind = kind := by
  obtain ⟨place, bound, rfl⟩ := List.mem_mapIdx.1 member
  simp

theorem filter_kind_edges (operator : Operator) (kind : EdgeKind) :
    operator.edges.filter (·.kind = kind) = operator.side kind := by
  have own : (operator.side kind).filter (·.kind = kind) = operator.side kind :=
    List.filter_eq_self.2 fun edge member => by simp [(mem_side member).2]
  have other {different : EdgeKind} (ne : different ≠ kind) :
      (operator.side different).filter (·.kind = kind) = [] :=
    List.filter_eq_nil_iff.2 fun edge member => by simp [(mem_side member).2, ne]
  cases kind <;> simp [edges_eq, EdgeKind.all, own, other]

end Operator

/-! ### Attaching edges -/

namespace Dag

/-- The operators with all edges attached, each with its own. -/
def attached (edges : List Edge) (operators : Table Uuid Operator) : Table Uuid Operator :=
  operators.map fun key operator => (edges.filter (·.operator = key)).foldl Operator.attach operator

/-- Edges are accepted exactly if each names a given operator, and each is attached to it. -/
theorem foldlM_attachEdge_eq_ok_iff {edges : List Edge} {before after : Table Uuid Operator} :
    edges.foldlM attachEdge before = .ok after ↔
      (∀ edge ∈ edges, edge.operator ∈ before.keys) ∧ attached edges before = after := by
  induction edges generalizing before with
  | nil =>
      have unchanged : attached [] before = before :=
        Table.eq_of_find?_eq fun key => by simp [attached]
      simp [pure, Except.pure, unchanged]
  | cons edge edges ih =>
      rw [List.foldlM_cons, attachEdge]
      cases found : before.find? edge.operator with
      | none =>
          have unknown : edge.operator ∉ before.keys := by simp [Table.mem_keys_iff, found]
          simp [bind, Except.bind, unknown]
      | some operator =>
          have known : edge.operator ∈ before.keys := Table.mem_keys_iff.2 ⟨operator, found⟩
          have attached_eq : attached edges (before.insert edge.operator (operator.attach edge)) =
              attached (edge :: edges) before := by
            refine Table.eq_of_find?_eq fun key => ?_
            rw [attached, attached, Table.find?_map, Table.find?_map, Table.find?_insert]
            split_ifs with same
            · simp [same, found]
            · simp [Ne.symm same]
          simp [bind, Except.bind, ih, Table.mem_keys_insert_of_mem known, attached_eq, known]

/-- The edges in the order in which they are attached. -/
def byPlace (edges : List Edge) : List Edge :=
  edges.mergeSort fun first second => first.place ≤ second.place

theorem byPlace_perm (edges : List Edge) : (byPlace edges).Perm edges :=
  List.mergeSort_perm _ _

theorem byPlace_pairwise (edges : List Edge) :
    (byPlace edges).Pairwise fun first second => first.place ≤ second.place := by
  refine (List.pairwise_mergeSort ?_ ?_ edges).imp fun le => by simpa using le
  · intro first second third le le'
    simp only [decide_eq_true_eq] at le le' ⊢
    exact UInt32.le_trans le le'
  · intro first second
    simpa using UInt32.le_total first.place second.place

/-- A workflow is built from edges exactly if each names a given operator. -/
theorem ofEdges_eq_ok_iff {metadata : Metadata} {operators : List Operator}
    {artifacts : List Artifact} {edges : List Edge} {dag : Dag} :
    ofEdges metadata operators artifacts edges = .ok dag ↔
      (∀ edge ∈ edges, edge.operator ∈ (keyedOperators (operators.map Operator.detached)).keys) ∧
        ⟨metadata, attached (byPlace edges) (keyedOperators (operators.map Operator.detached)),
          keyedArtifacts artifacts⟩ = dag := by
  simp only [← (byPlace_perm edges).mem_iff]
  show ((byPlace edges).foldlM attachEdge _ >>= fun operators => _) = _ ↔ _
  cases ran : (byPlace edges).foldlM attachEdge
      (keyedOperators (operators.map Operator.detached)) with
  | error unknown =>
      have refused := mt (fun known => foldlM_attachEdge_eq_ok_iff.2 ⟨known, rfl⟩)
        (by simp [ran] : ¬(byPlace edges).foldlM attachEdge
          (keyedOperators (operators.map Operator.detached)) = .ok _)
      simp [bind, Except.bind, refused]
  | ok table =>
      obtain ⟨known, rfl⟩ := foldlM_attachEdge_eq_ok_iff.1 ran
      simp only [bind, Except.bind, pure, Except.pure, Except.ok.injEq]
      exact (and_iff_right known).symm

end Dag
end Workflow
