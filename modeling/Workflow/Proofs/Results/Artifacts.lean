import Workflow.Proofs.Results.Blobs

/-!
# Reading artifacts back

Artifacts are read one after the other in the order of their keys, up to the first one that is not
good: its content has no path, cannot be fetched or is not of its kind.  What is known about the
columns of a table is read after its content and is never a reason to stop.
-/

namespace Workflow

/-- What content is said not to be, if it is not of a kind. -/
def ArtifactKind.expected : ArtifactKind → String
  | table | json => "utf-8 text"
  | float => "float"
  | bool => "bool"

/-- Content can be understood in the way of a kind. -/
def ArtifactKind.Parses (content : Bytes) : ArtifactKind → Prop
  | table | json => (Utf8.decode? content).isSome
  | float => (Binary64.ofText? (ArtifactResult.trimmed content)).isSome
  | bool =>
      (ArtifactResult.boolSpellings.lookup
        (String.ofList (ArtifactResult.trimmed content))).isSome

/-- What content says when it is understood in the way of a kind; a table also has a schema. -/
inductive ArtifactResult.Shows (content : Bytes) (schema : TableMetadata) :
    ArtifactKind → ArtifactResult → Prop
  /-- The content of a table is a text. -/
  | table {data : String} (text : Utf8.decode? content = some data) :
      Shows content schema .table (.table schema data)
  /-- The content of a metric is a numeral, with white space around it or not. -/
  | metric {value : Binary64} (number : Binary64.ofText? (trimmed content) = some value) :
      Shows content schema .float (.metric value)
  /-- The content of a check is the spelling of a truth value. -/
  | check {passed : Bool}
      (spelled : boolSpellings.lookup (String.ofList (trimmed content)) = some passed) :
      Shows content schema .bool (.check passed)
  /-- The content of a parameter is a text. -/
  | param {value : String} (text : Utf8.decode? content = some value) :
      Shows content schema .json (.param value)

theorem ArtifactResult.Shows.parses {content : Bytes} {schema : TableMetadata}
    {kind : ArtifactKind} {found : ArtifactResult} (shows : Shows content schema kind found) :
    kind.Parses content := by
  cases shows with
  | table text | param text => exact Option.isSome_of_eq_some text
  | metric number => exact Option.isSome_of_eq_some number
  | check spelled => exact Option.isSome_of_eq_some spelled

namespace Results

variable {σ : Type}

section One

variable (store : Store σ) (paths : RunPaths) (state : σ) (entry : Uuid × Artifact)

/-- The paths that are read for an artifact: that of its content, and that of its schema after the
content of a table. -/
def ownReads : List String :=
  (paths.pathOf? (.content entry.1)).toList ++
    if entry.2.kind = .table ∧ (paths.blob? store (.content entry.1) state).isSome then
      (paths.pathOf? (.schema entry.1)).toList
    else []

/-- The content of an artifact has a path, can be fetched and is of the kind of the artifact. -/
def Good : Prop :=
  ∃ content, paths.blob? store (.content entry.1) state = some content ∧
    entry.2.kind.Parses content

/-- The fault of an artifact that is not good. -/
def faultOf : Fault :=
  match paths.pathOf? (.content entry.1) with
  | none => .missingStoragePath entry.1
  | some path =>
      match (store.get path state).1 with
      | .error failure => .storage failure
      | .ok content => ArtifactResult.malformed entry.1 entry.2.kind.expected content

/-- What is known about the columns of a table after its content has been read. -/
def schemaOf : TableMetadata :=
  (paths.value? store (.schema entry.1) TableMetadata.ofJson?
    (store.fetch (paths.pathOf? (.content entry.1)).toList state)).getD .unknown

/-- The result of an artifact is what its content says. -/
def Yields (found : ArtifactResult) : Prop :=
  ∃ content, paths.blob? store (.content entry.1) state = some content ∧
    ArtifactResult.Shows content (schemaOf store paths state entry) entry.2.kind found

end One

variable {store : Store σ} {paths : RunPaths} {state : σ} {entry : Uuid × Artifact}

/-! ### One artifact -/

private theorem tableMetadata_apply (id : Uuid) (state : σ) :
    tableMetadata store paths id state =
      ((paths.value? store (.schema id) TableMetadata.ofJson? state).getD .unknown,
        store.fetch (paths.pathOf? (.schema id)).toList state) := by
  cases found : paths.pathOf? (.schema id) with
  | none =>
      have unassigned : paths.artifactMetadataOf id = .error (.missingStoragePath id) :=
        RunPaths.lookUp_of_eq_none found
      simp only [tableMetadata, unassigned, RunPaths.value?, RunPaths.blob?, found]
      rfl
  | some path =>
      have assigned : paths.artifactMetadataOf id = .ok path := RunPaths.lookUp_of_eq_some found
      obtain ⟨value_eq, left_eq⟩ :=
        RunPaths.readJson_of_pathOf? found store TableMetadata.ofJson? state
      rw [← value_eq, ← found, ← left_eq]
      simp only [tableMetadata, assigned, bind, StateT.bind]
      obtain ⟨metadata, next⟩ := store.readJson TableMetadata.ofJson? path state
      cases metadata <;> rfl

private theorem interpret_apply (store : Store σ) (paths : RunPaths) (id : Uuid)
    (kind : ArtifactKind) (content : Bytes) (state : σ) :
    ∃ outcome,
      interpret store paths id kind content state =
        (outcome,
          store.fetch (if kind = .table then (paths.pathOf? (.schema id)).toList else []) state) ∧
      Ensures
        (ArtifactResult.Shows content
          ((paths.value? store (.schema id) TableMetadata.ofJson? state).getD .unknown) kind)
        (fun fault => ¬kind.Parses content ∧
          fault = ArtifactResult.malformed id kind.expected content) outcome := by
  cases kind with
  | float =>
      refine ⟨(ArtifactResult.floatOf id content).map .metric, rfl, ?_⟩
      rw [ArtifactResult.floatOf]
      cases number : Binary64.ofText? (ArtifactResult.trimmed content) with
      | none => exact ⟨by simp [ArtifactKind.Parses, number], rfl⟩
      | some value => exact .metric number
  | bool =>
      refine ⟨(ArtifactResult.boolOf id content).map .check, rfl, ?_⟩
      rw [ArtifactResult.boolOf]
      cases spelled : ArtifactResult.boolSpellings.lookup
          (String.ofList (ArtifactResult.trimmed content)) with
      | none => exact ⟨by simp [ArtifactKind.Parses, spelled], rfl⟩
      | some passed => exact .check spelled
  | json =>
      refine ⟨(ArtifactResult.textOf id content).map .param, rfl, ?_⟩
      rw [ArtifactResult.textOf]
      cases text : Utf8.decode? content with
      | none => exact ⟨by simp [ArtifactKind.Parses, text], rfl⟩
      | some value => exact .param text
  | table =>
      simp only [interpret, bind, StateT.bind, tableMetadata_apply]
      refine ⟨(ArtifactResult.textOf id content).map (.table _), rfl, ?_⟩
      rw [ArtifactResult.textOf]
      cases text : Utf8.decode? content with
      | none => exact ⟨by simp [ArtifactKind.Parses, text], rfl⟩
      | some data => exact .table text

/-- An artifact is read with `ownReads`, and comes out well or badly as it is good or not. -/
theorem artifactResult_apply (store : Store σ) (paths : RunPaths) (state : σ)
    (entry : Uuid × Artifact) :
    ∃ outcome,
      artifactResult store paths entry.1 entry.2 state =
        (outcome, store.fetch (ownReads store paths state entry) state) ∧
      Ensures (Yields store paths state entry)
        (fun fault => ¬Good store paths state entry ∧ fault = faultOf store paths state entry)
        outcome := by
  obtain ⟨id, artifact⟩ := entry
  cases found : paths.pathOf? (.content id) with
  | none =>
      have unassigned : paths.artifactContentOf id = .error (.missingStoragePath id) :=
        RunPaths.lookUp_of_eq_none found
      refine ⟨.error (.missingStoragePath id), ?_, ?_⟩
      · simp only [artifactResult, unassigned, ownReads, found, Option.toList_none, RunPaths.blob?,
          Option.bind_none, Option.isSome_none, Bool.false_eq_true, and_false, ↓reduceIte,
          List.append_nil]
        rfl
      · exact ⟨by simp [Good, RunPaths.blob?, found], by simp [faultOf, found]⟩
  | some path =>
      have assigned : paths.artifactContentOf id = .ok path := RunPaths.lookUp_of_eq_some found
      obtain ⟨⟨read, next⟩, got⟩ : ∃ answer, store.get path state = answer := ⟨_, rfl⟩
      have blob_eq : paths.blob? store (.content id) state = read.toOption := by
        simp [RunPaths.blob?, found, got]
      have next_eq : store.fetch (paths.pathOf? (.content id)).toList state = next := by
        simp [Store.fetch, found, got]
      rw [ownReads, Store.fetch_append, next_eq, blob_eq]
      simp only [artifactResult, assigned, bind, StateT.bind, got]
      cases read with
      | error failure =>
          refine ⟨.error (.storage failure), ?_, ?_, ?_⟩
          · simp only [Except.toOption, Option.isSome_none, Bool.false_eq_true, and_false,
              ↓reduceIte]
            rfl
          · rintro ⟨content, content_eq, _⟩
            cases blob_eq.symm.trans content_eq
          · simp [faultOf, found, got]
      | ok content =>
          obtain ⟨outcome, interpret_eq, ensures⟩ :=
            interpret_apply store paths id artifact.kind content next
          refine ⟨outcome, ?_, ensures.mono ?_ ?_⟩
          · simpa [Except.toOption] using interpret_eq
          · intro found shows
            rw [← next_eq] at shows
            exact ⟨content, blob_eq, shows⟩
          · rintro fault ⟨unparsed, fault_eq⟩
            refine ⟨?_, by simp [faultOf, found, got, fault_eq]⟩
            rintro ⟨other, other_eq, parses⟩
            obtain rfl : content = other := Option.some.inj (blob_eq.symm.trans other_eq)
            exact unparsed parses

theorem Yields.good {found : ArtifactResult} (yields : Yields store paths state entry found) :
    Good store paths state entry := by
  obtain ⟨content, content_eq, shows⟩ := yields
  exact ⟨content, content_eq, shows.parses⟩

/-! ### Artifacts one after the other -/

/-- The paths that are read for artifacts one after the other. -/
def artifactReads (store : Store σ) (paths : RunPaths) : σ → List (Uuid × Artifact) → List String
  | _, [] => []
  | state, entry :: entries =>
      let own := ownReads store paths state entry
      own ++ artifactReads store paths (store.fetch own state) entries

/-- The state of the store when artifacts have been read one after the other. -/
def stateAfter (store : Store σ) (paths : RunPaths) (state : σ) (entries : List (Uuid × Artifact)) :
    σ :=
  store.fetch (artifactReads store paths state entries) state

theorem stateAfter_cons (entry : Uuid × Artifact) (entries : List (Uuid × Artifact)) :
    stateAfter store paths state (entry :: entries) =
      stateAfter store paths (store.fetch (ownReads store paths state entry) state) entries :=
  store.fetch_append _ _ _

/-- Each artifact is good when its turn comes. -/
def GoodInTurn (store : Store σ) (paths : RunPaths) (state : σ) (entries : List (Uuid × Artifact)) :
    Prop :=
  Stepwise (fun before => Good store paths (stateAfter store paths state before)) entries

theorem goodInTurn_cons {entries : List (Uuid × Artifact)} :
    GoodInTurn store paths state (entry :: entries) ↔
      Good store paths state entry ∧
        GoodInTurn store paths (store.fetch (ownReads store paths state entry) state) entries := by
  simp only [GoodInTurn, stepwise_cons, stateAfter_cons]
  rfl

/-- Artifacts that are all good are all read, and each result is what its content says. -/
theorem artifactEntries_of_good {entries : List (Uuid × Artifact)}
    (good : GoodInTurn store paths state entries) :
    ∃ results,
      artifactEntries store paths entries state =
        (.ok results, stateAfter store paths state entries) ∧
      results.map Prod.fst = entries.map Prod.fst ∧
      Stepwise
        (fun before entry => ∃ found, (entry.1, found) ∈ results ∧
          Yields store paths (stateAfter store paths state before) entry found) entries := by
  induction entries generalizing state with
  | nil => exact ⟨[], rfl, rfl, stepwise_nil⟩
  | cons entry entries ih =>
      obtain ⟨own_good, rest_good⟩ := goodInTurn_cons.1 good
      obtain ⟨outcome, own_eq, ensures⟩ := artifactResult_apply store paths state entry
      obtain ⟨results, rest_eq, keys_eq, yields⟩ := ih rest_good
      cases outcome with
      | error fault => exact absurd own_good ensures.1
      | ok found =>
          refine ⟨(entry.1, found) :: results, ?_, by simp [keys_eq], ?_⟩
          · simp only [artifactEntries, bind, StateT.bind, own_eq, rest_eq, stateAfter_cons]
            rfl
          · refine stepwise_cons.2 ⟨⟨found, List.mem_cons_self, ensures⟩, ?_⟩
            refine yields.mono fun before other yielded => ?_
            obtain ⟨result, member, other_yields⟩ := yielded
            rw [stateAfter_cons]
            exact ⟨result, List.mem_cons_of_mem _ member, other_yields⟩

/-- The first artifact that is not good ends the reading. -/
theorem artifactEntries_of_bad {before : List (Uuid × Artifact)}
    (good : GoodInTurn store paths state before)
    (bad : ¬Good store paths (stateAfter store paths state before) entry)
    (after : List (Uuid × Artifact)) :
    artifactEntries store paths (before ++ entry :: after) state =
      (.error (faultOf store paths (stateAfter store paths state before) entry),
        stateAfter store paths state (before ++ [entry])) := by
  induction before generalizing state with
  | nil =>
      obtain ⟨outcome, own_eq, ensures⟩ := artifactResult_apply store paths state entry
      cases outcome with
      | ok found => exact absurd ensures.good bad
      | error fault =>
          rw [List.nil_append, List.nil_append, stateAfter_cons]
          simp only [artifactEntries, bind, StateT.bind, own_eq, ensures.2]
          rfl
  | cons first before ih =>
      obtain ⟨own_good, rest_good⟩ := goodInTurn_cons.1 good
      obtain ⟨outcome, own_eq, ensures⟩ := artifactResult_apply store paths state first
      rw [stateAfter_cons] at bad ⊢
      cases outcome with
      | error fault => exact absurd own_good ensures.1
      | ok found =>
          simp only [List.cons_append, artifactEntries, bind, StateT.bind, own_eq,
            ih rest_good bad, stateAfter_cons]
          rfl

/-! ### A store that notes its accesses -/

section Recording

variable {recorded : Recorded σ} {entries : List (Uuid × Artifact)}

private theorem artifactReads_recording (recorded : Recorded σ) (entries : List (Uuid × Artifact)) :
    artifactReads store.recording paths recorded entries =
      artifactReads store paths recorded.state entries := by
  induction entries generalizing recorded with
  | nil => rfl
  | cons entry entries ih =>
      have own_eq : ownReads store.recording paths recorded entry =
          ownReads store paths recorded.state entry := rfl
      rw [artifactReads, artifactReads, ih, own_eq, store.state_fetch_recording]

private theorem state_stateAfter_recording :
    (stateAfter store.recording paths recorded entries).state =
      stateAfter store paths recorded.state entries := by
  rw [stateAfter, store.state_fetch_recording, artifactReads_recording, stateAfter]

private theorem accesses_stateAfter_recording :
    (stateAfter store.recording paths ⟨state, []⟩ entries).accesses =
      (artifactReads store paths state entries).map fun path => ⟨.get, path⟩ := by
  rw [stateAfter, store.notes_recording.fetch, artifactReads_recording, List.nil_append]

private theorem good_recording :
    Good store.recording paths recorded entry ↔ Good store paths recorded.state entry :=
  .rfl

private theorem faultOf_recording :
    faultOf store.recording paths recorded entry = faultOf store paths recorded.state entry := rfl

private theorem goodInTurn_recording :
    GoodInTurn store.recording paths recorded entries ↔
      GoodInTurn store paths recorded.state entries := by
  simp only [GoodInTurn, ← state_stateAfter_recording]
  rfl

private theorem yields_recording {found : ArtifactResult} :
    Yields store.recording paths recorded entry found ↔
      Yields store paths recorded.state entry found := by
  simp only [Yields, schemaOf, ← store.state_fetch_recording]
  rfl

private theorem artifactEntries_recording_of_good (good : GoodInTurn store paths state entries) :
    ∃ results left,
      artifactEntries store.recording paths entries ⟨state, []⟩ = (.ok results, left) ∧
      results.map Prod.fst = entries.map Prod.fst ∧
      Stepwise
        (fun before entry => ∃ found, (entry.1, found) ∈ results ∧
          Yields store paths (stateAfter store paths state before) entry found) entries ∧
      left.accesses = (artifactReads store paths state entries).map fun path => ⟨.get, path⟩ := by
  have recorded_good : GoodInTurn store.recording paths ⟨state, []⟩ entries :=
    goodInTurn_recording.2 good
  obtain ⟨results, read_eq, keys_eq, yields⟩ := artifactEntries_of_good recorded_good
  simp only [yields_recording, state_stateAfter_recording] at yields
  exact ⟨results, _, read_eq, keys_eq, yields, accesses_stateAfter_recording⟩

private theorem artifactEntries_recording_of_bad {before : List (Uuid × Artifact)}
    (good : GoodInTurn store paths state before)
    (bad : ¬Good store paths (stateAfter store paths state before) entry)
    (after : List (Uuid × Artifact)) :
    ∃ left,
      artifactEntries store.recording paths (before ++ entry :: after) ⟨state, []⟩ =
        (.error (faultOf store paths (stateAfter store paths state before) entry), left) ∧
      left.accesses =
        (artifactReads store paths state (before ++ [entry])).map fun path => ⟨.get, path⟩ := by
  have bad_recorded : ¬Good store.recording paths
      (stateAfter store.recording paths ⟨state, []⟩ before) entry := by
    rwa [good_recording, state_stateAfter_recording]
  have read_eq := artifactEntries_of_bad (goodInTurn_recording.2 good) bad_recorded after
  rw [faultOf_recording, state_stateAfter_recording] at read_eq
  exact ⟨_, read_eq, accesses_stateAfter_recording⟩

end Recording

private theorem exists_of_mem_artifactReads {entries : List (Uuid × Artifact)} {path : String}
    (member : path ∈ artifactReads store paths state entries) :
    ∃ entry ∈ entries, paths.pathOf? (.content entry.1) = some path ∨
      paths.pathOf? (.schema entry.1) = some path := by
  induction entries generalizing state with
  | nil => exact absurd member List.not_mem_nil
  | cons entry entries ih =>
      rcases List.mem_append.1 member with own | later
      · refine ⟨entry, List.mem_cons_self, ?_⟩
        rcases List.mem_append.1 own with content | schema
        · exact .inl (Option.mem_toList.1 content)
        · split at schema
          · exact .inr (Option.mem_toList.1 schema)
          · exact absurd schema List.not_mem_nil
      · obtain ⟨other, other_mem, found⟩ := ih later
        exact ⟨other, List.mem_cons_of_mem _ other_mem, found⟩

private theorem untouched_of_subset {artifacts wanted : Table Uuid Artifact} {skip : List Uuid}
    (wanted_eq : wanted = artifacts.filter fun id _ => !skip.contains id)
    {entries : List (Uuid × Artifact)} (subset : entries ⊆ wanted.entries) {access : Access}
    (member : access ∈ (artifactReads store paths state entries).map fun path => ⟨.get, path⟩) :
    access.kind = .get ∧ ∃ id ∈ artifacts.keys, id ∉ skip ∧
      (paths.pathOf? (.content id) = some access.path ∨
        paths.pathOf? (.schema id) = some access.path) := by
  obtain ⟨path, path_mem, rfl⟩ := List.mem_map.1 member
  obtain ⟨entry, entry_mem, found⟩ := exists_of_mem_artifactReads path_mem
  have kept := subset entry_mem
  rw [wanted_eq] at kept
  obtain ⟨stored, unskipped⟩ := List.mem_filter.1 kept
  exact ⟨rfl, entry.1, List.mem_map_of_mem stored, by simpa using unskipped, found⟩

/-- Artifacts are read in the order of their keys, whatever the store does.  If each of them that is
not skipped is good when its turn comes, there is one result for each, of its kind and with what its
content says; a schema that cannot be read is unknown.  Otherwise the first one that is not good
gives the fault, and nothing is read after it.  Nothing is read of artifacts that are skipped. -/
theorem collectArtifacts_exact (store : Store σ) (paths : RunPaths)
    (artifacts : Table Uuid Artifact) (skip : List Uuid) (state : σ)
    {result : Except Fault (Table Uuid ArtifactResult)} {left : Recorded σ}
    (collected : collectArtifacts store.recording paths artifacts skip ⟨state, []⟩ = (result, left))
    {wanted : Table Uuid Artifact}
    (wanted_eq : wanted = artifacts.filter fun id _ => !skip.contains id)
    {turn : Uuid → σ} (turn_eq : ∀ id, turn id = stateAfter store paths state (wanted.below id)) :
    ((∀ id artifact, wanted.find? id = some artifact → Good store paths (turn id) (id, artifact)) →
      ∃ results, result = .ok results ∧ results.keys = wanted.keys ∧
        (∀ id artifact, wanted.find? id = some artifact →
          ∃ found, results.find? id = some found ∧
            Yields store paths (turn id) (id, artifact) found) ∧
        left.accesses =
          (artifactReads store paths state wanted.entries).map fun path => ⟨.get, path⟩) ∧
    ((∃ id artifact, wanted.find? id = some artifact ∧
        ¬Good store paths (turn id) (id, artifact)) →
      ∃ id artifact, wanted.find? id = some artifact ∧
        ¬Good store paths (turn id) (id, artifact) ∧
        (∀ other otherArtifact, wanted.find? other = some otherArtifact →
          compare other id = .lt → Good store paths (turn other) (other, otherArtifact)) ∧
        result = .error (faultOf store paths (turn id) (id, artifact)) ∧
        left.accesses = (artifactReads store paths state
          (wanted.below id ++ [(id, artifact)])).map fun path => ⟨.get, path⟩) ∧
    ∀ access ∈ left.accesses, access.kind = .get ∧ ∃ id ∈ artifacts.keys, id ∉ skip ∧
      (paths.pathOf? (.content id) = some access.path ∨
        paths.pathOf? (.schema id) = some access.path) := by
  have parts : ((artifactEntries store.recording paths wanted.entries ⟨state, []⟩).1.map .ofList,
      (artifactEntries store.recording paths wanted.entries ⟨state, []⟩).2) = (result, left) := by
    rw [← collected, wanted_eq]
    rfl
  obtain ⟨rfl, rfl⟩ := Prod.mk.inj parts
  have good_iff : GoodInTurn store paths state wanted.entries ↔
      ∀ id artifact, wanted.find? id = some artifact →
        Good store paths (turn id) (id, artifact) := by
    simp only [turn_eq]
    exact Table.stepwise_entries_iff
  by_cases all_good : GoodInTurn store paths state wanted.entries
  · obtain ⟨results, left, read_eq, keys_eq, yields, accesses_eq⟩ :=
      artifactEntries_recording_of_good all_good
    have results_eq := entries_ofList_of_keys keys_eq
    rw [read_eq]
    refine ⟨fun _ => ⟨.ofList results, rfl, ?keys, ?yields, accesses_eq⟩, ?bad, ?reads⟩
    case keys => rwa [Table.keys, results_eq]
    case yields =>
      intro id artifact found
      obtain ⟨own, own_mem, own_yields⟩ := Table.stepwise_entries_iff.1 yields id artifact found
      rw [← turn_eq] at own_yields
      exact ⟨own, Table.mem_entries_iff.1 (results_eq.symm ▸ own_mem), own_yields⟩
    case bad =>
      rintro ⟨id, artifact, found, bad⟩
      exact absurd (good_iff.1 all_good id artifact found) bad
    case reads =>
      intro access member
      exact untouched_of_subset wanted_eq (List.Subset.refl _) (accesses_eq ▸ member)
  · obtain ⟨id, artifact, after, entries_eq, before_good, bad, smaller_good⟩ :=
      Table.exists_smallest_of_not_stepwise all_good
    have found : wanted.find? id = some artifact :=
      Table.mem_entries_iff.1 (by rw [entries_eq]; simp)
    obtain ⟨left, read_eq, accesses_eq⟩ :=
      artifactEntries_recording_of_bad before_good bad after
    rw [← entries_eq, ← turn_eq] at read_eq
    simp only [← turn_eq] at bad smaller_good
    rw [read_eq]
    refine ⟨fun good => absurd (good id artifact found) bad,
      fun _ => ⟨id, artifact, found, bad, smaller_good, rfl, accesses_eq⟩, ?reads⟩
    case reads =>
      intro access member
      refine untouched_of_subset wanted_eq ?_ (accesses_eq ▸ member)
      rw [entries_eq]
      simp

/-- A table, a number, a truth value and a parameter. -/
def assorted : Table Uuid Artifact :=
  .ofList
    [(.ofNat 1, ⟨.ofNat 1, "rows", "", .table⟩), (.ofNat 2, ⟨.ofNat 2, "mean", "", .float⟩),
      (.ofNat 3, ⟨.ofNat 3, "valid", "", .bool⟩), (.ofNat 4, ⟨.ofNat 4, "limit", "", .json⟩)]

/-- Paths of the contents, and of the schema of the table. -/
def assortedPaths : RunPaths where
  operatorMetadata := .empty
  artifactContent :=
    .ofList [(.ofNat 1, "rows"), (.ofNat 2, "mean"), (.ofNat 3, "valid"), (.ofNat 4, "limit")]
  artifactMetadata := .ofList [(.ofNat 1, "columns")]

/-- The schema of the table is not JSON, and the truth value is misspelled. -/
private def assortedBlobs : Memory :=
  .ofList
    [("rows", Utf8.encode "a,b"), ("columns", Utf8.encode "a"), ("valid", Utf8.encode "perhaps"),
      ("limit", Utf8.encode "9")]

/-- The misspelled truth value ends the reading, and what is read before it is the table with its
schema, for the number is skipped. -/
theorem collectArtifacts_exact_assorted :
    ∃ left,
      collectArtifacts Memory.store.recording assortedPaths assorted [.ofNat 2]
          ⟨assortedBlobs, []⟩ =
        (.error (.malformedArtifact (.ofNat 3) "bool" "perhaps"), left) ∧
      left.accesses = [⟨.get, "rows"⟩, ⟨.get, "columns"⟩, ⟨.get, "valid"⟩] ∧
      ∀ access ∈ left.accesses, ∃ id ∈ assorted.keys, id ∉ [Uuid.ofNat 2] ∧
        (assortedPaths.pathOf? (.content id) = some access.path ∨
          assortedPaths.pathOf? (.schema id) = some access.path) := by
  have result_eq : (collectArtifacts Memory.store.recording assortedPaths assorted [.ofNat 2]
      ⟨assortedBlobs, []⟩).1 = .error (.malformedArtifact (.ofNat 3) "bool" "perhaps") := by
    decide +kernel
  obtain ⟨_, _, reads⟩ := collectArtifacts_exact Memory.store assortedPaths assorted [.ofNat 2]
    assortedBlobs (Prod.ext result_eq rfl) rfl fun _ => rfl
  exact ⟨_, Prod.ext result_eq rfl, by decide +kernel, fun access member => (reads access member).2⟩

end Results
end Workflow
