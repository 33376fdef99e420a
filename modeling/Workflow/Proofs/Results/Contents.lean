import Workflow.Proofs.Binary64
import Workflow.Proofs.Results.Artifacts
import Workflow.Proofs.Text.Decoding

/-!
# Contents that become results

Numbers and truth values are read from a text in which unreadable bytes have been replaced.  The
character that stands for them is no white space, so it is not trimmed away, and neither a numeral
nor the spelling of a truth value has it.  Hence no content becomes a result unless it is the bytes
of a text, and what is kept of it as text has the same bytes.
-/

namespace Workflow

private theorem Text.mem_trim {c : Char} {text : List Char} (member : c ∈ text)
    (visible : isBlank c = false) : c ∈ trim text := by
  have kept {text : List Char} (member : c ∈ text) : c ∈ text.dropWhile isBlank := by
    rw [← List.takeWhile_append_dropWhile (p := isBlank) (l := text)] at member
    refine (List.mem_append.1 member).resolve_left fun blank => ?_
    exact Bool.false_ne_true (visible.symm.trans (List.mem_takeWhile_imp blank))
  exact List.mem_reverse.2 (kept (List.mem_reverse.2 (kept member)))

namespace ArtifactResult

/-- The spellings of a truth value. -/
def spellings : Bool → List String
  | true => ["1", "t", "T", "true", "TRUE", "True"]
  | false => ["0", "f", "F", "false", "FALSE", "False"]

private theorem lookup_boolSpellings_eq_some_iff {text : String} {passed : Bool} :
    boolSpellings.lookup text = some passed ↔ text ∈ spellings passed := by
  by_cases known : text ∈ boolSpellings.map Prod.fst
  · have each : ∀ text ∈ boolSpellings.map Prod.fst, ∀ passed,
        boolSpellings.lookup text = some passed ↔ text ∈ spellings passed := by
      decide
    exact each text known passed
  · have covered : ∀ passed, spellings passed ⊆ boolSpellings.map Prod.fst := by
      decide
    have unread : boolSpellings.lookup text = none :=
      List.lookup_eq_none_iff.2 fun entry member => by
        simpa using fun same => known (List.mem_map.2 ⟨entry, member, Eq.symm same⟩)
    simpa [unread] using mt (@covered passed text) known

private theorem isAscii_of_mem_spellings {text : String} {passed : Bool}
    (spelled : text ∈ spellings passed) : Text.IsAscii text.toList := by
  have each : ∀ passed, ∀ text ∈ spellings passed, Text.IsAscii text.toList := by
    decide
  exact each passed text spelled

private theorem not_isAscii_trimmed {content : Bytes} (unreadable : Utf8.decode? content = none) :
    ¬Text.IsAscii (trimmed content) := by
  intro ascii
  have kept := Text.mem_trim (Utf8.replacement_mem_decodeLossy unreadable) (by decide)
  exact absurd (ascii _ kept) (by decide)

end ArtifactResult

private theorem ArtifactKind.Parses.exists_text {kind : ArtifactKind} {content : Bytes}
    (parses : kind.Parses content) : ∃ text, Utf8.encode text = content := by
  cases decoded : Utf8.decode? content with
  | some text => exact ⟨text, Utf8.decode?_eq_some_iff.1 decoded⟩
  | none =>
      exfalso
      cases kind with
      | table | json =>
          rw [Parses, decoded] at parses
          exact Bool.false_ne_true parses
      | float =>
          obtain ⟨value, read⟩ := Option.isSome_iff_exists.1 parses
          exact ArtifactResult.not_isAscii_trimmed decoded (Binary64.isAscii_of_ofText? read)
      | bool =>
          obtain ⟨passed, spelled⟩ := Option.isSome_iff_exists.1 parses
          have ascii := ArtifactResult.isAscii_of_mem_spellings
            (ArtifactResult.lookup_boolSpellings_eq_some_iff.1 spelled)
          rw [String.toList_ofList] at ascii
          exact ArtifactResult.not_isAscii_trimmed decoded ascii

/-- Content says one thing only. -/
theorem ArtifactResult.Shows.unique {content : Bytes} {schema : TableMetadata}
    {kind : ArtifactKind} {first second : ArtifactResult}
    (shows : Shows content schema kind first) (also : Shows content schema kind second) :
    first = second := by
  cases shows <;> cases also <;> simp_all

namespace Results

variable {σ : Type} {store : Store σ} {paths : RunPaths} {state : σ}

theorem Yields.unique {entry : Uuid × Artifact} {first second : ArtifactResult}
    (yields : Yields store paths state entry first)
    (also : Yields store paths state entry second) : first = second := by
  obtain ⟨content, content_eq, shows⟩ := yields
  obtain ⟨other, other_eq, also_shows⟩ := also
  obtain rfl := Option.some.inj (content_eq.symm.trans other_eq)
  exact shows.unique also_shows

/-- An artifact is read well exactly if it is good. -/
theorem good_iff {entry : Uuid × Artifact} :
    Good store paths state entry ↔
      ∃ found, (artifactResult store paths entry.1 entry.2 state).1 = .ok found := by
  obtain ⟨outcome, read_eq, ensures⟩ := artifactResult_apply store paths state entry
  rw [read_eq]
  cases outcome with
  | ok found => exact ⟨fun _ => ⟨found, rfl⟩, fun _ => Yields.good ensures⟩
  | error fault => exact ⟨fun good => absurd good ensures.1, fun ⟨_, ok_eq⟩ => nomatch ok_eq⟩

theorem artifactResult_eq_ok_iff (entry : Uuid × Artifact) (found : ArtifactResult) :
    (artifactResult store paths entry.1 entry.2 state).1 = .ok found ↔
      Yields store paths state entry found := by
  obtain ⟨outcome, read_eq, ensures⟩ := artifactResult_apply store paths state entry
  rw [read_eq]
  cases outcome with
  | ok other =>
      have own : Yields store paths state entry other := ensures
      exact ⟨fun same => Except.ok.inj same ▸ own, fun yields => congrArg _ (own.unique yields)⟩
  | error fault => exact ⟨nofun, fun yields => absurd yields.good ensures.1⟩

private theorem artifactResult_of_not_parses {id : Uuid} {artifact : Artifact} {content : Bytes}
    (stored : paths.blob? store (.content id) state = some content)
    (unparsed : ¬artifact.kind.Parses content) :
    (artifactResult store paths id artifact state).1 =
      .error (ArtifactResult.malformed id artifact.kind.expected content) := by
  obtain ⟨outcome, read_eq, ensures⟩ := artifactResult_apply store paths state (id, artifact)
  rw [read_eq]
  cases outcome with
  | ok found =>
      obtain ⟨other, other_eq, parses⟩ := Yields.good ensures
      obtain rfl := Option.some.inj (stored.symm.trans other_eq)
      exact absurd parses unparsed
  | error fault =>
      obtain ⟨path, path_eq, content_eq⟩ := Option.bind_eq_some_iff.1 stored
      have fetched : (store.get path state).1 = .ok content := by
        cases got : (store.get path state).1 with
        | error failure => rw [got] at content_eq; exact nomatch content_eq
        | ok other => rw [got] at content_eq; exact congrArg _ (Option.some.inj content_eq)
      rw [ensures.2]
      simp [faultOf, path_eq, fetched]

/-! ### Artifacts in turn -/

/-- What becomes of an artifact when its turn comes among those that are wanted. -/
def outcomeInTurn (store : Store σ) (paths : RunPaths) (state : σ) (wanted : Table Uuid Artifact)
    (id : Uuid) (artifact : Artifact) : Except Fault ArtifactResult :=
  (artifactResult store paths id artifact (stateAfter store paths state (wanted.below id))).1

variable (store paths state) in
/-- Either every artifact comes out well and has its result, or the first that does not gives the
fault. -/
theorem collectArtifacts_cases {artifacts wanted : Table Uuid Artifact} {skip : List Uuid}
    (wanted_eq : wanted = artifacts.filter fun id _ => !skip.contains id) :
    (∃ results, (collectArtifacts store paths artifacts skip state).1 = .ok results ∧
      ∀ id artifact, wanted.find? id = some artifact → ∃ found,
        outcomeInTurn store paths state wanted id artifact = .ok found ∧
          results.find? id = some found) ∨
      ∃ id artifact fault, wanted.find? id = some artifact ∧
        outcomeInTurn store paths state wanted id artifact = .error fault ∧
        (collectArtifacts store paths artifacts skip state).1 = .error fault ∧
        ∀ other otherArtifact, wanted.find? other = some otherArtifact →
          compare other id = .lt → ∃ found,
            outcomeInTurn store paths state wanted other otherArtifact = .ok found := by
  have collect_eq : (collectArtifacts store paths artifacts skip state).1 =
      (artifactEntries store paths wanted.entries state).1.map .ofList := by
    rw [wanted_eq]
    rfl
  rw [collect_eq]
  by_cases all_good : GoodInTurn store paths state wanted.entries
  · left
    obtain ⟨results, read_eq, keys_eq, yields⟩ := artifactEntries_of_good all_good
    refine ⟨.ofList results, by rw [read_eq]; rfl, fun id artifact found => ?_⟩
    obtain ⟨own, own_mem, own_yields⟩ := Table.stepwise_entries_iff.1 yields id artifact found
    refine ⟨own, (artifactResult_eq_ok_iff _ _).2 own_yields, Table.mem_entries_iff.1 ?_⟩
    rwa [entries_ofList_of_keys keys_eq]
  · right
    obtain ⟨id, artifact, after, entries_eq, before_good, bad, smaller_good⟩ :=
      Table.exists_smallest_of_not_stepwise all_good
    have found : wanted.find? id = some artifact :=
      Table.mem_entries_iff.1 (by rw [entries_eq]; simp)
    have read_eq := artifactEntries_of_bad before_good bad after
    rw [← entries_eq] at read_eq
    obtain ⟨outcome, own_eq, ensures⟩ := artifactResult_apply store paths
      (stateAfter store paths state (wanted.below id)) (id, artifact)
    cases outcome with
    | ok own => exact absurd (Yields.good ensures) bad
    | error fault =>
        refine ⟨id, artifact, fault, found, congrArg Prod.fst own_eq, ?_, fun other otherArtifact
          other_found lt => good_iff.1 (smaller_good other otherArtifact other_found lt)⟩
        rw [read_eq, ensures.2]
        rfl

private theorem collectArtifacts_of_error {artifacts wanted : Table Uuid Artifact}
    {skip : List Uuid} (wanted_eq : wanted = artifacts.filter fun id _ => !skip.contains id)
    {id : Uuid} {artifact : Artifact} (found : wanted.find? id = some artifact) {fault : Fault}
    (fails : outcomeInTurn store paths state wanted id artifact = .error fault) :
    (∃ first, (collectArtifacts store paths artifacts skip state).1 = .error first) ∧
      ((∀ other otherArtifact, wanted.find? other = some otherArtifact →
          compare other id = .lt → ∃ earlier,
            outcomeInTurn store paths state wanted other otherArtifact = .ok earlier) →
        (collectArtifacts store paths artifacts skip state).1 = .error fault) := by
  obtain ⟨_, -, all_ok⟩ |
      ⟨first, firstArtifact, firstFault, first_found, first_fails, ends, before⟩ :=
    collectArtifacts_cases store paths state wanted_eq
  · obtain ⟨value, ok_eq, -⟩ := all_ok id artifact found
    exact nomatch fails.symm.trans ok_eq
  · refine ⟨⟨firstFault, ends⟩, fun earlier => ?_⟩
    cases order : compare first id with
    | lt =>
        obtain ⟨_, ok_eq⟩ := earlier first firstArtifact first_found order
        exact nomatch first_fails.symm.trans ok_eq
    | gt =>
        obtain ⟨_, ok_eq⟩ := before id artifact found (Std.OrientedCmp.lt_of_gt order)
        exact nomatch fails.symm.trans ok_eq
    | eq =>
        obtain rfl := Std.LawfulEqOrd.eq_of_compare order
        obtain rfl := Option.some.inj (found.symm.trans first_found)
        obtain rfl := Except.error.inj (fails.symm.trans first_fails)
        exact ends

section Text

variable {id : Uuid} {artifact : Artifact} {text : String}

/-- What an artifact shows whose content is the bytes of a text. -/
theorem artifactResult_eq_ok_iff_of_text
    (stored : paths.blob? store (.content id) state = some (Utf8.encode text))
    {found : ArtifactResult} :
    (artifactResult store paths id artifact state).1 = .ok found ↔
      ArtifactResult.Shows (Utf8.encode text) (schemaOf store paths state (id, artifact))
        artifact.kind found := by
  have reads : (artifactResult store paths id artifact state).1 = .ok found ↔
      Yields store paths state (id, artifact) found :=
    artifactResult_eq_ok_iff (id, artifact) found
  refine reads.trans ⟨?_, fun shows => ?_⟩
  · rintro ⟨content, content_eq, shows⟩
    rwa [Option.some.inj (stored.symm.trans content_eq)]
  · exact ⟨_, stored, shows⟩

private theorem artifactResult_of_table
    (stored : paths.blob? store (.content id) state = some (Utf8.encode text))
    (kind_eq : artifact.kind = .table) :
    ∃ schema, (artifactResult store paths id artifact state).1 = .ok (.table schema text) := by
  refine ⟨schemaOf store paths state (id, artifact),
    (artifactResult_eq_ok_iff_of_text stored).2 ?_⟩
  rw [kind_eq]
  exact .table (Utf8.decode?_encode text)

private theorem artifactResult_of_param
    (stored : paths.blob? store (.content id) state = some (Utf8.encode text))
    (kind_eq : artifact.kind = .json) :
    (artifactResult store paths id artifact state).1 = .ok (.param text) := by
  refine (artifactResult_eq_ok_iff_of_text stored).2 ?_
  rw [kind_eq]
  exact .param (Utf8.decode?_encode text)

private theorem artifactResult_of_check
    (stored : paths.blob? store (.content id) state = some (Utf8.encode text))
    (kind_eq : artifact.kind = .bool) (passed : Bool) :
    (artifactResult store paths id artifact state).1 = .ok (.check passed) ↔
      String.ofList (Text.trim text.toList) ∈ ArtifactResult.spellings passed := by
  have trimmed_eq : ArtifactResult.trimmed (Utf8.encode text) = Text.trim text.toList := by
    rw [ArtifactResult.trimmed, Utf8.decodeLossy_encode]
  rw [artifactResult_eq_ok_iff_of_text stored, kind_eq,
    ← ArtifactResult.lookup_boolSpellings_eq_some_iff, ← trimmed_eq]
  constructor
  · rintro ⟨⟩
    assumption
  · exact .check

end Text

/-- Content that is not the bytes of a text never becomes a result, of whichever kind its artifact
is: reading ends with a fault, and unless an artifact before it is at fault, this is the fault of
its artifact, which tells the whole content with unreadable parts replaced.  Of content that is the
bytes of a text, a table and a parameter keep these bytes, and a check has the truth value that the
text spells between white space.  What comes out well is among the results of every collection
without a fault. -/
theorem collectArtifacts_unaltered (store : Store σ) (paths : RunPaths)
    (artifacts : Table Uuid Artifact) (skip : List Uuid) (state : σ)
    {wanted : Table Uuid Artifact}
    (wanted_eq : wanted = artifacts.filter fun id _ => !skip.contains id) {id : Uuid}
    {artifact : Artifact} (found : wanted.find? id = some artifact) {content : Bytes}
    (stored : paths.blob? store (.content id)
      (stateAfter store paths state (wanted.below id)) = some content)
    {outcome : Except Fault ArtifactResult}
    (outcome_eq : outcomeInTurn store paths state wanted id artifact = outcome)
    {result : Except Fault (Table Uuid ArtifactResult)}
    (collected : (collectArtifacts store paths artifacts skip state).1 = result) :
    ((∀ text, Utf8.encode text ≠ content) →
      outcome = .error
          (.malformedArtifact id artifact.kind.expected (Utf8.decodeLossy content)) ∧
        (∃ fault, result = .error fault) ∧
        ((∀ other otherArtifact, wanted.find? other = some otherArtifact →
            compare other id = .lt → ∃ earlier,
              outcomeInTurn store paths state wanted other otherArtifact = .ok earlier) →
          result = .error
            (.malformedArtifact id artifact.kind.expected (Utf8.decodeLossy content)))) ∧
    (∀ text, Utf8.encode text = content →
      (artifact.kind = .table →
        ∃ schema data, outcome = .ok (.table schema data) ∧ Utf8.encode data = content) ∧
      (artifact.kind = .json →
        ∃ value, outcome = .ok (.param value) ∧ Utf8.encode value = content) ∧
      (artifact.kind = .bool → ∀ passed, outcome = .ok (.check passed) ↔
        String.ofList (Text.trim text.toList) ∈ ArtifactResult.spellings passed)) ∧
    ∀ results, result = .ok results →
      ∃ value, outcome = .ok value ∧ results.find? id = some value := by
  subst outcome_eq collected
  refine ⟨fun no_text => ?_, fun text text_eq => ?_, fun results ok_eq => ?_⟩
  · have unparsed : ¬artifact.kind.Parses content := fun parses => by
      obtain ⟨text, text_eq⟩ := parses.exists_text
      exact no_text text text_eq
    have fails : outcomeInTurn store paths state wanted id artifact = .error
        (.malformedArtifact id artifact.kind.expected (Utf8.decodeLossy content)) :=
      artifactResult_of_not_parses stored unparsed
    exact ⟨fails, collectArtifacts_of_error wanted_eq found fails⟩
  · subst text_eq
    refine ⟨fun kind_eq => ?_, fun kind_eq => ?_, fun kind_eq => ?_⟩
    · obtain ⟨schema, read_eq⟩ := artifactResult_of_table stored kind_eq
      exact ⟨schema, text, read_eq, rfl⟩
    · exact ⟨text, artifactResult_of_param stored kind_eq, rfl⟩
    · exact artifactResult_of_check stored kind_eq
  · obtain ⟨_, all_eq, all_ok⟩ | ⟨_, _, _, _, _, ends, _⟩ :=
      collectArtifacts_cases store paths state wanted_eq
    · obtain rfl := Except.ok.inj (ok_eq.symm.trans all_eq)
      exact all_ok id artifact found
    · exact nomatch ok_eq.symm.trans ends

/-- A text, and a truth value between a space and a byte that no character begins with. -/
private def spoiledBlobs : Memory :=
  .ofList [("rows", Utf8.encode "a,b"), ("valid", Utf8.encode " true" ++ [0xFF])]

/-- The last byte keeps the truth value from being read, and what replaces it is told. -/
theorem collectArtifacts_unaltered_spoiled :
    (∀ text, Utf8.encode text ≠ Utf8.encode " true" ++ [0xFF]) ∧
      (collectArtifacts Memory.store assortedPaths assorted [.ofNat 2, .ofNat 4] spoiledBlobs).1 =
        .error (.malformedArtifact (.ofNat 3) "bool" " true\uFFFD") := by
  have no_text : ∀ text, Utf8.encode text ≠ Utf8.encode " true" ++ [0xFF] :=
    Utf8.decode?_eq_none_iff.1 (by decide +kernel)
  have found : (assorted.filter fun id _ => !([.ofNat 2, .ofNat 4] : List Uuid).contains id).find?
      (.ofNat 3) = some ⟨.ofNat 3, "valid", "", .bool⟩ := by
    decide
  have stored : assortedPaths.blob? Memory.store (.content (.ofNat 3)) spoiledBlobs =
      some (Utf8.encode " true" ++ [0xFF]) := by
    decide +kernel
  obtain ⟨unreadable, -, -⟩ := collectArtifacts_unaltered Memory.store assortedPaths assorted
    [.ofNat 2, .ofNat 4] spoiledBlobs rfl found stored rfl rfl
  obtain ⟨-, -, ends⟩ := unreadable no_text
  refine ⟨no_text, (ends fun other otherArtifact found lt => ?_).trans (by decide +kernel)⟩
  have entries_eq :
      (assorted.filter fun id _ => !([.ofNat 2, .ofNat 4] : List Uuid).contains id).entries =
        [(.ofNat 1, ⟨.ofNat 1, "rows", "", .table⟩),
          (.ofNat 3, ⟨.ofNat 3, "valid", "", .bool⟩)] := by
    decide
  have member := Table.mem_entries_iff.2 found
  rw [entries_eq] at member
  rcases List.mem_pair.1 member with first | third
  · obtain ⟨rfl, rfl⟩ := Prod.mk.inj first
    exact ⟨.table .unknown "a,b", by decide +kernel⟩
  · obtain ⟨rfl, rfl⟩ := Prod.mk.inj third
    exact absurd lt (by decide)

end Results
end Workflow
