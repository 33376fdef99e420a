import Workflow.Proofs.Preview.Fetching
import Workflow.Proofs.Run.Outcome
import Workflow.Proofs.Run.Paths

/-!
# What a preview collects

A preview that is not interrupted reads back what `Results.planned` says, and then cleans up.  What
it tells about an operator follows from the metadata, and which artifacts it shows follows from what
it tells about the operators that write them.
-/

namespace Workflow

variable {σ : Type} {store : Store σ} {first : σ}

namespace Results

variable {paths : RunPaths} {report : RunReport}

/-- Every operator of a run is told about, in a way that fits its state and its metadata. -/
def Told (store : Store σ) (first : σ) (paths : RunPaths) (report : RunReport)
    (operators : Table Uuid OperatorResult) : Prop :=
  List.Forall₂ (Tells store first paths report) report.operators.entries operators.entries

private theorem map_fst_eq_of_tells {operators : List (Uuid × OperatorState)}
    {results : List (Uuid × OperatorResult)}
    (told : List.Forall₂ (Tells store first paths report) operators results) :
    results.map Prod.fst = operators.map Prod.fst := by
  induction told with
  | nil => rfl
  | cons head _ ih => rw [List.map_cons, List.map_cons, head.1, ih]

section Told

variable {operators : Table Uuid OperatorResult}
  (told : Told store first paths report operators) {id : Uuid}

include told

theorem Told.keys_eq : operators.keys = report.operators.keys :=
  map_fst_eq_of_tells told

theorem Told.state {result : OperatorResult} (found : operators.find? id = some result) :
    ∃ state, report.operators.find? id = some state ∧
      OperatorResult.Reports (report.launchErrors.find? id) (MetadataRead store first paths id)
        state result := by
  have member : id ∈ report.operators.keys := told.keys_eq ▸ Table.mem_keys_iff.2 ⟨result, found⟩
  obtain ⟨state, state_eq⟩ := Table.mem_keys_iff.1 member
  obtain ⟨⟨_, other⟩, other_mem, rfl, reports⟩ :=
    exists_of_mem_forall₂ told (Table.mem_entries_iff.2 state_eq)
  obtain rfl : other = result :=
    Option.some.inj ((Table.mem_entries_iff.1 other_mem).symm.trans found)
  exact ⟨state, state_eq, reports⟩

end Told

/-- The artifacts that are shown are those that no operator without success writes. -/
def shown (dag : Dag) (operators : Table Uuid OperatorResult) : Table Uuid Artifact :=
  dag.artifacts.filter fun id _ => !(skipSet dag operators).contains id

theorem mem_skipSet {dag : Dag} {operators : Table Uuid OperatorResult} {artifact : Uuid} :
    artifact ∈ skipSet dag operators ↔
      ∃ id result operator, operators.find? id = some result ∧ result.status ≠ .succeeded ∧
        dag.operators.find? id = some operator ∧ artifact ∈ operator.outputs := by
  have writes (id : Uuid) : artifact ∈ (dag.operators.find? id).elim [] Operator.outputs ↔
      ∃ operator, dag.operators.find? id = some operator ∧ artifact ∈ operator.outputs := by
    cases dag.operators.find? id <;> simp
  simp only [skipSet, mem_ascending, List.mem_flatMap, List.mem_filter, Prod.exists,
    Table.mem_entries_iff, writes, bne_iff_ne, ne_eq]
  constructor
  · rintro ⟨id, result, ⟨found, unsuccessful⟩, operator, carried, member⟩
    exact ⟨id, result, operator, found, unsuccessful, carried, member⟩
  · rintro ⟨id, result, operator, found, unsuccessful, carried, member⟩
    exact ⟨id, result, ⟨found, unsuccessful⟩, operator, carried, member⟩

theorem mem_keys_shown {dag : Dag} {operators : Table Uuid OperatorResult} {artifact : Uuid}
    (keys_eq : operators.keys = dag.operators.keys) :
    artifact ∈ (shown dag operators).keys ↔ artifact ∈ dag.artifacts.keys ∧
      ∀ id operator, dag.operators.find? id = some operator → artifact ∈ operator.outputs →
        ∃ result, operators.find? id = some result ∧ result.status = .succeeded := by
  have kept : artifact ∈ (shown dag operators).keys ↔
      artifact ∈ dag.artifacts.keys ∧ artifact ∉ skipSet dag operators := by
    simp [Table.mem_keys_iff, shown, Table.find?_filter, Option.filter_eq_some_iff]
  rw [kept, and_congr_right_iff]
  intro _
  constructor
  · intro unskipped id operator carried member
    have known : id ∈ operators.keys := keys_eq ▸ Table.mem_keys_iff.2 ⟨operator, carried⟩
    obtain ⟨result, found⟩ := Table.mem_keys_iff.1 known
    refine ⟨result, found, ?_⟩
    by_contra unsuccessful
    exact unskipped (mem_skipSet.2 ⟨id, result, operator, found, unsuccessful, carried, member⟩)
  · intro successful skipped
    obtain ⟨id, result, operator, found, unsuccessful, carried, member⟩ := mem_skipSet.1 skipped
    obtain ⟨other, other_found, succeeded⟩ := successful id operator carried member
    obtain rfl : other = result := Option.some.inj (other_found.symm.trans found)
    exact unsuccessful succeeded

/-- What is read in order, given what is told about the operators. -/
def planned (dag : Dag) (report : RunReport) (operators : Table Uuid OperatorResult) :
    List Source :=
  operatorSources report.operators.entries ++ artifactSources (shown dag operators).entries

/-- Results in the order of ascending keys become a table as they are. -/
theorem entries_ofList_of_keys {α β : Type} {table : Table Uuid α} {results : List (Uuid × β)}
    (keys_eq : results.map Prod.fst = table.keys) : (Table.ofList results).entries = results := by
  have ascending := table.keys_ascending
  rw [← keys_eq] at ascending
  exact Table.entries_ofList (List.pairwise_map.1 ascending) fun _ => .rfl

theorem fetches_collectOperators
    (covered : ∀ operator ∈ report.operators.keys, operator ∈ paths.operatorMetadata.keys) :
    Fetches store first
      (fun fetched operators =>
        paths.Located (operatorSources report.operators.entries) fetched ∧
          Told store first paths report operators)
      (collectOperators store paths report) := by
  refine (fetches_operatorEntries fun entry member =>
    covered entry.1 (List.mem_map_of_mem member)).bind fun fetched results ⟨located, told⟩ => ?_
  refine .value ⟨by rwa [List.append_nil], ?_⟩
  rwa [Told, entries_ofList_of_keys (map_fst_eq_of_tells told)]

theorem fetches_collectArtifacts {artifacts : Table Uuid Artifact} {skip : List Uuid}
    (contents_covered : ∀ artifact ∈ artifacts.keys, artifact ∈ paths.artifactContent.keys)
    (schemas_covered : ∀ artifact ∈ artifacts.keys, artifact ∈ paths.artifactMetadata.keys)
    {wanted : Table Uuid Artifact}
    (wanted_eq : wanted = artifacts.filter fun id _ => !skip.contains id) :
    Fetches store first
      (fun fetched => Ensures
        (fun results : Table Uuid ArtifactResult =>
          paths.Located (artifactSources wanted.entries) fetched ∧ results.keys = wanted.keys)
        (fun fault => fault.IsUnreadable ∧
          FetchedUpTo paths (artifactSources wanted.entries) fetched))
      (collectArtifacts store paths artifacts skip) := by
  have present {entry : Uuid × Artifact} (member : entry ∈ wanted.entries) :
      entry.1 ∈ artifacts.keys := by
    rw [wanted_eq] at member
    exact List.mem_map_of_mem (List.mem_filter.1 member).1
  subst wanted_eq
  refine (fetches_artifactEntries (fun entry member => contents_covered _ (present member))
    fun entry member => schemas_covered _ (present member)).bind fun fetched results ensures => ?_
  refine .value ?_
  rw [List.append_nil]
  cases results with
  | error fault => exact ensures
  | ok results =>
    refine ⟨ensures.1, ?_⟩
    rw [Table.keys, entries_ofList_of_keys ensures.2]
    exact ensures.2

end Results

open Results

/-- Reading back either fetches all that is planned, and shows the artifacts that no operator
without success writes, or ends with the fault of an artifact that cannot be read. -/
theorem PreviewService.fetches_collect (service : PreviewService σ) {dag : Dag} {paths : RunPaths}
    {report : RunReport} (first : σ)
    (operators : ∀ operator ∈ report.operators.keys, operator ∈ paths.operatorMetadata.keys)
    (contents : ∀ artifact ∈ dag.artifacts.keys, artifact ∈ paths.artifactContent.keys)
    (schemas : ∀ artifact ∈ dag.artifacts.keys, artifact ∈ paths.artifactMetadata.keys) :
    Fetches service.store first
      (fun fetched result => ∃ operators, Told service.store first paths report operators ∧
        Ensures
          (fun response : PreviewResponse =>
            response.status = report.status ∧ response.operators = operators ∧
              response.artifacts.keys = (shown dag operators).keys ∧
              paths.Located (planned dag report operators) fetched)
          (fun fault => fault.IsUnreadable ∧
            FetchedUpTo paths (planned dag report operators) fetched)
          result)
      (service.collect dag paths report) := by
  refine (fetches_collectOperators operators).bind fun fetched operators ⟨located, told⟩ => ?_
  refine (fetches_collectArtifacts contents schemas rfl).bind fun more artifacts ensures => ?_
  refine .value ⟨operators, told, ?_⟩
  rw [List.append_nil]
  cases artifacts with
  | error fault =>
      obtain ⟨unreadable, read, before, more_located⟩ := ensures
      exact ⟨unreadable, _, (List.prefix_append_right_inj _).2 before, located.append more_located⟩
  | ok artifacts => exact ⟨rfl, rfl, ensures.2, located.append ensures.1⟩

namespace PreviewService

variable {ω : Type} {service : PreviewService ω} {dag : Dag} {order : List Uuid}
  {paths : RunPaths} {fresh : Nat → Uuid} {id : Uuid} {canceledAt : Option Nat} {world : ω}

/-- An answer comes from a finished run, after all that was planned had been read back. -/
structure Answers (service : PreviewService ω) (dag : Dag) (paths : RunPaths)
    (executed : RunEnd ω RunReport) (report : RunReport) (fetched : List String)
    (ended : RunEnd ω PreviewResponse) (response : PreviewResponse) : Prop where
  /-- The run has ended with a report. -/
  finished : executed.conclusion = .result report
  /-- No call was made after the run. -/
  calls_eq : ended.calls = executed.calls
  /-- The answer tells about each operator of the report. -/
  told : Told service.store executed.world paths report response.operators
  /-- The status is that of the report. -/
  status_eq : response.status = report.status
  /-- The artifacts without unsuccessful writers are shown. -/
  keys_eq : response.artifacts.keys = (shown dag response.operators).keys
  /-- What was planned has been fetched. -/
  located : paths.Located (planned dag report response.operators) fetched
  /-- Then the blobs were cleaned up. -/
  world_eq : ended.world = service.tidy paths (service.store.fetch fetched executed.world)

/-- How a preview ends after the run of its workflow has ended. -/
inductive Ends (service : PreviewService ω) (dag : Dag) (paths : RunPaths)
    (executed : RunEnd ω RunReport) : RunEnd ω PreviewResponse → Prop
  /-- All that was planned has been read back. -/
  | response {ended : RunEnd ω PreviewResponse} {report : RunReport} {response : PreviewResponse}
      {fetched : List String} (answered : ended.conclusion = .result response)
      (answers : Answers service dag paths executed report fetched ended response) :
      Ends service dag paths executed ended
  /-- An artifact could not be read. -/
  | unreadable {report : RunReport} {operators : Table Uuid OperatorResult}
      {fetched : List String} {fault : Fault} (finished : executed.conclusion = .result report)
      (told : Told service.store executed.world paths report operators)
      (unreadable : fault.IsUnreadable)
      (partly : FetchedUpTo paths (planned dag report operators) fetched) :
      Ends service dag paths executed
        ⟨.fault fault, executed.now, executed.calls,
          service.tidy paths (service.store.fetch fetched executed.world)⟩
  /-- The run had stopped. -/
  | stopped {fault : Fault} (stopped : executed.conclusion = .fault fault) :
      Ends service dag paths executed
        ⟨.fault fault, executed.now, executed.calls, service.tidy paths executed.world⟩
  /-- The run is watched no longer. -/
  | unwatched (unwatched : executed.conclusion = .unfinished) :
      Ends service dag paths executed
        ⟨.unfinished, executed.now, executed.calls, executed.world⟩

private theorem ends_run (accepted : dag.executionOrder = .ok order)
    (paths_eq : paths = .generate fresh dag) {executed : RunEnd ω RunReport}
    (executed_eq : executed = dag.execute service.settings order paths id canceledAt world) :
    service.Ends dag paths executed (service.run dag order paths id canceledAt world) := by
  have outcome := Run.execute_outcome accepted canceledAt world executed_eq
  unfold run
  rw [← executed_eq]
  dsimp only
  cases conclusion_eq : executed.conclusion with
  | result report =>
      rw [conclusion_eq] at outcome
      obtain ⟨final, faithful, _, _, rfl, _⟩ := outcome
      have states_keys : (final.report id).operators.keys = dag.operators.keys :=
        faithful.keys_states accepted
      have fetches : Fetches service.store executed.world _
          (service.collect dag paths (final.report id)) :=
        service.fetches_collect _ (by simp [paths_eq, states_keys]) (by simp [paths_eq])
          (by simp [paths_eq])
      obtain ⟨fetched, ⟨operators, told, ensures⟩, left⟩ := fetches []
      change (service.collect dag paths (final.report id) executed.world).2 = _ at left
      change Ensures _ _ (service.collect dag paths (final.report id) executed.world).1 at ensures
      dsimp only
      generalize service.collect dag paths (final.report id) executed.world = collected at *
      obtain ⟨result, after⟩ := collected
      obtain rfl : after = service.store.fetch fetched executed.world := left
      cases result with
      | error fault => exact .unreadable conclusion_eq told ensures.1 ensures.2
      | ok response =>
          obtain ⟨status_eq, rfl, keys_eq, located⟩ := ensures
          exact .response rfl ⟨conclusion_eq, rfl, told, status_eq, keys_eq, located, rfl⟩
  | fault fault => exact .stopped conclusion_eq
  | unfinished => exact .unwatched conclusion_eq

theorem Ends.calls_eq {executed : RunEnd ω RunReport} {ended : RunEnd ω PreviewResponse}
    (ends : service.Ends dag paths executed ended) : ended.calls = executed.calls := by
  cases ends with
  | response _ answers => exact answers.calls_eq
  | unreadable | stopped | unwatched => rfl

private theorem Ends.of_result {executed : RunEnd ω RunReport} {ended : RunEnd ω PreviewResponse}
    {response : PreviewResponse} (ends : service.Ends dag paths executed ended)
    (answered : ended.conclusion = .result response) :
    ∃ report fetched, service.Answers dag paths executed report fetched ended response := by
  cases ends with
  | response other_answered answers =>
      obtain rfl := Conclusion.result.inj (other_answered.symm.trans answered)
      exact ⟨_, _, answers⟩
  | unreadable | stopped | unwatched => exact nomatch answered

theorem preview_of_error {defect : Defect}
    (rejected : (service.prepare dag).executionOrder = .error defect) :
    service.preview dag fresh id canceledAt world =
      ⟨.fault (.validation defect), 0, [], world⟩ := by
  simp only [preview, rejected]

theorem ends_preview (accepted : (service.prepare dag).executionOrder = .ok order)
    (paths_eq : paths = .generate fresh (service.prepare dag)) {executed : RunEnd ω RunReport}
    (executed_eq : executed =
      (service.prepare dag).execute service.settings order paths id canceledAt world) :
    service.Ends (service.prepare dag) paths executed
      (service.preview dag fresh id canceledAt world) := by
  have ends := ends_run accepted paths_eq executed_eq
  rw [preview, accepted, ← paths_eq]
  exact ends

/-- Behind an answer there is a run that has ended and accounts for its report. -/
theorem exists_run_of_answer {prepared : Dag} (prepared_eq : prepared = service.prepare dag)
    (paths_eq : paths = .generate fresh prepared) {ended : RunEnd ω PreviewResponse}
    {response : PreviewResponse}
    (ended_eq : ended = service.preview dag fresh id canceledAt world)
    (answered : ended.conclusion = .result response) :
    ∃ order executed report fetched, prepared.executionOrder = .ok order ∧
      executed = prepared.execute service.settings order paths id canceledAt world ∧
      service.Answers prepared paths executed report fetched ended response ∧
      ∃ final : Run ω,
        final.Faithful (.build prepared) (prepared.spec? service.settings paths id) order ∧
          final.Sourced ∧ report = final.report id ∧ executed.calls = final.calls := by
  subst prepared_eq
  cases order_eq : (service.prepare dag).executionOrder with
  | error defect =>
      rw [ended_eq, preview_of_error order_eq] at answered
      exact nomatch answered
  | ok order =>
      have ends : service.Ends (service.prepare dag) paths _ ended :=
        ended_eq ▸ ends_preview order_eq paths_eq rfl
      obtain ⟨report, fetched, answers⟩ := ends.of_result answered
      have outcome := Run.execute_outcome order_eq canceledAt world
        (rfl : (service.prepare dag).execute service.settings order paths id canceledAt world = _)
      rw [answers.finished] at outcome
      obtain ⟨final, faithful, sourced, _, report_eq, calls_eq, _⟩ := outcome
      exact ⟨order, _, report, fetched, rfl, rfl, answers, final, faithful, sourced, report_eq,
        calls_eq⟩

end PreviewService
end Workflow
