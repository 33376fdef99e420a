import Workflow.Proofs.Preview.Cleanup
import Workflow.Proofs.Preview.Collection

/-!
# What an answer rests on

An answer tells about each operator that was part of the run, and shows an artifact only if every
operator that writes it has succeeded.  Each blob that it rests on was fetched once, and no other.
-/

namespace Workflow

namespace Results

variable {dag : Dag} {report : RunReport} {response : PreviewResponse} {source : Source}

theorem mem_operatorSources {operators : List (Uuid × OperatorState)} :
    source ∈ operatorSources operators ↔
      ∃ id state, (id, state) ∈ operators ∧ state ≠ .skipped ∧ source = .metadata id := by
  have own (state : OperatorState) (id : Uuid) :
      source ∈ (if state = .skipped then [] else [Source.metadata id]) ↔
        state ≠ .skipped ∧ source = .metadata id := by
    split <;> simp_all
  simp only [operatorSources, List.mem_flatMap, Prod.exists, own]

theorem mem_artifactSources {artifacts : List (Uuid × Artifact)} :
    source ∈ artifactSources artifacts ↔ ∃ id artifact, (id, artifact) ∈ artifacts ∧
      (source = .content id ∨ artifact.kind = .table ∧ source = .schema id) := by
  have own (artifact : Artifact) (id : Uuid) :
      source ∈ Source.content id :: (if artifact.kind = .table then [.schema id] else []) ↔
        source = .content id ∨ artifact.kind = .table ∧ source = .schema id := by
    split <;> simp_all
  simp only [artifactSources, List.mem_flatMap, Prod.exists, own]

private theorem nodup_flatMap_entries {α : Type} {table : Table Uuid α}
    {sources : Uuid × α → List Source} (nodup : ∀ entry, (sources entry).Nodup)
    (own : ∀ entry, ∀ source ∈ sources entry, source.node = entry.1) :
    (table.entries.flatMap sources).Nodup := by
  refine List.nodup_flatMap.2 ⟨fun entry _ => nodup entry, table.ascending.imp ?_⟩
  intro first second lt source first_mem second_mem
  exact Table.ne_of_compare_lt lt ((own first source first_mem).symm.trans
    (own second source second_mem))

private theorem nodup_operatorSources (operators : Table Uuid OperatorState) :
    (operatorSources operators.entries).Nodup := by
  refine nodup_flatMap_entries (fun (id, state) => ?nodup) fun (id, state) source => ?own <;>
  · dsimp only
    split <;> simp +contextual [Source.node]

private theorem nodup_artifactSources (artifacts : Table Uuid Artifact) :
    (artifactSources artifacts.entries).Nodup := by
  refine nodup_flatMap_entries (fun (id, artifact) => ?nodup) fun (id, artifact) source => ?own <;>
  · dsimp only
    split <;> simp +contextual [Source.node, or_imp]

private theorem nodup_planned (dag : Dag) (report : RunReport)
    (operators : Table Uuid OperatorResult) :
    (planned dag report operators).Nodup := by
  refine List.nodup_append.2 ⟨nodup_operatorSources _, nodup_artifactSources _, ?_⟩
  intro first first_mem second second_mem same
  obtain ⟨operator, _, _, _, rfl⟩ := mem_operatorSources.1 first_mem
  obtain ⟨artifact, _, _, rfl | ⟨_, rfl⟩⟩ := mem_artifactSources.1 second_mem <;> cases same

/-- What an answer rests on: the metadata of the operators that were not skipped, the contents of
the artifacts that it shows, and the schemas of the tables among them. -/
def Wanted (dag : Dag) (report : RunReport) (response : PreviewResponse) : Source → Prop
  | .metadata operator =>
      ∃ state, report.operators.find? operator = some state ∧ state ≠ .skipped
  | .content artifact => artifact ∈ response.artifacts.keys
  | .schema artifact =>
      artifact ∈ response.artifacts.keys ∧
        ∃ carried, dag.artifacts.find? artifact = some carried ∧ carried.kind = .table

theorem mem_planned_iff
    (keys_eq : response.artifacts.keys = (shown dag response.operators).keys) :
    source ∈ planned dag report response.operators ↔ Wanted dag report response source := by
  have shown_iff {id : Uuid} {artifact : Artifact} :
      (shown dag response.operators).find? id = some artifact ↔
        id ∈ response.artifacts.keys ∧ dag.artifacts.find? id = some artifact := by
    rw [keys_eq, Table.mem_keys_iff]
    constructor
    · intro found
      refine ⟨⟨artifact, found⟩, ?_⟩
      rw [shown, Table.find?_filter, Option.filter_eq_some_iff] at found
      exact found.1
    · rintro ⟨⟨other, found⟩, carried⟩
      have other_carried := found
      rw [shown, Table.find?_filter, Option.filter_eq_some_iff, carried] at other_carried
      obtain rfl := Option.some.inj other_carried.1
      exact found
  rw [planned, List.mem_append, mem_operatorSources, mem_artifactSources]
  simp only [Table.mem_entries_iff, shown_iff]
  cases source with
  | metadata operator => simp [Wanted]
  | content artifact =>
      simp only [Wanted, reduceCtorEq, and_false, exists_false, false_or, Source.content.injEq,
        or_false]
      constructor
      · rintro ⟨id, carried, ⟨shown, _⟩, rfl⟩
        exact shown
      · intro member
        obtain ⟨carried, found⟩ := Table.mem_keys_iff.1 (keys_eq ▸ member)
        exact ⟨artifact, carried, shown_iff.1 found, rfl⟩
  | schema artifact => simp [Wanted, and_assoc]

end Results

open Results

namespace PreviewService

variable {ω : Type} {service : PreviewService ω} {dag prepared : Dag} {paths : RunPaths}
  {fresh : Nat → Uuid} {id : Uuid} {canceledAt : Option Nat} {world : ω}

private theorem artifacts_prepare (service : PreviewService ω) (dag : Dag) :
    (service.prepare dag).artifacts = dag.artifacts := by
  unfold prepare
  split <;> rfl

/-- A cleanup deletes each path of the run, if it is wanted. -/
theorem accesses_tidy {accesses : ω → List Access} (notes : service.store.Notes accesses)
    (paths : RunPaths) (world : ω) :
    accesses (service.tidy paths world) = accesses world ++
      if service.config.cleanUp then (paths.disposable true).map fun path => ⟨.delete, path⟩
      else [] := by
  unfold tidy
  split
  · rw [RunPaths.cleanup_eq, notes.sweep]
  · exact (List.append_nil _).symm

/-- An answer holds exactly the results that can be trusted.  It tells about every operator of the
part that was run, and shows the artifacts, each of which some operator writes, all of whose writers
have succeeded by their results.  What it rests on was fetched once, nothing else was fetched, and
no path at which an operator without success was to write was read. -/
theorem answer_trustworthy {accesses : ω → List Access} (notes : service.store.Notes accesses)
    (prepared_eq : prepared = service.prepare dag) (paths_eq : paths = .generate fresh prepared)
    {ended : RunEnd ω PreviewResponse}
    (ended_eq : ended = service.preview dag fresh id canceledAt world) {response : PreviewResponse}
    (answered : ended.conclusion = .result response) :
    ∃ order executed report, prepared.executionOrder = .ok order ∧
      executed = prepared.execute service.settings order paths id canceledAt world ∧
      executed.conclusion = .result report ∧
      report.operators.keys = prepared.operators.keys ∧
      response.operators.keys = prepared.operators.keys ∧
      (∀ artifact, artifact ∈ response.artifacts.keys ↔ artifact ∈ dag.artifacts.keys ∧
        ∀ key operator, prepared.operators.find? key = some operator →
          artifact ∈ operator.outputs →
            ∃ result, response.operators.find? key = some result ∧ result.status = .succeeded) ∧
      (∀ artifact ∈ dag.artifacts.keys, ∃ operator ∈ prepared.operators.values,
        artifact ∈ operator.outputs) ∧
      ∃ sources fetched, sources.Nodup ∧
        (∀ source, source ∈ sources ↔ Wanted prepared report response source) ∧
        paths.Located sources fetched ∧
        accesses ended.world = accesses executed.world ++
          (fetched.map fun path => ⟨.get, path⟩) ++
            (if service.config.cleanUp then (paths.disposable true).map fun path => ⟨.delete, path⟩
              else []) ∧
        (((List.range (RunPaths.demand prepared)).map fresh).Nodup →
          ∀ key operator result, prepared.operators.find? key = some operator →
            response.operators.find? key = some result → result.status ≠ .succeeded →
              ∀ artifact ∈ operator.outputs, ∀ path ∈ fetched,
                paths.pathOf? (.content artifact) ≠ some path ∧
                  paths.pathOf? (.schema artifact) ≠ some path) := by
  obtain ⟨order, executed, report, fetched, accepted, executed_eq, answers, final, faithful, _,
    report_eq, _⟩ := exists_run_of_answer prepared_eq paths_eq ended_eq answered
  have report_keys : report.operators.keys = prepared.operators.keys := by
    rw [report_eq]
    exact faithful.keys_states accepted
  have response_keys := answers.told.keys_eq.trans report_keys
  have artifacts_eq : prepared.artifacts = dag.artifacts := by
    rw [prepared_eq, artifacts_prepare]
  have shown_iff (artifact : Uuid) : artifact ∈ response.artifacts.keys ↔
      artifact ∈ dag.artifacts.keys ∧ ∀ key operator,
        prepared.operators.find? key = some operator → artifact ∈ operator.outputs →
          ∃ result, response.operators.find? key = some result ∧ result.status = .succeeded := by
    rw [answers.keys_eq, mem_keys_shown response_keys, artifacts_eq]
  refine ⟨order, executed, report, accepted, executed_eq, answers.finished, report_keys,
    response_keys, shown_iff, artifacts_eq ▸ Dag.exists_writer accepted, _, fetched,
    nodup_planned _ _ _, fun source => mem_planned_iff answers.keys_eq, answers.located, ?_, ?_⟩
  · rw [answers.world_eq, accesses_tidy notes, notes.fetch]
  · intro distinct key operator result carried found unsuccessful artifact member path path_mem
    have unshown : artifact ∉ response.artifacts.keys := fun shown => by
      obtain ⟨other, other_found, succeeded⟩ :=
        ((shown_iff artifact).1 shown).2 key operator carried member
      obtain rfl := Option.some.inj (other_found.symm.trans found)
      exact unsuccessful succeeded
    have paths_distinct : paths.all.Nodup := paths_eq ▸ RunPaths.nodup_all_generate distinct
    have wanted {source : Source} (path_eq : paths.pathOf? source = some path) :
        Wanted prepared report response source :=
      (mem_planned_iff answers.keys_eq).1
        (answers.located.mem_of_pathOf? paths_distinct path_eq path_mem)
    exact ⟨fun path_eq => unshown (wanted path_eq), fun path_eq => unshown (wanted path_eq).1⟩

/-- A service on which the second operator reports an error though its job succeeds.  Each job
writes at every path that it may write at. -/
def outspoken : PreviewService (Recorded Memory) where
  backend :=
    { config := .process "" ""
      launch := fun spec world =>
        let text := if spec.operator = .ofNat 2 then "\x7b\"error\":\"boom\"\x7d" else "\x7b\x7d"
        let blobs := spec.writable.map fun path => (path, Utf8.encode text)
        .now (.ok (), (Memory.store.recording.putAll blobs world).2)
      poll := fun _ world => .now (.ok .succeeded, world) }
  store := Memory.store.recording
  storage := .file ""
  secrets := .file ""
  config := { PreviewConfig.standard with pollInterval := .ofMillis 1 }
  horizon := (Duration.ofMillis 9).nanos

/-- What the service answers about two operators that write one artifact. -/
def outspokenAnswer : PreviewResponse where
  status := .succeeded
  operators := .ofList
    [(.ofNat 1, ⟨.succeeded, .empty, ""⟩), (.ofNat 2, .failed "boom"),
      (.ofNat 3, ⟨.succeeded, .empty, ""⟩)]
  artifacts := .ofList [(.ofNat 103, .param "\x7b\x7d")]

/-- The contents of what the second operator writes are not read, and the one artifact that is shown
is written by another one alone. -/
theorem answer_trustworthy_shared :
    ∃ paths ended, paths = RunPaths.generate .ofNat .shared ∧
      ended = outspoken.preview .shared .ofNat .nil none ⟨.empty, []⟩ ∧
      ended.conclusion = .result outspokenAnswer ∧
      ∃ (executed : RunEnd (Recorded Memory) RunReport) (fetched : List String),
        ended.world.accesses = executed.world.accesses ++ (fetched.map fun path => ⟨.get, path⟩) ++
          ((paths.disposable true).map fun path => ⟨.delete, path⟩) ∧
        ∀ path ∈ fetched, ∀ artifact ∈ [Uuid.ofNat 101, Uuid.ofNat 102],
          paths.pathOf? (.content artifact) ≠ some path := by
  have answered : (outspoken.preview .shared .ofNat .nil none ⟨.empty, []⟩).conclusion =
      .result outspokenAnswer := by decide +kernel
  have prepared_eq : .shared = outspoken.prepare .shared := by decide +kernel
  have distinct : ((List.range (RunPaths.demand .shared)).map Uuid.ofNat).Nodup := by
    decide +kernel
  obtain ⟨_, executed, _, _, _, _, _, _, _, _, _, fetched, _, _, _, accesses_eq, unread⟩ :=
    answer_trustworthy (Store.notes_recording _) prepared_eq rfl rfl answered
  refine ⟨_, _, rfl, rfl, answered, executed, fetched, accesses_eq,
    fun path member artifact written => ?_⟩
  exact (unread distinct (.ofNat 2) _ (.failed "boom") rfl rfl nofun artifact written path member).1

end PreviewService
end Workflow
