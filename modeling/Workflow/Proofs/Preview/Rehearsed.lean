import Workflow.Proofs.Json.Printing
import Workflow.Proofs.Preview.Faults
import Workflow.Proofs.Run.Discipline
import Workflow.Proofs.Run.Rehearsed

/-!
# Previews that are rehearsed

When a preview runs on a rehearsing backend that shares its blobs in memory, the answer follows from
what the operators do: an operator is not executed if something upstream of it does not succeed, and
otherwise it has the result of its own behaviour.
-/

namespace Workflow

open Relation

namespace Rehearsal

/-- The logs of a job that ran. -/
def logOf (operatorName : String) : Table String String :=
  .ofList [("stdout", "ran " ++ operatorName)]

/-- What is told about an operator that was executed in a run. -/
def resultOf (rehearsal : Rehearsal) (operator : Operator) (run : Uuid) : OperatorResult :=
  match rehearsal.behaviourOf operator.name with
  | .succeed => ⟨.succeeded, logOf operator.name, ""⟩
  | .fail message =>
      ⟨.failed, .empty, if message = "" then OperatorResult.failedWithoutError else message⟩
  | .cancel => ⟨.failed, logOf operator.name, OperatorResult.failedWithoutError⟩
  | .reject message =>
      ⟨.failed, .empty, "job '" ++ jobName operator run ++ "' was rejected: " ++ message⟩

/-- Something upstream of an operator does not succeed. -/
def Spoiled (rehearsal : Rehearsal) (dag : Dag) (operator : Uuid) : Prop :=
  ∃ ancestor producer, TransGen dag.Feeds ancestor operator ∧
    dag.operators.find? ancestor = some producer ∧
      rehearsal.behaviourOf producer.name ≠ .succeed

/-! ### Metadata -/

/-- What the metadata of a job says. -/
def saidBy (behaviour : Behaviour) (operatorName : String) : OperatorMetadata :=
  match behaviour with
  | .fail message => ⟨message, .empty⟩
  | _ => ⟨"", logOf operatorName⟩

private theorem read?_metadataFor (rehearsal : Rehearsal) (spec : JobSpec) :
    Json.read? (rehearsal.metadataFor spec) >>= OperatorMetadata.ofJson? =
      some (saidBy (rehearsal.behaviourOf spec.operatorName) spec.operatorName) := by
  unfold metadataFor
  generalize rehearsal.behaviourOf spec.operatorName = behaviour
  have plain : (metadataOf behaviour spec.operatorName).isPlain Json.depthLimit = true := by
    cases behaviour <;> rfl
  rw [Json.read?_print plain]
  cases behaviour <;> rfl

variable {rehearsal : Rehearsal} {spec : JobSpec} {world : Stage × Memory} {paths : RunPaths}
  {operator : Uuid} {error : Option String}
  {read : Except StorageError OperatorMetadata}

private theorem eq_of_metadataRead
    (metadataRead : Results.MetadataRead Memory.store.onSecond world paths operator read)
    {path : String} (path_eq : paths.pathOf? (.metadata operator) = some path) :
    read =
      match world.2.find? path with
      | none => .error (.notFound path)
      | some content =>
          match Json.read? content >>= OperatorMetadata.ofJson? with
          | some metadata => .ok metadata
          | none => .error (.json path) := by
  obtain ⟨other, before, other_eq, rfl⟩ := metadataRead
  obtain rfl : path = other := Option.some.inj (path_eq.symm.trans other_eq)
  have shows : Memory.store.onSecond.Shows (Prod.snd : Stage × Memory → Memory) :=
    Store.shows_memory.onSecond
  rw [← shows.fetch before world]
  generalize Memory.store.onSecond.fetch before world = fetched
  obtain ⟨stage, blobs⟩ := fetched
  simp only [Store.readJson, Store.onSecond, Store.actOnSecond, Memory.store, Memory.get, bind,
    StateT.bind]
  cases blobs.find? path with
  | none => rfl
  | some content =>
      dsimp only
      cases (Json.read? content).bind OperatorMetadata.ofJson? <;> rfl

private theorem Played.read_eq {outcome : Status}
    (played : rehearsal.Played spec world error outcome)
    (metadataRead : Results.MetadataRead Memory.store.onSecond world paths operator read)
    (path_eq : paths.pathOf? (.metadata operator) = some spec.metadataPath) :
    read = .ok (saidBy (rehearsal.behaviourOf spec.operatorName) spec.operatorName) := by
  rw [eq_of_metadataRead metadataRead path_eq, played.metadata]
  dsimp only
  rw [read?_metadataFor]

private theorem Rejected.read_eq (rejected : rehearsal.Rejected spec world error)
    (metadataRead : Results.MetadataRead Memory.store.onSecond world paths operator read)
    (path_eq : paths.pathOf? (.metadata operator) = some spec.metadataPath) :
    read = .error (.notFound spec.metadataPath) := by
  rw [eq_of_metadataRead metadataRead path_eq, rejected.metadata]

/-! ### Results -/

private theorem outcomeOf_eq_succeeded_iff {behaviour : Behaviour} :
    outcomeOf behaviour = .ok .succeeded ↔ behaviour = .succeed := by
  cases behaviour <;> simp [outcomeOf]

private theorem Played.behaviour_eq_succeed_iff {outcome : Status}
    (played : rehearsal.Played spec world error outcome) :
    rehearsal.behaviourOf spec.operatorName = .succeed ↔ outcome = .succeeded := by
  rw [← outcomeOf_eq_succeeded_iff, played.ends, Except.ok.injEq]

/-- A job that was played is told about as its operator behaves. -/
theorem Played.result_eq {outcome : Status} (played : rehearsal.Played spec world error outcome)
    {state : OperatorState} (agrees : state = .succeeded ↔ outcome = .succeeded)
    {found : Operator} (name_eq : spec.operatorName = found.name) (run : Uuid) :
    OperatorResult.ofMetadata state
        (saidBy (rehearsal.behaviourOf spec.operatorName) spec.operatorName) =
      rehearsal.resultOf found run := by
  have ends := played.ends
  have succeeds_iff := agrees.trans played.behaviour_eq_succeed_iff.symm
  rw [name_eq] at ends succeeds_iff ⊢
  unfold resultOf
  cases behaviour_eq : rehearsal.behaviourOf found.name with
  | succeed =>
      obtain rfl := succeeds_iff.2 behaviour_eq
      rfl
  | fail message =>
      have failed : state ≠ .succeeded := by simp [succeeds_iff, behaviour_eq]
      by_cases empty : message = "" <;>
        simp [OperatorResult.ofMetadata, saidBy, empty, failed]
  | cancel =>
      have failed : state ≠ .succeeded := by simp [succeeds_iff, behaviour_eq]
      simp [OperatorResult.ofMetadata, saidBy, failed]
  | reject message =>
      rw [behaviour_eq] at ends
      exact nomatch ends

/-- What is told about an operator whose state is final follows from its account. -/
theorem Account.result_eq {job : Option String} {state : OperatorState} {result : OperatorResult}
    (account : rehearsal.Account spec world job error (some state))
    (terminal : state.isTerminal = true) {found : Operator} {run : Uuid}
    (name_eq : spec.name = jobName found run) (operatorName_eq : spec.operatorName = found.name)
    (path_eq : paths.pathOf? (.metadata operator) = some spec.metadataPath)
    (reports : OperatorResult.Reports error
      (Results.MetadataRead Memory.store.onSecond world paths operator) state result) :
    result = if state = .skipped then .failed OperatorResult.skippedMessage
      else rehearsal.resultOf found run := by
  cases reports with
  | skipped => rfl
  | withoutMetadata ran read =>
      rw [if_neg ran]
      cases state with
      | notReady | ready | dispatched => exact nomatch terminal
      | skipped => exact absurd rfl ran
      | succeeded => exact nomatch Played.read_eq account read path_eq
      | failed =>
          rcases account with ⟨⟨message, rejects, rfl⟩, -⟩ | ⟨outcome, -, played⟩
          · rw [operatorName_eq] at rejects
            rw [resultOf, rejects, name_eq]
            rfl
          · exact nomatch played.read_eq read path_eq
  | ofMetadata ran read =>
      rw [if_neg ran]
      cases state with
      | notReady | ready | dispatched => exact nomatch terminal
      | skipped => exact absurd rfl ran
      | succeeded =>
          have played : rehearsal.Played spec world error .succeeded := account
          rw [Except.ok.inj (played.read_eq read path_eq)]
          exact played.result_eq (by simp) operatorName_eq run
      | failed =>
          rcases account with rejected | ⟨outcome, outcome_ne, played⟩
          · exact nomatch rejected.read_eq read path_eq
          · rw [Except.ok.inj (played.read_eq read path_eq)]
            exact played.result_eq (by simp [outcome_ne]) operatorName_eq run

private theorem Account.behaviour_eq_succeed_iff {job : Option String} {state : OperatorState}
    (account : rehearsal.Account spec world job error (some state))
    (ran : state = .succeeded ∨ state = .failed) :
    rehearsal.behaviourOf spec.operatorName = .succeed ↔ state = .succeeded := by
  rcases ran with rfl | rfl
  · have played : rehearsal.Played spec world error .succeeded := account
    simp [played.behaviour_eq_succeed_iff]
  · rcases account with ⟨⟨message, rejects, -⟩, -⟩ | ⟨outcome, outcome_ne, played⟩
    · simp [rejects]
    · simp [played.behaviour_eq_succeed_iff, outcome_ne]

end Rehearsal

/-! ### Finished runs -/

open Rehearsal

namespace Run

variable {rehearsal : Rehearsal} {settings : RunSettings (Stage × Memory)} {dag : Dag}
  {paths : RunPaths} {id : Uuid} {order : List Uuid} {final : Run (Stage × Memory)}

/-- The operators that a finished run has skipped are those that something upstream spoils. -/
theorem Faithful.skipped_iff_spoiled (keyed : dag.OperatorsKeyed)
    (accepted : dag.executionOrder = .ok order) (covers : paths.Covers dag)
    (faithful : final.Faithful (.build dag) (dag.spec? settings paths id) order)
    (rehearsed : final.Rehearsed rehearsal (dag.spec? settings paths id))
    (finished : final.progress.isFinished = true) {operator : Uuid}
    (known : operator ∈ order) :
    final.progress.state? operator = some .skipped ↔ rehearsal.Spoiled dag operator := by
  have link_eq : final.progress.graph.Link = dag.Feeds := by
    rw [faithful.graph_eq, keyed.link_eq_feeds]
  have skipped_iff {consumer : Uuid} (consumer_mem : consumer ∈ order) :
      final.progress.state? consumer = some .skipped ↔
        ∃ ancestor, final.progress.state? ancestor = some .failed ∧
          TransGen dag.Feeds ancestor consumer :=
    link_eq ▸ faithful.consistent.skipped ((faithful.known_iff consumer).2 consumer_mem)
  have account {ancestor : Uuid} {producer : Operator}
      (found : dag.operators.find? ancestor = some producer) {state : OperatorState}
      (state_eq : final.progress.state? ancestor = some state)
      (ran : state = .succeeded ∨ state = .failed) :
      rehearsal.behaviourOf producer.name = .succeed ↔ state = .succeeded := by
    have member := Table.mem_values_iff.2 ⟨ancestor, found⟩
    obtain ⟨spec, build_eq⟩ := JobSpec.exists_build accepted covers member settings id
    have own := rehearsed (Dag.spec?_eq_some_iff.2 ⟨producer, found, build_eq⟩)
    rw [state_eq] at own
    rw [← ((JobSpec.build_names settings paths id producer).of_eq_ok build_eq).2]
    exact own.behaviour_eq_succeed_iff ran
  have mem_order_iff {ancestor : Uuid} : ancestor ∈ order ↔ ancestor ∈ dag.operators.keys :=
    (Dag.perm_keys_of_executionOrder accepted).mem_iff
  rw [skipped_iff known]
  constructor
  · rintro ⟨ancestor, failed, reach⟩
    have ancestor_mem := mem_order_iff.1 ((faithful.known_iff ancestor).1 ⟨_, failed⟩)
    obtain ⟨producer, found⟩ := Table.mem_keys_iff.1 ancestor_mem
    refine ⟨ancestor, producer, reach, found, fun succeeds => ?_⟩
    exact nomatch (account found failed (.inr rfl)).1 succeeds
  · rintro ⟨ancestor, producer, reach, found, unsuccessful⟩
    have ancestor_mem := mem_order_iff.2 (Table.mem_keys_iff.2 ⟨producer, found⟩)
    obtain ⟨state, state_eq, terminal⟩ := faithful.terminal accepted finished ancestor_mem
    cases state with
    | notReady | ready | dispatched => exact nomatch terminal
    | succeeded => exact absurd ((account found state_eq (.inl rfl)).2 rfl) unsuccessful
    | failed => exact ⟨ancestor, state_eq, reach⟩
    | skipped =>
        obtain ⟨first, failed, earlier⟩ := (skipped_iff ancestor_mem).1 state_eq
        exact ⟨first, failed, earlier.trans reach⟩

end Run

namespace PreviewService

/-- The answer of a rehearsed preview follows from what the operators do.  It tells about exactly
the operators that were to run: those that something upstream spoils were not executed, and every
other one has the result of its own behaviour. -/
theorem preview_rehearsed {service : PreviewService (Stage × Memory)} {rehearsal : Rehearsal}
    (backend_eq : service.backend = rehearsal.backend (some Memory.store))
    (store_eq : service.store = Memory.store.onSecond) {dag prepared : Dag}
    (keyed : dag.OperatorsKeyed) (prepared_eq : prepared = service.prepare dag)
    {fresh : Nat → Uuid} (distinct : ((List.range (RunPaths.demand prepared)).map fresh).Nodup)
    {paths : RunPaths} (paths_eq : paths = .generate fresh prepared) {id : Uuid} {stage : Stage}
    {blobs : Memory}
    (unknown : ∀ operator ∈ prepared.operators.values,
      stage.jobs.find? (jobName operator id) = none)
    (unused : ∀ path ∈ paths.all, blobs.find? path = none) {canceledAt : Option Nat}
    {ended : RunEnd (Stage × Memory) PreviewResponse} {response : PreviewResponse}
    (ended_eq : ended = service.preview dag fresh id canceledAt (stage, blobs))
    (answered : ended.conclusion = .result response) :
    response.operators.keys = prepared.operators.keys ∧
      ∀ key operator, prepared.operators.find? key = some operator →
        (rehearsal.Spoiled prepared key →
          response.operators.find? key = some (.failed OperatorResult.skippedMessage)) ∧
        (¬rehearsal.Spoiled prepared key →
          response.operators.find? key = some (rehearsal.resultOf operator id)) := by
  have prepared_keyed : prepared.OperatorsKeyed :=
    prepared_eq ▸ service.operatorsKeyed_prepare keyed
  have paths_distinct : paths.all.Nodup := paths_eq ▸ RunPaths.nodup_all_generate distinct
  have covers : paths.Covers prepared := paths_eq ▸ RunPaths.covers_generate prepared_keyed
  obtain ⟨order, executed, report, fetched, accepted, executed_eq, answers, -⟩ :=
    exists_run_of_answer prepared_eq paths_eq ended_eq answered
  obtain ⟨final, faithful, rehearsed, finished, rfl, ended_eq⟩ :=
    (Run.kept_rehearsed prepared_keyed paths_distinct backend_eq).of_report accepted
      (Run.rehearsed_start (fun _ _ => Run.untouched_of_unknown unknown unused) canceledAt)
      executed_eq answers.finished
  have world_eq : executed.world = final.world := congrArg RunEnd.world ended_eq
  have told := answers.told
  rw [store_eq, world_eq] at told
  have keys_eq : response.operators.keys = prepared.operators.keys :=
    told.keys_eq.trans (faithful.keys_states accepted)
  refine ⟨keys_eq, fun key operator operator_eq => ?_⟩
  have key_mem : key ∈ prepared.operators.keys := Table.mem_keys_iff.2 ⟨operator, operator_eq⟩
  have known : key ∈ order := (Dag.perm_keys_of_executionOrder accepted).mem_iff.2 key_mem
  have member := Table.mem_values_iff.2 ⟨key, operator_eq⟩
  obtain ⟨spec, build_eq⟩ := JobSpec.exists_build accepted covers member service.settings id
  have account := rehearsed (Dag.spec?_eq_some_iff.2 ⟨operator, operator_eq, build_eq⟩)
  have located := ((JobSpec.build_locates service.settings paths id operator).of_eq_ok build_eq).2.2
  obtain ⟨name_eq, operatorName_eq⟩ :=
    (JobSpec.build_names service.settings paths id operator).of_eq_ok build_eq
  have path_eq : paths.pathOf? (.metadata key) = some spec.metadataPath := by
    rw [← Dag.operatorsKeyed_iff.1 prepared_keyed key operator operator_eq]
    exact located.metadata
  obtain ⟨result, result_eq⟩ := Table.mem_keys_iff.1 (keys_eq ▸ key_mem)
  obtain ⟨state, state_eq, reports⟩ := told.state result_eq
  obtain ⟨terminal_state, terminal_eq, terminal⟩ := faithful.terminal accepted finished known
  obtain rfl : terminal_state = state := Option.some.inj (terminal_eq.symm.trans state_eq)
  rw [terminal_eq] at account
  have reported := account.result_eq terminal name_eq operatorName_eq path_eq reports
  have skipped_iff := faithful.skipped_iff_spoiled prepared_keyed accepted covers rehearsed finished
    known
  rw [terminal_eq, Option.some_inj] at skipped_iff
  rw [result_eq, reported]
  exact ⟨fun spoiled => by rw [if_pos (skipped_iff.2 spoiled)],
    fun unspoiled => by rw [if_neg (mt skipped_iff.1 unspoiled)]⟩

/-- A source that succeeds, one whose job fails, and a reader of what the second one writes. -/
private def troubled : Dag :=
  let operator (id : Nat) (name : String) (inputs outputs : List Nat) : Operator :=
    ⟨.ofNat id, name, "", .function ⟨"", ""⟩, inputs.map .ofNat, outputs.map .ofNat⟩
  .ofParts ⟨.nil, "", ⟨⟨2024, 1, 1⟩, 0, 0⟩⟩
    [operator 1 "tab\there" [] [], operator 2 "say \"hi\"" [] [101], operator 3 "Reader" [101] []]
    [⟨.ofNat 101, "", "", .json⟩]

/-- The second source fails with quotes and control characters in its message. -/
private def troubles : Rehearsal :=
  ⟨.ofList [("say \"hi\"", .fail "no \"hi\"\x01\n")], 1, 0, .empty⟩

/-- Previews that are rehearsed with `troubles`. -/
private def rehearsing : PreviewService (Stage × Memory) where
  backend := troubles.backend (some Memory.store)
  store := Memory.store.onSecond
  storage := .file ""
  secrets := .file ""
  config := { PreviewConfig.standard with pollInterval := .ofMillis 1 }
  horizon := (Duration.ofMillis 1).nanos

/-- The progress of `troubled` when its operators have these states. -/
def progressOf (first second third : OperatorState) : Progress :=
  ⟨[.ofNat 1, .ofNat 2, .ofNat 3], .build troubled,
    .ofList [(.ofNat 1, first), (.ofNat 2, second), (.ofNat 3, third)]⟩

private theorem skipDescendants_troubled :
    ((progressOf .succeeded .failed .notReady).skipDescendants (.ofNat 2)).2 =
      progressOf .succeeded .failed .skipped := by
  have graph_eq : (progressOf .succeeded .failed .notReady).graph = .build troubled := rfl
  have descendants_eq : (Graph.build troubled).descendantsOf (.ofNat 2) = [.ofNat 3] := by cbv
  simp only [Progress.skipDescendants, Progress.isSkippedBy, graph_eq, descendants_eq]
  rfl

private theorem cycle_troubled :
    ∃ settled, Run.cycle rehearsing.settings troubled (.generate .ofNat troubled) .nil 0
        (.start [.ofNat 1, .ofNat 2, .ofNat 3] troubled none (.empty, .empty)) = .ok settled ∧
      (rehearsing.collect troubled (.generate .ofNat troubled) (settled.report .nil)
        settled.world).1.isOk = true := by
  have round : ∃ waited, ∃ polled : Run (Stage × Memory),
      Run.ReachesPolls rehearsing.settings troubled (.generate .ofNat troubled) .nil 0
        (.start [.ofNat 1, .ofNat 2, .ofNat 3] troubled none (.empty, .empty)) waited ∧
      waited.pollDispatched rehearsing.settings =
        .ok { polled with
          progress := ((progressOf .succeeded .failed .notReady).skipDescendants (.ofNat 2)).2 } ∧
      Limits.isDue polled.canceledAt polled.now = false ∧
      (rehearsing.collect troubled (.generate .ofNat troubled)
        ({ polled with progress := progressOf .succeeded .failed .skipped }.report .nil)
        polled.world).1.isOk = true := by
    refine ⟨_, _, ⟨_, rfl, rfl, rfl⟩, rfl, rfl, ?_⟩
    decide +kernel
  obtain ⟨waited, polled, reaches, polls, uninterrupted, collects⟩ := round
  refine ⟨{ polled with progress := progressOf .succeeded .failed .skipped }, ?_, collects⟩
  rw [reaches.cycle_eq, polls, skipDescendants_troubled, ok_bind]
  refine Run.cycle_of_finished ?_ rfl
  rw [Run.launchReady, uninterrupted]
  rfl

private theorem answered_troubled :
    ∃ response, (rehearsing.preview troubled .ofNat .nil none (.empty, .empty)).conclusion =
      .result response := by
  obtain ⟨settled, cycle_eq, collects⟩ := cycle_troubled
  have prepare_eq : rehearsing.prepare troubled = troubled := by decide
  have order_eq : troubled.executionOrder = .ok [.ofNat 1, .ofNat 2, .ofNat 3] := by decide
  simp only [preview, prepare_eq, order_eq, run, Dag.execute, cycle_eq, Run.conclude]
  rcases collected : rehearsing.collect troubled (.generate .ofNat troubled)
      (settled.report .nil) settled.world with ⟨fault | response, world⟩
  · rw [collected] at collects
    exact absurd collects Bool.false_ne_true
  · exact ⟨response, rfl⟩

/-- The source that fails spoils its reader, and the other source succeeds all the same. -/
theorem preview_rehearsed_troubled :
    ∃ response,
      (rehearsing.preview troubled .ofNat .nil none (.empty, .empty)).conclusion =
        .result response ∧
      response.operators.find? (.ofNat 1) =
        some ⟨.succeeded, .ofList [("stdout", "ran tab\there")], ""⟩ ∧
      response.operators.find? (.ofNat 2) = some (.failed "no \"hi\"\x01\n") ∧
      response.operators.find? (.ofNat 3) = some (.failed OperatorResult.skippedMessage) := by
  obtain ⟨response, answered⟩ := answered_troubled
  have source_unspoiled {source : Uuid} {operator : Operator}
      (operator_eq : troubled.operators.find? source = some operator)
      (inputs_eq : operator.inputs = []) : ¬troubles.Spoiled troubled source := by
    rintro ⟨_, _, reach, _⟩
    obtain ⟨_, _, _, reader, _, reader_eq, _, _, reads⟩ := TransGen.tail'_iff.1 reach
    obtain rfl := Option.some.inj (operator_eq.symm.trans reader_eq)
    exact List.not_mem_nil (inputs_eq ▸ reads)
  have distinct : ((List.range (RunPaths.demand troubled)).map Uuid.ofNat).Nodup := by
    decide +kernel
  obtain ⟨-, told⟩ := preview_rehearsed (rfl : rehearsing.backend = troubles.backend _) rfl
    (by decide) (by decide : troubled = rehearsing.prepare troubled) distinct rfl
    (by decide : ∀ operator ∈ troubled.operators.values, _) (by decide +kernel) rfl answered
  refine ⟨response, answered, ?_, ?_, ?_⟩
  · exact ((told _ _ rfl).2 (source_unspoiled rfl rfl)).trans (by decide)
  · exact ((told _ _ rfl).2 (source_unspoiled rfl rfl)).trans (by decide)
  · exact (told _ _ rfl).1
      ⟨.ofNat 2, _, .single ⟨_, _, rfl, rfl, _, .head _, .head _⟩, rfl, by decide⟩

end PreviewService
end Workflow
