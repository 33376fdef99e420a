import Workflow.Proofs.Job.Rehearsal
import Workflow.Proofs.Preview.Fetching
import Workflow.Proofs.Run.Outcome
import Workflow.Proofs.Run.Paths

/-!
# Runs that are rehearsed

A run on a rehearsing backend leaves for each operator what its job was to leave, and knows of it
what its state says: `Account` lists this by states.  What a call does for one operator leaves the
accounts of the others alone, because no two jobs share a name and the metadata of one is no blob
of another.
-/

namespace Workflow

/-! ### Specifications -/

section Specifications

variable {ω : Type} {settings : RunSettings ω} {dag : Dag} {paths : RunPaths}
  {id operator other : Uuid} {spec later : JobSpec}

private theorem JobSpec.Locates.metadataPath_notMem (distinct : paths.all.Nodup)
    {writer reader : Operator} (locates : spec.Locates paths writer)
    (later_locates : later.Locates paths reader) :
    later.metadataPath ∉ spec.outputContentPaths := by
  intro member
  obtain ⟨artifact, content⟩ :=
    Table.mem_values_iff.1 (locates.outputContents.subset_values member)
  have same : Source.metadata reader.id = .content artifact :=
    RunPaths.pathOf?_injective distinct later_locates.metadata content
  exact nomatch same

/-- Two jobs have names of their own, and the metadata of the later one is no blob of the other. -/
structure JobSpec.Apart (spec later : JobSpec) : Prop where
  /-- The names differ. -/
  name_ne : later.name ≠ spec.name
  /-- The metadata is at a path of its own. -/
  metadata_notMem : later.metadataPath ∉ spec.metadataPath :: spec.outputContentPaths

theorem Dag.OperatorsKeyed.name_ne (keyed : dag.OperatorsKeyed) (other_ne : other ≠ operator)
    (spec_eq : dag.spec? settings paths id operator = some spec)
    (later_eq : dag.spec? settings paths id other = some later) : later.name ≠ spec.name := by
  obtain ⟨writer, writer_eq, built⟩ := Dag.spec?_eq_some_iff.1 spec_eq
  obtain ⟨reader, reader_eq, later_built⟩ := Dag.spec?_eq_some_iff.1 later_eq
  rw [((JobSpec.build_names settings paths id writer).of_eq_ok built).1,
    ((JobSpec.build_names settings paths id reader).of_eq_ok later_built).1]
  intro same
  have id_eq := (jobName_injective same).1
  rw [operatorsKeyed_iff.1 keyed _ _ writer_eq, operatorsKeyed_iff.1 keyed _ _ reader_eq] at id_eq
  exact other_ne id_eq

/-- The jobs of different operators keep apart. -/
theorem Dag.OperatorsKeyed.apart (keyed : dag.OperatorsKeyed) (distinct : paths.all.Nodup)
    (other_ne : other ≠ operator) (spec_eq : dag.spec? settings paths id operator = some spec)
    (later_eq : dag.spec? settings paths id other = some later) : spec.Apart later := by
  obtain ⟨writer, writer_eq, built⟩ := Dag.spec?_eq_some_iff.1 spec_eq
  obtain ⟨reader, reader_eq, later_built⟩ := Dag.spec?_eq_some_iff.1 later_eq
  have id_ne : reader.id ≠ writer.id := by
    rwa [operatorsKeyed_iff.1 keyed _ _ writer_eq, operatorsKeyed_iff.1 keyed _ _ reader_eq]
  have locates := ((JobSpec.build_locates settings paths id writer).of_eq_ok built).2.2
  have later_locates := ((JobSpec.build_locates settings paths id reader).of_eq_ok later_built).2.2
  refine ⟨keyed.name_ne other_ne spec_eq later_eq, fun member => ?_⟩
  rcases List.mem_cons.1 member with same | output
  · have found := later_locates.metadata
    rw [same] at found
    have sources : Source.metadata reader.id = .metadata writer.id :=
      RunPaths.pathOf?_injective distinct found locates.metadata
    exact id_ne (Source.metadata.inj sources)
  · exact locates.metadataPath_notMem distinct later_locates output

end Specifications

/-! ### Accounts -/

namespace Rehearsal

variable {rehearsal : Rehearsal} {spec : JobSpec} {world after : Stage × Memory}
  {job error : Option String} {state : Option OperatorState}

/-- Nothing has come of a job. -/
structure Untouched (spec : JobSpec) (world : Stage × Memory) (error : Option String) : Prop where
  /-- It was not accepted. -/
  outcome : world.1.outcome? spec.name = none
  /-- It has written nothing. -/
  metadata : world.2.find? spec.metadataPath = none
  /-- It was not refused. -/
  error : error = none

/-- A job was accepted, will end in some way and has written its metadata. -/
structure Played (rehearsal : Rehearsal) (spec : JobSpec) (world : Stage × Memory)
    (error : Option String) (outcome : Status) : Prop where
  /-- How it ends is what the operator does. -/
  ends : outcomeOf (rehearsal.behaviourOf spec.operatorName) = .ok outcome
  /-- The stage knows how it ends. -/
  outcome : world.1.outcome? spec.name = some outcome
  /-- It has written its metadata. -/
  metadata : world.2.find? spec.metadataPath = some (rehearsal.metadataFor spec)
  /-- It was not refused. -/
  error : error = none

/-- A job was rejected with the message of its operator, and has written nothing. -/
structure Rejected (rehearsal : Rehearsal) (spec : JobSpec) (world : Stage × Memory)
    (error : Option String) : Prop where
  /-- The run knows the message. -/
  rejects : ∃ message, rehearsal.behaviourOf spec.operatorName = .reject message ∧
    error = some (JobError.launchRejected spec.name message).message
  /-- There is no metadata. -/
  metadata : world.2.find? spec.metadataPath = none

/-- What has come of the job of an operator, by the state of the operator. -/
def Account (rehearsal : Rehearsal) (spec : JobSpec) (world : Stage × Memory)
    (job error : Option String) : Option OperatorState → Prop
  | none | some .notReady | some .ready | some .skipped => Untouched spec world error
  | some .dispatched => job = some spec.name ∧ ∃ outcome, rehearsal.Played spec world error outcome
  | some .succeeded => rehearsal.Played spec world error .succeeded
  | some .failed => rehearsal.Rejected spec world error ∨
      ∃ outcome, outcome ≠ .succeeded ∧ rehearsal.Played spec world error outcome

private theorem Account.of_eq (account : rehearsal.Account spec world job error state)
    (outcome_eq : after.1.outcome? spec.name = world.1.outcome? spec.name)
    (metadata_eq : after.2.find? spec.metadataPath = world.2.find? spec.metadataPath) :
    rehearsal.Account spec after job error state := by
  have untouched (untouched : Untouched spec world error) : Untouched spec after error :=
    ⟨outcome_eq.trans untouched.outcome, metadata_eq.trans untouched.metadata, untouched.error⟩
  have played {outcome : Status} (played : rehearsal.Played spec world error outcome) :
      rehearsal.Played spec after error outcome :=
    ⟨played.ends, outcome_eq.trans played.outcome, metadata_eq.trans played.metadata, played.error⟩
  cases state with
  | none => exact untouched account
  | some state =>
      cases state with
      | notReady | ready | skipped => exact untouched account
      | dispatched => exact ⟨account.1, account.2.imp fun _ => played⟩
      | succeeded => exact played account
      | failed =>
          refine account.imp (fun rejected => ?_) fun ⟨outcome, outcome_ne, ended⟩ => ?_
          · exact ⟨rejected.rejects, metadata_eq.trans rejected.metadata⟩
          · exact ⟨outcome, outcome_ne, played ended⟩

private theorem Account.move {progress : Progress} {move : Move} {operator : Uuid}
    (operator_ne : operator ≠ move.operator)
    (account : rehearsal.Account spec world job error (progress.state? operator)) :
    rehearsal.Account spec world job error ((progress.move move).2.state? operator) :=
  Progress.holds_move_of_ne (motive := rehearsal.Account spec world job error) id id operator_ne
    account

theorem outcomeOf_eq_error_iff {behaviour : Behaviour} {message : String} :
    outcomeOf behaviour = .error message ↔ behaviour = .reject message := by
  cases behaviour <;> simp [outcomeOf]

end Rehearsal

/-! ### Runs -/

namespace Run

open Rehearsal

variable {rehearsal : Rehearsal} {settings : RunSettings (Stage × Memory)} {dag : Dag}
  {paths : RunPaths} {id : Uuid} {order : List Uuid} {run : Run (Stage × Memory)}

/-- A run has an account of the job of every operator. -/
def Rehearsed (rehearsal : Rehearsal) (spec? : Uuid → Option JobSpec)
    (run : Run (Stage × Memory)) : Prop :=
  ∀ ⦃operator spec⦄, spec? operator = some spec →
    rehearsal.Account spec run.world (run.jobs.find? operator) (run.launchErrors.find? operator)
      (run.progress.state? operator)

theorem rehearsed_start {world : Stage × Memory}
    (fresh : ∀ operator spec, dag.spec? settings paths id operator = some spec →
      Untouched spec world none) (canceledAt : Option Nat) :
    (start order dag canceledAt world).Rehearsed rehearsal (dag.spec? settings paths id) := by
  intro operator spec spec_eq
  change rehearsal.Account spec world none none
    ((Progress.start order (.build dag)).state? operator)
  rw [Progress.state?_start]
  split_ifs <;> exact fresh operator spec spec_eq

/-- Nothing has come of a job whose name is new to the stage and whose metadata has a path that is
not in use. -/
theorem untouched_of_unknown {stage : Stage} {blobs : Memory} {operator : Uuid} {spec : JobSpec}
    (unknown : ∀ operator ∈ dag.operators.values, stage.jobs.find? (jobName operator id) = none)
    (unused : ∀ path ∈ paths.all, blobs.find? path = none)
    (spec_eq : dag.spec? settings paths id operator = some spec) :
    Untouched spec (stage, blobs) none := by
  obtain ⟨found, found_eq, build_eq⟩ := Dag.spec?_eq_some_iff.1 spec_eq
  have located := ((JobSpec.build_locates settings paths id found).of_eq_ok build_eq).2.2
  have named := ((JobSpec.build_names settings paths id found).of_eq_ok build_eq).1
  refine ⟨?_, unused _ (located.subset_all (by simp [JobSpec.allPaths])), rfl⟩
  rw [Stage.outcome?, named, unknown found (Table.mem_values_iff.2 ⟨_, found_eq⟩)]
  rfl

private theorem Rehearsed.advance {spec? : Uuid → Option JobSpec} {next : Run (Stage × Memory)}
    (rehearsed : run.Rehearsed rehearsal spec?) (operator : Uuid) (move : Move)
    (move_operator : move.operator = operator)
    (progress_eq : next.progress = (run.progress.move move).2)
    (jobs_eq : ∀ other, other ≠ operator → next.jobs.find? other = run.jobs.find? other)
    (errors_eq : ∀ other, other ≠ operator →
      next.launchErrors.find? other = run.launchErrors.find? other)
    (alone : ∀ other spec, other ≠ operator → spec? other = some spec →
      next.world.1.outcome? spec.name = run.world.1.outcome? spec.name ∧
        next.world.2.find? spec.metadataPath = run.world.2.find? spec.metadataPath)
    (own : ∀ spec, spec? operator = some spec →
      rehearsal.Account spec next.world (next.jobs.find? operator)
        (next.launchErrors.find? operator) (next.progress.state? operator)) :
    next.Rehearsed rehearsal spec? := by
  intro other spec spec_eq
  by_cases same : other = operator
  · subst same
    exact own spec spec_eq
  · obtain ⟨outcome_eq, metadata_eq⟩ := alone other spec same spec_eq
    have move_ne : other ≠ move.operator := by rwa [move_operator]
    rw [jobs_eq other same, errors_eq other same, progress_eq]
    exact ((rehearsed spec_eq).of_eq outcome_eq metadata_eq).move move_ne

private theorem Rehearsed.refuse {spec? : Uuid → Option JobSpec} {operator : Uuid} {spec : JobSpec}
    (rehearsed : run.Rehearsed rehearsal spec?) (spec_eq : spec? operator = some spec)
    (ready : run.progress.state? operator = some .ready) {message : String}
    (rejects : rehearsal.behaviourOf spec.operatorName = .reject message) :
    (run.refuse operator (.launchRejected spec.name message)).Rehearsed rehearsal spec? := by
  have untouched := rehearsed spec_eq
  rw [ready] at untouched
  refine rehearsed.advance operator (.record operator .failed) rfl rfl (fun _ _ => rfl)
    (fun other other_ne => ?errors) (fun _ _ _ _ => ⟨rfl, rfl⟩) fun own own_eq => ?own
  case errors =>
    change (run.launchErrors.insert operator _).find? other = _
    rw [Table.find?_insert, if_neg other_ne]
  case own =>
    obtain rfl : spec = own := Option.some.inj (spec_eq.symm.trans own_eq)
    change rehearsal.Account spec run.world _ ((run.launchErrors.insert operator _).find? operator)
      ((run.progress.record operator .failed).2.state? operator)
    rw [Progress.state?_record_self (.inl ready) (.inl rfl), Table.find?_insert, if_pos rfl]
    exact .inl ⟨⟨message, rejects, rfl⟩, untouched.metadata⟩

private theorem Rehearsed.dispatch (keyed : dag.OperatorsKeyed) (distinct : paths.all.Nodup)
    (rehearsed : run.Rehearsed rehearsal (dag.spec? settings paths id)) {operator : Uuid}
    {spec : JobSpec} (spec_eq : dag.spec? settings paths id operator = some spec)
    (ready : run.progress.state? operator = some .ready) {outcome : Status}
    (ends : outcomeOf (rehearsal.behaviourOf spec.operatorName) = .ok outcome) {after : Memory}
    (wrote : rehearsal.Wrote spec run.world.2 after) :
    (Run.dispatch { run with world := (run.world.1.accept spec outcome, after) } operator
      spec.name).Rehearsed rehearsal (dag.spec? settings paths id) := by
  have untouched := rehearsed spec_eq
  rw [ready] at untouched
  refine rehearsed.advance operator (.dispatch operator) rfl rfl (fun other other_ne => ?jobs)
    (fun _ _ => rfl) (fun other later other_ne later_eq => ?alone) fun own own_eq => ?own
  case jobs =>
    change (run.jobs.insert operator spec.name).find? other = _
    rw [Table.find?_insert, if_neg other_ne]
  case alone =>
    have apart := keyed.apart distinct other_ne spec_eq later_eq
    refine ⟨?_, wrote.outside _ apart.metadata_notMem⟩
    change (run.world.1.accept spec outcome).outcome? later.name = _
    rw [Stage.outcome?_accept, if_neg apart.name_ne]
  case own =>
    obtain rfl : spec = own := Option.some.inj (spec_eq.symm.trans own_eq)
    obtain ⟨found, _, build_eq⟩ := Dag.spec?_eq_some_iff.1 spec_eq
    have locates := ((JobSpec.build_locates settings paths id found).of_eq_ok build_eq).2.2
    change rehearsal.Account spec (run.world.1.accept spec outcome, after)
      ((run.jobs.insert operator spec.name).find? operator) _
      ((run.progress.markDispatched operator).state? operator)
    rw [Progress.state?_markDispatched_self ready, Table.find?_insert, if_pos rfl]
    refine ⟨rfl, outcome, ends, ?_, ?_, untouched.error⟩
    · rw [Stage.outcome?_accept, if_pos rfl]
    · exact wrote.metadata (locates.metadataPath_notMem distinct locates)

private theorem Rehearsed.launch (keyed : dag.OperatorsKeyed) (distinct : paths.all.Nodup)
    (backend_eq : settings.backend = rehearsal.backend (some Memory.store))
    (rehearsed : run.Rehearsed rehearsal (dag.spec? settings paths id)) {operator : Uuid}
    (ready : run.progress.state? operator = some .ready) :
    Ensures (Rehearsed rehearsal (dag.spec? settings paths id)) (fun _ => True)
      (run.launch settings dag paths id operator) := by
  refine ensures_launch (fun _ => trivial) (fun _ _ _ _ => trivial)
    fun found spec found_eq build_eq => ?_
  have spec_eq : dag.spec? settings paths id operator = some spec :=
    Dag.spec?_eq_some_iff.2 ⟨found, found_eq, build_eq⟩
  have untouched := rehearsed spec_eq
  rw [ready] at untouched
  refine (run.perform_ends settings operator (.launch spec) rfl launchResult).mono ?_
    fun _ _ => trivial
  rintro ⟨answer, next⟩ ⟨canceledAt, world, answer_eq, rfl⟩
  rw [backend_eq] at answer_eq
  have launched : rehearsal.launch (some Memory.store) false spec run.world = (answer, world) :=
    Option.some.inj answer_eq
  cases ends : outcomeOf (rehearsal.behaviourOf spec.operatorName) with
  | error message =>
      have rejects := outcomeOf_eq_error_iff.1 ends
      rw [launch_of_reject rejects] at launched
      obtain ⟨rfl, rfl⟩ := Prod.mk.inj launched
      exact rehearsed.refuse spec_eq ready rejects
  | ok outcome =>
      obtain ⟨after, launch_eq, wrote⟩ := launch_of_accept ends untouched.outcome
      rw [launch_eq] at launched
      obtain ⟨rfl, rfl⟩ := Prod.mk.inj launched
      exact rehearsed.dispatch keyed distinct spec_eq ready ends wrote

private theorem Rehearsed.poll {spec? : Uuid → Option JobSpec}
    (backend_eq : settings.backend = rehearsal.backend (some Memory.store))
    (rehearsed : run.Rehearsed rehearsal spec?) {operator : Uuid}
    (dispatched : run.progress.state? operator = some .dispatched) :
    Ensures (Rehearsed rehearsal spec?) (fun _ => True) (run.poll settings operator) := by
  refine ensures_poll (fun _ => rehearsed) fun job job_eq => ?_
  refine (run.perform_ends settings operator (.poll operator job) rfl pollResult).mono ?_
    fun _ _ => trivial
  rintro ⟨answer, next⟩ ⟨canceledAt, world, answer_eq, rfl⟩
  rw [backend_eq] at answer_eq
  obtain ⟨rfl, rfl⟩ : (rehearsal.poll false job run.world.1).1 = answer ∧
      ((rehearsal.poll false job run.world.1).2, run.world.2) = world :=
    Prod.mk.inj (Option.some.inj answer_eq)
  have polled : Run.Rehearsed rehearsal spec?
      { run with world := ((rehearsal.poll false job run.world.1).2, run.world.2) } :=
    fun other spec spec_eq => (rehearsed spec_eq).of_eq (outcome?_poll ..) rfl
  cases answer_eq : (rehearsal.poll false job run.world.1).1 with
  | error => exact polled
  | ok status =>
      unfold heedPoll
      dsimp only
      split
      · rename_i terminal
        refine polled.advance operator (.record operator status) rfl rfl (fun _ _ => rfl)
          (fun _ _ => rfl) (fun _ _ _ _ => ⟨rfl, rfl⟩) fun spec spec_eq => ?_
        have account := polled spec_eq
        change rehearsal.Account spec _ _ _ (run.progress.state? operator) at account
        rw [dispatched] at account
        obtain ⟨name_eq, outcome, played⟩ := account
        obtain rfl : job = spec.name := Option.some.inj (job_eq.symm.trans name_eq)
        have before : run.world.1.outcome? spec.name = some outcome :=
          (outcome?_poll ..).symm.trans played.outcome
        change rehearsal.Account spec _ _ _
          ((run.progress.record operator status).2.state? operator)
        rcases poll_eq_ok before answer_eq with rfl | rfl
        · exact nomatch terminal
        · cases status with
          | pending | running => exact nomatch terminal
          | succeeded =>
              rw [Progress.state?_record_succeeded_self dispatched]
              exact played
          | failed =>
              rw [Progress.state?_record_self (.inr dispatched) (.inl rfl)]
              exact .inr ⟨.failed, nofun, played⟩
          | canceled =>
              rw [Progress.state?_record_self (.inr dispatched) (.inr rfl)]
              exact .inr ⟨.canceled, nofun, played⟩
      · exact polled

/-- Each launch, poll and wait keeps the accounts. -/
theorem kept_rehearsed (keyed : dag.OperatorsKeyed) (distinct : paths.all.Nodup)
    (backend_eq : settings.backend = rehearsal.backend (some Memory.store)) :
    Kept settings dag paths id (.build dag) order
      (Rehearsed rehearsal (dag.spec? settings paths id)) (fun _ => True) where
  launch _ rehearsed ready := rehearsed.launch keyed distinct backend_eq ready
  poll _ rehearsed dispatched := rehearsed.poll backend_eq dispatched
  wait {run due} _ rehearsed := by
    cases wait_eq : run.wait settings due with
    | ok waited =>
        obtain rfl := wait_eq_ok wait_eq
        exact rehearsed
    | error stopped => exact trivial
  cancel _ _ _ := trivial

end Run
end Workflow
