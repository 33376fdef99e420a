import Workflow.Proofs.Run.Rehearsed
import Workflow.Proofs.Run.Report

/-!
# How the jobs of a rehearsal stand

A run on a rehearsing backend that is neither canceled nor bound to a time makes its calls in no
time, and each of them is answered.  `Standing` lists by states what the stage knows of a job and
how often it was polled: a job that was accepted is polled as often as every other one, and comes to
an end with its last poll.
-/

namespace Workflow

namespace Rehearsal

variable {rehearsal : Rehearsal} {spec : JobSpec} {stage : Stage} {job : Option String}
  {polls : Nat}

private theorem isTerminal_of_outcomeOf {behaviour : Behaviour} {outcome : Status}
    (plays : outcomeOf behaviour = .ok outcome) : outcome.isTerminal = true := by
  cases behaviour <;> cases plays <;> rfl

/-- How the job of an operator stands after so many polls, by the state of the operator. -/
def Standing (rehearsal : Rehearsal) (spec : JobSpec) (stage : Stage) (job : Option String)
    (polls : Nat) : Option OperatorState → Prop
  | none | some .notReady | some .ready | some .skipped =>
      stage.jobs.find? spec.name = none ∧ polls = 0
  | some .dispatched =>
      job = some spec.name ∧ polls < rehearsal.pollsPerJob ∧ ∃ outcome,
        outcomeOf (rehearsal.behaviourOf spec.operatorName) = .ok outcome ∧
          stage.jobs.find? spec.name = some ⟨spec.operatorName, polls, outcome⟩
  | some .succeeded =>
      outcomeOf (rehearsal.behaviourOf spec.operatorName) = .ok .succeeded ∧
        polls = rehearsal.pollsPerJob
  | some .failed =>
      (∃ message, outcomeOf (rehearsal.behaviourOf spec.operatorName) = .error message) ∧
          polls = 0 ∨
        (∃ outcome, outcomeOf (rehearsal.behaviourOf spec.operatorName) = .ok outcome ∧
          outcome ≠ .succeeded) ∧ polls = rehearsal.pollsPerJob

private theorem Standing.of_eq {after : Stage} {state : Option OperatorState}
    (standing : rehearsal.Standing spec stage job polls state)
    (find?_eq : after.jobs.find? spec.name = stage.jobs.find? spec.name) :
    rehearsal.Standing spec after job polls state := by
  cases state with
  | none => exact ⟨find?_eq.trans standing.1, standing.2⟩
  | some state =>
      cases state with
      | notReady | ready | skipped => exact ⟨find?_eq.trans standing.1, standing.2⟩
      | dispatched =>
          obtain ⟨job_eq, early, outcome, plays, found⟩ := standing
          exact ⟨job_eq, early, outcome, plays, find?_eq.trans found⟩
      | succeeded | failed => exact standing

end Rehearsal

namespace Run

open Calls Rehearsal

/-! ### Calls in no time -/

section Timeless

variable {ω α : Type} {settings : RunSettings ω} {run : Run ω}

private theorem wait_of_unlimited (unlimited : run.limits settings = ⟨none, none⟩) {time : Nat}
    (watched : time ≤ settings.horizon) :
    run.wait settings time = .ok { run with now := max run.now time } := by
  simp [wait, stopBy?, unlimited, Limits.interrupt?, watched]

private theorem perform_of_now (unlimited : run.limits settings = ⟨none, none⟩)
    (watched : run.now ≤ settings.horizon) {operator : Uuid} {subject : CallSubject}
    {call : ω → BackendCall ω α} {result : α → CallResult} {answer : α} {world : ω}
    (call_eq : call run.world = .now (answer, world)) :
    run.perform settings operator subject call result =
      .ok (answer, Run.note { run with world } run.now operator subject (result answer)) := by
  have begun_unlimited : ({ run with world } : Run ω).limits settings = ⟨none, none⟩ := unlimited
  unfold perform
  rw [wait_of_unlimited unlimited watched]
  simp only [bind, Except.bind, max_self, call_eq, BackendCall.now, Nat.add_zero]
  rw [wait_of_unlimited begun_unlimited watched]
  simp [Except.mapError]

end Timeless

/-! ### What the calls of a rehearsal keep -/

variable {σ : Type} {rehearsal : Rehearsal} {store : Option (Store σ)}
  {settings : RunSettings (Stage × σ)} {dag : Dag} {paths : RunPaths} {id : Uuid}
  {order : List Uuid} {moment : Nat} {run : Run (Stage × σ)} {operator : Uuid}

/-- An accepted workflow is rehearsed, with a path for every node. -/
structure Rehearses (rehearsal : Rehearsal) (store : Option (Store σ))
    (settings : RunSettings (Stage × σ)) (dag : Dag) (paths : RunPaths) (order : List Uuid) :
    Prop where
  /-- The workflow is accepted. -/
  accepted : dag.executionOrder = .ok order
  /-- Every operator is kept under its own identifier. -/
  keyed : dag.OperatorsKeyed
  /-- Every node has its paths. -/
  covers : paths.Covers dag
  /-- The jobs are played. -/
  backend_eq : settings.backend = rehearsal.backend store

theorem Rehearses.nodup (rehearses : Rehearses rehearsal store settings dag paths order) :
    order.Nodup :=
  Dag.nodup_of_executionOrder rehearses.accepted

theorem Rehearses.exists_spec (rehearses : Rehearses rehearsal store settings dag paths order)
    (id : Uuid) (known : operator ∈ order) :
    ∃ found spec, dag.operators.find? operator = some found ∧
      JobSpec.build settings paths id found = .ok spec := by
  obtain ⟨found, found_eq⟩ := Table.mem_keys_iff.1
    ((Dag.perm_keys_of_executionOrder rehearses.accepted).mem_iff.1 known)
  obtain ⟨spec, build_eq⟩ := JobSpec.exists_build rehearses.accepted rehearses.covers
    (Table.mem_values_iff.2 ⟨operator, found_eq⟩) settings id
  exact ⟨found, spec, found_eq, build_eq⟩

/-- Nothing stops a run at a moment, and all jobs stand as the states of their operators say. -/
structure Staged (rehearsal : Rehearsal) (store : Option (Store σ))
    (settings : RunSettings (Stage × σ)) (paths : RunPaths) (spec? : Uuid → Option JobSpec)
    (moment : Nat) (run : Run (Stage × σ)) : Prop where
  /-- There is neither a cancellation nor a deadline. -/
  unlimited : run.limits settings = ⟨none, none⟩
  /-- It is that moment. -/
  now_eq : run.now = moment
  /-- Jobs can write. -/
  writable : Writable store paths.all run.world.2
  /-- The jobs stand as they should. -/
  standing ⦃operator : Uuid⦄ ⦃spec : JobSpec⦄ (spec_eq : spec? operator = some spec) :
    rehearsal.Standing spec run.world.1 (run.jobs.find? operator)
      (pollsOf run.calls operator).length (run.progress.state? operator)

/-- A call with a move keeps a run staged if its operator stands as it should and the other jobs are
left alone. -/
theorem Staged.advance {spec? : Uuid → Option JobSpec} {next : Run (Stage × σ)} {call : CallRecord}
    (staged : run.Staged rehearsal store settings paths spec? moment) (operator : Uuid)
    (move : Move) (move_operator : move.operator = operator)
    (call_operator : call.operator = operator)
    (progress_eq : next.progress = (run.progress.move move).2)
    (jobs_eq : ∀ other, other ≠ operator → next.jobs.find? other = run.jobs.find? other)
    (calls_eq : next.calls = run.calls ++ [call])
    (canceledAt_eq : next.canceledAt = run.canceledAt) (now_eq : next.now = run.now)
    (writable : Writable store paths.all next.world.2)
    (alone : ∀ other spec, other ≠ operator → spec? other = some spec →
      next.world.1.jobs.find? spec.name = run.world.1.jobs.find? spec.name)
    (own : ∀ spec, spec? operator = some spec →
      rehearsal.Standing spec next.world.1 (next.jobs.find? operator)
        (pollsOf next.calls operator).length (next.progress.state? operator)) :
    next.Staged rehearsal store settings paths spec? moment where
  unlimited := by
    rw [← staged.unlimited, limits, limits, canceledAt_eq]
  now_eq := now_eq.trans staged.now_eq
  writable := writable
  standing other spec spec_eq := by
    by_cases same : other = operator
    · subst same
      exact own spec spec_eq
    · have call_ne : call.operator ≠ other := by
        rw [call_operator]
        exact Ne.symm same
      have move_ne : other ≠ move.operator := by rwa [move_operator]
      have polls_eq : pollsOf next.calls other = pollsOf run.calls other := by
        rw [calls_eq, pollsOf_append]
        simp [pollsOf, call_ne]
      rw [jobs_eq other same, polls_eq, progress_eq]
      exact Progress.holds_move_of_ne (motive := rehearsal.Standing spec _ _ _) id id move_ne
        ((staged.standing spec_eq).of_eq (alone other spec same spec_eq))

private theorem Staged.unpolled
    (staged : run.Staged rehearsal store settings paths (dag.spec? settings paths id) moment)
    {spec : JobSpec} (spec_eq : dag.spec? settings paths id operator = some spec)
    (ready : run.progress.state? operator = some .ready) {call : CallRecord}
    (launches : call.isPoll = false) : (pollsOf (run.calls ++ [call]) operator).length = 0 := by
  have standing := staged.standing spec_eq
  rw [ready] at standing
  rw [pollsOf_append, List.length_append, standing.2]
  simp [pollsOf, launches]

private theorem Staged.refuse
    (staged : run.Staged rehearsal store settings paths (dag.spec? settings paths id) moment)
    {spec : JobSpec} (spec_eq : dag.spec? settings paths id operator = some spec)
    (ready : run.progress.state? operator = some .ready) {message : String}
    (rejected : outcomeOf (rehearsal.behaviourOf spec.operatorName) = .error message)
    (error : JobError) :
    Staged rehearsal store settings paths (dag.spec? settings paths id) moment
      ((run.note run.now operator (.launch spec) (.refused error)).refuse operator error) := by
  refine staged.advance operator (.record operator .failed) rfl rfl rfl (fun _ _ => rfl)
    (calls_note _ _ _ _ _) rfl rfl staged.writable (fun _ _ _ _ => rfl) fun own own_eq => ?_
  obtain rfl : spec = own := Option.some.inj (spec_eq.symm.trans own_eq)
  change rehearsal.Standing spec run.world.1 _ (pollsOf (run.note _ _ _ _).calls operator).length
    ((run.progress.record operator .failed).2.state? operator)
  rw [Progress.state?_record_self (.inl ready) (.inl rfl), calls_note,
    staged.unpolled spec_eq ready rfl]
  exact .inl ⟨⟨message, rejected⟩, rfl⟩

private theorem Staged.dispatch (keyed : dag.OperatorsKeyed)
    (staged : run.Staged rehearsal store settings paths (dag.spec? settings paths id) moment)
    {spec : JobSpec} (spec_eq : dag.spec? settings paths id operator = some spec)
    (ready : run.progress.state? operator = some .ready) {outcome : Status}
    (accepted : outcomeOf (rehearsal.behaviourOf spec.operatorName) = .ok outcome) {after : σ}
    (writable : Writable store paths.all after) :
    Staged rehearsal store settings paths (dag.spec? settings paths id) moment
      ((Run.note { run with world := (run.world.1.accept spec outcome, after) } run.now operator
        (.launch spec) .accepted).dispatch operator spec.name) := by
  refine staged.advance operator (.dispatch operator) rfl rfl rfl (fun other other_ne => ?jobs)
    (calls_note _ _ _ _ _) rfl rfl writable (fun other later other_ne later_eq => ?alone)
    fun own own_eq => ?_
  case jobs =>
    change (run.jobs.insert operator spec.name).find? other = _
    rw [Table.find?_insert, if_neg other_ne]
  case alone =>
    change (run.world.1.jobs.insert spec.name _).find? later.name = _
    rw [Table.find?_insert, if_neg (keyed.name_ne other_ne spec_eq later_eq)]
  obtain rfl : spec = own := Option.some.inj (spec_eq.symm.trans own_eq)
  change rehearsal.Standing spec _ ((run.jobs.insert operator spec.name).find? operator)
    (pollsOf (run.note _ _ _ _).calls operator).length
    ((run.progress.markDispatched operator).state? operator)
  rw [Progress.state?_markDispatched_self ready, Table.find?_insert, if_pos rfl, calls_note,
    staged.unpolled spec_eq ready rfl]
  refine ⟨rfl, rehearsal.pollsPerJob_pos, outcome, accepted, ?_⟩
  change (run.world.1.jobs.insert spec.name _).find? spec.name = _
  rw [Table.find?_insert, if_pos rfl]

/-- A ready operator is rejected, or its job is on the stage. -/
theorem Staged.launch (rehearses : Rehearses rehearsal store settings dag paths order)
    (watched : moment ≤ settings.horizon)
    (faithful : run.Faithful (.build dag) (dag.spec? settings paths id) order)
    (staged : run.Staged rehearsal store settings paths (dag.spec? settings paths id) moment)
    (ready : run.progress.state? operator = some .ready) :
    Ensures (Staged rehearsal store settings paths (dag.spec? settings paths id) moment)
      (fun _ => False) (run.launch settings dag paths id operator) := by
  have known := (faithful.known_iff operator).1 ⟨_, ready⟩
  obtain ⟨carried, built, carried_eq, built_eq⟩ := rehearses.exists_spec id known
  refine ensures_launch (fun absent => by simp [carried_eq] at absent)
    (fun found fault found_eq build_eq => ?_) fun found spec found_eq build_eq => ?_
  · obtain rfl := Option.some.inj (carried_eq.symm.trans found_eq)
    exact nomatch built_eq.symm.trans build_eq
  have spec_eq : dag.spec? settings paths id operator = some spec :=
    Dag.spec?_eq_some_iff.2 ⟨found, found_eq, build_eq⟩
  have standing := staged.standing spec_eq
  rw [ready] at standing
  have now_watched : run.now ≤ settings.horizon := staged.now_eq ▸ watched
  cases ends : outcomeOf (rehearsal.behaviourOf spec.operatorName) with
  | error message =>
      have call_eq : settings.backend.launch spec run.world =
          .now (.error (.launchRejected spec.name message), run.world) := by
        rw [rehearses.backend_eq]
        exact congrArg BackendCall.now (launch_of_reject (outcomeOf_eq_error_iff.1 ends) run.world)
      rw [perform_of_now staged.unlimited now_watched call_eq]
      exact staged.refuse spec_eq ready ends _
  | ok outcome =>
      have subset : spec.metadataPath :: spec.outputContentPaths ⊆ paths.all := by
        have located := (JobSpec.build_ensures settings paths id found).of_eq_ok build_eq
        refine List.Subset.trans ?_ located.2
        exact List.cons_subset_cons _ (List.subset_append_left _ _)
      obtain ⟨after, launch_eq, writable⟩ :=
        launch_of_writable ends standing.1 staged.writable subset
      have call_eq : settings.backend.launch spec run.world =
          .now (.ok (), (run.world.1.accept spec outcome, after)) := by
        rw [rehearses.backend_eq]
        exact congrArg BackendCall.now launch_eq
      rw [perform_of_now staged.unlimited now_watched call_eq]
      exact staged.dispatch rehearses.keyed spec_eq ready ends writable

/-- A run after a poll that leaves a job on the stage. -/
def afterPoll (run : Run (Stage × σ)) (operator : Uuid) (name : String) (job : Job)
    (result : CallResult) : Run (Stage × σ) :=
  Run.note { run with world := (run.world.1.update name job, run.world.2) } run.now operator
    (.poll operator name) result

private theorem Staged.record (keyed : dag.OperatorsKeyed)
    (staged : run.Staged rehearsal store settings paths (dag.spec? settings paths id) moment)
    {spec : JobSpec} (spec_eq : dag.spec? settings paths id operator = some spec)
    (name_eq : run.jobs.find? operator = some spec.name) {job : Job} {status : Status}
    (standing : rehearsal.Standing spec (run.world.1.update spec.name job) (some spec.name)
      ((pollsOf run.calls operator).length + 1)
      ((run.progress.record operator status).2.state? operator)) (result : CallResult) :
    Staged rehearsal store settings paths (dag.spec? settings paths id) moment
      { run.afterPoll operator spec.name job result with
        progress := (run.progress.record operator status).2 } := by
  have calls_eq : (run.afterPoll operator spec.name job result).calls =
      run.calls ++ [⟨run.now, operator, .poll operator spec.name, result⟩] :=
    calls_note _ _ _ _ _
  refine staged.advance operator (.record operator status) rfl rfl rfl (fun _ _ => rfl) calls_eq rfl
    rfl staged.writable (fun other later other_ne later_eq => ?_) fun own own_eq => ?_
  · change (run.world.1.update spec.name job).jobs.find? later.name = _
    rw [Stage.find?_update, if_neg (keyed.name_ne other_ne spec_eq later_eq)]
  · obtain rfl : spec = own := Option.some.inj (spec_eq.symm.trans own_eq)
    change rehearsal.Standing spec (run.world.1.update spec.name job) (run.jobs.find? operator)
      (pollsOf (run.afterPoll operator spec.name job result).calls operator).length
      ((run.progress.record operator status).2.state? operator)
    rw [name_eq, calls_eq, pollsOf_append, List.length_append]
    simpa [pollsOf, CallRecord.isPoll] using standing

/-- A dispatched operator is polled once more, and its job comes to an end with the last poll. -/
theorem Staged.poll (rehearses : Rehearses rehearsal store settings dag paths order)
    (watched : moment ≤ settings.horizon)
    (faithful : run.Faithful (.build dag) (dag.spec? settings paths id) order)
    (staged : run.Staged rehearsal store settings paths (dag.spec? settings paths id) moment)
    (dispatched : run.progress.state? operator = some .dispatched) :
    Ensures (Staged rehearsal store settings paths (dag.spec? settings paths id) moment)
      (fun _ => False) (run.poll settings operator) := by
  have known := (faithful.known_iff operator).1 ⟨_, dispatched⟩
  obtain ⟨found, spec, found_eq, build_eq⟩ := rehearses.exists_spec id known
  have spec_eq : dag.spec? settings paths id operator = some spec :=
    Dag.spec?_eq_some_iff.2 ⟨found, found_eq, build_eq⟩
  have standing := staged.standing spec_eq
  rw [dispatched] at standing
  generalize polls_eq : (pollsOf run.calls operator).length = polls at standing
  obtain ⟨name_eq, early, outcome, plays, job_found⟩ := standing
  refine ensures_poll (fun _ => staged) fun job job_eq => ?_
  obtain rfl : job = spec.name := Option.some.inj (job_eq.symm.trans name_eq)
  let job : Job := ⟨spec.operatorName, polls + 1, outcome⟩
  have job_kept : (run.world.1.update spec.name job).jobs.find? spec.name = some job := by
    rw [Stage.find?_update, if_pos rfl]
  have call_eq : settings.backend.poll spec.name run.world =
      .now (rehearsal.answer spec.name ⟨spec.operatorName, polls, outcome⟩ (polls + 1),
        (run.world.1.update spec.name job, run.world.2)) := by
    have poll_eq := rehearsal.poll_of_accepted job_found
    rw [rehearses.backend_eq]
    exact congrArg (fun answered => BackendCall.now (answered.1, (answered.2, run.world.2))) poll_eq
  rw [perform_of_now staged.unlimited (staged.now_eq ▸ watched) call_eq]
  rcases Nat.lt_or_ge (polls + 1) rehearsal.pollsPerJob with more | enough
  · have unmoved : (run.progress.record operator .running).2 = run.progress := by
      rw [Progress.record_of_not_terminal rfl]
    have still : rehearsal.Standing spec (run.world.1.update spec.name job) (some spec.name)
        ((pollsOf run.calls operator).length + 1)
        ((run.progress.record operator .running).2.state? operator) := by
      rw [unmoved, dispatched, polls_eq]
      exact ⟨rfl, more, outcome, plays, job_kept⟩
    have keeps := staged.record rehearses.keyed spec_eq name_eq still
    rw [unmoved] at keeps
    rcases rehearsal.answer_of_lt more spec.name ⟨_, _, outcome⟩ with ⟨error, answer_eq⟩ | answer_eq
    · rw [answer_eq]
      exact keeps (.refused error)
    · rw [answer_eq]
      exact keeps (.status .running)
  · have last : polls + 1 = rehearsal.pollsPerJob := by omega
    have polls_last : (pollsOf run.calls operator).length + 1 = rehearsal.pollsPerJob := by omega
    have ends {status : Status} (standing : rehearsal.Standing spec
        (run.world.1.update spec.name job) (some spec.name) rehearsal.pollsPerJob
        ((run.progress.record operator status).2.state? operator)) :=
      staged.record rehearses.keyed spec_eq name_eq (polls_last ▸ standing) (.status status)
    rw [last, answer_pollsPerJob]
    have terminal := isTerminal_of_outcomeOf plays
    cases outcome with
    | pending | running => exact nomatch terminal
    | succeeded =>
        refine ends ?_
        rw [Progress.state?_record_succeeded_self dispatched]
        exact ⟨plays, rfl⟩
    | failed =>
        refine ends ?_
        rw [Progress.state?_record_self (.inr dispatched) (.inl rfl)]
        exact .inr ⟨⟨.failed, plays, nofun⟩, rfl⟩
    | canceled =>
        refine ends ?_
        rw [Progress.state?_record_self (.inr dispatched) (.inr rfl)]
        exact .inr ⟨⟨.canceled, plays, nofun⟩, rfl⟩

theorem staged_start {stage : Stage} {state : σ} (unlimited : settings.timeout = none)
    (unknown : ∀ operator ∈ dag.operators.values, stage.jobs.find? (jobName operator id) = none)
    (writable : Writable store paths.all state) :
    (start order dag none (stage, state)).Staged rehearsal store settings paths
      (dag.spec? settings paths id) 0 where
  unlimited := by
    change settings.limits none = _
    rw [RunSettings.limits, unlimited, Option.map_none]
  now_eq := rfl
  writable := writable
  standing operator spec spec_eq := by
    obtain ⟨found, found_eq, build_eq⟩ := Dag.spec?_eq_some_iff.1 spec_eq
    have new : stage.jobs.find? spec.name = none := by
      rw [((JobSpec.build_names settings paths id found).of_eq_ok build_eq).1]
      exact unknown found (Table.mem_values_iff.2 ⟨operator, found_eq⟩)
    change rehearsal.Standing spec stage none 0
      ((Progress.start order (.build dag)).state? operator)
    rw [Progress.state?_start]
    split_ifs <;> exact ⟨new, rfl⟩

theorem Staged.wait {spec? : Uuid → Option JobSpec}
    (staged : run.Staged rehearsal store settings paths spec? moment) {due : Nat}
    (later : moment ≤ due) (watched : due ≤ settings.horizon) :
    ∃ waited, run.wait settings due = .ok waited ∧
      waited.Staged rehearsal store settings paths spec? due := by
  refine ⟨_, wait_of_unlimited staged.unlimited watched, staged.unlimited, ?_, staged.writable,
    staged.standing⟩
  exact max_eq_right (staged.now_eq ▸ later)

end Run
end Workflow
