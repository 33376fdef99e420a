import Workflow.Proofs.Progress.Consistency
import Workflow.Proofs.Run.Attempt
import Workflow.Proofs.Run.Trace
import Workflow.Run.Execution

/-!
# Calls and states

The calls that were made for an operator account for its state, and its state says which calls are
admissible.  A launch or a poll adds one admissible call and keeps this, whatever the backend
answers; when the run stops instead, the calls that it leaves behind are still disciplined.
-/

namespace Workflow

open Relation

/-- The specification of the job of an operator, if there is one. -/
def Dag.spec? {ω : Type} (dag : Dag) (settings : RunSettings ω) (paths : RunPaths) (id : Uuid)
    (operator : Uuid) : Option JobSpec :=
  (dag.operators.find? operator).bind fun found => (JobSpec.build settings paths id found).toOption

theorem Dag.spec?_eq_some_iff {ω : Type} {dag : Dag} {settings : RunSettings ω} {paths : RunPaths}
    {id operator : Uuid} {spec : JobSpec} :
    dag.spec? settings paths id operator = some spec ↔
      ∃ found, dag.operators.find? operator = some found ∧
        JobSpec.build settings paths id found = .ok spec := by
  have built (found : Operator) :
      (JobSpec.build settings paths id found).toOption = some spec ↔
        JobSpec.build settings paths id found = .ok spec := by
    cases JobSpec.build settings paths id found <;> simp [Except.toOption]
  simp only [spec?, Option.bind_eq_some_iff, built]

namespace Calls

/-- What the calls for an operator and its job have to say about its state. -/
def Evidence (calls : List CallRecord) (job? : Option String) (operator : Uuid) :
    Option OperatorState → Prop
  | some .dispatched =>
      (∃ job, job? = some job ∧ Accepted calls operator job) ∧ Unanswered calls operator
  | some .succeeded => Succeeded calls operator
  | some .failed => Failed calls operator
  | some .notReady | some .ready | some .skipped | none => ¬Launched calls operator

private theorem evidence_concat_of_ne {calls : List CallRecord} {call : CallRecord}
    {operator : Uuid} (call_ne : call.operator ≠ operator) {job? : Option String}
    {state : Option OperatorState} :
    Evidence (calls ++ [call]) job? operator state ↔ Evidence calls job? operator state := by
  have launched_iff : Launched (calls ++ [call]) operator ↔ Launched calls operator := by
    simp [launched_concat, call_ne]
  have accepted_iff (job : String) :
      Accepted (calls ++ [call]) operator job ↔ Accepted calls operator job := by
    simp [accepted_concat, call_ne]
  have answered_iff (job : String) (status : Status) :
      Answered (calls ++ [call]) operator job status ↔ Answered calls operator job status := by
    simp [answered_concat, call_ne]
  cases state with
  | none => exact not_congr launched_iff
  | some state =>
      cases state with
      | notReady | ready | skipped => exact not_congr launched_iff
      | dispatched => simp only [Evidence, Unanswered, accepted_iff, answered_iff]
      | succeeded => simp only [Evidence, Succeeded, accepted_iff, answered_iff]
      | failed => simp [Evidence, Failed, answered_iff, or_and_right, exists_or, call_ne]

end Calls

namespace Run

open Calls

variable {ω : Type} {graph : Graph} {spec? : Uuid → Option JobSpec} {order : List Uuid}

/-- The calls of a run are disciplined and account for its states. -/
structure Faithful (graph : Graph) (spec? : Uuid → Option JobSpec) (order : List Uuid)
    (run : Run ω) : Prop where
  /-- The graph stays the same. -/
  graph_eq : run.progress.graph = graph
  /-- The operators stay in their order. -/
  order_eq : run.progress.order = order
  /-- Exactly the operators of the order have a state. -/
  known_iff (operator : Uuid) : run.progress.Known operator ↔ operator ∈ order
  /-- The states agree with the graph. -/
  consistent : run.progress.Consistent
  /-- Every call was admissible. -/
  disciplined : Disciplined graph spec? run.calls
  /-- The state of every operator comes from its calls. -/
  evidence (operator : Uuid) :
    Evidence run.calls (run.jobs.find? operator) operator (run.progress.state? operator)

/-- A run stopped with disciplined calls. -/
def Orderly (graph : Graph) (spec? : Uuid → Option JobSpec) (calls : List CallRecord)
    (stopped : Stopped ω) : Prop :=
  Disciplined graph spec? stopped.run.calls ∧ calls <+: stopped.run.calls

/-- The dispatched operators are those whose job was accepted and has not come to an end. -/
theorem Faithful.dispatched_iff {run : Run ω} (faithful : run.Faithful graph spec? order)
    {operator : Uuid} :
    run.progress.state? operator = some .dispatched ↔
      (∃ job, Accepted run.calls operator job) ∧ Unanswered run.calls operator := by
  have evidence := faithful.evidence operator
  constructor
  · intro dispatched
    rw [dispatched] at evidence
    exact evidence.imp_left fun ⟨job, _, accepted⟩ => ⟨job, accepted⟩
  · rintro ⟨⟨job, accepted⟩, unanswered⟩
    cases state_eq : run.progress.state? operator with
    | none =>
        rw [state_eq] at evidence
        exact absurd accepted.launched evidence
    | some state =>
        rw [state_eq] at evidence
        cases state with
        | dispatched => rfl
        | notReady | ready | skipped => exact absurd accepted.launched evidence
        | succeeded =>
            obtain ⟨other, _, answered⟩ := evidence
            exact absurd (unanswered other .succeeded answered) nofun
        | failed =>
            rcases evidence with ⟨call, member, call_operator, spec, error, subject, refused⟩ |
              ⟨other, status, answered, rfl | rfl⟩
            · exact absurd refused
                (faithful.disciplined.accepted_not_refused accepted member call_operator subject)
            · exact absurd (unanswered other .failed answered) nofun
            · exact absurd (unanswered other .canceled answered) nofun

theorem Faithful.mem_inState_iff {run : Run ω} (faithful : run.Faithful graph spec? order)
    {wanted : OperatorState} {operator : Uuid} :
    operator ∈ run.progress.inState wanted ↔ run.progress.state? operator = some wanted := by
  simp only [Progress.inState, List.mem_filter, beq_iff_eq, faithful.order_eq,
    and_iff_right_iff_imp]
  exact fun found => (faithful.known_iff operator).1 ⟨wanted, found⟩

theorem Faithful.inState_sublist {run : Run ω} (faithful : run.Faithful graph spec? order)
    (wanted : OperatorState) : (run.progress.inState wanted).Sublist order :=
  faithful.order_eq ▸ List.filter_sublist

/-! ### Admissible calls -/

theorem Faithful.admissible_launch {run : Run ω} (faithful : run.Faithful graph spec? order)
    {operator : Uuid} (ready : run.progress.state? operator = some .ready) {spec : JobSpec}
    (spec_eq : spec? operator = some spec) (time : Nat) (result : CallResult) :
    Admissible graph spec? run.calls ⟨time, operator, .launch spec, result⟩ := by
  refine ⟨spec_eq, ?_, fun producer link => ?_⟩
  · have evidence := faithful.evidence operator
    rwa [ready] at evidence
  · have link : run.progress.graph.Link producer operator := by rwa [faithful.graph_eq]
    have released := Progress.released_of_state ready rfl
    have succeeded := (faithful.consistent.released released.known).1 released producer link
    have evidence := faithful.evidence producer
    rwa [succeeded] at evidence

theorem Faithful.admissible_poll {run : Run ω} (faithful : run.Faithful graph spec? order)
    {operator : Uuid} (dispatched : run.progress.state? operator = some .dispatched) {job : String}
    (job_eq : run.jobs.find? operator = some job) (time : Nat) (result : CallResult) :
    Admissible graph spec? run.calls ⟨time, operator, .poll operator job, result⟩ := by
  have evidence := faithful.evidence operator
  rw [dispatched, job_eq] at evidence
  obtain ⟨⟨accepted_job, found, accepted⟩, unanswered⟩ := evidence
  obtain rfl := Option.some.inj found
  exact ⟨rfl, accepted, unanswered⟩

theorem Faithful.orderly {run : Run ω} (faithful : run.Faithful graph spec? order)
    {operator : Uuid} {subject : CallSubject}
    (admissible : ∀ time result,
      Admissible graph spec? run.calls ⟨time, operator, subject, result⟩)
    {stopped : Stopped ω} (stops : StopsIn run.calls operator subject stopped) :
    Orderly graph spec? run.calls stopped := by
  rcases stops with unchanged | ⟨time, added⟩
  · rw [Orderly, unchanged]
    exact ⟨faithful.disciplined, List.prefix_rfl⟩
  · rw [Orderly, added]
    exact ⟨stepwise_concat.2 ⟨faithful.disciplined, admissible _ _⟩, List.prefix_append _ _⟩

theorem Faithful.keeps {run next : Run ω} (faithful : run.Faithful graph spec? order)
    (keeps : run.Keeps next) : next.Faithful graph spec? order where
  graph_eq := by rw [keeps.progress_eq, faithful.graph_eq]
  order_eq := by rw [keeps.progress_eq, faithful.order_eq]
  known_iff operator := by rw [keeps.progress_eq, faithful.known_iff]
  consistent := by
    rw [keeps.progress_eq]
    exact faithful.consistent
  disciplined := by
    rw [keeps.calls_eq]
    exact faithful.disciplined
  evidence operator := by
    rw [keeps.calls_eq, keeps.jobs_eq, keeps.progress_eq]
    exact faithful.evidence operator

theorem faithful_start (order : List Uuid) (dag : Dag) (canceledAt : Option Nat) (world : ω) :
    (start order dag canceledAt world).Faithful (.build dag) spec? order where
  graph_eq := rfl
  order_eq := rfl
  known_iff _ := Progress.known_start
  consistent := Progress.consistent_start order (.build dag)
  disciplined := stepwise_nil
  evidence operator := by
    have unlaunched : ¬Launched (start order dag canceledAt world).calls operator := by
      simp [Launched, start, calls]
    change Evidence _ _ _ ((Progress.start order (.build dag)).state? operator)
    rw [Progress.state?_start]
    split_ifs <;> exact unlaunched

/-- A move that comes with an admissible call keeps a run faithful if the call accounts for the
state of its operator. -/
theorem Faithful.advance {run next : Run ω} (faithful : run.Faithful graph spec? order)
    (coherent : graph.Coherent) {operator : Uuid} {call : CallRecord} (move : Move)
    (call_operator : call.operator = operator) (move_operator : move.operator = operator)
    (progress_eq : next.progress = (run.progress.move move).2)
    (jobs_eq : ∀ other, other ≠ operator → next.jobs.find? other = run.jobs.find? other)
    (calls_eq : next.calls = run.calls ++ [call])
    (admissible : Admissible graph spec? run.calls call)
    (own : Evidence next.calls (next.jobs.find? operator) operator
      (next.progress.state? operator)) :
    next.Faithful graph spec? order where
  graph_eq := by rw [progress_eq, Progress.graph_move, faithful.graph_eq]
  order_eq := by rw [progress_eq, Progress.order_move, faithful.order_eq]
  known_iff operator := by rw [progress_eq, Progress.known_move, faithful.known_iff]
  consistent := by
    rw [progress_eq]
    exact faithful.consistent.move (faithful.graph_eq ▸ coherent) move
  disciplined := by
    rw [calls_eq]
    exact stepwise_concat.2 ⟨faithful.disciplined, admissible⟩
  evidence other := by
    by_cases same : other = operator
    · exact same ▸ own
    · have call_ne : call.operator ≠ other := by
        rw [call_operator]
        exact Ne.symm same
      have move_ne : other ≠ move.operator := by rwa [move_operator]
      rw [calls_eq, jobs_eq other same, evidence_concat_of_ne call_ne, progress_eq]
      exact Progress.holds_move_of_ne
        (motive := Evidence run.calls (run.jobs.find? other) other) id id move_ne
        (faithful.evidence other)

/-! ### Answers -/

section Answers

variable {run next : Run ω} {operator : Uuid} {time : Nat}

theorem Faithful.dispatch (faithful : run.Faithful graph spec? order) (coherent : graph.Coherent)
    (ready : run.progress.state? operator = some .ready) {spec : JobSpec}
    (spec_eq : spec? operator = some spec) (progress_eq : next.progress = run.progress)
    (jobs_eq : next.jobs = run.jobs)
    (calls_eq : next.calls = run.calls ++ [⟨time, operator, .launch spec, .accepted⟩]) :
    (next.dispatch operator spec.name).Faithful graph spec? order := by
  have admissible := faithful.admissible_launch ready spec_eq time .accepted
  have dispatched : (run.progress.markDispatched operator).state? operator = some .dispatched :=
    Progress.state?_markDispatched_self ready
  refine faithful.advance coherent (.dispatch operator) rfl rfl ?_ ?_ calls_eq admissible ?_
  · exact congrArg (Progress.markDispatched · operator) progress_eq
  · intro other other_ne
    change (next.jobs.insert operator spec.name).find? other = _
    rw [Table.find?_insert, if_neg other_ne, jobs_eq]
  · change Evidence next.calls ((next.jobs.insert operator spec.name).find? operator) operator
      ((next.progress.markDispatched operator).state? operator)
    rw [calls_eq, progress_eq, dispatched, Table.find?_insert, if_pos rfl]
    refine ⟨⟨spec.name, rfl, accepted_concat.2 (.inr ⟨rfl, spec, rfl, rfl, rfl⟩)⟩, ?_⟩
    intro job status answered
    rcases answered_concat.1 answered with earlier | ⟨_, subject, _⟩
    · exact absurd (faithful.disciplined.launched_of_answered earlier) admissible.2.1
    · exact nomatch subject

theorem Faithful.refuse (faithful : run.Faithful graph spec? order) (coherent : graph.Coherent)
    (ready : run.progress.state? operator = some .ready) {spec : JobSpec} {error : JobError}
    (spec_eq : spec? operator = some spec) (progress_eq : next.progress = run.progress)
    (jobs_eq : next.jobs = run.jobs)
    (calls_eq : next.calls = run.calls ++ [⟨time, operator, .launch spec, .refused error⟩]) :
    (next.refuse operator error).Faithful graph spec? order := by
  have admissible := faithful.admissible_launch ready spec_eq time (.refused error)
  have failed : (run.progress.record operator .failed).2.state? operator = some .failed :=
    Progress.state?_record_self (.inl ready) (.inl rfl)
  refine faithful.advance coherent (.record operator .failed) rfl rfl ?_ ?_ calls_eq admissible ?_
  · exact congrArg (fun progress => (progress.record operator .failed).2) progress_eq
  · intro other _
    exact congrArg (Table.find? · other) jobs_eq
  · change Evidence next.calls (next.jobs.find? operator) operator
      ((next.progress.record operator .failed).2.state? operator)
    rw [calls_eq, progress_eq, failed]
    exact .inl ⟨_, List.mem_concat_self, rfl, spec, error, rfl, rfl⟩

theorem Faithful.answer (faithful : run.Faithful graph spec? order) (coherent : graph.Coherent)
    (dispatched : run.progress.state? operator = some .dispatched) {job : String} {status : Status}
    (job_eq : run.jobs.find? operator = some job)
    (progress_eq : next.progress = (run.progress.record operator status).2)
    (jobs_eq : next.jobs = run.jobs)
    (calls_eq : next.calls =
      run.calls ++ [⟨time, operator, .poll operator job, .status status⟩]) :
    next.Faithful graph spec? order := by
  have admissible := faithful.admissible_poll dispatched job_eq time (.status status)
  refine faithful.advance coherent (.record operator status) rfl rfl progress_eq ?_ calls_eq
    admissible ?_
  · intro other _
    rw [jobs_eq]
  · have accepted : Accepted next.calls operator job := by
      rw [calls_eq]
      exact admissible.2.1.mono (List.subset_append_left _ _)
    have answered : Answered next.calls operator job status := by
      rw [calls_eq]
      exact answered_concat.2 (.inr ⟨rfl, rfl, rfl⟩)
    have still_dispatched (open_status : status.isTerminal = false) :
        Evidence next.calls (next.jobs.find? operator) operator
          (next.progress.state? operator) := by
      rw [progress_eq, Progress.record_of_not_terminal open_status, dispatched, jobs_eq, job_eq]
      refine ⟨⟨job, rfl, accepted⟩, fun other reported later => ?_⟩
      rw [calls_eq] at later
      rcases answered_concat.1 later with earlier | ⟨_, _, result⟩
      · exact admissible.2.2 other reported earlier
      · exact CallResult.status.inj result ▸ open_status
    cases status with
    | pending | running => exact still_dispatched rfl
    | succeeded =>
        rw [progress_eq, Progress.state?_record_succeeded_self dispatched]
        exact ⟨job, accepted, answered⟩
    | failed =>
        rw [progress_eq, Progress.state?_record_self (.inr dispatched) (.inl rfl)]
        exact .inr ⟨job, .failed, answered, .inl rfl⟩
    | canceled =>
        rw [progress_eq, Progress.state?_record_self (.inr dispatched) (.inr rfl)]
        exact .inr ⟨job, .canceled, answered, .inr rfl⟩

theorem Faithful.retry (faithful : run.Faithful graph spec? order) (coherent : graph.Coherent)
    (dispatched : run.progress.state? operator = some .dispatched) {job : String} {error : JobError}
    (job_eq : run.jobs.find? operator = some job) (progress_eq : next.progress = run.progress)
    (jobs_eq : next.jobs = run.jobs)
    (calls_eq : next.calls =
      run.calls ++ [⟨time, operator, .poll operator job, .refused error⟩]) :
    next.Faithful graph spec? order := by
  have admissible := faithful.admissible_poll dispatched job_eq time (.refused error)
  have unmoved : next.progress = (run.progress.record operator .running).2 := by
    rw [progress_eq, Progress.record_of_not_terminal rfl]
  refine faithful.advance coherent (.record operator .running) rfl rfl unmoved ?_ calls_eq
    admissible ?_
  · intro other _
    rw [jobs_eq]
  · rw [progress_eq, dispatched, jobs_eq, job_eq, calls_eq]
    refine ⟨⟨job, rfl, admissible.2.1.mono (List.subset_append_left _ _)⟩, ?_⟩
    intro other status answered
    rcases answered_concat.1 answered with earlier | ⟨_, _, result⟩
    · exact admissible.2.2 other status earlier
    · exact nomatch result

end Answers

end Run
end Workflow
