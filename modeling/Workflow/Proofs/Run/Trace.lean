import Workflow.Proofs.Dag.Links
import Workflow.Proofs.Stepwise
import Workflow.Run.Call

/-!
# The calls of a run

What a sequence of calls says about an operator is said here without the state of the run.  Calls
are disciplined when each is admissible after those before it, and `Disciplined.not_launched`
follows from the discipline alone: nothing is launched that descends from a failed operator.
-/

namespace Workflow

open Relation

/-- The call is a launch. -/
def CallRecord.isLaunch (call : CallRecord) : Bool :=
  match call.subject with
  | .launch _ => true
  | .poll _ _ => false

/-- The call is a poll of the job of its operator. -/
def CallRecord.isPoll (call : CallRecord) : Bool :=
  match call.subject with
  | .launch _ => false
  | .poll operator _ => operator == call.operator

theorem CallRecord.isLaunch_iff {call : CallRecord} :
    call.isLaunch = true ↔ ∃ spec, call.subject = .launch spec := by
  obtain ⟨_, _, subject, _⟩ := call
  cases subject <;> simp [isLaunch]

theorem CallRecord.isPoll_iff {call : CallRecord} :
    call.isPoll = true ↔ ∃ job, call.subject = .poll call.operator job := by
  obtain ⟨_, _, subject, _⟩ := call
  cases subject <;> simp [isPoll]

namespace Calls

/-- A launch was begun for the operator. -/
def Launched (calls : List CallRecord) (operator : Uuid) : Prop :=
  ∃ call ∈ calls, call.operator = operator ∧ ∃ spec, call.subject = .launch spec

/-- The backend accepted a job for the operator. -/
def Accepted (calls : List CallRecord) (operator : Uuid) (job : String) : Prop :=
  ∃ call ∈ calls, call.operator = operator ∧
    ∃ spec, call.subject = .launch spec ∧ spec.name = job ∧ call.result = .accepted

/-- A poll for the operator was answered. -/
def Answered (calls : List CallRecord) (operator : Uuid) (job : String) (status : Status) : Prop :=
  ∃ call ∈ calls, call.operator = operator ∧
    call.subject = .poll operator job ∧ call.result = .status status

/-- The job of the operator was reported to have succeeded. -/
def Succeeded (calls : List CallRecord) (operator : Uuid) : Prop :=
  ∃ job, Accepted calls operator job ∧ Answered calls operator job .succeeded

/-- The backend rejected the operator, or reported that its job has failed or was canceled. -/
def Failed (calls : List CallRecord) (operator : Uuid) : Prop :=
  (∃ call ∈ calls, call.operator = operator ∧
    ∃ spec error, call.subject = .launch spec ∧ call.result = .refused error) ∨
  ∃ job status, Answered calls operator job status ∧ (status = .failed ∨ status = .canceled)

/-- No poll for the operator was answered with a terminal status. -/
def Unanswered (calls : List CallRecord) (operator : Uuid) : Prop :=
  ∀ job status, Answered calls operator job status → status.isTerminal = false

/-- What may be done after earlier calls.  The operator of a launch has its own specification, was
not launched before, and its predecessors have all succeeded.  A poll is for an accepted job that
has not come to an end. -/
def Admissible (graph : Graph) (spec? : Uuid → Option JobSpec) (before : List CallRecord)
    (call : CallRecord) : Prop :=
  match call.subject with
  | .launch spec =>
      spec? call.operator = some spec ∧ ¬Launched before call.operator ∧
        ∀ producer ∈ graph.predecessorsOf call.operator, Succeeded before producer
  | .poll operator job =>
      operator = call.operator ∧ Accepted before operator job ∧ Unanswered before operator

/-- Each call is admissible after those before it. -/
def Disciplined (graph : Graph) (spec? : Uuid → Option JobSpec) : List CallRecord → Prop :=
  Stepwise (Admissible graph spec?)

theorem Accepted.launched {calls : List CallRecord} {operator : Uuid} {job : String}
    (accepted : Accepted calls operator job) : Launched calls operator := by
  obtain ⟨call, member, call_operator, spec, subject, _⟩ := accepted
  exact ⟨call, member, call_operator, spec, subject⟩

/-! ### More calls -/

section More

variable {calls more : List CallRecord} {call : CallRecord} {operator : Uuid} {job : String}
  {status : Status}

theorem Launched.mono (launched : Launched calls operator) (subset : calls ⊆ more) :
    Launched more operator := by
  obtain ⟨call, member, rest⟩ := launched
  exact ⟨call, subset member, rest⟩

theorem Accepted.mono (accepted : Accepted calls operator job) (subset : calls ⊆ more) :
    Accepted more operator job := by
  obtain ⟨call, member, rest⟩ := accepted
  exact ⟨call, subset member, rest⟩

theorem Answered.mono (answered : Answered calls operator job status) (subset : calls ⊆ more) :
    Answered more operator job status := by
  obtain ⟨call, member, rest⟩ := answered
  exact ⟨call, subset member, rest⟩

theorem Succeeded.mono (succeeded : Succeeded calls operator) (subset : calls ⊆ more) :
    Succeeded more operator := by
  obtain ⟨job, accepted, answered⟩ := succeeded
  exact ⟨job, accepted.mono subset, answered.mono subset⟩

theorem launched_concat :
    Launched (calls ++ [call]) operator ↔
      Launched calls operator ∨ call.operator = operator ∧ ∃ spec, call.subject = .launch spec := by
  simp [Launched, or_and_right, exists_or]

theorem accepted_concat :
    Accepted (calls ++ [call]) operator job ↔
      Accepted calls operator job ∨ call.operator = operator ∧
        ∃ spec, call.subject = .launch spec ∧ spec.name = job ∧ call.result = .accepted := by
  simp [Accepted, or_and_right, exists_or]

theorem answered_concat :
    Answered (calls ++ [call]) operator job status ↔
      Answered calls operator job status ∨ call.operator = operator ∧
        call.subject = .poll operator job ∧ call.result = .status status := by
  simp [Answered, or_and_right, exists_or]

end More

/-! ### Consequences of the discipline -/

section Discipline

variable {graph : Graph} {spec? : Uuid → Option JobSpec} {calls : List CallRecord}
  {operator : Uuid}

theorem not_admissible_launch {before : List CallRecord} {first second : CallRecord}
    {first_spec second_spec : JobSpec} (earlier : first ∈ before)
    (same : first.operator = second.operator) (first_subject : first.subject = .launch first_spec)
    (second_subject : second.subject = .launch second_spec) :
    ¬Admissible graph spec? before second := by
  intro admissible
  simp only [Admissible, second_subject] at admissible
  exact admissible.2.1 ⟨first, earlier, same, first_spec, first_subject⟩

/-- An operator is launched at most once. -/
theorem Disciplined.launch_unique (disciplined : Disciplined graph spec? calls)
    {first second : CallRecord} {first_spec second_spec : JobSpec} (first_mem : first ∈ calls)
    (second_mem : second ∈ calls) (same : first.operator = second.operator)
    (first_subject : first.subject = .launch first_spec)
    (second_subject : second.subject = .launch second_spec) : first = second := by
  rcases disciplined.apart first_mem second_mem with
    equal | ⟨before, earlier, admissible⟩ | ⟨before, earlier, admissible⟩
  · exact equal
  · exact absurd admissible
      (not_admissible_launch earlier same first_subject second_subject)
  · exact absurd admissible
      (not_admissible_launch earlier same.symm second_subject first_subject)

theorem not_admissible_poll {before : List CallRecord} {first second : CallRecord}
    {first_job second_job : String} {status : Status} (earlier : first ∈ before)
    (first_operator : first.operator = operator)
    (first_subject : first.subject = .poll operator first_job)
    (first_result : first.result = .status status) (terminal : status.isTerminal = true)
    (second_subject : second.subject = .poll operator second_job) :
    ¬Admissible graph spec? before second := by
  intro admissible
  simp only [Admissible, second_subject] at admissible
  have open_status := admissible.2.2 first_job status
    ⟨first, earlier, first_operator, first_subject, first_result⟩
  simp [terminal] at open_status

/-- An operator has at most one terminal status. -/
theorem Disciplined.terminal_unique (disciplined : Disciplined graph spec? calls)
    {first_job second_job : String} {first_status second_status : Status}
    (first_answered : Answered calls operator first_job first_status)
    (second_answered : Answered calls operator second_job second_status)
    (first_terminal : first_status.isTerminal = true)
    (second_terminal : second_status.isTerminal = true) : first_status = second_status := by
  obtain ⟨first, first_mem, first_operator, first_subject, first_result⟩ := first_answered
  obtain ⟨second, second_mem, second_operator, second_subject, second_result⟩ := second_answered
  rcases disciplined.apart first_mem second_mem with
    rfl | ⟨before, earlier, admissible⟩ | ⟨before, earlier, admissible⟩
  · rw [first_result] at second_result
    exact CallResult.status.inj second_result
  · exact absurd admissible (not_admissible_poll earlier first_operator first_subject first_result
      first_terminal second_subject)
  · exact absurd admissible (not_admissible_poll earlier second_operator second_subject
      second_result second_terminal first_subject)

theorem Disciplined.accepted_not_refused (disciplined : Disciplined graph spec? calls)
    {job : String} (accepted : Accepted calls operator job) {call : CallRecord} {spec : JobSpec}
    {error : JobError} (member : call ∈ calls) (call_operator : call.operator = operator)
    (subject : call.subject = .launch spec) : call.result ≠ .refused error := by
  obtain ⟨launch, launch_mem, launch_operator, launch_spec, launch_subject, _, launch_result⟩ :=
    accepted
  have same := disciplined.launch_unique launch_mem member
    (launch_operator.trans call_operator.symm) launch_subject subject
  rw [← same, launch_result]
  exact nofun

theorem Disciplined.not_failed_of_succeeded (disciplined : Disciplined graph spec? calls)
    (succeeded : Succeeded calls operator) : ¬Failed calls operator := by
  obtain ⟨job, accepted, answered⟩ := succeeded
  rintro (⟨call, member, call_operator, spec, error, subject, refused⟩ |
    ⟨other, status, failed, rfl | rfl⟩)
  · exact disciplined.accepted_not_refused accepted member call_operator subject refused
  · exact nomatch disciplined.terminal_unique answered failed rfl rfl
  · exact nomatch disciplined.terminal_unique answered failed rfl rfl

theorem Disciplined.launched_of_answered (disciplined : Disciplined graph spec? calls)
    {job : String} {status : Status} (answered : Answered calls operator job status) :
    Launched calls operator := by
  obtain ⟨call, member, _, subject, _⟩ := answered
  obtain ⟨before, subset, admissible⟩ := disciplined.good_of_mem member
  simp only [Admissible, subject] at admissible
  exact admissible.2.1.launched.mono subset

theorem Disciplined.producer_succeeded (disciplined : Disciplined graph spec? calls)
    {producer : Uuid} (link : graph.Link producer operator) (launched : Launched calls operator) :
    Succeeded calls producer := by
  obtain ⟨call, member, rfl, spec, subject⟩ := launched
  obtain ⟨before, subset, admissible⟩ := disciplined.good_of_mem member
  simp only [Admissible, subject] at admissible
  exact (admissible.2.2 producer link).mono subset

/-- Every ancestor of an operator that is launched has succeeded. -/
theorem Disciplined.ancestor_succeeded (disciplined : Disciplined graph spec? calls)
    {ancestor : Uuid} (reach : TransGen graph.Link ancestor operator)
    (launched : Launched calls operator) : Succeeded calls ancestor := by
  induction reach with
  | single link => exact disciplined.producer_succeeded link launched
  | tail _ link ih =>
      obtain ⟨job, accepted, _⟩ := disciplined.producer_succeeded link launched
      exact ih accepted.launched

/-- Nothing is launched that descends from a failed operator. -/
theorem Disciplined.not_launched (disciplined : Disciplined graph spec? calls)
    {failed : Uuid} (failure : Failed calls failed) (reach : TransGen graph.Link failed operator) :
    ¬Launched calls operator := fun launched =>
  disciplined.not_failed_of_succeeded (disciplined.ancestor_succeeded reach launched) failure

end Discipline

end Calls
end Workflow
