import Workflow.Proofs.Preview.Response

/-!
# The overall status and the results of operators

The overall status comes from the answers of the backend, and the result of an operator from what is
read of its metadata afterwards.  A result of success implies a job that has succeeded.  The
converse fails for an operator whose metadata is missing or holds an error, and for no other.
-/

namespace Workflow

/-- What was read of the metadata confirms a success: it can be read and holds no error. -/
def OperatorMetadata.Confirms : Except StorageError OperatorMetadata → Prop
  | .ok metadata => metadata.error = ""
  | .error _ => False

namespace OperatorResult

/-- What is told about an operator whose job has succeeded. -/
def ofRead : Except StorageError OperatorMetadata → OperatorResult
  | .ok metadata => ofMetadata .succeeded metadata
  | .error _ => withoutMetadata none

private theorem status_ofRead_eq_succeeded_iff {read : Except StorageError OperatorMetadata} :
    (ofRead read).status = .succeeded ↔ OperatorMetadata.Confirms read := by
  cases read with
  | error failure => simp [ofRead, withoutMetadata, failed, OperatorMetadata.Confirms]
  | ok metadata =>
      rw [ofRead, ofMetadata, OperatorMetadata.Confirms]
      split <;> simp_all

variable {launchError : Option String} {reads : Except StorageError OperatorMetadata → Prop}
  {state : OperatorState} {result : OperatorResult}

private theorem Reports.eq_ofRead (reports : Reports none reads .succeeded result) :
    ∃ read, reads read ∧ result = ofRead read := by
  cases reports with
  | withoutMetadata _ read => exact ⟨_, read, rfl⟩
  | ofMetadata _ read => exact ⟨_, read, rfl⟩

private theorem Reports.status_eq_failed (reports : Reports launchError reads state result)
    (unsuccessful : state ≠ .succeeded) : result.status = .failed := by
  cases reports with
  | skipped | withoutMetadata => rfl
  | ofMetadata =>
      rw [OperatorResult.ofMetadata, if_neg unsuccessful]
      split <;> rfl

end OperatorResult

open Results

namespace PreviewService

variable {ω : Type} {service : PreviewService ω} {dag : Dag} {fresh : Nat → Uuid} {id : Uuid}
  {canceledAt : Option Nat} {world : ω}

/-- The status of an answer speaks of the jobs: it is success if each of them has succeeded, and
failure otherwise.  An operator without a successful job has failed by its result, and what is told
about any other one depends on its metadata alone.  So an answer whose results are all successes is
one, and the two agree if all metadata that is read confirms success. -/
theorem status_agrees {prepared : Dag} {paths : RunPaths}
    (prepared_eq : prepared = service.prepare dag) (paths_eq : paths = .generate fresh prepared)
    {ended : RunEnd ω PreviewResponse} {response : PreviewResponse}
    (ended_eq : ended = service.preview dag fresh id canceledAt world)
    (answered : ended.conclusion = .result response) :
    ∃ order executed, prepared.executionOrder = .ok order ∧
      executed = prepared.execute service.settings order paths id canceledAt world ∧
      response.operators.keys = prepared.operators.keys ∧
      (response.status = .succeeded ↔
        ∀ operator ∈ response.operators.keys, Calls.Succeeded ended.calls operator) ∧
      (response.status ≠ .succeeded → response.status = .failed) ∧
      (∀ operator result, response.operators.find? operator = some result →
        (Calls.Succeeded ended.calls operator →
          ∃ read, MetadataRead service.store executed.world paths operator read ∧
            result = .ofRead read) ∧
        (¬Calls.Succeeded ended.calls operator → result.status = .failed)) ∧
      ((∀ result ∈ response.operators.values, result.status = .succeeded) →
        response.status = .succeeded) ∧
      ((∀ operator ∈ response.operators.keys, ∀ read,
          MetadataRead service.store executed.world paths operator read →
            OperatorMetadata.Confirms read) →
        (response.status = .succeeded ↔
          ∀ result ∈ response.operators.values, result.status = .succeeded)) := by
  obtain ⟨order, executed, _, _, accepted, executed_eq, answers, final, faithful, sourced, rfl,
    calls_eq⟩ := exists_run_of_answer prepared_eq paths_eq ended_eq answered
  have status_eq : response.status = final.progress.overall := answers.status_eq
  have keys_eq : response.operators.keys = final.progress.states.keys := answers.told.keys_eq
  rw [answers.calls_eq, calls_eq]
  have status_iff : response.status = .succeeded ↔
      ∀ operator ∈ response.operators.keys, Calls.Succeeded final.calls operator := by
    rw [status_eq, Progress.overall_eq_succeeded_iff, keys_eq]
    exact forall₂_congr fun _ _ => faithful.succeeded_iff
  have told_of_success {operator : Uuid} {result : OperatorResult}
      (found : response.operators.find? operator = some result)
      (succeeded : Calls.Succeeded final.calls operator) :
      ∃ read, MetadataRead service.store executed.world paths operator read ∧
        result = .ofRead read := by
    obtain ⟨state, state_eq, reports⟩ := answers.told.state found
    obtain rfl : state = .succeeded :=
      Option.some.inj (state_eq.symm.trans (faithful.succeeded_iff.2 succeeded))
    have quiet : (final.report id).launchErrors.find? operator = none := by
      by_contra refused
      obtain ⟨message, error⟩ := Option.ne_none_iff_exists'.1 refused
      exact faithful.disciplined.not_failed_of_succeeded succeeded (sourced error).failed
    rw [quiet] at reports
    exact reports.eq_ofRead
  have failed_of_failure {operator : Uuid} {result : OperatorResult}
      (found : response.operators.find? operator = some result)
      (unsuccessful : ¬Calls.Succeeded final.calls operator) : result.status = .failed := by
    obtain ⟨state, state_eq, reports⟩ := answers.told.state found
    refine reports.status_eq_failed ?_
    rintro rfl
    exact unsuccessful (faithful.succeeded_iff.1 state_eq)
  have successful (all : ∀ result ∈ response.operators.values, result.status = .succeeded) :
      response.status = .succeeded := by
    refine status_iff.2 fun operator member => ?_
    obtain ⟨result, found⟩ := Table.mem_keys_iff.1 member
    by_contra unsuccessful
    have failed := failed_of_failure found unsuccessful
    exact nomatch failed.symm.trans (all result (Table.mem_values_iff.2 ⟨_, found⟩))
  refine ⟨order, executed, accepted, executed_eq, keys_eq.trans (faithful.keys_states accepted),
    status_iff, ?_, fun _ _ found => ⟨told_of_success found, failed_of_failure found⟩, successful,
    fun confirmed => ⟨fun succeeded result member => ?_, successful⟩⟩
  · rw [status_eq]
    exact final.progress.overall_cases.resolve_left
  · obtain ⟨operator, found⟩ := Table.mem_values_iff.1 member
    have known := Table.mem_keys_iff.2 ⟨result, found⟩
    obtain ⟨read, metadata_read, rfl⟩ :=
      told_of_success found (status_iff.1 succeeded operator known)
    exact OperatorResult.status_ofRead_eq_succeeded_iff.2
      (confirmed operator known read metadata_read)

/-- Every job of the shared workflow succeeds, and what is read about the second operator does not
confirm it. -/
theorem status_agrees_shared :
    ∃ ended, ended = outspoken.preview .shared .ofNat .nil none ⟨.empty, []⟩ ∧
      ended.conclusion = .result outspokenAnswer ∧
      (∀ operator ∈ outspokenAnswer.operators.keys, Calls.Succeeded ended.calls operator) ∧
      ∃ read, ¬OperatorMetadata.Confirms read ∧ OperatorResult.ofRead read = .failed "boom" := by
  have answered : (outspoken.preview .shared .ofNat .nil none ⟨.empty, []⟩).conclusion =
      .result outspokenAnswer := by decide +kernel
  obtain ⟨_, _, _, _, _, status_iff, _, told, _⟩ := status_agrees rfl rfl rfl answered
  have jobs := status_iff.1 rfl
  have second : outspokenAnswer.operators.find? (.ofNat 2) = some (.failed "boom") := rfl
  obtain ⟨read, _, result_eq⟩ := (told _ _ second).1 (jobs _ (Table.mem_keys_iff.2 ⟨_, second⟩))
  refine ⟨_, rfl, answered, jobs, read, ?_, result_eq.symm⟩
  rw [← OperatorResult.status_ofRead_eq_succeeded_iff, ← result_eq]
  exact nofun

/-- A single operator whose metadata holds an error fails although the whole workflow succeeds. -/
theorem status_of_denied_success :
    ∃ ended response, ended = outspoken.preview (.ofFunctions [(2, [], [])]) .ofNat .nil none
        ⟨.empty, []⟩ ∧
      ended.conclusion = .result response ∧
      response.status = .succeeded ∧
      response.operators.find? (.ofNat 2) = some (.failed "boom") ∧
      ¬(response.status = .succeeded ↔
        ∀ result ∈ response.operators.values, result.status = .succeeded) := by
  have answered : (outspoken.preview (.ofFunctions [(2, [], [])]) .ofNat .nil none
      ⟨.empty, []⟩).conclusion =
      .result ⟨.succeeded, .ofList [(.ofNat 2, .failed "boom")], .empty⟩ := by decide +kernel
  refine ⟨_, _, rfl, answered, rfl, rfl, ?_⟩
  decide

end PreviewService
end Workflow
