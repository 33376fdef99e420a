import Workflow.Job.Rehearsal
import Workflow.Proofs.Results.Operators
import Workflow.Proofs.Run.Report
import Workflow.Storage.Directory

/-!
# Refused launches that are told

A report keeps the message of every launch that was refused, and the result of the operator is where
it is told.  It is told if the operator has no metadata that can be read.  A backend that writes
metadata before it gives up on a launch hides it: metadata that can be read is told instead, even if
it holds no error, and then nothing is left of the message.
-/

namespace Workflow

private theorem head?_toList_append {front : String} {c : Char}
    (begins : front.toList.head? = some c) (rest : String) :
    (front ++ rest).toList.head? = some c := by
  rw [String.toList_append, List.head?_append, begins]
  rfl

private theorem JobError.head?_message (error : JobError) :
    error.message.toList.head? = some 'j' := by
  cases error with
  | invalidConfig | backend => exact head?_toList_append (by decide) _
  | jobNotExist | jobAlreadyExists | canceled =>
      exact head?_toList_append (head?_toList_append (by decide) _) _
  | launchRejected =>
      exact head?_toList_append (head?_toList_append (head?_toList_append (by decide) _) _) _

private theorem JobError.message_ne_failedWithoutError (error : JobError) :
    error.message ≠ OperatorResult.failedWithoutError := by
  intro same
  have begins := error.head?_message
  rw [same] at begins
  exact absurd begins (by decide)

namespace OperatorResult

variable {state : OperatorState} {own : OperatorMetadata}

private theorem logs_ofMetadata : (ofMetadata state own).logs = own.logs := by
  rw [ofMetadata]
  split_ifs <;> rfl

private theorem message_ofMetadata_of_error (error_ne : own.error ≠ "") :
    (ofMetadata state own).message = own.error := by
  rw [ofMetadata, if_pos error_ne]

private theorem message_ofMetadata_of_silent (silent : own.error = "") :
    (ofMetadata state own).message = if state = .succeeded then "" else failedWithoutError := by
  rw [ofMetadata, if_neg (by simp [silent])]
  split_ifs <;> rfl

end OperatorResult

namespace Run

open Calls

private theorem refused_of_report {ω : Type} {settings : RunSettings ω} {dag : Dag}
    {order : List Uuid} {paths : RunPaths} {id operator : Uuid} {canceledAt : Option Nat}
    {world : ω} {ended : RunEnd ω RunReport} {report : RunReport} {message : String}
    (accepted : dag.executionOrder = .ok order)
    (ended_eq : ended = dag.execute settings order paths id canceledAt world)
    (reported : ended.conclusion = .result report)
    (error : report.launchErrors.find? operator = some message) :
    report.operators.find? operator = some .failed ∧ Refused ended.calls operator message := by
  have outcome := execute_outcome accepted canceledAt world ended_eq
  rw [reported] at outcome
  obtain ⟨final, faithful, sourced, finished, rfl, calls_eq, _⟩ := outcome
  have refused : Refused final.calls operator message := sourced error
  have all_ended := faithful.allEnded accepted finished
  exact ⟨((faithful.refused_iff all_ended).1 ⟨message, refused⟩).1, calls_eq ▸ refused⟩

end Run

namespace Results

open Calls

variable {σ : Type} {store : Store σ} {paths : RunPaths} {report : RunReport} {state left : σ}
  {results : Table Uuid OperatorResult} {id : Uuid} {operator : OperatorState}
  {metadata : Option OperatorMetadata} {message : String}

private theorem find?_collectOperators
    (collected : collectOperators store paths report state = (results, left))
    (stored : report.operators.find? id = some operator) :
    results.find? id = some (resultOf report
      (paths.value? store (.metadata id) OperatorMetadata.ofJson?
        (store.fetch (operatorReads paths (report.operators.below id)) state)) (id, operator)) := by
  obtain ⟨entries, entries_eq, keys_eq, found⟩ :=
    operatorEntries_apply store paths report report.operators.entries state
  have results_eq : Table.ofList entries = results := by
    have first_eq := congrArg Prod.fst collected
    simp only [collectOperators, bind, StateT.bind, entries_eq] at first_eq
    exact first_eq
  have member := Table.stepwise_entries_iff.1 found id operator stored
  rw [← entries_ofList_of_keys keys_eq, results_eq] at member
  exact Table.mem_entries_iff.1 member

/-- The message of a refused launch is told if there is no metadata that can be read. -/
theorem resultOf_refused (refused : report.launchErrors.find? id = some message)
    (ran : operator ≠ .skipped) : resultOf report none (id, operator) = .failed message := by
  simp [resultOf, ran, OperatorResult.withoutMetadata, refused]

/-- Metadata that can be read is told, whatever the launch errors are. -/
theorem resultOf_of_metadata (ran : operator ≠ .skipped) (own : OperatorMetadata) :
    resultOf report (some own) (id, operator) = .ofMetadata operator own := by
  simp [resultOf, ran]

/-- The message of a refused launch is told if the operator has no metadata that can be read and was
not skipped.  Otherwise its metadata is told: its logs, and its error if it holds one.  In the
report of a run an operator whose launch was refused has failed with the message of the backend, so
if its metadata holds no error, the message is told exactly if there is no metadata. -/
theorem refusals_told (collected : collectOperators store paths report state = (results, left))
    (stored : report.operators.find? id = some operator)
    (refused : report.launchErrors.find? id = some message)
    (metadata_eq : metadata = paths.value? store (.metadata id) OperatorMetadata.ofJson?
      (store.fetch (operatorReads paths (report.operators.below id)) state)) :
    ∃ result, results.find? id = some result ∧
      (operator = .skipped → result = .failed OperatorResult.skippedMessage) ∧
      (operator ≠ .skipped → metadata = none → result = .failed message) ∧
      (operator ≠ .skipped → ∀ own, metadata = some own →
        result.logs = own.logs ∧ (own.error ≠ "" → result.message = own.error) ∧
          (own.error = "" → result.message =
            if operator = .succeeded then "" else OperatorResult.failedWithoutError)) ∧
      ∀ {ω : Type} (settings : RunSettings ω) (dag : Dag) (order : List Uuid)
        (written : RunPaths) (run : Uuid) (canceledAt : Option Nat) (world : ω)
        (ended : RunEnd ω RunReport), dag.executionOrder = .ok order →
        ended = dag.execute settings order written run canceledAt world →
        ended.conclusion = .result report →
          operator = .failed ∧ Refused ended.calls id message ∧
            ((∀ own, metadata = some own → own.error = "") →
              (result.message = message ↔ metadata = none)) := by
  have found := find?_collectOperators collected stored
  rw [← metadata_eq] at found
  refine ⟨_, found, fun skipped => ?skipped, fun ran absent => ?absent,
    fun ran own own_eq => ?own,
    fun settings dag order written run canceledAt world ended accepted ended_eq reported => ?run⟩
  case skipped => rw [resultOf, if_pos skipped]
  case absent => rw [absent, resultOf_refused refused ran]
  case own =>
    rw [own_eq, resultOf_of_metadata ran]
    exact ⟨OperatorResult.logs_ofMetadata, OperatorResult.message_ofMetadata_of_error,
      OperatorResult.message_ofMetadata_of_silent⟩
  case run =>
    obtain ⟨failed, said⟩ := Run.refused_of_report accepted ended_eq reported refused
    obtain rfl : operator = .failed := Option.some.inj (stored.symm.trans failed)
    have ran : OperatorState.failed ≠ .skipped := by decide
    refine ⟨rfl, said, fun silent => ⟨fun told => ?_, fun absent => ?_⟩⟩
    · obtain ⟨_, _, _, _, error, _, _, rfl⟩ := said
      cases metadata with
      | none => rfl
      | some own =>
          rw [resultOf_of_metadata ran,
            OperatorResult.message_ofMetadata_of_silent (silent own rfl)] at told
          exact absurd told.symm error.message_ne_failedWithoutError
    · rw [absent, resultOf_refused refused ran]
      rfl

/-- A single operator with one output. -/
private def lone : Dag :=
  .ofFunctions [(1, [], [101])]

/-- Jobs are played on a directory, and those of `lone` do as they are told. -/
private def playing (behaviour : Behaviour) : RunSettings (Rehearsal.Stage × Directory) where
  backend :=
    Rehearsal.backend ⟨.ofList [("", behaviour)], 1, 0, .ofList [("", [[49]])]⟩
      (some Directory.store)
  storage := .file ""
  secrets := .file ""
  pollInterval := .ofMillis 1
  timeout := none
  horizon := (Duration.ofMillis 9).nanos

/-- The metadata of `lone` goes into a file, but its output has a path that leads up. -/
private def strayPaths : RunPaths :=
  ⟨.ofList [(.ofNat 1, "meta")], .ofList [(.ofNat 101, "..")], .ofList [(.ofNat 101, "schema")]⟩

/-- The progress of `lone` when its operator could not be launched. -/
private def loneFailed : Progress :=
  ⟨[.ofNat 1], .build lone, .ofList [(.ofNat 1, .failed)]⟩

private theorem skipDescendants_lone : (loneFailed.skipDescendants (.ofNat 1)).2 = loneFailed := by
  have graph_eq : loneFailed.graph = .build lone := rfl
  have descendants_eq : (Graph.build lone).descendantsOf (.ofNat 1) = [] := by cbv
  simp only [Progress.skipDescendants, Progress.isSkippedBy, graph_eq, descendants_eq]
  rfl

/-- The launches of `lone` on a fresh directory. -/
private def loneLaunched (behaviour : Behaviour) :
    Except (Stopped (Rehearsal.Stage × Directory)) (Run (Rehearsal.Stage × Directory)) :=
  (Run.start [.ofNat 1] lone none (.empty, .fresh)).launchReady (playing behaviour) lone strayPaths
    .nil

private theorem execute_lone {behaviour : Behaviour} {final : Run (Rehearsal.Stage × Directory)}
    (launches : loneLaunched behaviour = .ok final) (progress_eq : final.progress = loneFailed) :
    lone.execute (playing behaviour) [.ofNat 1] strayPaths .nil none (.empty, .fresh) =
      final.conclude (.result (final.report .nil)) := by
  have finishes : Run.Finishes (playing behaviour) lone strayPaths .nil final 0 0
      (.start [.ofNat 1] lone none (.empty, .fresh)) :=
    .done launches (by rw [progress_eq]; rfl)
  rw [Dag.execute, finishes.cycle_eq]

private theorem report_lone {final : Run (Rehearsal.Stage × Directory)}
    (progress_eq : final.progress = loneFailed) :
    (final.report .nil).operators.find? (.ofNat 1) = some .failed ∧
      (final.report .nil).operators.below (.ofNat 1) = [] := by
  rw [Run.report, progress_eq]
  exact ⟨rfl, rfl⟩

/-- A job that is rejected leaves no metadata, so the rejection is told. -/
theorem refusals_told_rejected :
    ∃ ended report result,
      ended = lone.execute (playing (.reject "full")) [.ofNat 1] strayPaths .nil none
        (.empty, .fresh) ∧
      ended.conclusion = .result report ∧
      (collectOperators Directory.store strayPaths report ended.world.2).1.find? (.ofNat 1) =
        some result ∧
      result.message = (JobError.launchRejected
        "-00000000-0000-0000-0000-000000000001-00000000-0000-0000-0000-000000000000"
        "full").message := by
  obtain ⟨final, launches, progress_eq⟩ : ∃ final, loneLaunched (.reject "full") = .ok final ∧
      final.progress = (loneFailed.skipDescendants (.ofNat 1)).2 := ⟨_, rfl, rfl⟩
  rw [skipDescendants_lone] at progress_eq
  obtain ⟨stored, alone⟩ := report_lone progress_eq
  have refused : (Run.last (loneLaunched (.reject "full"))).launchErrors.find? (.ofNat 1) =
      some (JobError.launchRejected
        "-00000000-0000-0000-0000-000000000001-00000000-0000-0000-0000-000000000000"
        "full").message := by decide +kernel
  have unread : strayPaths.value? Directory.store (.metadata (.ofNat 1)) OperatorMetadata.ofJson?
      (Run.last (loneLaunched (.reject "full"))).world.2 = none := by decide +kernel
  rw [launches] at refused unread
  have accepted : lone.executionOrder = .ok [.ofNat 1] := by decide
  have execute_eq := execute_lone launches progress_eq
  obtain ⟨result, found, -, -, -, told⟩ :=
    refusals_told (rfl : collectOperators Directory.store strayPaths (final.report .nil)
      final.world.2 = _) stored refused rfl
  obtain ⟨-, -, told_iff⟩ := told _ _ _ _ _ _ _ _ accepted execute_eq.symm rfl
  rw [alone] at told_iff
  exact ⟨_, _, result, execute_eq.symm, rfl, found,
    (told_iff fun own own_eq => nomatch unread.symm.trans own_eq).2 unread⟩

/-- A job that has written its metadata before its output could not be written is refused, and the
reason is not told. -/
theorem refusal_untold :
    ∃ ended report,
      ended = lone.execute (playing .succeed) [.ofNat 1] strayPaths .nil none (.empty, .fresh) ∧
      ended.conclusion = .result report ∧
      report.launchErrors.find? (.ofNat 1) = some "job backend error: invalid blob path '..'" ∧
      (collectOperators Directory.store strayPaths report ended.world.2).1.find? (.ofNat 1) =
        some ⟨.failed, .ofList [("stdout", "ran ")], OperatorResult.failedWithoutError⟩ := by
  obtain ⟨final, launches, progress_eq⟩ : ∃ final, loneLaunched .succeed = .ok final ∧
      final.progress = (loneFailed.skipDescendants (.ofNat 1)).2 := ⟨_, rfl, rfl⟩
  rw [skipDescendants_lone] at progress_eq
  obtain ⟨stored, alone⟩ := report_lone progress_eq
  have refused : (Run.last (loneLaunched .succeed)).launchErrors.find? (.ofNat 1) =
      some "job backend error: invalid blob path '..'" := by decide +kernel
  have read : strayPaths.value? Directory.store (.metadata (.ofNat 1)) OperatorMetadata.ofJson?
      (Run.last (loneLaunched .succeed)).world.2 =
        some ⟨"", .ofList [("stdout", "ran ")]⟩ := by decide +kernel
  rw [launches] at refused read
  have found := find?_collectOperators (rfl : collectOperators Directory.store strayPaths
    (final.report .nil) final.world.2 = _) stored
  have told : strayPaths.value? Directory.store (.metadata (.ofNat 1)) OperatorMetadata.ofJson?
      (Directory.store.fetch (operatorReads strayPaths []) final.world.2) = _ := read
  rw [alone, told] at found
  exact ⟨_, _, (execute_lone launches progress_eq).symm, rfl, refused, found⟩

end Results
end Workflow
