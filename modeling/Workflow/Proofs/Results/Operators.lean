import Workflow.Proofs.Preview.Response
import Workflow.Proofs.Results.Blobs

/-!
# Reading operators back

Every operator of a run has a result, whatever can be read.  The metadata of an operator that was
not skipped is read once, and its result tells how the operator ended: it is a success only if the
job has succeeded and has left metadata without an error, and otherwise it says what went wrong.
-/

namespace Workflow

private theorem append_ne_empty {front : String} (front_ne : front ≠ "") (rest : String) :
    front ++ rest ≠ "" :=
  fun empty => front_ne (String.append_eq_empty_iff.1 empty).1

/-- A refusal always says something. -/
theorem JobError.message_ne_empty (error : JobError) : error.message ≠ "" := by
  cases error with
  | invalidConfig | backend => exact append_ne_empty (by decide) _
  | jobNotExist | jobAlreadyExists | canceled =>
      exact append_ne_empty (append_ne_empty (by decide) _) _
  | launchRejected => exact append_ne_empty (append_ne_empty (append_ne_empty (by decide) _) _) _

namespace OperatorResult

/-- A result tells how an operator in a state has ended, given what its metadata says. -/
structure Diagnoses (state : OperatorState) (metadata : Option OperatorMetadata)
    (result : OperatorResult) : Prop where
  /-- The operator has ended well or badly. -/
  ended : result.status = .succeeded ∨ result.status = .failed
  /-- It has ended well if its job has and its metadata can be read and holds no error. -/
  succeeded_iff : result.status = .succeeded ↔
    state = .succeeded ∧ ∃ own, metadata = some own ∧ own.error = ""
  /-- There is a message unless it has ended well. -/
  message_iff : result.message = "" ↔ result.status = .succeeded
  /-- The logs in the metadata of an operator that was not skipped are kept. -/
  logs (ran : state ≠ .skipped) (own : OperatorMetadata) (read : metadata = some own) :
    result.logs = own.logs
  /-- The error in the metadata of an operator that was not skipped is the message. -/
  message_of_error (ran : state ≠ .skipped) (own : OperatorMetadata) (read : metadata = some own)
    (error_ne : own.error ≠ "") : result.message = own.error

variable {state : OperatorState} {metadata : Option OperatorMetadata}

private theorem failed_diagnoses {message : String}
    (unconfirmed : state = .skipped ∨ metadata = none) (message_ne : message ≠ "") :
    (failed message).Diagnoses state metadata where
  ended := .inr rfl
  succeeded_iff := by rcases unconfirmed with rfl | rfl <;> simp [failed]
  message_iff := by simp [failed, message_ne]
  logs ran own read := by simp [read, ran] at unconfirmed
  message_of_error ran own read := by simp [read, ran] at unconfirmed

private theorem ofMetadata_diagnoses (own : OperatorMetadata) :
    (ofMetadata state own).Diagnoses state (some own) := by
  rw [ofMetadata]
  split_ifs with error_ne succeeded
  · exact ⟨.inr rfl, by simp [error_ne], by simp [error_ne], by simp, by simp⟩
  · exact ⟨.inl rfl, by simp_all, by simp, by simp, by simp_all⟩
  · have message_ne : failedWithoutError ≠ "" := by decide
    exact ⟨.inr rfl, by simp [succeeded], by simp [message_ne], by simp, by simp_all⟩

end OperatorResult

namespace Results

variable {σ : Type}

/-- The result of an operator of a run, given what its metadata says. -/
def resultOf (report : RunReport) (metadata : Option OperatorMetadata)
    (entry : Uuid × OperatorState) : OperatorResult :=
  if entry.2 = .skipped then .failed OperatorResult.skippedMessage
  else metadata.elim (.withoutMetadata (report.launchErrors.find? entry.1)) (.ofMetadata entry.2)

/-- The paths that are read for operators: those of the metadata of all that were not skipped. -/
def operatorReads (paths : RunPaths) (entries : List (Uuid × OperatorState)) : List String :=
  (operatorSources entries).filterMap paths.pathOf?

variable {store : Store σ} {paths : RunPaths} {report : RunReport} {state : σ}

private theorem resultOf_diagnoses (entry : Uuid × OperatorState)
    {metadata : Option OperatorMetadata}
    (spoken : ∀ message, report.launchErrors.find? entry.1 = some message → message ≠ "") :
    (resultOf report metadata entry).Diagnoses entry.2 metadata := by
  rw [resultOf]
  split_ifs with skipped
  · exact OperatorResult.failed_diagnoses (.inl skipped) (by decide)
  · cases metadata with
    | some own => exact OperatorResult.ofMetadata_diagnoses own
    | none =>
        refine OperatorResult.failed_diagnoses (.inr rfl) ?_
        cases refused : report.launchErrors.find? entry.1 with
        | none => decide
        | some message => exact spoken message refused

private theorem exists_of_mem_operatorReads {entries : List (Uuid × OperatorState)} {path : String}
    (member : path ∈ operatorReads paths entries) :
    ∃ id state, (id, state) ∈ entries ∧ state ≠ .skipped ∧
      paths.pathOf? (.metadata id) = some path := by
  obtain ⟨source, source_mem, found⟩ := List.mem_filterMap.1 member
  obtain ⟨id, state, entry_mem, ran, rfl⟩ := mem_operatorSources.1 source_mem
  exact ⟨id, state, entry_mem, ran, found⟩

theorem operatorReads_cons (entry : Uuid × OperatorState) (entries : List (Uuid × OperatorState)) :
    operatorReads paths (entry :: entries) =
      operatorReads paths [entry] ++ operatorReads paths entries := by
  simp [operatorReads, operatorSources]

theorem operatorReads_of_skipped (id : Uuid) : operatorReads paths [(id, .skipped)] = [] := rfl

theorem operatorReads_of_ran {entry : Uuid × OperatorState} (ran : entry.2 ≠ .skipped) :
    operatorReads paths [entry] = (paths.pathOf? (.metadata entry.1)).toList := by
  rw [operatorReads, operatorSources, List.flatMap_singleton]
  dsimp only
  rw [if_neg ran]
  cases found : paths.pathOf? (.metadata entry.1) <;> simp [found]

private theorem operatorResult_apply (store : Store σ) (paths : RunPaths) (report : RunReport)
    {entry : Uuid × OperatorState} (ran : entry.2 ≠ .skipped) (state : σ) :
    operatorResult store paths report entry.1 entry.2 state =
      (resultOf report
          (paths.value? store (.metadata entry.1) OperatorMetadata.ofJson? state) entry,
        store.fetch (operatorReads paths [entry]) state) := by
  rw [resultOf, if_neg ran, operatorReads_of_ran ran]
  cases found : paths.pathOf? (.metadata entry.1) with
  | none =>
      have unassigned : paths.operatorMetadataOf entry.1 = .error (.missingStoragePath entry.1) :=
        RunPaths.lookUp_of_eq_none found
      simp only [operatorResult, unassigned, RunPaths.value?, RunPaths.blob?, found]
      rfl
  | some path =>
      have assigned : paths.operatorMetadataOf entry.1 = .ok path :=
        RunPaths.lookUp_of_eq_some found
      obtain ⟨value_eq, left_eq⟩ :=
        RunPaths.readJson_of_pathOf? found store OperatorMetadata.ofJson? state
      rw [← value_eq, ← found, ← left_eq]
      simp only [operatorResult, assigned, bind, StateT.bind]
      obtain ⟨metadata, next⟩ := store.readJson OperatorMetadata.ofJson? path state
      cases metadata <;> rfl

theorem operatorEntries_cons (entry : Uuid × OperatorState) (entries : List (Uuid × OperatorState))
    (state : σ) {next : σ} (next_eq : next = store.fetch (operatorReads paths [entry]) state) :
    operatorEntries store paths report (entry :: entries) state =
      ((entry.1, resultOf report
          (paths.value? store (.metadata entry.1) OperatorMetadata.ofJson? state) entry) ::
          (operatorEntries store paths report entries next).1,
        (operatorEntries store paths report entries next).2) := by
  obtain ⟨id, operator⟩ := entry
  by_cases skipped : operator = .skipped
  · rw [skipped, operatorReads_of_skipped] at next_eq
    rw [next_eq, skipped]
    rfl
  · have ran : (id, operator).2 ≠ .skipped := skipped
    have own_eq := operatorResult_apply store paths report ran state
    rw [← next_eq] at own_eq
    simp only [operatorEntries, if_neg skipped, bind, StateT.bind, own_eq]
    rfl

/-- There is one result for each operator, and it is what is found when its turn comes. -/
theorem operatorEntries_apply (store : Store σ) (paths : RunPaths) (report : RunReport)
    (entries : List (Uuid × OperatorState)) (state : σ) :
    ∃ results,
      operatorEntries store paths report entries state =
        (results, store.fetch (operatorReads paths entries) state) ∧
      results.map Prod.fst = entries.map Prod.fst ∧
      Stepwise
        (fun before entry =>
          (entry.1, resultOf report
            (paths.value? store (.metadata entry.1) OperatorMetadata.ofJson?
              (store.fetch (operatorReads paths before) state)) entry) ∈ results)
        entries := by
  induction entries generalizing state with
  | nil => exact ⟨[], rfl, rfl, stepwise_nil⟩
  | cons entry entries ih =>
      obtain ⟨results, rest_eq, keys_eq, found⟩ :=
        ih (store.fetch (operatorReads paths [entry]) state)
      rw [operatorEntries_cons entry entries state rfl, rest_eq, operatorReads_cons entry entries,
        store.fetch_append]
      refine ⟨_, rfl, congrArg (entry.1 :: ·) keys_eq, stepwise_cons.2 ⟨List.mem_cons_self, ?_⟩⟩
      refine found.mono fun before other member => ?_
      rw [operatorReads_cons entry before, store.fetch_append]
      exact List.mem_cons_of_mem _ member

/-- Every operator of a run has a result, whatever the store does, and the result tells how the
operator has ended.  The metadata of each operator that was not skipped is read once, if it has a
path, in the order of the keys, and nothing else is read. -/
theorem collectOperators_diagnoses (store : Store σ) (paths : RunPaths) (report : RunReport)
    (state : σ)
    (spoken : ∀ id message, report.launchErrors.find? id = some message → message ≠ "")
    {results : Table Uuid OperatorResult} {left : Recorded σ}
    (collected : collectOperators store.recording paths report ⟨state, []⟩ = (results, left))
    {turn : Uuid → σ}
    (turn_eq : ∀ id,
      turn id = store.fetch (operatorReads paths (report.operators.below id)) state) :
    results.keys = report.operators.keys ∧
    (∀ id operator, report.operators.find? id = some operator →
      ∃ result, results.find? id = some result ∧
        result.Diagnoses operator
          (paths.value? store (.metadata id) OperatorMetadata.ofJson? (turn id))) ∧
    left.accesses =
      ((operatorReads paths report.operators.entries).map fun path => ⟨.get, path⟩) ∧
    (∀ access ∈ left.accesses, access.kind = .get ∧
      ∃ id operator, report.operators.find? id = some operator ∧ operator ≠ .skipped ∧
        paths.pathOf? (.metadata id) = some access.path) ∧
    ∀ error : JobError, error.message ≠ "" := by
  obtain ⟨entries, entries_eq, keys_eq, found⟩ :=
    operatorEntries_apply store.recording paths report report.operators.entries ⟨state, []⟩
  have results_eq := entries_ofList_of_keys keys_eq
  have parts : (Table.ofList entries,
      store.recording.fetch (operatorReads paths report.operators.entries) ⟨state, []⟩) =
        (results, left) := by
    rw [← collected]
    simp only [collectOperators, bind, StateT.bind, entries_eq]
    rfl
  obtain ⟨rfl, rfl⟩ := Prod.mk.inj parts
  have accesses_eq := store.notes_recording.fetch (operatorReads paths report.operators.entries)
    ⟨state, []⟩
  rw [List.nil_append] at accesses_eq
  refine ⟨?keys, ?results, accesses_eq, ?reads, JobError.message_ne_empty⟩
  case keys => rwa [Table.keys, results_eq]
  case results =>
    intro id operator stored
    have member := Table.stepwise_entries_iff.1 found id operator stored
    rw [← results_eq] at member
    refine ⟨_, Table.mem_entries_iff.1 member, ?_⟩
    have at_turn : (store.recording.fetch (operatorReads paths (report.operators.below id))
        ⟨state, []⟩).state = turn id := by rw [turn_eq, store.state_fetch_recording]
    rw [← at_turn]
    exact resultOf_diagnoses (id, operator) (spoken id)
  case reads =>
    intro access member
    rw [accesses_eq] at member
    obtain ⟨path, path_mem, rfl⟩ := List.mem_map.1 member
    obtain ⟨id, operator, stored, ran, path_eq⟩ := exists_of_mem_operatorReads path_mem
    exact ⟨rfl, id, operator, Table.mem_entries_iff.1 stored, ran, path_eq⟩

/-- Of four operators the second one reports an error though its job has succeeded, the third one
could not be launched, and the last one was skipped. -/
private def troubledReport : RunReport where
  run := .nil
  status := .failed
  operators :=
    .ofList
      [(.ofNat 1, .succeeded), (.ofNat 2, .succeeded), (.ofNat 3, .failed), (.ofNat 4, .skipped)]
  dispatchOrder := [.ofNat 1, .ofNat 2]
  launchErrors := .ofList [(.ofNat 3, "refused")]

/-- Paths of the metadata of all but the third operator. -/
private def troubledPaths : RunPaths where
  operatorMetadata := .ofList [(.ofNat 1, "first"), (.ofNat 2, "second"), (.ofNat 4, "last")]
  artifactContent := .empty
  artifactMetadata := .empty

/-- The metadata that was left. -/
private def troubledBlobs : Memory :=
  .ofList
    [("first", Utf8.encode "\x7b\x7d"), ("second", Utf8.encode "\x7b\"error\":\"boom\"\x7d"),
      ("last", Utf8.encode "\x7b\x7d")]

/-- Each of the four operators has a result, and the metadata of the skipped one is not read. -/
theorem collectOperators_diagnoses_troubled :
    ∃ results left,
      collectOperators Memory.store.recording troubledPaths troubledReport ⟨troubledBlobs, []⟩ =
        (results, left) ∧
      results = .ofList
        [(.ofNat 1, ⟨.succeeded, .empty, ""⟩), (.ofNat 2, .failed "boom"),
          (.ofNat 3, .failed "refused"), (.ofNat 4, .failed OperatorResult.skippedMessage)] ∧
      left.accesses = [⟨.get, "first"⟩, ⟨.get, "second"⟩] ∧
      results.keys = troubledReport.operators.keys ∧
      ∀ access ∈ left.accesses, ∃ id operator,
        troubledReport.operators.find? id = some operator ∧ operator ≠ .skipped ∧
          troubledPaths.pathOf? (.metadata id) = some access.path := by
  have spoken (id : Uuid) (message : String)
      (refused : troubledReport.launchErrors.find? id = some message) : message ≠ "" := by
    have listed : message ∈ troubledReport.launchErrors.values :=
      Table.mem_values_iff.2 ⟨id, refused⟩
    obtain rfl : message = "refused" := List.mem_singleton.1 listed
    decide
  obtain ⟨keys_eq, _, _, reads, _⟩ := collectOperators_diagnoses Memory.store troubledPaths
    troubledReport troubledBlobs spoken rfl fun _ => rfl
  exact ⟨_, _, rfl, by decide +kernel, by decide +kernel, keys_eq,
    fun access member => (reads access member).2⟩

end Results
end Workflow
