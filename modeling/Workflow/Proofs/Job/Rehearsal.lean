import Workflow.Job.Rehearsal
import Workflow.Proofs.Storage.Sweep
import Workflow.Proofs.Uuid
import Workflow.Storage.Memory

/-!
# Jobs that are played

What a rehearsal does to its stage and to blobs in memory comes down to two look-ups: how the job of
a name ends, and which blob is at a path.  A launch changes them for its own job alone, and a poll
changes neither.
-/

namespace Workflow

/-! ### Names of jobs -/

theorem Uuid.length_toString (id : Uuid) : id.toString.toList.length = 36 := by
  have enough : (Text.hexDigits 32 id.value.val).length = groupLengths.sum :=
    Text.length_hexDigits _ _
  rw [toString, String.toList_ofList, length_hyphenate enough]
  rfl

/-- The name of a job tells its operator and its run. -/
theorem jobName_injective {operator other : Operator} {run later : Uuid}
    (same : jobName operator run = jobName other later) : operator.id = other.id ∧ run = later := by
  have chars := congrArg String.toList same
  simp only [jobName, String.toList_append] at chars
  have run_length : run.toString.toList.length = later.toString.toList.length := by
    rw [Uuid.length_toString, Uuid.length_toString]
  obtain ⟨front, run_eq⟩ := List.append_inj' chars run_length
  have operator_length :
      operator.id.toString.toList.length = other.id.toString.toList.length := by
    rw [Uuid.length_toString, Uuid.length_toString]
  obtain ⟨front, -⟩ := List.append_inj' front rfl
  obtain ⟨-, operator_eq⟩ := List.append_inj' front operator_length
  exact ⟨Uuid.toString_injective (String.toList_inj.1 operator_eq),
    Uuid.toString_injective (String.toList_inj.1 run_eq)⟩

namespace Rehearsal

/-! ### The stage -/

/-- How the job of a name ends, if it was accepted. -/
def Stage.outcome? (stage : Stage) (name : String) : Option Status :=
  (stage.jobs.find? name).map Job.outcome

theorem Stage.outcome?_accept (stage : Stage) (spec : JobSpec) (outcome : Status) (name : String) :
    (stage.accept spec outcome).outcome? name =
      if name = spec.name then some outcome else stage.outcome? name := by
  unfold outcome? accept
  dsimp only
  rw [Table.find?_insert]
  split_ifs <;> rfl

variable {rehearsal : Rehearsal}

theorem outcome?_poll (rehearsal : Rehearsal) (name : String) (stage : Stage) (other : String) :
    (rehearsal.poll false name stage).2.outcome? other = stage.outcome? other := by
  unfold poll
  rw [if_neg (by decide)]
  cases job_eq : stage.jobs.find? name with
  | none => rfl
  | some job =>
      unfold Stage.outcome?
      dsimp only
      rw [Table.find?_insert]
      split_ifs with same
      · rw [same, job_eq]
        rfl
      · rfl

/-- How many polls a job takes, those that fail included. -/
def pollsPerJob (rehearsal : Rehearsal) : Nat :=
  rehearsal.pollFailures + max rehearsal.pollsUntilDone 1

theorem pollsPerJob_pos (rehearsal : Rehearsal) : 0 < rehearsal.pollsPerJob := by
  unfold pollsPerJob
  omega

theorem answer_of_lt {polls : Nat} (early : polls < rehearsal.pollsPerJob) (name : String)
    (job : Job) :
    (∃ error, rehearsal.answer name job polls = .error error) ∨
      rehearsal.answer name job polls = .ok .running := by
  unfold pollsPerJob at early
  unfold answer
  split_ifs
  · exact .inl ⟨_, rfl⟩
  · exact .inr rfl
  · omega

/-- The last poll of a job tells how it ends. -/
theorem answer_pollsPerJob (rehearsal : Rehearsal) (name : String) (job : Job) :
    rehearsal.answer name job rehearsal.pollsPerJob = .ok job.outcome := by
  unfold answer pollsPerJob
  rw [if_neg (by omega), if_neg (by omega)]

/-- The stage with a job under a name. -/
def Stage.update (stage : Stage) (name : String) (job : Job) : Stage :=
  { stage with jobs := stage.jobs.insert name job }

theorem Stage.find?_update (stage : Stage) (name other : String) (job : Job) :
    (stage.update name job).jobs.find? other =
      if other = name then some job else stage.jobs.find? other :=
  Table.find?_insert ..

/-- A poll of an accepted job is answered by its number. -/
theorem poll_of_accepted {name : String} {stage : Stage} {job : Job}
    (found : stage.jobs.find? name = some job) :
    rehearsal.poll false name stage =
      (rehearsal.answer name job (job.polls + 1),
        stage.update name { job with polls := job.polls + 1 }) := by
  unfold poll
  rw [if_neg (by decide), found]
  rfl

/-- A poll counts for a job that is known unless the run is canceled, and else it changes
nothing. -/
theorem poll_cases (rehearsal : Rehearsal) (canceled : Bool) (name : String) (stage : Stage) :
    (canceled = true ∧
        rehearsal.poll canceled name stage = (.error (.canceled name), stage)) ∨
      (canceled = false ∧ stage.jobs.find? name = none ∧
        rehearsal.poll canceled name stage = (.error (.jobNotExist name), stage)) ∨
      (canceled = false ∧ ∃ job, stage.jobs.find? name = some job ∧
        rehearsal.poll canceled name stage =
          (rehearsal.answer name job (job.polls + 1),
            stage.update name { job with polls := job.polls + 1 })) := by
  cases canceled with
  | true => exact .inl ⟨rfl, rfl⟩
  | false =>
      cases found : stage.jobs.find? name with
      | none => exact .inr (.inl ⟨rfl, rfl, by simp [poll, found]⟩)
      | some job => exact .inr (.inr ⟨rfl, job, rfl, poll_of_accepted found⟩)

theorem poll_eq_ok {name : String} {stage : Stage} {outcome status : Status}
    (played : stage.outcome? name = some outcome)
    (answer_eq : (rehearsal.poll false name stage).1 = .ok status) :
    status = .running ∨ status = outcome := by
  obtain ⟨job, job_eq, rfl⟩ := Option.map_eq_some_iff.1 played
  unfold poll at answer_eq
  rw [if_neg (by decide), job_eq] at answer_eq
  dsimp only at answer_eq
  unfold answer at answer_eq
  split_ifs at answer_eq
  · exact .inl (Except.ok.inj answer_eq).symm
  · exact .inr (Except.ok.inj answer_eq).symm

/-! ### Blobs -/

private theorem putEach_memory_cons (path : String) (content : Bytes)
    (blobs : List (String × Bytes)) (memory : Memory) :
    Memory.store.putEach ((path, content) :: blobs) memory =
      Memory.store.putEach blobs (memory.insert path content) :=
  rfl

theorem putAll_memory (blobs : List (String × Bytes)) (memory : Memory) :
    Memory.store.putAll blobs memory = (.ok (), Memory.store.putEach blobs memory) := by
  induction blobs generalizing memory with
  | nil => rfl
  | cons blob blobs ih => exact ih _

private theorem sameOutside_putEach (blobs : List (String × Bytes)) (memory : Memory) :
    memory.SameOutside (blobs.map Prod.fst) (Memory.store.putEach blobs memory) := by
  induction blobs generalizing memory with
  | nil => exact fun _ _ => rfl
  | cons blob blobs ih =>
      intro path outside
      obtain ⟨path_ne, outside⟩ := not_or.1 (mt List.mem_cons.2 outside)
      rw [putEach_memory_cons, ih _ path outside, Table.find?_insert, if_neg path_ne]

/-- The metadata that the job of a specification writes. -/
def metadataFor (rehearsal : Rehearsal) (spec : JobSpec) : Bytes :=
  Utf8.encode (metadataOf (rehearsal.behaviourOf spec.operatorName) spec.operatorName).print

private theorem exists_blobsOf (rehearsal : Rehearsal) (spec : JobSpec) :
    ∃ outputs, rehearsal.blobsOf spec = (spec.metadataPath, rehearsal.metadataFor spec) :: outputs ∧
      outputs.map Prod.fst ⊆ spec.outputContentPaths := by
  refine ⟨_, rfl, fun path member => ?_⟩
  obtain ⟨⟨_, content⟩, output, rfl⟩ := List.mem_map.1 member
  split at output
  · exact (List.of_mem_zip output).1
  · exact nomatch output

/-- A job has written its metadata, and at most its outputs beside it. -/
structure Wrote (rehearsal : Rehearsal) (spec : JobSpec) (before after : Memory) : Prop where
  /-- The other blobs are the same. -/
  outside : before.SameOutside (spec.metadataPath :: spec.outputContentPaths) after
  /-- The metadata is where it should be. -/
  metadata : spec.metadataPath ∉ spec.outputContentPaths →
    after.find? spec.metadataPath = some (rehearsal.metadataFor spec)

private theorem wrote_putEach (rehearsal : Rehearsal) (spec : JobSpec) (memory : Memory) :
    rehearsal.Wrote spec memory (Memory.store.putEach (rehearsal.blobsOf spec) memory) := by
  obtain ⟨outputs, blobs_eq, outputs_subset⟩ := rehearsal.exists_blobsOf spec
  rw [blobs_eq]
  refine ⟨?_, fun apart => ?_⟩
  · exact (sameOutside_putEach _ memory).mono (List.cons_subset_cons _ outputs_subset)
  · have kept := sameOutside_putEach outputs
      (memory.insert spec.metadataPath (rehearsal.metadataFor spec)) spec.metadataPath
      (mt (@outputs_subset _) apart)
    rw [putEach_memory_cons, kept, Table.find?_insert, if_pos rfl]

theorem writeResults_memory (rehearsal : Rehearsal) (spec : JobSpec) (memory : Memory) :
    rehearsal.writeResults (some Memory.store) spec memory =
      (.ok (), Memory.store.putEach (rehearsal.blobsOf spec) memory) := by
  simp only [writeResults, bind, StateT.bind, putAll_memory]
  rfl

/-! ### Stores that can be written -/

section Writable

variable {σ : Type} {store : Option (Store σ)} {paths : List String} {state : σ}

/-- The store of a backend, if it has one, takes whatever is put at some paths. -/
def Writable (store : Option (Store σ)) (paths : List String) (state : σ) : Prop :=
  ∀ given ∈ store, ∀ blobs : List (String × Bytes), blobs.map Prod.fst ⊆ paths →
    (given.putAll blobs state).1 = .ok ()

theorem writable_memory (paths : List String) (memory : Memory) :
    Writable (some Memory.store) paths memory := by
  rintro _ ⟨⟩ blobs _
  rw [putAll_memory]

theorem putAll_append {given : Store σ} {first : List (String × Bytes)}
    (done : (given.putAll first state).1 = .ok ()) (second : List (String × Bytes)) :
    given.putAll (first ++ second) state = given.putAll second (given.putAll first state).2 := by
  induction first generalizing state with
  | nil => rfl
  | cons blob first ih =>
      simp only [List.cons_append, Store.putAll, bind, StateT.bind] at done ⊢
      rcases put_eq : given.put blob.1 blob.2 state with ⟨_ | _, next⟩
      · rw [put_eq] at done
        exact nomatch done
      · rw [put_eq] at done
        exact ih done

/-- What a job writes can be written, and then the store takes as much as before. -/
theorem Writable.writeResults (writable : Writable store paths state) (rehearsal : Rehearsal)
    {spec : JobSpec} (subset : spec.metadataPath :: spec.outputContentPaths ⊆ paths) :
    (rehearsal.writeResults store spec state).1 = .ok () ∧
      Writable store paths (rehearsal.writeResults store spec state).2 := by
  cases store with
  | none => exact ⟨rfl, nofun⟩
  | some given =>
      obtain ⟨outputs, blobs_eq, outputs_subset⟩ := rehearsal.exists_blobsOf spec
      have within : (rehearsal.blobsOf spec).map Prod.fst ⊆ paths := by
        rw [blobs_eq]
        exact List.Subset.trans (List.cons_subset_cons _ outputs_subset) subset
      have written := writable given rfl _ within
      have results_eq : rehearsal.writeResults (some given) spec state =
          (.ok (), (given.putAll (rehearsal.blobsOf spec) state).2) := by
        simp only [Rehearsal.writeResults, bind, StateT.bind]
        rcases put_eq : given.putAll (rehearsal.blobsOf spec) state with ⟨result, next⟩
        rw [put_eq] at written
        obtain rfl : result = .ok () := written
        rfl
      rw [results_eq]
      refine ⟨rfl, ?_⟩
      rintro _ ⟨⟩ blobs blobs_subset
      rw [← putAll_append written]
      refine writable given rfl _ ?_
      rw [List.map_append]
      exact List.append_subset.2 ⟨within, blobs_subset⟩

end Writable

/-! ### Launches -/

theorem launch_of_reject {σ : Type} {store : Option (Store σ)} {spec : JobSpec} {message : String}
    (rejects : rehearsal.behaviourOf spec.operatorName = .reject message) (world : Stage × σ) :
    rehearsal.launch store false spec world =
      (.error (.launchRejected spec.name message), world) := by
  unfold launch
  dsimp only
  rw [if_neg (by decide), rejects]
  rfl

/-- A job that is not rejected is accepted if its name is new, and then writes its results. -/
theorem launch_of_new {σ : Type} {store : Option (Store σ)} {spec : JobSpec} {outcome : Status}
    {world : Stage × σ}
    (accepts : outcomeOf (rehearsal.behaviourOf spec.operatorName) = .ok outcome)
    (new : world.1.jobs.find? spec.name = none) :
    rehearsal.launch store false spec world =
      ((rehearsal.writeResults store spec world.2).1,
        (world.1.accept spec outcome, (rehearsal.writeResults store spec world.2).2)) := by
  have absent : world.1.jobs.contains spec.name = false := by
    rw [Table.contains, new]
    rfl
  unfold launch
  dsimp only
  rw [if_neg (by decide), accepts]
  dsimp only
  rw [if_neg (by simp [absent])]
  rfl

theorem launch_of_writable {σ : Type} {store : Option (Store σ)} {paths : List String}
    {spec : JobSpec} {outcome : Status} {world : Stage × σ}
    (accepts : outcomeOf (rehearsal.behaviourOf spec.operatorName) = .ok outcome)
    (new : world.1.jobs.find? spec.name = none) (writable : Writable store paths world.2)
    (subset : spec.metadataPath :: spec.outputContentPaths ⊆ paths) :
    ∃ after, rehearsal.launch store false spec world =
      (.ok (), (world.1.accept spec outcome, after)) ∧ Writable store paths after := by
  obtain ⟨written, still_writable⟩ := writable.writeResults rehearsal subset
  refine ⟨_, ?_, still_writable⟩
  rw [launch_of_new accepts new, written]

/-- A job that is not rejected is accepted if its name is new, and writes its blobs. -/
theorem launch_of_accept {spec : JobSpec} {outcome : Status} {world : Stage × Memory}
    (accepts : outcomeOf (rehearsal.behaviourOf spec.operatorName) = .ok outcome)
    (unknown : world.1.outcome? spec.name = none) :
    ∃ after, rehearsal.launch (some Memory.store) false spec world =
      (.ok (), (world.1.accept spec outcome, after)) ∧ rehearsal.Wrote spec world.2 after := by
  refine ⟨_, ?_, rehearsal.wrote_putEach spec world.2⟩
  rw [launch_of_new accepts (Option.map_eq_none_iff.1 unknown), writeResults_memory]

end Rehearsal
end Workflow
