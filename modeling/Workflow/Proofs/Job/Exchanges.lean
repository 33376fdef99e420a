import Workflow.Proofs.Job.Rehearsal

/-!
# What a rehearsal records of its launches

A launch is turned down, and then nothing changes, or its job is accepted and writes its results.
The second outcome comes in two kinds, because writing may fail: then the launch fails although its
job stays on the stage.  `launches_recorded` says for every sequence of calls that exactly the
accepted jobs are counted and listed, and that a launch which was turned down may be left out while
every other answer stays.  Whenever all results can be written, the accepted jobs are those of the
launches that succeeded.
-/

namespace Workflow
namespace Rehearsal

/-! ### Calls and their answers -/

/-- What a rehearsal can be asked. -/
inductive Request
  /-- To launch a job, in a run that may have been canceled. -/
  | launch (canceled : Bool) (spec : JobSpec)
  /-- For the status of a job, in a run that may have been canceled. -/
  | poll (canceled : Bool) (name : String)
  /-- How often the jobs of an operator were polled. -/
  | pollCount (operatorName : String)
  /-- How many launches were accepted. -/
  | launchCount
  /-- Whose jobs were accepted. -/
  | launchedOperators
  deriving DecidableEq

/-- What a rehearsal answers. -/
inductive Reply
  /-- Whether a job was launched. -/
  | launch (result : Except JobError Unit)
  /-- The status of a job. -/
  | poll (result : Except JobError Status)
  /-- A number of polls or of launches. -/
  | count (number : Nat)
  /-- Names of operators. -/
  | names (operatorNames : List String)
  deriving DecidableEq

/-- A call together with its answer. -/
abbrev Exchange :=
  Request × Reply

/-- The job that a call launched. -/
def Exchange.launched? : Exchange → Option JobSpec
  | (.launch _ spec, .launch (.ok ())) => some spec
  | _ => none

/-- The job that a call brought onto the stage without its results being written. -/
def Exchange.spoiled? : Exchange → Option JobSpec
  | (.launch _ spec, .launch (.error (.backend _))) => some spec
  | _ => none

/-- The job that a call brought onto the stage. -/
def Exchange.accepted? (exchange : Exchange) : Option JobSpec :=
  exchange.launched?.or exchange.spoiled?

variable {σ : Type} (rehearsal : Rehearsal) (store : Option (Store σ))

/-- The answer to a call. -/
def reply : Request → StateM (Stage × σ) Reply
  | .launch canceled spec => return .launch (← rehearsal.launch store canceled spec)
  | .poll canceled name => fun (stage, state) =>
      let (result, next) := rehearsal.poll canceled name stage
      (.poll result, (next, state))
  | .pollCount operatorName => fun world => (.count (world.1.pollCount operatorName), world)
  | .launchCount => fun world => (.count world.1.launchCount, world)
  | .launchedOperators => fun world => (.names world.1.launchedOperators, world)

/-- Calls made one after the other, with their answers. -/
def exchanges (requests : List Request) : StateM (Stage × σ) (List Exchange) :=
  requests.mapM fun request => return (request, ← rehearsal.reply store request)

variable (world : Stage × σ)

theorem reply_launch (canceled : Bool) (spec : JobSpec) :
    rehearsal.reply store (.launch canceled spec) world =
      (.launch (rehearsal.launch store canceled spec world).1,
        (rehearsal.launch store canceled spec world).2) := rfl

theorem exchanges_cons (request : Request) (requests : List Request) :
    rehearsal.exchanges store (request :: requests) world =
      ((request, (rehearsal.reply store request world).1) ::
          (rehearsal.exchanges store requests (rehearsal.reply store request world).2).1,
        (rehearsal.exchanges store requests (rehearsal.reply store request world).2).2) := by
  rw [exchanges, List.mapM_cons]
  rfl

theorem exchanges_append (first second : List Request) :
    rehearsal.exchanges store (first ++ second) world =
      ((rehearsal.exchanges store first world).1 ++
          (rehearsal.exchanges store second (rehearsal.exchanges store first world).2).1,
        (rehearsal.exchanges store second (rehearsal.exchanges store first world).2).2) := by
  rw [exchanges, List.mapM_append]
  rfl

theorem map_fst_exchanges (requests : List Request) :
    (rehearsal.exchanges store requests world).1.map Prod.fst = requests := by
  induction requests generalizing world with
  | nil => rfl
  | cons request requests ih => rw [exchanges_cons, List.map_cons, ih]

/-! ### One launch -/

/-- Writing results fails in one way. -/
theorem writeResults_cases (spec : JobSpec) (state : σ) :
    (rehearsal.writeResults store spec state).1 = .ok () ∨
      ∃ message, (rehearsal.writeResults store spec state).1 = .error (.backend message) := by
  cases store with
  | none => exact .inl rfl
  | some given =>
      simp only [writeResults, bind, StateT.bind]
      rcases given.putAll (rehearsal.blobsOf spec) state with ⟨failure | _, next⟩
      · exact .inr ⟨_, rfl⟩
      · exact .inl rfl

/-- A job is turned down, and then nothing changes, or it is accepted under a new name and writes
its results. -/
theorem launch_cases (canceled : Bool) (spec : JobSpec) :
    (∃ error, (∀ message, error ≠ .backend message) ∧
        rehearsal.launch store canceled spec world = (.error error, world)) ∨
      (world.1.jobs.find? spec.name = none ∧ ∃ outcome,
        outcomeOf (rehearsal.behaviourOf spec.operatorName) = .ok outcome ∧
          rehearsal.launch store canceled spec world =
            ((rehearsal.writeResults store spec world.2).1,
              (world.1.accept spec outcome, (rehearsal.writeResults store spec world.2).2))) := by
  cases canceled with
  | true => exact .inl ⟨.canceled spec.name, nofun, rfl⟩
  | false =>
      cases outcome_eq : outcomeOf (rehearsal.behaviourOf spec.operatorName) with
      | error message =>
          refine .inl ⟨.launchRejected spec.name message, nofun, ?_⟩
          simp only [launch, outcome_eq]
          rfl
      | ok outcome =>
          cases job_eq : world.1.jobs.find? spec.name with
          | none => exact .inr ⟨rfl, outcome, rfl, launch_of_new outcome_eq job_eq⟩
          | some job =>
              refine .inl ⟨.jobAlreadyExists spec.name, nofun, ?_⟩
              simp only [launch, outcome_eq, Table.contains, job_eq]
              rfl

variable {rehearsal store world}

private theorem launch_of_turnedDown {canceled : Bool} {spec : JobSpec} {error : JobError}
    (failed : (rehearsal.launch store canceled spec world).1 = .error error)
    (turned_down : ∀ message, error ≠ .backend message) :
    (rehearsal.launch store canceled spec world).2 = world := by
  rcases rehearsal.launch_cases store world canceled spec with
    ⟨_, -, launch_eq⟩ | ⟨-, outcome, -, launch_eq⟩
  · rw [launch_eq]
  · rw [launch_eq] at failed
    rcases rehearsal.writeResults_cases store spec world.2 with written | ⟨message, spoiled⟩
    · exact nomatch written.symm.trans failed
    · exact absurd (Except.error.inj (spoiled.symm.trans failed)).symm (turned_down message)

/-! ### The record of a stage -/

/-- The jobs that a stage has accepted, first one first. -/
structure Records (stage : Stage) (specs : List JobSpec) : Prop where
  /-- Their names are listed in this order. -/
  launched_eq : stage.launched = specs.map JobSpec.name
  /-- Each is kept with the name of its operator. -/
  job : ∀ spec ∈ specs,
    (stage.jobs.find? spec.name).map Job.operatorName = some spec.operatorName

theorem records_empty : Records .empty [] :=
  ⟨rfl, List.forall_mem_nil _⟩

namespace Records

variable {stage : Stage} {specs : List JobSpec}

theorem launchCount_eq (records : Records stage specs) : stage.launchCount = specs.length := by
  rw [Stage.launchCount, records.launched_eq, List.length_map]

theorem launchedOperators_eq (records : Records stage specs) :
    stage.launchedOperators = specs.map JobSpec.operatorName := by
  rw [Stage.launchedOperators, records.launched_eq, List.filterMap_map, ← List.filterMap_eq_map]
  exact List.filterMap_congr fun spec member => records.job spec member

private theorem accept (records : Records stage specs) {spec : JobSpec}
    (new : stage.jobs.find? spec.name = none) (outcome : Status) :
    Records (stage.accept spec outcome) (specs ++ [spec]) := by
  refine ⟨?_, fun other member => ?_⟩
  · rw [List.map_append, ← records.launched_eq]
    rfl
  · dsimp only [Stage.accept]
    rw [Table.find?_insert]
    rcases List.mem_append.1 member with earlier | last
    · have found := records.job other earlier
      have name_ne : other.name ≠ spec.name := fun same => by
        rw [same, new] at found
        exact nomatch found
      rw [if_neg name_ne]
      exact found
    · rw [List.mem_singleton.1 last, if_pos rfl]
      rfl

private theorem poll (records : Records stage specs) (rehearsal : Rehearsal) (canceled : Bool)
    (name : String) : Records (rehearsal.poll canceled name stage).2 specs := by
  rcases rehearsal.poll_cases canceled name stage with
    ⟨-, poll_eq⟩ | ⟨-, -, poll_eq⟩ | ⟨-, job, job_eq, poll_eq⟩
  · rw [poll_eq]
    exact records
  · rw [poll_eq]
    exact records
  · rw [poll_eq]
    refine ⟨records.launched_eq, fun spec member => ?_⟩
    have found := records.job spec member
    rw [Stage.find?_update]
    split_ifs with same
    · rw [same, job_eq] at found
      exact found
    · exact found

private theorem reply (records : Records world.1 specs) (rehearsal : Rehearsal)
    (store : Option (Store σ)) (request : Request) :
    Records (rehearsal.reply store request world).2.1
      (specs ++
        (Exchange.accepted? (request, (rehearsal.reply store request world).1)).toList) := by
  have kept : Records world.1 (specs ++ []) := (List.append_nil specs).symm ▸ records
  cases request with
  | launch canceled spec =>
      rw [reply_launch]
      rcases rehearsal.launch_cases store world canceled spec with
        ⟨error, turned_down, launch_eq⟩ | ⟨new, outcome, -, launch_eq⟩
      · rw [launch_eq]
        cases error with
        | backend message => exact absurd rfl (turned_down message)
        | _ => exact kept
      · rw [launch_eq]
        rcases rehearsal.writeResults_cases store spec world.2 with written | ⟨message, spoiled⟩
        · rw [written]
          exact records.accept new outcome
        · rw [spoiled]
          exact records.accept new outcome
  | poll canceled name => exact (List.append_nil specs).symm ▸ records.poll rehearsal canceled name
  | _ => exact kept

/-- Calls add the jobs that they bring onto the stage, in order. -/
theorem exchanges (records : Records world.1 specs) (rehearsal : Rehearsal)
    (store : Option (Store σ)) (requests : List Request) :
    Records (rehearsal.exchanges store requests world).2.1
      (specs ++
        (rehearsal.exchanges store requests world).1.filterMap Exchange.accepted?) := by
  induction requests generalizing world specs with
  | nil => exact (List.append_nil specs).symm ▸ records
  | cons request requests ih =>
      have rest := ih (records.reply rehearsal store request)
      rw [List.append_assoc] at rest
      rw [exchanges_cons, List.filterMap_eq_flatMap_toList, List.flatMap_cons,
        ← List.filterMap_eq_flatMap_toList]
      exact rest

end Records

/-! ### All calls -/

/-- Each answer is given on the stage that the calls before it have left. -/
theorem exists_world_of_exchanges {requests : List Request} {first second : List Exchange}
    {request : Request} {answer : Reply}
    (exchanges_eq : (rehearsal.exchanges store requests world).1 =
      first ++ (request, answer) :: second) :
    ∃ middle, rehearsal.exchanges store (first.map Prod.fst) world = (first, middle) ∧
      (rehearsal.reply store request middle).1 = answer ∧
      rehearsal.exchanges store (second.map Prod.fst) (rehearsal.reply store request middle).2 =
        (second, (rehearsal.exchanges store requests world).2) := by
  have requests_eq := rehearsal.map_fst_exchanges store world requests
  rw [exchanges_eq, List.map_append, List.map_cons] at requests_eq
  subst requests_eq
  rw [exchanges_append, exchanges_cons] at exchanges_eq ⊢
  obtain ⟨first_eq, later_eq⟩ := List.append_inj exchanges_eq
    (by rw [← List.length_map Prod.fst, map_fst_exchanges, List.length_map])
  obtain ⟨head_eq, second_eq⟩ := List.cons.inj later_eq
  exact ⟨_, Prod.ext first_eq rfl, congrArg Prod.snd head_eq, Prod.ext second_eq rfl⟩

/-- A launch that was turned down may be left out: the other answers stay, and so does what the
calls leave behind. -/
theorem exchanges_without {requests : List Request} {first second : List Exchange}
    {canceled : Bool} {spec : JobSpec} {error : JobError}
    (exchanges_eq : (rehearsal.exchanges store requests world).1 =
      first ++ (.launch canceled spec, .launch (.error error)) :: second)
    (turned_down : ∀ message, error ≠ .backend message) :
    rehearsal.exchanges store ((first ++ second).map Prod.fst) world =
      (first ++ second, (rehearsal.exchanges store requests world).2) := by
  obtain ⟨middle, first_eq, answer_eq, second_eq⟩ := exists_world_of_exchanges exchanges_eq
  rw [reply_launch] at answer_eq second_eq
  rw [launch_of_turnedDown (Reply.launch.inj answer_eq) turned_down] at second_eq
  rw [List.map_append, exchanges_append, first_eq, second_eq]

private theorem length_filterMap_accepted? (exchanges : List Exchange) :
    (exchanges.filterMap Exchange.accepted?).length =
      (exchanges.filterMap Exchange.launched?).length +
        (exchanges.filterMap Exchange.spoiled?).length := by
  induction exchanges with
  | nil => rfl
  | cons exchange exchanges ih =>
      have apart : exchange.launched? = none ∨ exchange.spoiled? = none := by
        unfold Exchange.launched? Exchange.spoiled?
        split <;> simp
      simp only [List.filterMap_cons, Exchange.accepted?]
      cases launched_eq : exchange.launched? <;> cases spoiled_eq : exchange.spoiled? <;>
        simp_all <;> omega

/-- If nothing was spoiled, whatever was brought onto the stage was launched. -/
theorem filterMap_accepted?_eq {exchanges : List Exchange}
    (unspoiled : exchanges.filterMap Exchange.spoiled? = []) :
    exchanges.filterMap Exchange.accepted? = exchanges.filterMap Exchange.launched? := by
  refine List.filterMap_congr fun exchange member => ?_
  rw [Exchange.accepted?, List.filterMap_eq_nil_iff.1 unspoiled exchange member, Option.or_none]

/-- The launches that are counted are those that succeeded and those that failed because results
could not be written, and the operators that are listed are theirs, in order.  If none failed in
this way, only launches that succeeded are counted and listed.  A launch that failed in another way
may be left out: no other answer changes, neither before nor after it. -/
theorem launches_recorded (rehearsal : Rehearsal) (store : Option (Store σ)) (state : σ)
    (requests : List Request) {exchanges : List Exchange} {stage : Stage} {after : σ}
    (run : rehearsal.exchanges store requests (.empty, state) = (exchanges, (stage, after))) :
    stage.launchCount =
        (exchanges.filterMap Exchange.launched?).length +
          (exchanges.filterMap Exchange.spoiled?).length ∧
      stage.launchedOperators =
        (exchanges.filterMap Exchange.accepted?).map JobSpec.operatorName ∧
      (exchanges.filterMap Exchange.spoiled? = [] →
        stage.launchCount = (exchanges.filterMap Exchange.launched?).length ∧
          stage.launchedOperators =
            (exchanges.filterMap Exchange.launched?).map JobSpec.operatorName) ∧
      ∀ first canceled spec error second,
        exchanges = first ++ (.launch canceled spec, .launch (.error error)) :: second →
        (∀ message, error ≠ .backend message) →
        rehearsal.exchanges store ((first ++ second).map Prod.fst) (.empty, state) =
          (first ++ second, (stage, after)) := by
  have records : Records (rehearsal.exchanges store requests (.empty, state)).2.1 _ :=
    records_empty.exchanges rehearsal store requests
  rw [run, List.nil_append] at records
  have count_eq := records.launchCount_eq
  have operators_eq := records.launchedOperators_eq
  refine ⟨count_eq.trans (length_filterMap_accepted? exchanges), operators_eq, fun unspoiled => ?_,
    fun first canceled spec error second exchanges_eq turned_down => ?_⟩
  · rw [← filterMap_accepted?_eq unspoiled]
    exact ⟨count_eq, operators_eq⟩
  · rw [exchanges_without ((congrArg Prod.fst run).trans exchanges_eq) turned_down, run]

/-- A job of an operator that keeps its metadata under one path. -/
def plainSpec (name operatorName : String) : JobSpec where
  name := name
  operator := .nil
  operatorName := operatorName
  task := .null
  storage := .file "storage"
  secrets := .file "secrets"
  backend := config
  metadataPath := "meta"
  inputContentPaths := []
  inputMetadataPaths := []
  outputContentPaths := []
  outputMetadataPaths := []

/-- A second launch under the name of a job that runs may be left out. -/
theorem launches_recorded_again :
    (succeeding.exchanges (some Memory.store)
        [.launch false (plainSpec "j" "a"), .poll false "j", .launchCount]
        (.empty, .empty)).1 =
      [(.launch false (plainSpec "j" "a"), .launch (.ok ())),
        (.poll false "j", .poll (.ok .succeeded)), (.launchCount, .count 1)] :=
  congrArg Prod.fst
    ((launches_recorded succeeding (some Memory.store) .empty
        [.launch false (plainSpec "j" "a"), .launch false (plainSpec "j" "b"), .poll false "j",
          .launchCount] rfl).2.2.2
      [(.launch false (plainSpec "j" "a"), .launch (.ok ()))] false (plainSpec "j" "b")
      (.jobAlreadyExists "j")
      [(.poll false "j", .poll (.ok .succeeded)), (.launchCount, .count 1)] (by decide +kernel)
      nofun)

/-- A launch whose job cannot write its metadata fails, and yet the job is counted, its name is
taken, and it can be polled; without that launch there is nothing of this. -/
theorem exchanges_spoiled :
    (succeeding.exchanges (some (Memory.store.failing [.put]))
        [.launch false (plainSpec "j" "a"), .launchCount, .launchedOperators, .poll false "j",
          .launch false (plainSpec "j" "a")] (.empty, .empty)).1.map Prod.snd =
      [.launch (.error (.backend "invalid blob path 'meta'")), .count 1, .names ["a"],
        .poll (.ok .succeeded), .launch (.error (.jobAlreadyExists "j"))] ∧
    (succeeding.exchanges (some (Memory.store.failing [.put]))
        [.launchCount, .launchedOperators, .poll false "j",
          .launch false (plainSpec "j" "a")] (.empty, .empty)).1.map Prod.snd =
      [.count 0, .names [], .poll (.error (.jobNotExist "j")),
        .launch (.error (.backend "invalid blob path 'meta'"))] := by
  decide +kernel

end Rehearsal
end Workflow
