import Workflow.Proofs.Job.Names

/-!
# How a rehearsal answers polls

The polls of a job count from the moment at which it is accepted, unless the run that polls is
canceled.  Their number alone tells the answer: `Scripted` says that a stage knows of each accepted
job how many polls have counted, and every call keeps this, whatever is asked of other jobs.
-/

namespace Workflow
namespace Rehearsal

/-! ### Polls that count -/

/-- The call asks for the status of the job of a name, in a run that is not canceled. -/
def Exchange.polls (name : String) : Exchange → Bool
  | (.poll false other, _) => other == name
  | _ => false

/-- The call brought the job of a name onto the stage. -/
def Exchange.accepts (name : String) (exchange : Exchange) : Bool :=
  exchange.accepted?.any (·.name == name)

/-- The jobs that calls brought onto the stage, first one first. -/
def acceptedSpecs (exchanges : List Exchange) : List JobSpec :=
  exchanges.filterMap Exchange.accepted?

/-- How many polls count for the job of a name, which are those after it was accepted. -/
def countedPolls (exchanges : List Exchange) (name : String) : Nat :=
  (exchanges.dropWhile (!·.accepts name)).countP (Exchange.polls name)

/-- How many polls count for each job of an operator, in the order in which they were accepted. -/
def countsOf (exchanges : List Exchange) (operatorName : String) : List Nat :=
  ((acceptedSpecs exchanges).filter (·.operatorName == operatorName)).map fun spec =>
    countedPolls exchanges spec.name

section Counts

variable {exchanges later : List Exchange} {exchange : Exchange} {name : String}

theorem acceptedSpecs_concat :
    acceptedSpecs (exchanges ++ [exchange]) =
      acceptedSpecs exchanges ++ exchange.accepted?.toList := by
  rw [acceptedSpecs, List.filterMap_append, acceptedSpecs]
  cases accepted_eq : exchange.accepted? <;> simp [accepted_eq]

private theorem acceptedSpecs_subset_append :
    acceptedSpecs exchanges ⊆ acceptedSpecs (exchanges ++ later) := by
  rw [acceptedSpecs, acceptedSpecs, List.filterMap_append]
  exact List.subset_append_left _ _

private theorem dropWhile_eq_nil_iff :
    exchanges.dropWhile (!·.accepts name) = [] ↔
      ∀ spec ∈ acceptedSpecs exchanges, spec.name ≠ name := by
  rw [List.dropWhile_eq_nil_iff, acceptedSpecs, List.forall_mem_filterMap]
  refine forall₂_congr fun exchange _ => ?_
  cases accepted_eq : exchange.accepted? <;> simp [Exchange.accepts, accepted_eq]

private theorem countedPolls_of_unknown
    (unknown : ∀ spec ∈ acceptedSpecs exchanges, spec.name ≠ name) :
    countedPolls (exchanges ++ later) name = countedPolls later name := by
  rw [countedPolls, List.dropWhile_append, dropWhile_eq_nil_iff.2 unknown]
  rfl

private theorem countedPolls_of_accepted {spec : JobSpec}
    (member : spec ∈ acceptedSpecs exchanges) :
    countedPolls (exchanges ++ later) spec.name =
      countedPolls exchanges spec.name + later.countP (Exchange.polls spec.name) := by
  have rest_ne : exchanges.dropWhile (!·.accepts spec.name) ≠ [] := fun rest_eq =>
    dropWhile_eq_nil_iff.1 rest_eq spec member rfl
  rw [countedPolls, List.dropWhile_append, if_neg (by simpa using rest_ne), List.countP_append,
    countedPolls]

end Counts

/-! ### Answers by their numbers -/

variable {rehearsal : Rehearsal}

/-- What is answered to a poll of a job that counts, by its number among these polls. -/
structure Answers (rehearsal : Rehearsal) (name : String) (outcome : Status) (number : Nat)
    (answer : Except JobError Status) : Prop where
  /-- The first polls fail. -/
  failing : number ≤ rehearsal.pollFailures →
    answer = .error (.backend ("transient poll failure for '" ++ name ++ "'"))
  /-- Then the job runs. -/
  running : rehearsal.pollFailures < number →
    number < rehearsal.pollFailures + max rehearsal.pollsUntilDone 1 → answer = .ok .running
  /-- From then on the job has come to its end. -/
  ended : rehearsal.pollFailures + max rehearsal.pollsUntilDone 1 ≤ number → answer = .ok outcome

private theorem answers_answer (rehearsal : Rehearsal) (name : String) (job : Job) (number : Nat) :
    rehearsal.Answers name job.outcome number (rehearsal.answer name job number) where
  failing early := if_pos early
  running failed early := by
    rw [answer, if_neg (by omega), if_pos (by omega)]
  ended late := by
    rw [answer, if_neg (by omega), if_neg (by omega)]

private theorem Answers.of_terminal {name : String} {outcome status : Status} {number : Nat}
    (answers : rehearsal.Answers name outcome number (.ok status))
    (terminal : status.isTerminal = true) :
    rehearsal.pollFailures + max rehearsal.pollsUntilDone 1 ≤ number ∧ status = outcome := by
  have late : rehearsal.pollFailures + max rehearsal.pollsUntilDone 1 ≤ number := by
    by_contra early
    by_cases failing : number ≤ rehearsal.pollFailures
    · exact nomatch answers.failing failing
    · have running := answers.running (by omega) (by omega)
      rw [Except.ok.inj running] at terminal
      exact nomatch terminal
  exact ⟨late, Except.ok.inj (answers.ended late)⟩

/-! ### What is known of the accepted jobs -/

/-- A stage knows of every job that was accepted how many polls count for it and how it ends. -/
structure Scripted (rehearsal : Rehearsal) (exchanges : List Exchange) (stage : Stage) : Prop where
  /-- No two jobs have the same name. -/
  distinct : ((acceptedSpecs exchanges).map JobSpec.name).Nodup
  /-- An accepted job is known. -/
  job : ∀ spec ∈ acceptedSpecs exchanges, ∃ outcome,
    outcomeOf (rehearsal.behaviourOf spec.operatorName) = .ok outcome ∧
      stage.jobs.find? spec.name =
        some ⟨spec.operatorName, countedPolls exchanges spec.name, outcome⟩
  /-- No other job is. -/
  unknown : ∀ name, (∀ spec ∈ acceptedSpecs exchanges, spec.name ≠ name) →
    stage.jobs.find? name = none

variable {σ : Type} {store : Option (Store σ)} {world : Stage × σ}
  {exchanges : List Exchange} {stage next : Stage}

theorem scripted_empty : Scripted rehearsal [] .empty :=
  ⟨List.nodup_nil, List.forall_mem_nil _, fun _ _ => rfl⟩

namespace Scripted

private theorem idle (scripted : Scripted rehearsal exchanges stage) {exchange : Exchange}
    (accepts_none : exchange.accepted? = none)
    (uncounted : ∀ spec ∈ acceptedSpecs exchanges, exchange.polls spec.name = false) :
    Scripted rehearsal (exchanges ++ [exchange]) stage := by
  have specs_eq : acceptedSpecs (exchanges ++ [exchange]) = acceptedSpecs exchanges := by
    rw [acceptedSpecs_concat, accepts_none]
    exact List.append_nil _
  refine ⟨specs_eq ▸ scripted.distinct, fun spec member => ?_, fun name unaccepted => ?_⟩
  · rw [specs_eq] at member
    rw [countedPolls_of_accepted member, List.countP_singleton, uncounted spec member]
    exact scripted.job spec member
  · rw [specs_eq] at unaccepted
    exact scripted.unknown name unaccepted

private theorem accept (scripted : Scripted rehearsal exchanges stage) {spec : JobSpec}
    {outcome : Status} (new : stage.jobs.find? spec.name = none)
    (plays : outcomeOf (rehearsal.behaviourOf spec.operatorName) = .ok outcome)
    {exchange : Exchange} (accepts_eq : exchange.accepted? = some spec)
    (uncounted : ∀ name, exchange.polls name = false) :
    Scripted rehearsal (exchanges ++ [exchange]) (stage.accept spec outcome) := by
  have specs_eq : acceptedSpecs (exchanges ++ [exchange]) = acceptedSpecs exchanges ++ [spec] := by
    rw [acceptedSpecs_concat, accepts_eq]
    rfl
  have name_ne : ∀ other ∈ acceptedSpecs exchanges, other.name ≠ spec.name := by
    intro other member same
    obtain ⟨_, -, found⟩ := scripted.job other member
    rw [same, new] at found
    exact nomatch found
  have find?_eq (name : String) : (stage.accept spec outcome).jobs.find? name =
      if name = spec.name then some ⟨spec.operatorName, 0, outcome⟩
      else stage.jobs.find? name := Table.find?_insert ..
  refine ⟨?distinct, fun other member => ?_, fun name unaccepted => ?unknown⟩
  case distinct =>
    rw [specs_eq, List.map_append]
    refine List.concat_eq_append ▸ scripted.distinct.concat fun member => ?_
    obtain ⟨other, earlier, same⟩ := List.mem_map.1 member
    exact name_ne other earlier same
  case unknown =>
    rw [specs_eq] at unaccepted
    rw [find?_eq, if_neg (unaccepted spec List.mem_concat_self).symm]
    exact scripted.unknown name fun other member =>
      unaccepted other (List.mem_append_left _ member)
  rw [specs_eq] at member
  rw [find?_eq]
  rcases List.mem_append.1 member with earlier | last
  · rw [if_neg (name_ne other earlier), countedPolls_of_accepted earlier, List.countP_singleton,
      uncounted]
    exact scripted.job other earlier
  · rw [List.mem_singleton.1 last, if_pos rfl, countedPolls_of_unknown name_ne]
    have unpolled : countedPolls [exchange] spec.name = 0 := by
      rw [countedPolls, List.dropWhile_cons]
      split <;> simp [uncounted]
    exact ⟨outcome, plays, by rw [unpolled]⟩

private theorem count (scripted : Scripted rehearsal exchanges stage) {name : String} {job : Job}
    (found : stage.jobs.find? name = some job) (reply : Reply) :
    Scripted rehearsal (exchanges ++ [(.poll false name, reply)])
      (stage.update name { job with polls := job.polls + 1 }) := by
  have specs_eq : acceptedSpecs (exchanges ++ [(.poll false name, reply)]) =
      acceptedSpecs exchanges := by
    rw [acceptedSpecs_concat]
    exact List.append_nil _
  refine ⟨specs_eq ▸ scripted.distinct, fun spec member => ?_, fun other unaccepted => ?_⟩
  · rw [specs_eq] at member
    obtain ⟨outcome, plays, known⟩ := scripted.job spec member
    refine ⟨outcome, plays, ?_⟩
    rw [Stage.find?_update, countedPolls_of_accepted member, List.countP_singleton]
    by_cases same : spec.name = name
    · obtain rfl : job = _ := Option.some.inj (found.symm.trans (same ▸ known))
      simp [Exchange.polls, same]
    · simp [Exchange.polls, same, Ne.symm same, known]
  · rw [specs_eq] at unaccepted
    have absent := scripted.unknown other unaccepted
    rw [Stage.find?_update, if_neg, absent]
    rintro rfl
    exact nomatch absent.symm.trans found

/-- Every call keeps what is known of the accepted jobs. -/
theorem reply (scripted : Scripted rehearsal exchanges world.1) (store : Option (Store σ))
    (request : Request) :
    Scripted rehearsal (exchanges ++ [(request, (rehearsal.reply store request world).1)])
      (rehearsal.reply store request world).2.1 := by
  cases request with
  | launch canceled spec =>
      rw [reply_launch]
      rcases rehearsal.launch_cases store world canceled spec with
        ⟨error, turned_down, launch_eq⟩ | ⟨new, outcome, plays, launch_eq⟩
      · rw [launch_eq]
        refine scripted.idle ?_ fun _ _ => rfl
        cases error with
        | backend message => exact absurd rfl (turned_down message)
        | _ => rfl
      · rw [launch_eq]
        rcases rehearsal.writeResults_cases store spec world.2 with written | ⟨message, spoiled⟩
        · rw [written]
          exact scripted.accept new plays rfl fun _ => rfl
        · rw [spoiled]
          exact scripted.accept new plays rfl fun _ => rfl
  | poll canceled name =>
      change Scripted rehearsal (exchanges ++ [(_, .poll (rehearsal.poll canceled name world.1).1)])
        (rehearsal.poll canceled name world.1).2
      rcases rehearsal.poll_cases canceled name world.1 with
        ⟨rfl, poll_eq⟩ | ⟨rfl, absent, poll_eq⟩ | ⟨rfl, job, found, poll_eq⟩
      · rw [poll_eq]
        exact scripted.idle rfl fun _ _ => rfl
      · rw [poll_eq]
        refine scripted.idle rfl fun spec member => beq_false_of_ne fun same => ?_
        obtain ⟨_, -, known⟩ := scripted.job spec member
        rw [← same, absent] at known
        cases known
      · rw [poll_eq]
        exact scripted.count found _
  | _ => exact scripted.idle rfl fun _ _ => rfl

private theorem poll_of_unknown (scripted : Scripted rehearsal exchanges stage) {name : String}
    (unaccepted : ∀ spec ∈ acceptedSpecs exchanges, spec.name ≠ name) :
    (rehearsal.poll false name stage).1 = .error (.jobNotExist name) := by
  simp [poll, scripted.unknown name unaccepted]

private theorem poll_of_known (scripted : Scripted rehearsal exchanges stage) {spec : JobSpec}
    (member : spec ∈ acceptedSpecs exchanges) :
    ∃ outcome, outcomeOf (rehearsal.behaviourOf spec.operatorName) = .ok outcome ∧
      rehearsal.Answers spec.name outcome (countedPolls exchanges spec.name + 1)
        (rehearsal.poll false spec.name stage).1 ∧
      (countedPolls exchanges spec.name + 1 < 2 ^ 32 →
        rehearsal.wordAnswer? spec.name
            ⟨spec.operatorName, countedPolls exchanges spec.name, outcome⟩ =
          some (rehearsal.poll false spec.name stage).1) := by
  obtain ⟨outcome, plays, found⟩ := scripted.job spec member
  have answer_eq : (rehearsal.poll false spec.name stage).1 =
      rehearsal.answer spec.name ⟨spec.operatorName, countedPolls exchanges spec.name, outcome⟩
        (countedPolls exchanges spec.name + 1) := congrArg Prod.fst (poll_of_accepted found)
  rw [answer_eq]
  exact ⟨outcome, plays, answers_answer _ _ ⟨_, _, outcome⟩ _, fun fits => wordAnswer?_eq fits⟩

/-! ### Numbers of polls -/

private theorem perm_accepted (scripted : Scripted rehearsal exchanges stage) :
    (stage.jobs.entries.map fun entry => (entry.1, entry.2.operatorName, entry.2.polls)).Perm
      ((acceptedSpecs exchanges).map fun spec =>
        (spec.name, spec.operatorName, countedPolls exchanges spec.name)) := by
  have entries_nodup : (stage.jobs.entries.map fun entry =>
      (entry.1, entry.2.operatorName, entry.2.polls)).Nodup := by
    refine List.Nodup.of_map Prod.fst ?_
    rw [List.map_map]
    exact stage.jobs.keys_nodup
  have specs_nodup : ((acceptedSpecs exchanges).map fun spec =>
      (spec.name, spec.operatorName, countedPolls exchanges spec.name)).Nodup := by
    refine List.Nodup.of_map Prod.fst ?_
    rw [List.map_map]
    exact scripted.distinct
  refine (List.perm_ext_iff_of_nodup entries_nodup specs_nodup).2 ?_
  rintro ⟨name, operatorName, polls⟩
  simp only [List.mem_map, Prod.exists, Prod.mk.injEq]
  constructor
  · rintro ⟨name, job, member, rfl, rfl, rfl⟩
    have found := Table.mem_entries_iff.1 member
    by_cases accepted : ∃ spec ∈ acceptedSpecs exchanges, spec.name = name
    · obtain ⟨spec, spec_mem, rfl⟩ := accepted
      obtain ⟨outcome, -, known⟩ := scripted.job spec spec_mem
      obtain rfl : job = _ := Option.some.inj (found.symm.trans known)
      exact ⟨spec, spec_mem, rfl, rfl, rfl⟩
    · have absent := scripted.unknown name fun spec spec_mem same =>
        accepted ⟨spec, spec_mem, same⟩
      exact nomatch absent.symm.trans found
  · rintro ⟨spec, member, rfl, rfl, rfl⟩
    obtain ⟨outcome, -, found⟩ := scripted.job spec member
    exact ⟨_, _, Table.mem_entries_iff.2 found, rfl, rfl, rfl⟩

/-- The number of polls of an operator is the sum over its jobs. -/
theorem pollCount_eq (scripted : Scripted rehearsal exchanges stage) (operatorName : String) :
    stage.pollCount operatorName = (countsOf exchanges operatorName).sum := by
  have perm := (scripted.perm_accepted.filter (·.2.1 == operatorName)).map (·.2.2)
  rw [List.filter_map, List.map_map, List.filter_map, List.map_map] at perm
  rw [Stage.pollCount, ← List.foldl_map, ← List.sum_eq_foldl_nat, Table.values, List.filter_map,
    List.map_map]
  exact perm.sum_nat

end Scripted

/-- Whatever is asked, the stage knows of the jobs that were accepted. -/
theorem scripted_exchanges (rehearsal : Rehearsal) (store : Option (Store σ)) (state : σ)
    (requests : List Request) :
    Scripted rehearsal (rehearsal.exchanges store requests (.empty, state)).1
      (rehearsal.exchanges store requests (.empty, state)).2.1 := by
  induction requests using List.reverseRecOn with
  | nil => exact scripted_empty
  | append_singleton requests request ih =>
      rw [exchanges_append, exchanges_cons]
      exact ih.reply store request

private theorem exists_scripted {state : σ} {requests : List Request} {before later : List Exchange}
    {request : Request} {answer : Reply}
    (exchanges_eq : (rehearsal.exchanges store requests (.empty, state)).1 =
      before ++ (request, answer) :: later) :
    ∃ world : Stage × σ, Scripted rehearsal before world.1 ∧
      (rehearsal.reply store request world).1 = answer := by
  obtain ⟨world, before_eq, answer_eq, -⟩ := exists_world_of_exchanges exchanges_eq
  have scripted := scripted_exchanges rehearsal store state (before.map Prod.fst)
  rw [before_eq] at scripted
  exact ⟨world, scripted, answer_eq⟩

/-! ### Results that can be written -/

/-- The paths at which requested jobs are to write. -/
def requestedPaths (requests : List Request) : List String :=
  (requestedSpecs requests).flatMap fun spec => spec.metadataPath :: spec.outputContentPaths

private theorem Writable.reply {paths : List String} (writable : Writable store paths world.2)
    (rehearsal : Rehearsal) (request : Request)
    (subset : ∀ spec, request.spec? = some spec →
      spec.metadataPath :: spec.outputContentPaths ⊆ paths) :
    Exchange.spoiled? (request, (rehearsal.reply store request world).1) = none ∧
      Writable store paths (rehearsal.reply store request world).2.2 := by
  cases request with
  | launch canceled spec =>
      rw [reply_launch]
      rcases rehearsal.launch_cases store world canceled spec with
        ⟨error, turned_down, launch_eq⟩ | ⟨-, outcome, -, launch_eq⟩
      · rw [launch_eq]
        refine ⟨?_, writable⟩
        cases error with
        | backend message => exact absurd rfl (turned_down message)
        | _ => rfl
      · obtain ⟨written, still_writable⟩ := writable.writeResults rehearsal (subset spec rfl)
        rw [launch_eq, written]
        exact ⟨rfl, still_writable⟩
  | _ => exact ⟨rfl, writable⟩

private theorem Writable.spoils_none {paths : List String} (writable : Writable store paths world.2)
    (rehearsal : Rehearsal) {requests : List Request}
    (subset : ∀ spec ∈ requestedSpecs requests,
      spec.metadataPath :: spec.outputContentPaths ⊆ paths) :
    (rehearsal.exchanges store requests world).1.filterMap Exchange.spoiled? = [] := by
  induction requests generalizing world with
  | nil => rfl
  | cons request requests ih =>
      rw [requestedSpecs_cons, List.forall_mem_append] at subset
      obtain ⟨unspoiled, still_writable⟩ := writable.reply rehearsal request fun spec asked =>
        subset.1 spec (Option.mem_toList.2 asked)
      rw [exchanges_cons, List.filterMap_cons, unspoiled]
      exact ih still_writable subset.2

/-! ### All calls -/

/-- A poll is refused in a canceled run, and without a job.  Otherwise the answer depends only on
how many polls have counted for the job, however calls for other jobs come between: first the polls
fail, then the job runs, and then it has come to the end of its script, which does not change any
more.  The number of polls of an operator is the sum over its jobs.  Arithmetic of 32 bits gives the
same as long as these numbers fit.  If all results can be written, the jobs are those that were
launched. -/
theorem polls_scripted (rehearsal : Rehearsal) (store : Option (Store σ)) (state : σ)
    (requests : List Request) {exchanges : List Exchange} {stage : Stage} {after : σ}
    (run : rehearsal.exchanges store requests (.empty, state) = (exchanges, (stage, after))) :
    (∀ before name answer later,
      exchanges = before ++ (.poll true name, answer) :: later →
        answer = .poll (.error (.canceled name))) ∧
    (∀ before name answer later,
      exchanges = before ++ (.poll false name, answer) :: later →
        ((∀ spec ∈ acceptedSpecs before, spec.name ≠ name) →
          answer = .poll (.error (.jobNotExist name))) ∧
        ∀ spec ∈ acceptedSpecs before, spec.name = name → ∃ outcome result,
          outcomeOf (rehearsal.behaviourOf spec.operatorName) = .ok outcome ∧
            answer = .poll result ∧
            rehearsal.Answers name outcome (countedPolls before name + 1) result ∧
            (countedPolls before name + 1 < 2 ^ 32 →
              rehearsal.wordAnswer? name
                ⟨spec.operatorName, countedPolls before name, outcome⟩ = some result)) ∧
    (∀ first name status middle answer later,
      exchanges = first ++ (.poll false name, .poll (.ok status)) ::
          (middle ++ (.poll false name, answer) :: later) →
        status.isTerminal = true → answer = .poll (.ok status)) ∧
    (∀ before operatorName answer later,
      exchanges = before ++ (.pollCount operatorName, answer) :: later →
        answer = .count (countsOf before operatorName).sum) ∧
    (∀ operatorName, stage.pollCount operatorName = (countsOf exchanges operatorName).sum ∧
      ∀ counts, counts.Perm (countsOf exchanges operatorName) → counts.sum < 2 ^ 32 →
        wordSum? counts = some (stage.pollCount operatorName)) ∧
    (Writable store (requestedPaths requests) state →
      acceptedSpecs exchanges = exchanges.filterMap Exchange.launched?) := by
  obtain rfl : _ = exchanges := congrArg Prod.fst run
  obtain rfl : _ = stage := congrArg (·.2.1) run
  clear run
  refine ⟨fun before name answer later split => ?canceled,
    fun before name answer later split => ⟨fun unaccepted => ?unknown, ?known⟩,
    fun first name status middle answer later split terminal => ?kept,
    fun before operatorName answer later split => ?counted, fun operatorName => ?sum,
    fun writable => ?launched⟩
  case canceled =>
    obtain ⟨world, -, rfl⟩ := exists_scripted split
    rfl
  case unknown =>
    obtain ⟨world, scripted, rfl⟩ := exists_scripted split
    exact congrArg Reply.poll (scripted.poll_of_unknown unaccepted)
  case known =>
    rintro spec member rfl
    obtain ⟨world, scripted, rfl⟩ := exists_scripted split
    obtain ⟨outcome, plays, answers, word_eq⟩ := scripted.poll_of_known member
    exact ⟨outcome, _, plays, rfl, answers, word_eq⟩
  case kept =>
    obtain ⟨world, scripted, answer_eq⟩ := exists_scripted split
    have status_eq : (rehearsal.poll false name world.1).1 = .ok status :=
      Reply.poll.inj answer_eq
    by_cases accepted : ∃ spec ∈ acceptedSpecs first, spec.name = name
    · obtain ⟨spec, member, rfl⟩ := accepted
      obtain ⟨outcome, plays, answers, -⟩ := scripted.poll_of_known member
      rw [status_eq] at answers
      obtain ⟨late, rfl⟩ := answers.of_terminal terminal
      rw [← List.cons_append, ← List.append_assoc] at split
      obtain ⟨again, still_scripted, rfl⟩ := exists_scripted split
      obtain ⟨ending, still_plays, later_answers, -⟩ :=
        still_scripted.poll_of_known (acceptedSpecs_subset_append member)
      obtain rfl : status = ending := Except.ok.inj (plays.symm.trans still_plays)
      rw [countedPolls_of_accepted member] at later_answers
      exact congrArg Reply.poll (later_answers.ended (by omega))
    · have unknown := scripted.poll_of_unknown fun spec member same =>
        accepted ⟨spec, member, same⟩
      exact nomatch unknown.symm.trans status_eq
  case counted =>
    obtain ⟨world, scripted, rfl⟩ := exists_scripted split
    exact congrArg Reply.count (scripted.pollCount_eq operatorName)
  case sum =>
    have sum_eq :=
      (scripted_exchanges rehearsal store state requests).pollCount_eq operatorName
    refine ⟨sum_eq, fun counts perm fits => ?_⟩
    rw [List.sum_eq_foldl_nat] at fits
    rw [wordSum?_eq fits, sum_eq, ← perm.sum_nat, List.sum_eq_foldl_nat]
  case launched =>
    refine filterMap_accepted?_eq (writable.spoils_none rehearsal fun spec member path own => ?_)
    exact List.mem_flatMap.2 ⟨spec, member, own⟩

/-- The first poll of every job fails, at the second one it runs, and at the third it has ended. -/
private def hesitant : Rehearsal :=
  ⟨.empty, 2, 1, .empty⟩

/-- Two jobs of one operator are polled in turns. -/
private def turns : List Request :=
  [.poll false "j", .launch false (plainSpec "j" "a"), .poll false "j", .poll true "j",
    .launch false (plainSpec "k" "a"), .poll false "j", .poll false "k", .poll false "j"]

/-- The third poll that counts for the first job tells its end, and four count for both jobs. -/
theorem polls_scripted_in_turns :
    (∃ before result, (hesitant.exchanges none turns (.empty, ())).1 =
        before ++ [(.poll false "j", .poll result)] ∧
      countedPolls before "j" = 2 ∧ result = .ok .succeeded) ∧
    (hesitant.exchanges none turns (.empty, ())).2.1.pollCount "a" = 4 := by
  have scripted := polls_scripted hesitant none () turns rfl
  refine ⟨?last, (scripted.2.2.2.2.1 "a").1.trans (by decide +kernel)⟩
  let before := (hesitant.exchanges none turns (.empty, ())).1.dropLast
  have counted : countedPolls before "j" = 2 := by decide +kernel
  have split : (hesitant.exchanges none turns (.empty, ())).1 =
      before ++ [(.poll false "j", .poll (.ok .succeeded))] := by decide +kernel
  obtain ⟨outcome, result, plays, result_eq, answers, -⟩ :=
    (scripted.2.1 before "j" _ [] split).2 (plainSpec "j" "a") (by decide +kernel) rfl
  obtain rfl : Status.succeeded = outcome := Except.ok.inj plays
  rw [counted] at answers
  exact ⟨before, result, result_eq ▸ split, counted, answers.ended (by decide)⟩

end Rehearsal
end Workflow
