import Workflow.Proofs.Job.Names
import Workflow.Proofs.Run.Interruption
import Workflow.Proofs.Run.Rehearsed

/-!
# Jobs of runs that share a backend

A run launches the job of each operator at most once, so no name comes up twice in a run, nor in
runs with different identifiers.  However the calls of such runs interleave, a rehearsal that serves
nothing else has no job that already exists.
-/

namespace Workflow

/-! ### What runs launch -/

/-- What a run with an identifier launches, on whatever backend.  Its workflow is accepted and keeps
every operator under its own identifier. -/
inductive LaunchedIn (id : Uuid) : List JobSpec → Prop
  /-- The specifications of all launches are those of the run. -/
  | run {ω : Type} (settings : RunSettings ω) {dag : Dag} {order : List Uuid} (paths : RunPaths)
      (canceledAt : Option Nat) (world : ω) (accepted : dag.executionOrder = .ok order)
      (keyed : dag.OperatorsKeyed) :
      LaunchedIn id (dag.execute settings order paths id canceledAt world).specs

/-- The job that a call is to launch, if it is to launch one. -/
def CallRecord.spec? (call : CallRecord) : Option JobSpec :=
  match call.subject with
  | .launch spec => some spec
  | .poll _ _ => none

theorem CallRecord.spec?_eq_some_iff {call : CallRecord} {spec : JobSpec} :
    call.spec? = some spec ↔ call.subject = .launch spec := by
  unfold spec?
  cases call.subject <;> simp

theorem RunEnd.specs_eq {ω α : Type} (ended : RunEnd ω α) :
    ended.specs = ended.calls.filterMap CallRecord.spec? := rfl

namespace LaunchedIn

variable {id other : Uuid} {specs : List JobSpec}

private theorem exists_jobName (launched : LaunchedIn id specs) {spec : JobSpec}
    (member : spec ∈ specs) :
    ∃ operator, spec.name = jobName operator id := by
  obtain ⟨settings, paths, canceledAt, world, accepted, -⟩ := launched
  obtain ⟨call, call_mem, subject⟩ := RunEnd.mem_specs.1 member
  obtain ⟨operator, -, build_eq⟩ := Run.build_eq_of_launch accepted call_mem subject
  exact ⟨operator, ((JobSpec.build_names settings paths id operator).of_eq_ok build_eq).1⟩

/-- No name is launched twice in a run. -/
theorem nodup_names (launched : LaunchedIn id specs) : (specs.map JobSpec.name).Nodup := by
  obtain @⟨ω, settings, dag, order, paths, canceledAt, world, accepted, keyed⟩ := launched
  have disciplined : Calls.Disciplined (.build dag) (dag.spec? settings paths id) _ :=
    Run.disciplined_execute accepted canceledAt world
  have own {call : CallRecord} {spec : JobSpec}
      (member : call ∈ (dag.execute settings order paths id canceledAt world).calls)
      (subject : call.subject = .launch spec) :
      dag.spec? settings paths id call.operator = some spec :=
    Dag.spec?_eq_some_iff.2 (Run.build_eq_of_launch accepted member subject)
  rw [RunEnd.specs_eq, List.Nodup, List.pairwise_map, List.pairwise_filterMap]
  simp only [CallRecord.spec?_eq_some_iff]
  refine List.Pairwise.imp_of_mem (fun {first second} first_mem second_mem apart => ?_)
    (disciplined.pairwise fun before call admissible earlier member =>
      (fun same first launched second launched_again =>
        Calls.not_admissible_launch member same launched launched_again admissible :
          earlier.operator = call.operator → ∀ spec, earlier.subject = .launch spec →
            ∀ later, call.subject = .launch later → False))
  intro spec subject later later_subject same_name
  have operator_ne : second.operator ≠ first.operator := fun same =>
    apart same.symm spec subject later later_subject
  exact keyed.name_ne operator_ne (own first_mem subject) (own second_mem later_subject)
    same_name.symm

/-- Runs with different identifiers share no name. -/
theorem disjoint_names {later : List JobSpec} (launched : LaunchedIn id specs)
    (launched_later : LaunchedIn other later) (id_ne : id ≠ other) :
    (specs.map JobSpec.name).Disjoint (later.map JobSpec.name) := by
  intro name first second
  obtain ⟨spec, spec_mem, rfl⟩ := List.mem_map.1 first
  obtain ⟨again, again_mem, same⟩ := List.mem_map.1 second
  obtain ⟨operator, name_eq⟩ := launched.exists_jobName spec_mem
  obtain ⟨reader, again_eq⟩ := launched_later.exists_jobName again_mem
  rw [name_eq, again_eq] at same
  exact id_ne (jobName_injective same).2.symm

end LaunchedIn

/-- Runs with identifiers and what each of them launches. -/
abbrev Launches :=
  List (Uuid × List JobSpec)

namespace Launches

/-- The identifiers differ, and each run launches what it is said to. -/
structure Apart (launches : Launches) : Prop where
  /-- No two runs have the same identifier. -/
  distinct : (launches.map Prod.fst).Nodup
  /-- A run launches what it is said to. -/
  launched : ∀ run ∈ launches, LaunchedIn run.1 run.2

theorem Apart.nodup_names {launches : Launches} (apart : launches.Apart) :
    ((launches.flatMap Prod.snd).map JobSpec.name).Nodup := by
  rw [List.map_flatMap, List.nodup_flatMap]
  refine ⟨fun run member => (apart.launched run member).nodup_names, ?_⟩
  have pairwise := List.pairwise_map.1 apart.distinct
  exact pairwise.imp_of_mem fun first_mem second_mem id_ne =>
    (apart.launched _ first_mem).disjoint_names (apart.launched _ second_mem) id_ne

theorem Apart.concat {launches : Launches} (apart : launches.Apart) {id : Uuid}
    (new : id ∉ launches.map Prod.fst) {specs : List JobSpec} (launched : LaunchedIn id specs) :
    Apart (launches ++ [(id, specs)]) := by
  refine ⟨?_, fun run member => ?_⟩
  · rw [List.map_append]
    exact List.concat_eq_append ▸ apart.distinct.concat new
  · rcases List.mem_append.1 member with earlier | last
    · exact apart.launched run earlier
    · rw [List.mem_singleton.1 last]
      exact launched

end Launches

/-! ### Rehearsals that serve runs -/

namespace Rehearsal

variable {σ : Type} {rehearsal : Rehearsal} {store : Option (Store σ)}

/-- Requests in any order, each launch among them being one of a run. -/
def Serves (requests : List Request) (launches : Launches) : Prop :=
  (requestedSpecs requests).Subperm (launches.flatMap Prod.snd)

theorem Serves.nodup_names {requests : List Request} {launches : Launches}
    (serves : Serves requests launches) (apart : launches.Apart) :
    ((requestedSpecs requests).map JobSpec.name).Nodup := by
  obtain ⟨specs, perm, sublist⟩ := serves
  exact (perm.map JobSpec.name).nodup_iff.1 (apart.nodup_names.sublist (sublist.map JobSpec.name))

/-- The request that a run makes with a call. -/
def requestOf : CallSubject → Request
  | .launch spec => .launch false spec
  | .poll _ job => .poll false job

private theorem requestedSpecs_map_requestOf (calls : List CallRecord) :
    requestedSpecs (calls.map fun call => requestOf call.subject) =
      calls.filterMap CallRecord.spec? := by
  rw [requestedSpecs, List.filterMap_map]
  refine List.filterMap_congr fun call _ => ?_
  unfold CallRecord.spec? requestOf
  dsimp only [Function.comp_apply]
  cases call.subject <;> rfl

/-- A rehearsal serves one more run with the first calls of that run. -/
theorem Serves.concat {requests : List Request} {launches : Launches}
    (serves : Serves requests launches) (id : Uuid) {calls all : List CallRecord}
    (begins : calls <+: all) :
    Serves (requests ++ calls.map fun call => requestOf call.subject)
      (launches ++ [(id, all.filterMap CallRecord.spec?)]) := by
  rw [Serves, requestedSpecs_append, requestedSpecs_map_requestOf, List.flatMap_append,
    List.flatMap_singleton]
  exact serves.append (begins.sublist.filterMap _).subperm

/-- What the history of a run says about an answer. -/
def callResultOf : Reply → CallResult
  | .launch result => Run.launchResult result
  | .poll result => Run.pollResult result
  | .count _ | .names _ => .interrupted

private theorem error?_of_callResultOf {reply : Reply} {error : JobError}
    (result_eq : callResultOf reply = .refused error) : reply.error? = some error := by
  cases reply with
  | launch result =>
      cases result with
      | ok => exact nomatch result_eq
      | error => exact congrArg some (CallResult.refused.inj result_eq)
  | poll result =>
      cases result with
      | ok => exact nomatch result_eq
      | error => exact congrArg some (CallResult.refused.inj result_eq)
  | count | names => exact nomatch result_eq

private theorem respond_backend (subject : CallSubject) (world : Stage × σ) :
    (rehearsal.backend store).respond subject world =
      .now (callResultOf (rehearsal.reply store (requestOf subject) world).1,
        (rehearsal.reply store (requestOf subject) world).2) := by
  cases subject <;> rfl

theorem neverCancels_backend : (rehearsal.backend store).NeverCancels := by
  intro subject world
  rw [respond_backend]
  rfl

/-- A conversation with a rehearsing backend is what the rehearsal answers to its calls. -/
theorem exchanges_of_conversation {first world : Stage × σ} {calls : List CallRecord} {now : Nat}
    (conversation : (rehearsal.backend store).Conversation first calls world now) :
    ∃ exchanges,
      rehearsal.exchanges store (calls.map fun call => requestOf call.subject) first =
          (exchanges, world) ∧
        calls.map CallRecord.result = exchanges.map fun exchange => callResultOf exchange.2 := by
  induction conversation with
  | start => exact ⟨[], rfl, rfl⟩
  | pause _ _ ih => exact ih
  | @answer calls world after now subject result before operator answer_eq ih =>
      obtain ⟨exchanges, exchanges_eq, results_eq⟩ := ih
      rw [respond_backend] at answer_eq
      obtain ⟨result_eq, after_eq⟩ := Prod.mk.inj (Option.some.inj answer_eq)
      refine ⟨exchanges ++ [(requestOf subject,
        (rehearsal.reply store (requestOf subject) world).1)], ?_, ?_⟩
      · rw [List.map_append, exchanges_append, exchanges_eq]
        rw [List.map_singleton, exchanges_cons, after_eq]
        rfl
      · rw [List.map_append, List.map_append, results_eq, List.map_singleton, List.map_singleton,
          result_eq]

end Rehearsal

/-! ### Runs on a rehearsing backend -/

private theorem Backend.Left.exists_conversation {ω : Type} {backend : Backend ω} {limits : Limits}
    {horizon : Nat} {first world : ω} {calls : List CallRecord}
    (left : backend.Left limits horizon first calls world) :
    ∃ answered after now, backend.Conversation first answered after now ∧ answered <+: calls ∧
      ∀ call ∈ calls, call ∈ answered ∨ call.result = .interrupted := by
  cases left with
  | between before _ =>
      exact ⟨_, _, _, before, List.prefix_rfl, fun call member => .inl member⟩
  | during before _ _ =>
      refine ⟨_, _, _, before, List.prefix_append _ _, fun call member => ?_⟩
      rcases List.mem_append.1 member with earlier | last
      · exact .inl earlier
      · rw [List.mem_singleton.1 last]
        exact .inr rfl

namespace Run

open Rehearsal

private theorem left_execute {ω : Type} {settings : RunSettings ω} {dag : Dag} {order : List Uuid}
    {paths : RunPaths} {id : Uuid} (accepted : dag.executionOrder = .ok order)
    (external : settings.backend.NeverCancels) (canceledAt : Option Nat) (world : ω) :
    settings.backend.Left (settings.limits canceledAt) settings.horizon world
      (dag.execute settings order paths id canceledAt world).calls
      (dag.execute settings order paths id canceledAt world).world := by
  have kept : Kept settings dag paths id (.build dag) order
      (Punctual settings (settings.limits canceledAt) world)
      (Ceased settings dag paths (settings.limits canceledAt) world) :=
    kept_within accepted external
  have punctual : (start order dag canceledAt world).Punctual settings
      (settings.limits canceledAt) world :=
    ⟨rfl, .start, .inr ⟨rfl, rfl⟩, by simp [start]⟩
  have outcome := kept.from_start accepted punctual
  unfold Dag.execute
  split
  · rename_i final final_eq
    obtain ⟨-, final_punctual, -⟩ := outcome.of_eq_ok final_eq
    exact .between final_punctual.conversation (final_punctual.early.imp_right And.right)
  · rename_i stopped stopped_eq
    exact (outcome.of_eq_error stopped_eq).left

variable {σ : Type} {rehearsal : Rehearsal} {store : Option (Store σ)}
  {settings : RunSettings (Stage × σ)} {dag : Dag} {order : List Uuid} {paths : RunPaths}
  {id : Uuid}

/-- After other runs a rehearsal serves one more with a new identifier, and no job of it already
exists. -/
theorem execute_ne_jobAlreadyExists (accepted : dag.executionOrder = .ok order)
    (keyed : dag.OperatorsKeyed) (backend_eq : settings.backend = rehearsal.backend store)
    {requests : List Request} {launches : Launches} (serves : Serves requests launches)
    (apart : launches.Apart) (new : id ∉ launches.map Prod.fst) (canceledAt : Option Nat)
    (state : σ) (name : String) :
    ∀ call ∈ (dag.execute settings order paths id canceledAt
        (rehearsal.exchanges store requests (.empty, state)).2).calls,
      call.result ≠ .refused (.jobAlreadyExists name) := by
  generalize exchanged : rehearsal.exchanges store requests (.empty, state) = before
  obtain ⟨earlier, world⟩ := before
  have external : settings.backend.NeverCancels := backend_eq ▸ neverCancels_backend
  have launched : LaunchedIn id (dag.execute settings order paths id canceledAt world).specs :=
    .run settings paths canceledAt world accepted keyed
  obtain ⟨answered, after, now, conversation, begins, others⟩ :=
    (left_execute accepted external canceledAt world).exists_conversation
  rw [backend_eq] at conversation
  obtain ⟨exchanges, exchanges_eq, results_eq⟩ := exchanges_of_conversation conversation
  have never : ∀ exchange ∈ (rehearsal.exchanges store
      (requests ++ answered.map fun call => requestOf call.subject) (.empty, state)).1,
      exchange.2.error? ≠ some (.jobAlreadyExists name) :=
    rehearsal.exchanges_ne_jobAlreadyExists store
      ((serves.concat id begins).nodup_names (apart.concat new launched)) fun _ _ => rfl
  rw [exchanges_append, exchanged, exchanges_eq] at never
  intro call member refused
  rcases others call member with answered_mem | interrupted
  · have result_mem : call.result ∈ answered.map CallRecord.result :=
      List.mem_map_of_mem answered_mem
    rw [results_eq, refused] at result_mem
    obtain ⟨exchange, exchange_mem, result_eq⟩ := List.mem_map.1 result_mem
    exact never exchange (List.mem_append_right _ exchange_mem) (error?_of_callResultOf result_eq)
  · exact nomatch interrupted.symm.trans refused

/-- The name of a job tells its operator and its run.  It is made of small letters, digits and
dashes, and what precedes the two identifiers neither begins nor ends with a dash.  No run of an
accepted workflow launches a name twice, whatever its backend answers.  So a rehearsal that serves
runs with different identifiers never answers that a job already exists, in whatever order their
calls come, nor does it to one more run that follows. -/
theorem jobNames_identify :
    (∀ (operator other : Operator) (run later : Uuid),
      jobName operator run = jobName other later → operator.id = other.id ∧ run = later) ∧
    (∀ (operator : Operator) (run : Uuid),
      jobName operator run =
          jobNameStem operator.name ++ "-" ++ operator.id.toString ++ "-" ++ run.toString ∧
        operator.id.toString.toList.length = 36 ∧ run.toString.toList.length = 36 ∧
        (∀ c ∈ (jobName operator run).toList, IsJobNameChar c) ∧
        (jobNameStem operator.name).toList.head? ≠ some '-' ∧
        (jobNameStem operator.name).toList.getLast? ≠ some '-') ∧
    (∀ id specs, LaunchedIn id specs → (specs.map JobSpec.name).Nodup) ∧
    ∀ (σ : Type) (rehearsal : Rehearsal) (store : Option (Store σ)) (state : σ)
      (launches : Launches) (requests : List Request),
      launches.Apart → Serves requests launches →
        (∀ exchange ∈ (rehearsal.exchanges store requests (.empty, state)).1, ∀ name,
          exchange.2.error? ≠ some (.jobAlreadyExists name)) ∧
        ∀ (settings : RunSettings (Stage × σ)) (dag : Dag) order paths id canceledAt,
          dag.executionOrder = .ok order → dag.OperatorsKeyed →
          settings.backend = rehearsal.backend store → id ∉ launches.map Prod.fst →
            ∀ call ∈ (dag.execute settings order paths id canceledAt
                (rehearsal.exchanges store requests (.empty, state)).2).calls,
              ∀ name, call.result ≠ .refused (.jobAlreadyExists name) := by
  refine ⟨fun _ _ _ _ => jobName_injective, fun operator run => ?written,
    fun _ _ launched => launched.nodup_names,
    fun σ rehearsal store state launches requests apart serves => ⟨?shared, ?more⟩⟩
  case written =>
    exact ⟨rfl, operator.id.length_toString, run.length_toString,
      fun _ => isJobNameChar_of_mem_jobName, head?_jobNameStem _, getLast?_jobNameStem _⟩
  case shared =>
    intro exchange member name
    exact rehearsal.exchanges_ne_jobAlreadyExists store (serves.nodup_names apart)
      (fun _ _ => rfl) exchange member
  case more =>
    intro settings dag order paths id canceledAt accepted keyed backend_eq new call member name
    exact execute_ne_jobAlreadyExists accepted keyed backend_eq serves apart new canceledAt state
      name call member

/-- What a run of a join launches whose jobs all succeed. -/
private def specsOfJoin (id : Uuid) : List JobSpec :=
  (Dag.join.execute obliging [.ofNat 1, .ofNat 2, .ofNat 3, .ofNat 4] (.generate .ofNat .join) id
    none ()).specs

private theorem launchedIn_specsOfJoin (id : Uuid) : LaunchedIn id (specsOfJoin id) :=
  .run obliging (.generate .ofNat .join) none () Dag.executionOrder_join (by decide)

/-- Two runs of a join are launched on one rehearsal, the later one first. -/
theorem jobNames_identify_join :
    (specsOfJoin .nil).length = 4 ∧
      ∀ exchange ∈ (succeeding.exchanges (some Memory.store)
          ((specsOfJoin (.ofNat 1) ++ specsOfJoin .nil).map (.launch false)) (.empty, .empty)).1,
        ∀ name, exchange.2.error? ≠ some (.jobAlreadyExists name) := by
  have apart : Launches.Apart
      [(.nil, specsOfJoin .nil), (.ofNat 1, specsOfJoin (.ofNat 1))] := by
    refine ⟨by decide, ?_⟩
    simpa using ⟨launchedIn_specsOfJoin .nil, launchedIn_specsOfJoin (.ofNat 1)⟩
  refine ⟨by decide +kernel,
    (jobNames_identify.2.2.2 Memory succeeding (some Memory.store) .empty _ _ apart ?_).1⟩
  rw [Serves, requestedSpecs, List.filterMap_map]
  refine List.Perm.subperm ?_
  simpa [Request.spec?, Function.comp_def] using List.perm_append_comm

end Run
end Workflow
