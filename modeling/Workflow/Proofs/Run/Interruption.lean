import Workflow.Proofs.Dag.Keys
import Workflow.Proofs.Run.Conversation
import Workflow.Proofs.Run.Limits
import Workflow.Proofs.Run.Rounds
import Workflow.Proofs.Run.Specification

/-!
# Cancellation and deadline

A run begins no call once a limit is reached, and it takes no answer that comes as late as that.
When it is interrupted, the earlier limit gives the reason, and the jobs that it leaves running are
those that were accepted and had not come to an end before.
-/

namespace Workflow

/-! ### Conversations within limits -/

namespace Backend

variable {ω : Type}

/-- No call to the backend cancels the run. -/
def NeverCancels (backend : Backend ω) : Prop :=
  ∀ subject world, (backend.respond subject world).cancels = false

/-- The calls of a run that has ended and the world that they leave.  Every answer came before any
limit, and a call without answer had none to come before a limit and by the horizon. -/
inductive Left (backend : Backend ω) (limits : Limits) (horizon : Nat) (first : ω) :
    List CallRecord → ω → Prop
  /-- The run ended between two calls. -/
  | between {calls : List CallRecord} {world : ω} {now : Nat}
      (before : backend.Conversation first calls world now)
      (early : limits.Allows now ∨ calls = []) : Left backend limits horizon first calls world
  /-- The run ended during a call. -/
  | during {calls : List CallRecord} {world : ω} {now : Nat} {operator : Uuid}
      {subject : CallSubject} (before : backend.Conversation first calls world now)
      (early : limits.Allows now)
      (late : (backend.respond subject world).answer.isSome = true →
        limits.Allows (now + (backend.respond subject world).delay) →
          horizon < now + (backend.respond subject world).delay) :
      Left backend limits horizon first (calls ++ [⟨now, operator, subject, .interrupted⟩])
        (backend.respond subject world).begun

variable {backend : Backend ω} {limits : Limits} {horizon : Nat} {first world : ω}
  {calls : List CallRecord}

/-- Every call was begun before any limit. -/
theorem Left.allows (left : backend.Left limits horizon first calls world) :
    ∀ call ∈ calls, limits.Allows call.time := by
  cases left with
  | between before early =>
      rcases early with allows | rfl
      · exact fun call member => allows.mono (before.time_le call member)
      · simp
  | during before early late =>
      intro call member
      rcases List.mem_append.1 member with earlier | last
      · exact early.mono (before.time_le call earlier)
      · rwa [List.mem_singleton.1 last]

end Backend

/-! ### What the calls tell -/

/-- There are exactly so many operators with a property. -/
def HasCount (holds : Uuid → Prop) (count : Nat) : Prop :=
  ∃ operators : List Uuid, operators.Nodup ∧ (∀ operator, operator ∈ operators ↔ holds operator) ∧
    operators.length = count

namespace Calls

/-- The job of the operator was accepted, and no answer has brought it to an end. -/
def InFlight (calls : List CallRecord) (operator : Uuid) : Prop :=
  (∃ job, Accepted calls operator job) ∧ Unanswered calls operator

/-- The backend refused to launch the operator, for a reason. -/
def Refused (calls : List CallRecord) (operator : Uuid) (message : String) : Prop :=
  ∃ call ∈ calls, call.operator = operator ∧
    ∃ spec error, call.subject = .launch spec ∧ call.result = .refused error ∧
      error.message = message

variable {calls more : List CallRecord} {time : Nat} {operator other : Uuid}
  {subject : CallSubject} {message : String}

theorem Refused.mono (refused : Refused calls operator message) (subset : calls ⊆ more) :
    Refused more operator message := by
  obtain ⟨call, member, rest⟩ := refused
  exact ⟨call, subset member, rest⟩

theorem Refused.failed (refused : Refused calls operator message) : Failed calls operator := by
  obtain ⟨call, member, call_operator, spec, error, subject, result, _⟩ := refused
  exact .inl ⟨call, member, call_operator, spec, error, subject, result⟩

theorem Failed.mono (failed : Failed calls operator) (subset : calls ⊆ more) :
    Failed more operator := by
  rcases failed with ⟨call, member, rest⟩ | ⟨job, status, answered, ending⟩
  · exact .inl ⟨call, subset member, rest⟩
  · exact .inr ⟨job, status, answered.mono subset, ending⟩

private theorem inFlight_interrupted :
    InFlight (calls ++ [⟨time, other, subject, .interrupted⟩]) operator ↔
      InFlight calls operator := by
  simp [InFlight, Unanswered, accepted_concat, answered_concat]

end Calls

namespace Run

open Calls

variable {ω : Type} {settings : RunSettings ω} {dag : Dag} {paths : RunPaths} {id : Uuid}
  {order : List Uuid} {run : Run ω}

/-- The dispatched operators are those in flight, and failures come from the backend. -/
structure Accounted (run : Run ω) : Prop where
  /-- The dispatched operators are those in flight. -/
  dispatched_iff (operator : Uuid) :
    operator ∈ run.progress.dispatched ↔ InFlight run.calls operator
  /-- No operator is counted twice. -/
  dispatched_nodup : run.progress.dispatched.Nodup
  /-- An operator has failed only if the backend says so. -/
  failed {operator : Uuid} (failed : run.progress.state? operator = some .failed) :
    Failed run.calls operator
  /-- A launch error is what the backend said. -/
  refused {operator : Uuid} {message : String}
    (error : run.launchErrors.find? operator = some message) : Refused run.calls operator message

theorem Faithful.accounted {graph : Graph} {spec? : Uuid → Option JobSpec} (nodup : order.Nodup)
    (faithful : run.Faithful graph spec? order)
    (refused : ∀ {operator message}, run.launchErrors.find? operator = some message →
      Refused run.calls operator message) : run.Accounted where
  dispatched_iff _ := faithful.mem_inState_iff.trans faithful.dispatched_iff
  dispatched_nodup := nodup.sublist (faithful.inState_sublist .dispatched)
  failed {operator} failed := by
    have evidence := faithful.evidence operator
    rwa [failed] at evidence
  refused := refused

private theorem Accounted.interrupted {last : Run ω} (accounted : run.Accounted)
    (progress_eq : last.progress = run.progress)
    (launchErrors_eq : last.launchErrors = run.launchErrors) {time : Nat} {operator : Uuid}
    {subject : CallSubject}
    (calls_eq : last.calls = run.calls ++ [⟨time, operator, subject, .interrupted⟩]) :
    last.Accounted where
  dispatched_iff other := by
    rw [progress_eq, calls_eq, accounted.dispatched_iff, inFlight_interrupted]
  dispatched_nodup := progress_eq ▸ accounted.dispatched_nodup
  failed failed := by
    rw [progress_eq] at failed
    rw [calls_eq]
    exact (accounted.failed failed).mono (List.subset_append_left _ _)
  refused error := by
    rw [launchErrors_eq] at error
    rw [calls_eq]
    exact (accounted.refused error).mono (List.subset_append_left _ _)

/-! ### Launch errors -/

/-- A launch error is what the backend said. -/
def Sourced (run : Run ω) : Prop :=
  ∀ ⦃operator message⦄, run.launchErrors.find? operator = some message →
    Refused run.calls operator message

/-- A refusal that has been noted accounts for the launch error. -/
theorem Sourced.heedLaunch (sourced : run.Sourced) {operator : Uuid} {spec : JobSpec}
    {answer : Except JobError Unit} {time : Nat}
    (noted : ⟨time, operator, .launch spec, launchResult answer⟩ ∈ run.calls) :
    (run.heedLaunch operator spec.name answer).Sourced := by
  cases answer with
  | ok => exact sourced
  | error error =>
      intro other message found
      change (run.launchErrors.insert operator error.message).find? other = _ at found
      rw [Table.find?_insert] at found
      split at found
      · rename_i same
        obtain rfl := Option.some.inj found
        exact ⟨_, noted, same.symm, spec, error, rfl, rfl, rfl⟩
      · exact sourced found

/-! ### What a run keeps within its limits -/

/-- A run whose answers all came before any limit. -/
structure Punctual (settings : RunSettings ω) (limits : Limits) (first : ω) (run : Run ω) :
    Prop where
  /-- The limits stay the same. -/
  limits_eq : run.limits settings = limits
  /-- The calls so far were answered. -/
  conversation : settings.backend.Conversation first run.calls run.world run.now
  /-- No limit was reached, unless the run has only begun. -/
  early : limits.Allows run.now ∨ run.now = 0 ∧ run.calls = []
  /-- A launch error is what the backend said. -/
  refused {operator : Uuid} {message : String}
    (error : run.launchErrors.find? operator = some message) : Refused run.calls operator message

/-- A run stopped for a good reason. -/
inductive Justified (settings : RunSettings ω) (dag : Dag) (paths : RunPaths) (limits : Limits) :
    Stopped ω → Prop
  /-- A limit was reached. -/
  | interrupted {run : Run ω} {interrupt : Interrupt} (first : limits.First interrupt run.now) :
      Justified settings dag paths limits ⟨.fault (run.interruptFault settings interrupt), run⟩
  /-- The run is no longer watched, although no limit was reached. -/
  | unwatched {run : Run ω} (allows : limits.Allows settings.horizon) :
      Justified settings dag paths limits ⟨.unfinished, run⟩
  /-- A path is missing. -/
  | missing {run : Run ω} {node : Uuid} (uncovered : ¬paths.Covers dag) :
      Justified settings dag paths limits (run.fail (.missingStoragePath node))

/-- A run stopped for a good reason, and its calls account for it. -/
structure Ceased (settings : RunSettings ω) (dag : Dag) (paths : RunPaths) (limits : Limits)
    (first : ω) (stopped : Stopped ω) : Prop where
  /-- The reason is a good one. -/
  justified : Justified settings dag paths limits stopped
  /-- The states come from the calls. -/
  accounted : stopped.run.Accounted
  /-- At most the last call was not answered. -/
  left : settings.backend.Left limits settings.horizon first stopped.run.calls stopped.run.world

section Punctual

variable {limits : Limits} {first : ω}

private theorem Halts.justified {stopped : Stopped ω} (halts : Halts settings run stopped)
    (limits_eq : run.limits settings = limits) : Justified settings dag paths limits stopped := by
  subst limits_eq
  cases halts with
  | @interrupted interrupt moment first =>
      let last := { run with now := moment }
      change Justified _ _ _ _ ⟨.fault (last.interruptFault settings interrupt), last⟩
      exact .interrupted first
  | unwatched allows => exact .unwatched allows

private theorem Justified.abandon {stopped : Stopped ω}
    (justified : Justified settings dag paths limits stopped) (time : Nat) (operator : Uuid)
    (subject : CallSubject) :
    Justified settings dag paths limits (abandon time operator subject stopped) := by
  cases justified with
  | @interrupted last interrupt first =>
      let noted := last.note time operator subject .interrupted
      change Justified _ _ _ _ ⟨.fault (noted.interruptFault settings interrupt), noted⟩
      exact .interrupted first
  | unwatched allows => exact .unwatched allows
  | missing uncovered => exact .missing uncovered

private theorem Punctual.ceases (punctual : run.Punctual settings limits first)
    (accounted : run.Accounted) {stopped : Stopped ω} (halts : Halts settings run stopped) :
    Ceased settings dag paths limits first stopped := by
  obtain ⟨moment, run_eq⟩ := halts.run_eq
  refine ⟨halts.justified punctual.limits_eq, ?_, ?_⟩
  · rw [run_eq]
    exact ⟨accounted.dispatched_iff, accounted.dispatched_nodup, accounted.failed,
      accounted.refused⟩
  · rw [run_eq]
    exact .between punctual.conversation (punctual.early.imp_right And.right)

private theorem Punctual.ceases_during {α : Type} (punctual : run.Punctual settings limits first)
    (accounted : run.Accounted) (allows : limits.Allows run.now) {operator : Uuid}
    {subject : CallSubject} {response : BackendCall ω α} {result : α → CallResult}
    (responds : settings.backend.respond subject run.world = response.map result)
    (late : response.answer.isSome = true → limits.Allows (run.now + response.delay) →
      settings.horizon < run.now + response.delay)
    {later : Nat} {halted : Stopped ω}
    (halts : Halts settings { run.during response with now := later } halted) :
    Ceased settings dag paths limits first (abandon run.now operator subject halted) := by
  obtain ⟨moment, run_eq⟩ := halts.run_eq
  have progress_eq : (abandon run.now operator subject halted).run.progress = run.progress := by
    change halted.run.progress = _
    rw [run_eq]
    rfl
  have launchErrors_eq :
      (abandon run.now operator subject halted).run.launchErrors = run.launchErrors := by
    change halted.run.launchErrors = _
    rw [run_eq]
    rfl
  have world_eq : (abandon run.now operator subject halted).run.world =
      (settings.backend.respond subject run.world).begun := by
    change halted.run.world = _
    rw [run_eq, responds]
    rfl
  have calls_eq : (abandon run.now operator subject halted).run.calls =
      run.calls ++ [⟨run.now, operator, subject, .interrupted⟩] := by
    rw [abandon, calls_note, run_eq]
    rfl
  refine ⟨(halts.justified punctual.limits_eq).abandon _ _ _,
    accounted.interrupted progress_eq launchErrors_eq calls_eq, ?_⟩
  rw [calls_eq, world_eq]
  refine .during punctual.conversation allows ?_
  rw [responds]
  simpa [BackendCall.map] using late

private theorem Punctual.wait_early (punctual : run.Punctual settings limits first) :
    (run.limits settings).Allows run.now ∨ run.now = 0 := by
  rw [punctual.limits_eq]
  exact punctual.early.imp_right And.left

private theorem Punctual.wait_during {α : Type} (punctual : run.Punctual settings limits first)
    (response : BackendCall ω α) :
    Ensures (fun _ => limits.Allows (run.now + response.delay))
      (fun halted => Halts settings (run.during response) halted ∧
        (limits.Allows (run.now + response.delay) →
          settings.horizon < run.now + response.delay))
      ((run.during response).wait settings (run.now + response.delay)) := by
  have early : ((run.during response).limits settings).Allows (run.during response).now ∨
      (run.during response).now = 0 := punctual.wait_early
  have limits_eq : (run.during response).limits settings = limits := punctual.limits_eq
  have time_eq : max (run.during response).now (run.now + response.delay) =
      run.now + response.delay := max_eq_right (Nat.le_add_right _ _)
  have waits := wait_within early (run.now + response.delay)
  rwa [limits_eq, time_eq] at waits

private theorem Punctual.answered {α : Type} (punctual : run.Punctual settings limits first)
    {operator : Uuid} {subject : CallSubject} {response : BackendCall ω α} {result : α → CallResult}
    (responds : settings.backend.respond subject run.world = response.map result) {answer : α}
    {world : ω} (answer_eq : response.answer = some (answer, world))
    (allows : limits.Allows (run.now + response.delay)) {next : Run ω}
    (next_eq : next = Run.note { run with now := run.now + response.delay, world } run.now operator
      subject (result answer)) :
    next.Punctual settings limits first ∧
      ⟨run.now, operator, subject, result answer⟩ ∈ next.calls := by
  obtain ⟨conversation, calls_eq⟩ :=
    converses punctual.conversation responds answer_eq next_eq
  refine ⟨⟨?_, conversation, ?_, fun error => ?_⟩, calls_eq ▸ List.mem_concat_self⟩
  · rw [next_eq]
    exact punctual.limits_eq
  · rw [next_eq]
    exact .inl allows
  · rw [calls_eq]
    rw [next_eq] at error
    exact (punctual.refused error).mono (List.subset_append_left _ _)

/-- A call is answered before any limit, or the run stops for a good reason. -/
theorem Punctual.perform {α : Type} (external : settings.backend.NeverCancels)
    (punctual : run.Punctual settings limits first) (accounted : run.Accounted) {operator : Uuid}
    {subject : CallSubject} {call : ω → BackendCall ω α} {result : α → CallResult}
    (responds : settings.backend.respond subject run.world = (call run.world).map result) :
    Ensures
      (fun (answer, next) => next.Punctual settings limits first ∧
        ⟨run.now, operator, subject, result answer⟩ ∈ next.calls)
      (Ceased settings dag paths limits first)
      (run.perform settings operator subject call result) := by
  have quiet : (call run.world).cancels = false := by
    have never := external subject run.world
    rwa [responds] at never
  have upon_eq : run.upon (call run.world) =
      { run.during (call run.world) with now := run.now + (call run.world).delay } :=
    if_neg (by simp [quiet])
  have waits := punctual.wait_during (call run.world)
  refine (run.perform_cases settings operator subject rfl result).mono ?_ ?_
  · rintro ⟨answer, next⟩ ⟨world, answer_eq, wait_eq, next_eq⟩
    rw [upon_eq] at next_eq
    exact punctual.answered responds answer_eq (waits.of_eq_ok wait_eq) next_eq
  · rintro stopped (wait_eq | ⟨begin_eq, halted, rfl, halting⟩)
    · exact punctual.ceases accounted ((wait_within punctual.wait_early _).of_eq_error wait_eq).1
    · have allows : limits.Allows run.now := by
        have begun := (wait_within punctual.wait_early _).of_eq_ok begin_eq
        rwa [punctual.limits_eq, max_self] at begun
      rcases halting with wait_eq | ⟨answer_eq, wait_eq, rfl⟩
      · obtain ⟨halts, late⟩ := waits.of_eq_error wait_eq
        exact punctual.ceases_during accounted allows responds (fun _ => late) halts
      · have answer_allows := waits.of_eq_ok wait_eq
        rw [upon_eq]
        refine punctual.ceases_during accounted allows responds (by simp [answer_eq])
          (halts_waitInVain (.inl ?_))
        rwa [← punctual.limits_eq] at answer_allows

private theorem Punctual.heedLaunch (punctual : run.Punctual settings limits first)
    {operator : Uuid} {spec : JobSpec} {answer : Except JobError Unit} {time : Nat}
    (noted : ⟨time, operator, .launch spec, launchResult answer⟩ ∈ run.calls) :
    (run.heedLaunch operator spec.name answer).Punctual settings limits first := by
  obtain ⟨limits_eq, conversation, early, refused⟩ := punctual
  have sourced : run.Sourced := fun _ _ => refused
  have heeded := sourced.heedLaunch noted
  cases answer with
  | ok => exact ⟨limits_eq, conversation, early, refused⟩
  | error => exact ⟨limits_eq, conversation, early, fun error => heeded error⟩

private theorem Punctual.heedPoll (punctual : run.Punctual settings limits first) (operator : Uuid)
    (answer : Except JobError Status) :
    (run.heedPoll operator answer).Punctual settings limits first := by
  obtain ⟨progress, heeded_eq⟩ := run.heedPoll_eq operator answer
  rw [heeded_eq]
  exact ⟨punctual.limits_eq, punctual.conversation, punctual.early, punctual.refused⟩

private theorem Punctual.wait (punctual : run.Punctual settings limits first)
    (accounted : run.Accounted) (due : Nat) :
    Ensures (Punctual settings limits first) (Ceased settings dag paths limits first)
      (run.wait settings due) := by
  have waits := wait_within punctual.wait_early due
  cases wait_eq : run.wait settings due with
  | error stopped => exact punctual.ceases accounted (waits.of_eq_error wait_eq).1
  | ok waited =>
      have allows := waits.of_eq_ok wait_eq
      rw [punctual.limits_eq] at allows
      obtain rfl := wait_eq_ok wait_eq
      exact ⟨punctual.limits_eq, punctual.conversation.pause (le_max_left _ _), .inl allows,
        punctual.refused⟩

/-- Each launch, poll and wait of an accepted workflow keeps a run within its limits. -/
theorem kept_within (accepted : dag.executionOrder = .ok order)
    (external : settings.backend.NeverCancels) :
    Kept settings dag paths id (.build dag) order (Punctual settings limits first)
      (Ceased settings dag paths limits first) := by
  have perm := Dag.perm_keys_of_executionOrder accepted
  have nodup := Dag.nodup_of_executionOrder accepted
  refine ⟨fun {run operator} faithful punctual ready => ?launch,
    fun {run operator} faithful punctual _ => ?poll,
    fun faithful punctual => punctual.wait (faithful.accounted nodup punctual.refused) _,
    fun faithful punctual due => ?cancel⟩
  case launch =>
    have accounted := faithful.accounted nodup punctual.refused
    have member := perm.mem_iff.1 ((faithful.known_iff operator).1 ⟨_, ready⟩)
    obtain ⟨carried, carried_eq⟩ := Table.mem_keys_iff.1 member
    refine ensures_launch (fun absent => by simp [carried_eq] at absent)
      (fun found fault found_eq build_eq => ?_) fun found spec _ _ => ?_
    · obtain ⟨node, rfl, lacks⟩ :=
        (JobSpec.build_ensures settings paths id found).of_eq_error build_eq
      refine ⟨.missing fun covers => ?_, accounted, ?_⟩
      · exact JobSpec.not_lacks accepted covers (Table.mem_values_iff.2 ⟨_, found_eq⟩) node lacks
      · exact .between punctual.conversation (punctual.early.imp_right And.right)
    · have responds : settings.backend.respond (.launch spec) run.world =
          (settings.backend.launch spec run.world).map launchResult := rfl
      exact (punctual.perform external accounted responds).mono_value
        fun _ ⟨next_punctual, noted⟩ => next_punctual.heedLaunch noted
  case poll =>
    have accounted := faithful.accounted nodup punctual.refused
    refine ensures_poll (fun _ => punctual) fun job _ => ?_
    have responds : settings.backend.respond (.poll operator job) run.world =
        (settings.backend.poll job run.world).map pollResult := rfl
    exact (punctual.perform external accounted responds).mono_value
      fun _ ⟨next_punctual, _⟩ => next_punctual.heedPoll operator _
  case cancel =>
    have accounted := faithful.accounted nodup punctual.refused
    exact punctual.ceases accounted (.interrupted (Limits.first_of_isDue punctual.wait_early due))

end Punctual

/-! ### The end of a run -/

/-- The run in which the cycles end, finished or stopped. -/
def last : Except (Stopped ω) (Run ω) → Run ω
  | .ok run => run
  | .error stopped => stopped.run

private theorem exists_mem_of_executionOrder (accepted : dag.executionOrder = .ok order) :
    ∃ operator, operator ∈ order := by
  obtain ⟨nonempty, _⟩ := Dag.executionOrder_eq_ok_iff.1 accepted
  have perm := Dag.perm_keys_of_executionOrder accepted
  refine List.exists_mem_of_ne_nil order fun order_eq => ?_
  rw [order_eq, List.nil_perm, Table.keys, List.map_eq_nil_iff] at perm
  simp [Table.isEmpty, perm] at nonempty

section Finished

variable {spec? : Uuid → Option JobSpec}

theorem Faithful.terminal (accepted : dag.executionOrder = .ok order)
    (faithful : run.Faithful (.build dag) spec? order) (finished : run.progress.isFinished = true)
    {operator : Uuid} (member : operator ∈ order) :
    ∃ state, run.progress.state? operator = some state ∧ state.isTerminal = true := by
  have topological : run.progress.graph.Topological order :=
    faithful.graph_eq ▸ Dag.topological_of_executionOrder accepted
  obtain ⟨state, found⟩ := (faithful.known_iff operator).2 member
  exact ⟨state, found, faithful.consistent.terminal_of_finished topological faithful.known_iff
    finished operator member state found⟩

private theorem Faithful.calls_ne_nil (accepted : dag.executionOrder = .ok order)
    (faithful : run.Faithful (.build dag) spec? order) (finished : run.progress.isFinished = true) :
    run.calls ≠ [] := by
  intro calls_eq
  have not_failed (operator : Uuid) : run.progress.state? operator ≠ some .failed := by
    intro failed
    have evidence := faithful.evidence operator
    rw [failed, calls_eq] at evidence
    simp [Evidence, Failed, Answered] at evidence
  obtain ⟨operator, member⟩ := exists_mem_of_executionOrder accepted
  obtain ⟨state, found, terminal⟩ := faithful.terminal accepted finished member
  cases state with
  | notReady | ready | dispatched => simp [OperatorState.isTerminal] at terminal
  | failed => exact not_failed operator found
  | skipped =>
      obtain ⟨ancestor, failed, _⟩ := (faithful.consistent.skipped ⟨_, found⟩).1 found
      exact not_failed ancestor failed
  | succeeded =>
      have evidence := faithful.evidence operator
      rw [found, calls_eq] at evidence
      simp [Evidence, Succeeded, Accepted] at evidence

end Finished

/-- An accepted workflow runs within its limits, whatever its backend does and however long that
takes.  No call is begun when a limit is reached or later, every answer was there before, and what
was not answered had no answer before.  A result says that every operator had come to an end before
any limit.  Otherwise the first limit gives the fault, with the moment at which it was reached and
the number of jobs in flight; and no operator fails but by what the backend said. -/
theorem ends_within_limits (accepted : dag.executionOrder = .ok order)
    (external : settings.backend.NeverCancels) {canceledAt : Option Nat} {world : ω}
    {limits : Limits} {final : Run ω} {ended : RunEnd ω RunReport}
    (limits_eq : limits = settings.limits canceledAt)
    (final_eq : final = last ((start order dag canceledAt world).cycle settings dag paths id 0))
    (ended_eq : ended = dag.execute settings order paths id canceledAt world) :
    (∀ call ∈ ended.calls, limits.Allows call.time) ∧
    settings.backend.Left limits settings.horizon world ended.calls ended.world ∧
    ended.now = final.now ∧
    (∀ operator, final.progress.state? operator = some .failed → Failed ended.calls operator) ∧
    (∀ operator message, final.launchErrors.find? operator = some message →
      Refused ended.calls operator message) ∧
    match ended.conclusion with
    | .result report =>
        limits.Allows ended.now ∧ report = final.report id ∧
          ∀ operator ∈ dag.operators.keys, ∃ state,
            report.operators.find? operator = some state ∧ state.isTerminal = true
    | .fault (.canceled count) =>
        limits.First .canceled ended.now ∧ HasCount (InFlight ended.calls) count
    | .fault (.deadlineExceeded timeout count) =>
        limits.First .deadline ended.now ∧ settings.timeout = some timeout ∧
          ended.now = timeout.nanos ∧ HasCount (InFlight ended.calls) count
    | .fault (.missingStoragePath _) => ¬paths.Covers dag
    | .fault _ => False
    | .unfinished => limits.Allows settings.horizon := by
  have perm := Dag.perm_keys_of_executionOrder accepted
  have nodup := Dag.nodup_of_executionOrder accepted
  have start_punctual : (start order dag canceledAt world).Punctual settings limits world :=
    ⟨limits_eq.symm, .start, .inr ⟨rfl, rfl⟩, by simp [start]⟩
  have kept : Kept settings dag paths id (.build dag) order (Punctual settings limits world)
      (Ceased settings dag paths limits world) := kept_within accepted external
  have outcome := kept.from_start accepted start_punctual
  rw [ended_eq, final_eq, Dag.execute]
  cases cycle_eq : (start order dag canceledAt world).cycle settings dag paths id 0 with
  | ok run =>
      obtain ⟨faithful, punctual, finished⟩ := outcome.of_eq_ok cycle_eq
      have accounted := faithful.accounted nodup punctual.refused
      have early : limits.Allows run.now :=
        punctual.early.resolve_right fun begun =>
          faithful.calls_ne_nil accepted finished begun.2
      have left : settings.backend.Left limits settings.horizon world run.calls run.world :=
        .between punctual.conversation (.inl early)
      exact ⟨left.allows, left, rfl, fun _ => accounted.failed, fun _ _ => accounted.refused, early,
        rfl, fun operator member => faithful.terminal accepted finished (perm.mem_iff.2 member)⟩
  | error stopped =>
      obtain ⟨justified, accounted, left⟩ := outcome.of_eq_error cycle_eq
      refine ⟨left.allows, left, rfl, fun _ => accounted.failed, fun _ _ => accounted.refused, ?_⟩
      cases justified with
      | @interrupted run interrupt first =>
          have count : HasCount (InFlight run.calls) run.progress.dispatched.length :=
            ⟨_, accounted.dispatched_nodup, accounted.dispatched_iff, rfl⟩
          cases interrupt with
          | canceled => exact ⟨first, count⟩
          | deadline =>
              have planned := first.1
              rw [limits_eq] at planned
              obtain ⟨timeout, timeout_eq, now_eq⟩ := Option.map_eq_some_iff.1 planned
              have told_eq : settings.timeout.getD ⟨0⟩ = timeout := by
                rw [timeout_eq, Option.getD_some]
              exact ⟨first, told_eq ▸ timeout_eq, told_eq ▸ now_eq.symm, count⟩
      | unwatched allows => exact allows
      | missing uncovered => exact uncovered

/-- A backend that takes four milliseconds to accept a job and one to say that it still runs. -/
private def sluggish : RunSettings Unit where
  backend :=
    { config := .process "" ""
      launch := fun _ world => ⟨world, 4000000, false, some (.ok (), world)⟩
      poll := fun _ world => ⟨world, 1000000, false, some (.ok .running, world)⟩ }
  storage := .file ""
  secrets := .file ""
  pollInterval := .ofMillis 1
  timeout := some (.ofMillis 9)
  horizon := (Duration.ofMillis 20).nanos

/-- A join is canceled during its second launch, so only the first job is in flight. -/
theorem ends_within_limits_join :
    ∃ ended, ended = Dag.join.execute sluggish [.ofNat 1, .ofNat 2, .ofNat 3, .ofNat 4]
        (.generate .ofNat .join) .nil (some 6000000) () ∧
      sluggish.backend.NeverCancels ∧ ended.conclusion = .fault (.canceled 1) ∧
      ended.calls.map CallRecord.time = [0, 4000000] ∧
      (sluggish.limits (some 6000000)).First .canceled ended.now ∧
      HasCount (InFlight ended.calls) 1 := by
  have external : sluggish.backend.NeverCancels := by
    intro subject world
    cases subject <;> rfl
  obtain ⟨_, _, _, _, _, within⟩ := ends_within_limits Dag.executionOrder_join external rfl rfl
    (rfl : Dag.join.execute sluggish _ (.generate .ofNat .join) .nil (some 6000000) () = _)
  have conclusion_eq : (Dag.join.execute sluggish [.ofNat 1, .ofNat 2, .ofNat 3, .ofNat 4]
      (.generate .ofNat .join) .nil (some 6000000) ()).conclusion = .fault (.canceled 1) := by
    decide +kernel
  rw [conclusion_eq] at within
  refine ⟨_, rfl, external, conclusion_eq, ?times, within⟩
  case times => decide +kernel

end Run
end Workflow
