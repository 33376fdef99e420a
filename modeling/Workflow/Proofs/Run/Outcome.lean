import Workflow.Proofs.Run.Discipline
import Workflow.Proofs.Run.Interruption

/-!
# What a run comes to

The run of an accepted workflow never meets an operator that is unknown, and it misses a path only
if the workflow is not covered.  So it ends with a report on all operators or is interrupted, unless
no limit is reached as long as it is watched.  What it launches are the jobs of its operators.
-/

namespace Workflow

/-- The fault of a run that was interrupted. -/
def Fault.IsInterruption : Fault → Prop
  | .canceled _ | .deadlineExceeded _ _ => True
  | .validation _ | .unknownOperator _ | .missingStoragePath _ | .malformedArtifact _ _ _
  | .storage _ => False

theorem RunEnd.mem_specs {ω α : Type} {ended : RunEnd ω α} {spec : JobSpec} :
    spec ∈ ended.specs ↔ ∃ call ∈ ended.calls, call.subject = .launch spec := by
  rw [specs, List.mem_filterMap]
  refine exists_congr fun call => and_congr_right fun _ => ?_
  cases call.subject <;> simp

namespace Run

open Calls

variable {ω α : Type} {settings : RunSettings ω} {dag : Dag} {paths : RunPaths} {id : Uuid}
  {order : List Uuid} {planned : Option Nat} {run : Run ω} {limits : Limits}

/-- The run is canceled no later than planned. -/
def CanceledBy (planned : Option Nat) (run : Run ω) : Prop :=
  ∀ latest ∈ planned, ∃ moment ∈ run.canceledAt, moment ≤ latest

private theorem CanceledBy.allows (canceledBy : run.CanceledBy planned) {time : Nat}
    (allows : (run.limits settings).Allows time) : (settings.limits planned).Allows time :=
  ⟨fun latest member =>
    have ⟨moment, moment_mem, le⟩ := canceledBy latest member
    Nat.lt_of_lt_of_le (allows.1 moment moment_mem) le, allows.2⟩

/-- A run stops when it is interrupted, when a path is missing, or when it is watched no longer and
has not reached a limit. -/
def MayStop (settings : RunSettings ω) (dag : Dag) (paths : RunPaths) (limits : Limits) :
    StopReason → Prop
  | .fault fault =>
      fault.IsInterruption ∨ (∃ node, fault = .missingStoragePath node) ∧ ¬paths.Covers dag
  | .unfinished => limits.Allows settings.horizon

private theorem CanceledBy.mayStop (canceledBy : run.CanceledBy planned) {reason : StopReason}
    (stops : MayStop settings dag paths (run.limits settings) reason) :
    MayStop settings dag paths (settings.limits planned) reason := by
  cases reason with
  | fault fault => exact stops
  | unfinished => exact canceledBy.allows stops

/-! ### Waits and calls -/

theorem isInterruption_interruptFault (settings : RunSettings ω) (run : Run ω)
    (interrupt : Interrupt) : (run.interruptFault settings interrupt).IsInterruption := by
  cases interrupt <;> trivial

private theorem wait_outcome (settings : RunSettings ω) (dag : Dag) (paths : RunPaths) (run : Run ω)
    (time : Nat) :
    Ensures (fun _ => (run.limits settings).Allows (max run.now time))
      (fun stopped => MayStop settings dag paths (run.limits settings) stopped.reason)
      (run.wait settings time) := by
  refine (run.wait_cases settings time).mono
    (fun _ ⟨_, _, goes_on⟩ => Limits.allows_of_interrupt? (le_max_left _ _) goes_on)
    fun stopped stops => ?_
  cases stops with
  | interrupted => exact .inl (run.isInterruption_interruptFault settings _)
  | unwatched _ goes_on =>
      exact (Limits.allows_of_interrupt? (le_max_left _ _) goes_on).mono (le_max_right _ _)

theorem mayStop_waitInVain (run : Run ω) :
    MayStop settings dag paths (run.limits settings) (run.waitInVain settings).reason :=
  (wait_outcome settings dag paths run _).of_eq_error (run.wait_past_horizon settings)

private theorem CanceledBy.upon (canceledBy : run.CanceledBy planned) {response : BackendCall ω α}
    (allows : (run.limits settings).Allows (run.now + response.delay)) :
    (run.upon response).CanceledBy planned := by
  unfold Run.upon
  dsimp only
  split
  · intro latest member
    exact ⟨_, rfl, Nat.le_of_lt ((canceledBy.allows allows).1 latest member)⟩
  · exact canceledBy

private theorem CanceledBy.perform (canceledBy : run.CanceledBy planned) (operator : Uuid)
    (subject : CallSubject) (call : ω → BackendCall ω α) (result : α → CallResult) :
    Ensures (fun (_, next) => next.CanceledBy planned)
      (fun stopped => MayStop settings dag paths (settings.limits planned) stopped.reason)
      (run.perform settings operator subject call result) := by
  have during_limits : (run.during (call run.world)).limits settings = run.limits settings := rfl
  have waits := wait_outcome settings dag paths (run.during (call run.world))
    (run.now + (call run.world).delay)
  refine (run.perform_cases settings operator subject rfl result).mono ?_ ?_
  · rintro ⟨answer, next⟩ ⟨world, _, wait_eq, rfl⟩
    have allows := (waits.of_eq_ok wait_eq).mono (le_max_right _ _)
    exact canceledBy.upon (during_limits ▸ allows)
  · rintro stopped (begin_eq | ⟨_, halted, rfl, delay_eq | ⟨_, wait_eq, rfl⟩⟩)
    · exact canceledBy.mayStop ((wait_outcome settings dag paths run run.now).of_eq_error begin_eq)
    · have stops := waits.of_eq_error delay_eq
      rw [during_limits] at stops
      exact canceledBy.mayStop stops
    · have allows := (waits.of_eq_ok wait_eq).mono (le_max_right _ _)
      exact (canceledBy.upon (during_limits ▸ allows)).mayStop (mayStop_waitInVain _)

/-! ### Launch errors -/

private theorem Sourced.perform (sourced : run.Sourced) (operator : Uuid) (subject : CallSubject)
    (call : ω → BackendCall ω α) (result : α → CallResult) :
    Ensures
      (fun (answer, next) => next.Sourced ∧
        ∃ time, ⟨time, operator, subject, result answer⟩ ∈ next.calls)
      (fun _ => True) (run.perform settings operator subject call result) := by
  refine (run.perform_ends settings operator subject rfl result).mono ?_ fun _ _ => trivial
  rintro ⟨answer, next⟩ ⟨_, _, _, rfl⟩
  simp only [Sourced, calls_note]
  exact ⟨fun _ _ error => (sourced error).mono (List.subset_append_left _ _), _,
    List.mem_concat_self⟩

theorem kept_sourced :
    Kept settings dag paths id (.build dag) order Sourced (fun _ => True) where
  launch {run operator} _ sourced _ :=
    ensures_launch (fun _ => trivial) (fun _ _ _ _ => trivial) fun _ spec _ _ =>
      (sourced.perform operator _ _ _).mono_value fun _ ⟨next_sourced, _, noted⟩ =>
        next_sourced.heedLaunch noted
  poll {run operator} _ sourced _ := by
    refine ensures_poll (fun _ => sourced) fun job _ => ?_
    refine (sourced.perform operator _ _ _).mono_value ?_
    rintro ⟨answer, next⟩ ⟨next_sourced, _⟩
    obtain ⟨progress, heeded_eq⟩ := next.heedPoll_eq operator answer
    simp only [heeded_eq]
    exact next_sourced
  wait {run due} _ sourced := by
    cases wait_eq : run.wait settings due with
    | ok waited =>
        obtain rfl := wait_eq_ok wait_eq
        exact sourced
    | error stopped => exact trivial
  cancel _ _ _ := trivial

/-! ### The whole run -/

theorem Faithful.keys_states {spec? : Uuid → Option JobSpec}
    (accepted : dag.executionOrder = .ok order)
    (faithful : run.Faithful (.build dag) spec? order) :
    run.progress.states.keys = dag.operators.keys := by
  refine Table.keys_eq_of_mem_iff fun operator => ?_
  rw [Table.mem_keys_iff, ← (Dag.perm_keys_of_executionOrder accepted).mem_iff]
  exact faithful.known_iff operator

/-- The operators that have succeeded are those whose jobs have. -/
theorem Faithful.succeeded_iff {graph : Graph} {spec? : Uuid → Option JobSpec}
    (faithful : run.Faithful graph spec? order) {operator : Uuid} :
    run.progress.state? operator = some .succeeded ↔ Succeeded run.calls operator := by
  have evidence := faithful.evidence operator
  constructor
  · intro succeeded
    rwa [succeeded] at evidence
  · intro succeeded
    obtain ⟨job, accepted, answered⟩ := succeeded
    cases state_eq : run.progress.state? operator with
    | none =>
        rw [state_eq] at evidence
        exact absurd accepted.launched evidence
    | some state =>
        rw [state_eq] at evidence
        cases state with
        | succeeded => rfl
        | notReady | ready | skipped => exact absurd accepted.launched evidence
        | dispatched => exact nomatch evidence.2 job .succeeded answered
        | failed =>
            exact absurd evidence
              (faithful.disciplined.not_failed_of_succeeded ⟨job, accepted, answered⟩)

/-- Each launch, poll and wait of an accepted workflow stops a run only as it may. -/
theorem kept_mayStop (accepted : dag.executionOrder = .ok order) :
    Kept settings dag paths id (.build dag) order (CanceledBy planned)
      (fun stopped => MayStop settings dag paths (settings.limits planned) stopped.reason) where
  launch {run operator} faithful canceledBy ready := by
    have known := (faithful.known_iff operator).1 ⟨_, ready⟩
    obtain ⟨carried, carried_eq⟩ :=
      Table.mem_keys_iff.1 ((Dag.perm_keys_of_executionOrder accepted).mem_iff.1 known)
    refine ensures_launch (fun absent => by simp [carried_eq] at absent)
      (fun found fault found_eq build_eq => .inr ?_) fun found spec _ _ => ?_
    · obtain ⟨node, fault_eq, lacks⟩ :=
        (JobSpec.build_ensures settings paths id found).of_eq_error build_eq
      refine ⟨⟨node, fault_eq⟩, fun covers => ?_⟩
      exact JobSpec.not_lacks accepted covers (Table.mem_values_iff.2 ⟨_, found_eq⟩) node lacks
    · refine (canceledBy.perform operator _ _ _).mono_value ?_
      rintro ⟨answer, next⟩ next_canceledBy
      cases answer <;> exact next_canceledBy
  poll {run operator} _ canceledBy _ := by
    refine ensures_poll (fun _ => canceledBy) fun job _ => ?_
    refine (canceledBy.perform operator _ _ _).mono_value ?_
    rintro ⟨answer, next⟩ next_canceledBy
    obtain ⟨progress, heeded_eq⟩ := next.heedPoll_eq operator answer
    simp only [heeded_eq]
    exact next_canceledBy
  wait {run due} _ canceledBy := by
    have waits := wait_outcome settings dag paths run due
    cases wait_eq : run.wait settings due with
    | ok waited =>
        obtain rfl := wait_eq_ok wait_eq
        exact canceledBy
    | error stopped => exact canceledBy.mayStop (waits.of_eq_error wait_eq)
  cancel _ _ _ := .inl trivial

/-- The run of an accepted workflow ends with a report on a finished run, or it stops as it may. -/
theorem execute_outcome (accepted : dag.executionOrder = .ok order) (canceledAt : Option Nat)
    (world : ω) {ended : RunEnd ω RunReport}
    (ended_eq : ended = dag.execute settings order paths id canceledAt world) :
    match ended.conclusion with
    | .result report => ∃ final : Run ω,
        final.Faithful (.build dag) (dag.spec? settings paths id) order ∧
          final.Sourced ∧ final.progress.isFinished = true ∧ report = final.report id ∧
            ended.calls = final.calls ∧ ended.world = final.world
    | .fault fault => MayStop settings dag paths (settings.limits canceledAt) (.fault fault)
    | .unfinished => MayStop settings dag paths (settings.limits canceledAt) .unfinished := by
  have planned : (start order dag canceledAt world).CanceledBy canceledAt :=
    fun latest member => ⟨latest, member, Nat.le_refl latest⟩
  have kept : Kept settings dag paths id (.build dag) order (CanceledBy canceledAt)
      (fun stopped => MayStop settings dag paths (settings.limits canceledAt) stopped.reason) :=
    kept_mayStop accepted
  have outcome := kept.from_start accepted planned
  have kept_errors : Kept settings dag paths id (.build dag) order Sourced (fun _ => True) :=
    kept_sourced
  have begun : (start order dag canceledAt world).Sourced := by simp [Sourced, start]
  have sources := kept_errors.from_start accepted begun
  rw [ended_eq, Dag.execute]
  cases cycle_eq : (start order dag canceledAt world).cycle settings dag paths id 0 with
  | ok final =>
      obtain ⟨faithful, _, finished⟩ := outcome.of_eq_ok cycle_eq
      exact ⟨final, faithful, (sources.of_eq_ok cycle_eq).2.1, finished, rfl, rfl, rfl⟩
  | error stopped =>
      have stops := outcome.of_eq_error cycle_eq
      obtain ⟨reason, run⟩ := stopped
      cases reason <;> exact stops

/-- Each call of a run is admissible after those before it. -/
theorem disciplined_execute (accepted : dag.executionOrder = .ok order) (canceledAt : Option Nat)
    (world : ω) :
    Disciplined (.build dag) (dag.spec? settings paths id)
      (dag.execute settings order paths id canceledAt world).calls := by
  have nodup := Dag.nodup_of_executionOrder accepted
  apply holds_calls_execute
  exact (cycle_ensures (Graph.build_coherent dag) nodup
    (faithful_start order dag canceledAt world)).mono (fun _ holds => holds.1.disciplined)
      fun _ => And.left

theorem build_eq_of_launch (accepted : dag.executionOrder = .ok order) {canceledAt : Option Nat}
    {world : ω} {call : CallRecord} {spec : JobSpec}
    (member : call ∈ (dag.execute settings order paths id canceledAt world).calls)
    (subject : call.subject = .launch spec) :
    ∃ operator, dag.operators.find? call.operator = some operator ∧
      JobSpec.build settings paths id operator = .ok spec := by
  have disciplined : Disciplined (.build dag) (dag.spec? settings paths id) _ :=
    disciplined_execute accepted canceledAt world
  obtain ⟨before, _, admissible⟩ := disciplined.good_of_mem member
  simp only [Admissible, subject] at admissible
  exact Dag.spec?_eq_some_iff.1 admissible.1

end Run
end Workflow
