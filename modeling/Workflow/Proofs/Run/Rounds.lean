import Workflow.Proofs.Run.Faithful

/-!
# Rounds of calls

The operators that a round of launches or polls takes up one by one were all ready or dispatched
when the round began, and what happens to one of them leaves the others alone.  So a round makes one
call for each of them, and every cycle of a run adds disciplined calls that account for its states.
-/

namespace Workflow
namespace Run

open Calls

variable {ω : Type} {graph : Graph} {order : List Uuid} {settings : RunSettings ω} {dag : Dag}
  {paths : RunPaths} {id : Uuid} {run : Run ω}

/-- One call was made for an operator, and the others that are in a wanted state were left alone. -/
structure Called (graph : Graph) (spec? : Uuid → Option JobSpec) (order : List Uuid)
    (wanted : OperatorState) (kind : CallRecord → Bool) (run : Run ω) (operator : Uuid)
    (next : Run ω) : Prop where
  /-- The calls still account for the states. -/
  faithful : next.Faithful graph spec? order
  /-- There is one more call. -/
  called : ∃ call, next.calls = run.calls ++ [call] ∧ call.operator = operator ∧ kind call
  /-- The other operators in the wanted state still are. -/
  frame {other : Uuid} (other_ne : other ≠ operator)
    (found : run.progress.state? other = some wanted) : next.progress.state? other = some wanted

/-! ### One call -/

theorem launch_ensures (coherent : graph.Coherent)
    (faithful : run.Faithful graph (dag.spec? settings paths id) order) {operator : Uuid}
    (ready : run.progress.state? operator = some .ready) :
    Ensures
      (Called graph (dag.spec? settings paths id) order .ready CallRecord.isLaunch run operator)
      (Orderly graph (dag.spec? settings paths id) run.calls)
      (run.launch settings dag paths id operator) := by
  have idle (fault : Fault) :
      Orderly graph (dag.spec? settings paths id) run.calls (run.fail fault) :=
    ⟨faithful.disciplined, List.prefix_rfl⟩
  refine ensures_launch (fun _ => idle _) (fun _ fault _ _ => idle fault)
    fun found spec found_eq build_eq => ?_
  have spec_eq : dag.spec? settings paths id operator = some spec :=
    Dag.spec?_eq_some_iff.2 ⟨found, found_eq, build_eq⟩
  have admissible := faithful.admissible_launch ready spec_eq
  refine (run.perform_ensures settings operator (.launch spec) (settings.backend.launch spec)
    launchResult).mono ?_ fun _ => faithful.orderly admissible
  rintro ⟨answer, next⟩ ⟨progress_eq, jobs_eq, _, _, time, calls_eq⟩
  cases answer with
  | ok =>
      refine ⟨faithful.dispatch coherent ready spec_eq progress_eq jobs_eq calls_eq,
        ⟨_, calls_eq, rfl, rfl⟩, fun {other} other_ne other_ready => ?_⟩
      change (next.progress.move (.dispatch operator)).2.state? other = _
      rw [progress_eq]
      exact Progress.state?_move_of_settled other_ne other_ready nofun
  | error error =>
      refine ⟨faithful.refuse coherent ready spec_eq progress_eq jobs_eq calls_eq,
        ⟨_, calls_eq, rfl, rfl⟩, fun {other} other_ne other_ready => ?_⟩
      change (next.progress.move (.record operator .failed)).2.state? other = _
      rw [progress_eq]
      exact Progress.state?_move_of_settled other_ne other_ready nofun

theorem poll_ensures {spec? : Uuid → Option JobSpec} (coherent : graph.Coherent)
    (faithful : run.Faithful graph spec? order) {operator : Uuid}
    (dispatched : run.progress.state? operator = some .dispatched) :
    Ensures (Called graph spec? order .dispatched CallRecord.isPoll run operator)
      (Orderly graph spec? run.calls) (run.poll settings operator) := by
  have evidence := faithful.evidence operator
  rw [dispatched] at evidence
  obtain ⟨⟨launched, launched_eq, -⟩, -⟩ := evidence
  refine ensures_poll (fun absent => by simp [launched_eq] at absent) fun job job_eq => ?_
  have admissible := faithful.admissible_poll dispatched job_eq
  refine (run.perform_ensures settings operator (.poll operator job) (settings.backend.poll job)
    pollResult).mono ?_ fun _ => faithful.orderly admissible
  rintro ⟨answer, next⟩ ⟨progress_eq, jobs_eq, _, _, time, calls_eq⟩
  have called : ∃ call, next.calls = run.calls ++ [call] ∧ call.operator = operator ∧ call.isPoll :=
    ⟨_, calls_eq, rfl, CallRecord.isPoll_iff.2 ⟨job, rfl⟩⟩
  cases answer with
  | error error =>
      refine ⟨faithful.retry coherent dispatched job_eq progress_eq jobs_eq calls_eq, called,
        fun {other} _ other_dispatched => ?_⟩
      change next.progress.state? other = _
      rwa [progress_eq]
  | ok status =>
      unfold heedPoll
      dsimp only
      split
      · refine ⟨faithful.answer coherent dispatched job_eq ?_ jobs_eq calls_eq, called,
          fun {other} other_ne other_dispatched => ?_⟩
        · rw [progress_eq]
        · change (next.progress.move (.record operator status)).2.state? other = _
          rw [progress_eq]
          exact Progress.state?_move_of_settled other_ne other_dispatched nofun
      · rename_i open_status
        refine ⟨faithful.answer coherent dispatched job_eq ?_ jobs_eq calls_eq, called,
          fun {other} _ other_dispatched => ?_⟩
        · have unfinished := Bool.eq_false_of_not_eq_true open_status
          rw [progress_eq, Progress.record_of_not_terminal unfinished]
        · rwa [progress_eq]

/-! ### Rounds -/

theorem Orderly.of_prefix {spec? : Uuid → Option JobSpec} {calls more : List CallRecord}
    {stopped : Stopped ω} (orderly : Orderly graph spec? more stopped) (grown : calls <+: more) :
    Orderly graph spec? calls stopped :=
  ⟨orderly.1, grown.trans orderly.2⟩

/-- In the middle of a round of calls for the operators that were in a wanted state. -/
structure Midway (graph : Graph) (spec? : Uuid → Option JobSpec) (order : List Uuid)
    (wanted : OperatorState) (kind : CallRecord → Bool) (first : Run ω) (operators : List Uuid)
    (run : Run ω) : Prop where
  /-- The calls still account for the states. -/
  faithful : run.Faithful graph spec? order
  /-- No operator comes up twice. -/
  nodup : operators.Nodup
  /-- The operators that remain are still in the wanted state. -/
  remain : ∀ operator ∈ operators, run.progress.state? operator = some wanted
  /-- One call was made for each of the operators so far. -/
  made : ∃ made, run.calls = first.calls ++ made ∧ (∀ call ∈ made, kind call) ∧
    made.map CallRecord.operator ++ operators = first.progress.inState wanted

private theorem midway_first {spec? : Uuid → Option JobSpec} {wanted : OperatorState}
    {kind : CallRecord → Bool} (nodup : order.Nodup) (faithful : run.Faithful graph spec? order) :
    Midway graph spec? order wanted kind run (run.progress.inState wanted) run where
  faithful := faithful
  nodup := nodup.sublist (faithful.inState_sublist wanted)
  remain _ := faithful.mem_inState_iff.1
  made := ⟨[], by simp⟩

private theorem Midway.next {spec? : Uuid → Option JobSpec} {wanted : OperatorState}
    {kind : CallRecord → Bool} {first next : Run ω} {operator : Uuid} {operators : List Uuid}
    (midway : Midway graph spec? order wanted kind first (operator :: operators) run)
    (called : Called graph spec? order wanted kind run operator next) :
    Midway graph spec? order wanted kind first operators next where
  faithful := called.faithful
  nodup := midway.nodup.of_cons
  remain other member := by
    have other_ne : other ≠ operator := by
      rintro rfl
      exact (List.nodup_cons.1 midway.nodup).1 member
    exact called.frame other_ne (midway.remain other (List.mem_cons_of_mem _ member))
  made := by
    obtain ⟨made, calls_eq, kinds, made_eq⟩ := midway.made
    obtain ⟨call, next_calls, call_operator, call_kind⟩ := called.called
    refine ⟨made ++ [call], ?_, ?_, ?_⟩
    · rw [next_calls, calls_eq, List.append_assoc]
    · intro other member
      rcases List.mem_append.1 member with earlier | last
      · exact kinds other earlier
      · rwa [List.mem_singleton.1 last]
    · rw [← made_eq, List.map_append, List.append_assoc]
      simp [call_operator]

theorem Midway.grown {spec? : Uuid → Option JobSpec} {wanted : OperatorState}
    {kind : CallRecord → Bool} {first : Run ω} {operators : List Uuid}
    (midway : Midway graph spec? order wanted kind first operators run) :
    first.calls <+: run.calls := by
  obtain ⟨made, calls_eq, _⟩ := midway.made
  exact calls_eq ▸ List.prefix_append _ _

/-- A round makes one call for each operator in the wanted state, in order, and keeps what each of
the calls keeps. -/
theorem round_ensures {spec? : Uuid → Option JobSpec} {wanted : OperatorState}
    {kind : CallRecord → Bool} {step : Run ω → Uuid → Except (Stopped ω) (Run ω)}
    {good : Run ω → Prop} {bad : Stopped ω → Prop}
    (step_ensures : ∀ run : Run ω, run.Faithful graph spec? order → ∀ operator,
      run.progress.state? operator = some wanted →
        Ensures (Called graph spec? order wanted kind run operator)
          (Orderly graph spec? run.calls) (step run operator))
    (step_keeps : ∀ run : Run ω, run.Faithful graph spec? order → good run → ∀ operator,
      run.progress.state? operator = some wanted → Ensures good bad (step run operator))
    (nodup : order.Nodup) (faithful : run.Faithful graph spec? order) (holds : good run) :
    Ensures (fun last => Midway graph spec? order wanted kind run [] last ∧ good last) bad
      ((run.progress.inState wanted).foldlM step run) := by
  let both (operators : List Uuid) (state : Run ω) : Prop :=
    Midway graph spec? order wanted kind run operators state ∧ good state
  change Ensures (both []) bad _
  refine ensures_foldlM (fun operator operators state ⟨midway, state_holds⟩ => ?_)
    (show both _ run from ⟨midway_first nodup faithful, holds⟩)
  have state_wanted := midway.remain operator List.mem_cons_self
  exact ((step_ensures state midway.faithful operator state_wanted).and
    (step_keeps state midway.faithful state_holds operator state_wanted)).mono
      (fun _ ⟨called, next_holds⟩ => ⟨midway.next called, next_holds⟩) fun _ => And.right

/-! ### What a run keeps -/

/-- Each launch, each poll and each wait of a run keeps what is good, or stops the run with an end
that is allowed. -/
structure Kept (settings : RunSettings ω) (dag : Dag) (paths : RunPaths) (id : Uuid) (graph : Graph)
    (order : List Uuid) (good : Run ω → Prop) (bad : Stopped ω → Prop) : Prop where
  /-- A ready operator is launched. -/
  launch {run : Run ω} {operator : Uuid}
    (faithful : run.Faithful graph (dag.spec? settings paths id) order) (holds : good run)
    (ready : run.progress.state? operator = some .ready) :
    Ensures good bad (run.launch settings dag paths id operator)
  /-- A dispatched operator is polled. -/
  poll {run : Run ω} {operator : Uuid}
    (faithful : run.Faithful graph (dag.spec? settings paths id) order) (holds : good run)
    (dispatched : run.progress.state? operator = some .dispatched) :
    Ensures good bad (run.poll settings operator)
  /-- The next tick is waited for. -/
  wait {run : Run ω} {due : Nat}
    (faithful : run.Faithful graph (dag.spec? settings paths id) order) (holds : good run) :
    Ensures good bad (run.wait settings due)
  /-- The run turns out to be canceled at the beginning of a cycle. -/
  cancel {run : Run ω} (faithful : run.Faithful graph (dag.spec? settings paths id) order)
    (holds : good run) (due : Limits.isDue run.canceledAt run.now = true) :
    bad (run.stopAt settings .canceled run.now)

namespace Kept

variable {good : Run ω → Prop} {bad : Stopped ω → Prop}
  (kept : Kept settings dag paths id graph order good bad)

include kept

theorem launchReady (coherent : graph.Coherent) (nodup : order.Nodup)
    (faithful : run.Faithful graph (dag.spec? settings paths id) order) (holds : good run) :
    Ensures
      (fun last =>
        Midway graph (dag.spec? settings paths id) order .ready CallRecord.isLaunch run [] last ∧
          good last)
      bad (run.launchReady settings dag paths id) := by
  unfold Run.launchReady
  split
  · rename_i due
    exact kept.cancel faithful holds due
  · exact round_ensures (fun _ faithful _ ready => launch_ensures coherent faithful ready)
      (fun _ faithful holds _ ready => kept.launch faithful holds ready) nodup faithful holds

theorem pollDispatched (coherent : graph.Coherent) (nodup : order.Nodup)
    (faithful : run.Faithful graph (dag.spec? settings paths id) order) (holds : good run) :
    Ensures
      (fun last =>
        Midway graph (dag.spec? settings paths id) order .dispatched CallRecord.isPoll run [] last ∧
          good last)
      bad (run.pollDispatched settings) :=
  round_ensures (fun _ faithful _ dispatched => poll_ensures coherent faithful dispatched)
    (fun _ faithful holds _ dispatched => kept.poll faithful holds dispatched) nodup faithful holds

/-- What every call and every wait keeps is kept by the cycles of a run until it ends. -/
theorem cycle (coherent : graph.Coherent) (nodup : order.Nodup) {due : Nat}
    (faithful : run.Faithful graph (dag.spec? settings paths id) order) (holds : good run) :
    Ensures
      (fun final => final.Faithful graph (dag.spec? settings paths id) order ∧ good final ∧
        final.progress.isFinished = true)
      bad (run.cycle settings dag paths id due) := by
  -- The tick of the next cycle is due later than this one, and the horizon bounds them.
  induction remaining : settings.horizon + 1 - due using Nat.strong_induction_on
    generalizing due run with
  | _ remaining ih =>
    rw [Run.cycle]
    refine (kept.launchReady coherent nodup faithful holds).bind
      fun launched ⟨launches, launched_holds⟩ => ?_
    split
    · rename_i finished
      exact ⟨launches.faithful, launched_holds, finished⟩
    · cases wait_eq : launched.wait settings due with
      | error stopped =>
          have waits : Ensures good bad (launched.wait settings due) :=
            kept.wait launches.faithful launched_holds
          rwa [wait_eq] at waits
      | ok waited =>
          have keeps := (launched.wait_ensures settings due).of_eq_ok wait_eq
          have waited_holds := (kept.wait launches.faithful launched_holds).of_eq_ok wait_eq
          have watched := le_horizon_of_wait wait_eq
          have later := Ticker.lt_next settings.pollInterval due waited.now
          change Ensures _ _ (if _watched : due ≤ settings.horizon then _ else _)
          rw [dif_pos watched]
          refine (kept.pollDispatched coherent nodup (launches.faithful.keeps keeps)
            waited_holds).bind fun polled ⟨polls, polled_holds⟩ => ?_
          exact ih _ (by omega) polls.faithful polled_holds rfl

end Kept

/-- What every call and every wait keeps is kept by the run of an accepted workflow to its end. -/
theorem Kept.from_start {good : Run ω → Prop} {bad : Stopped ω → Prop}
    (kept : Kept settings dag paths id (.build dag) order good bad)
    (accepted : dag.executionOrder = .ok order) {canceledAt : Option Nat} {world : ω}
    (holds : good (start order dag canceledAt world)) :
    Ensures
      (fun final => final.Faithful (.build dag) (dag.spec? settings paths id) order ∧ good final ∧
        final.progress.isFinished = true)
      bad ((start order dag canceledAt world).cycle settings dag paths id 0) :=
  kept.cycle (Graph.build_coherent dag) (Dag.nodup_of_executionOrder accepted)
    (faithful_start order dag canceledAt world) holds

/-- What every call and every wait keeps holds of the finished run that a report is about. -/
theorem Kept.of_report {good : Run ω → Prop} {bad : Stopped ω → Prop}
    (kept : Kept settings dag paths id (.build dag) order good bad)
    (accepted : dag.executionOrder = .ok order) {canceledAt : Option Nat} {world : ω}
    (holds : good (start order dag canceledAt world)) {ended : RunEnd ω RunReport}
    (ended_eq : ended = dag.execute settings order paths id canceledAt world) {report : RunReport}
    (reported : ended.conclusion = .result report) :
    ∃ final : Run ω, final.Faithful (.build dag) (dag.spec? settings paths id) order ∧
      good final ∧ final.progress.isFinished = true ∧ report = final.report id ∧
        ended = final.conclude (.result report) := by
  have ends := kept.from_start accepted holds
  rw [ended_eq, Dag.execute] at reported
  rw [ended_eq, Dag.execute]
  cases cycle_eq : (start order dag canceledAt world).cycle settings dag paths id 0 with
  | ok final =>
      rw [cycle_eq] at reported
      obtain ⟨faithful, final_holds, finished⟩ := ends.of_eq_ok cycle_eq
      obtain rfl := Conclusion.result.inj reported
      exact ⟨final, faithful, final_holds, finished, rfl, rfl⟩
  | error stopped =>
      rw [cycle_eq] at reported
      obtain ⟨reason, run⟩ := stopped
      cases reason <;> exact nomatch reported

/-! ### Orderly runs -/

theorem orderly_of_keeps {spec? : Uuid → Option JobSpec} {calls : List CallRecord}
    {stopped : Stopped ω} (faithful : run.Faithful graph spec? order) (grown : calls <+: run.calls)
    (keeps : run.Keeps stopped.run) : Orderly graph spec? calls stopped := by
  rw [Orderly, keeps.calls_eq]
  exact ⟨faithful.disciplined, grown⟩

private theorem Called.grown {spec? : Uuid → Option JobSpec} {wanted : OperatorState}
    {kind : CallRecord → Bool} {operator : Uuid} {next : Run ω}
    (called : Called graph spec? order wanted kind run operator next) :
    run.calls <+: next.calls := by
  obtain ⟨call, calls_eq, _⟩ := called.called
  exact calls_eq ▸ List.prefix_append _ _

/-- A run only adds calls, and they are disciplined however it ends. -/
theorem kept_orderly (coherent : graph.Coherent) (first : Run ω) :
    Kept settings dag paths id graph order (fun run => first.calls <+: run.calls)
      (Orderly graph (dag.spec? settings paths id) first.calls) where
  launch faithful grown ready :=
    (launch_ensures coherent faithful ready).mono (fun _ called => grown.trans called.grown)
      fun _ orderly => orderly.of_prefix grown
  poll faithful grown dispatched :=
    (poll_ensures coherent faithful dispatched).mono (fun _ called => grown.trans called.grown)
      fun _ orderly => orderly.of_prefix grown
  wait {run due} faithful grown :=
    (run.wait_ensures settings due).mono (fun _ keeps => keeps.calls_eq ▸ grown)
      fun _ keeps => orderly_of_keeps faithful grown keeps
  cancel faithful grown _ := ⟨faithful.disciplined, grown⟩

theorem launchReady_ensures (coherent : graph.Coherent) (nodup : order.Nodup)
    (faithful : run.Faithful graph (dag.spec? settings paths id) order) :
    Ensures (Midway graph (dag.spec? settings paths id) order .ready CallRecord.isLaunch run [])
      (Orderly graph (dag.spec? settings paths id) run.calls)
      (run.launchReady settings dag paths id) :=
  ((kept_orderly coherent run).launchReady coherent nodup faithful List.prefix_rfl).mono
    (fun _ => And.left) fun _ orderly => orderly

theorem pollDispatched_ensures (coherent : graph.Coherent) (nodup : order.Nodup)
    (faithful : run.Faithful graph (dag.spec? settings paths id) order) :
    Ensures (Midway graph (dag.spec? settings paths id) order .dispatched CallRecord.isPoll run [])
      (Orderly graph (dag.spec? settings paths id) run.calls) (run.pollDispatched settings) :=
  ((kept_orderly coherent run).pollDispatched coherent nodup faithful List.prefix_rfl).mono
    (fun _ => And.left) fun _ orderly => orderly

/-- A run that goes round its cycles adds disciplined calls until it ends. -/
theorem cycle_ensures (coherent : graph.Coherent) (nodup : order.Nodup) {due : Nat}
    (faithful : run.Faithful graph (dag.spec? settings paths id) order) :
    Ensures
      (fun final => final.Faithful graph (dag.spec? settings paths id) order ∧
        run.calls <+: final.calls)
      (Orderly graph (dag.spec? settings paths id) run.calls)
      (run.cycle settings dag paths id due) :=
  ((kept_orderly coherent run).cycle coherent nodup faithful List.prefix_rfl).mono
    (fun _ ⟨final_faithful, grown, _⟩ => ⟨final_faithful, grown⟩) fun _ orderly => orderly

end Run
end Workflow
