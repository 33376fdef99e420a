import Workflow.Proofs.Run.Outcome

/-!
# What a report accounts for

A run keeps the states, the jobs, the order of dispatch and the launch errors of its operators
apart.  `Ledger` ties the last two to the calls of the run, as `Faithful` does for the states, so a
report mentions every operator once: among the dispatched operators, the launch errors or the
skipped operators.
-/

namespace Workflow

/-- The call is a launch that was accepted. -/
def CallRecord.isAcceptance (call : CallRecord) : Bool :=
  call.isLaunch && call.result == .accepted

theorem CallRecord.isAcceptance_iff {call : CallRecord} :
    call.isAcceptance = true ↔ (∃ spec, call.subject = .launch spec) ∧ call.result = .accepted := by
  simp [isAcceptance, isLaunch_iff]

/-- The operators that a report calls skipped. -/
def RunReport.skipped (report : RunReport) : List Uuid :=
  (report.operators.filter fun _ state => state == .skipped).keys

theorem RunReport.mem_skipped {report : RunReport} {operator : Uuid} :
    operator ∈ report.skipped ↔ report.operators.find? operator = some .skipped := by
  simp [skipped, Table.mem_keys_iff, Table.find?_filter, Option.filter_eq_some_iff]

namespace Calls

/-- The operators whose jobs were accepted, first one first. -/
def acceptedOperators (calls : List CallRecord) : List Uuid :=
  (calls.filter CallRecord.isAcceptance).map CallRecord.operator

/-- The polls for an operator, first one first. -/
def pollsOf (calls : List CallRecord) (operator : Uuid) : List CallRecord :=
  calls.filter fun call => call.isPoll && call.operator == operator

/-- What came of the last poll for an operator. -/
def lastPoll? (calls : List CallRecord) (operator : Uuid) : Option CallResult :=
  (pollsOf calls operator).getLast?.map CallRecord.result

/-- The last poll for the operator said that its job has failed or was canceled. -/
def FailedAtPoll (calls : List CallRecord) (operator : Uuid) : Prop :=
  lastPoll? calls operator = some (.status .failed) ∨
    lastPoll? calls operator = some (.status .canceled)

/-! ### Accepted operators -/

section Accepted

variable {graph : Graph} {spec? : Uuid → Option JobSpec} {calls made : List CallRecord}
  {call : CallRecord} {operator : Uuid} {message : String}

theorem mem_acceptedOperators :
    operator ∈ acceptedOperators calls ↔ ∃ job, Accepted calls operator job := by
  simp only [acceptedOperators, List.mem_map, List.mem_filter, CallRecord.isAcceptance_iff]
  constructor
  · rintro ⟨call, ⟨member, ⟨spec, subject⟩, result⟩, call_operator⟩
    exact ⟨spec.name, call, member, call_operator, spec, subject, rfl, result⟩
  · rintro ⟨job, call, member, call_operator, spec, subject, _, result⟩
    exact ⟨call, ⟨member, ⟨spec, subject⟩, result⟩, call_operator⟩

theorem acceptedOperators_append :
    acceptedOperators (calls ++ made) = acceptedOperators calls ++ acceptedOperators made := by
  rw [acceptedOperators, List.filter_append, List.map_append]
  rfl

theorem acceptedOperators_concat :
    acceptedOperators (calls ++ [call]) =
      acceptedOperators calls ++ if call.isAcceptance then [call.operator] else [] := by
  rw [acceptedOperators_append]
  cases accepted : call.isAcceptance <;> simp [acceptedOperators, accepted]

theorem refused_concat :
    Refused (calls ++ [call]) operator message ↔
      Refused calls operator message ∨ call.operator = operator ∧
        ∃ spec error, call.subject = .launch spec ∧ call.result = .refused error ∧
          error.message = message := by
  simp [Refused, or_and_right, exists_or]

/-- No operator is accepted twice. -/
theorem Disciplined.nodup_acceptedOperators (disciplined : Disciplined graph spec? calls) :
    (acceptedOperators calls).Nodup := by
  induction calls using List.reverseRecOn with
  | nil => exact List.nodup_nil
  | append_singleton calls call ih =>
      rw [acceptedOperators_concat]
      split
      · rename_i accepted
        obtain ⟨⟨spec, subject⟩, _⟩ := CallRecord.isAcceptance_iff.1 accepted
        have admissible := disciplined.last
        simp only [Admissible, subject] at admissible
        rw [← List.concat_eq_append]
        refine (ih disciplined.front).concat fun earlier => admissible.2.1 ?_
        obtain ⟨job, earlier_accepted⟩ := mem_acceptedOperators.1 earlier
        exact earlier_accepted.launched
      · rw [List.append_nil]
        exact ih disciplined.front

/-- An operator is accepted after its producers. -/
theorem Disciplined.topological_acceptedOperators (disciplined : Disciplined graph spec? calls) :
    graph.Topological (acceptedOperators calls) := by
  induction calls using List.reverseRecOn with
  | nil => exact stepwise_nil
  | append_singleton calls call ih =>
      rw [acceptedOperators_concat]
      split
      · rename_i accepted
        obtain ⟨⟨spec, subject⟩, _⟩ := CallRecord.isAcceptance_iff.1 accepted
        have admissible := disciplined.last
        simp only [Admissible, subject] at admissible
        refine stepwise_concat.2 ⟨ih disciplined.front, fun producer link => ?_⟩
        obtain ⟨job, producer_accepted, _⟩ := admissible.2.2 producer link
        exact mem_acceptedOperators.2 ⟨job, producer_accepted⟩
      · rw [List.append_nil]
        exact ih disciplined.front

theorem Disciplined.accepted_of_answered (disciplined : Disciplined graph spec? calls)
    {job : String} {status : Status} (answered : Answered calls operator job status) :
    Accepted calls operator job := by
  obtain ⟨call, member, _, subject, _⟩ := answered
  obtain ⟨before, subset, admissible⟩ := disciplined.good_of_mem member
  simp only [Admissible, subject] at admissible
  exact admissible.2.1.mono subset

end Accepted

/-! ### Last polls -/

section Polls

variable {graph : Graph} {spec? : Uuid → Option JobSpec} {calls made : List CallRecord}
  {operator : Uuid} {status : Status}

theorem pollsOf_append :
    pollsOf (calls ++ made) operator = pollsOf calls operator ++ pollsOf made operator :=
  List.filter_append ..

theorem length_pollsOf_ne_zero {job : String} (answered : Answered calls operator job status) :
    (pollsOf calls operator).length ≠ 0 := by
  obtain ⟨call, member, call_operator, subject, _⟩ := answered
  refine Nat.ne_of_gt (List.length_pos_of_mem (List.mem_filter.2 ⟨member, ?_⟩))
  simp [CallRecord.isPoll, subject, call_operator]

theorem Disciplined.mem_acceptedOperators_of_polled (disciplined : Disciplined graph spec? calls)
    (polled : (pollsOf calls operator).length ≠ 0) : operator ∈ acceptedOperators calls := by
  obtain ⟨call, member⟩ := List.exists_mem_of_length_pos (Nat.pos_of_ne_zero polled)
  obtain ⟨call_mem, kind⟩ := List.mem_filter.1 member
  obtain ⟨before, subset, admissible⟩ := disciplined.good_of_mem call_mem
  obtain ⟨time, called, subject, result⟩ := call
  cases subject with
  | launch spec => simp [CallRecord.isPoll] at kind
  | poll other job =>
      obtain ⟨rfl, accepted, _⟩ := admissible
      obtain rfl : other = operator := by simpa [CallRecord.isPoll] using kind
      exact mem_acceptedOperators.2 ⟨job, accepted.mono subset⟩

theorem lastPoll?_concat (calls : List CallRecord) (call : CallRecord) (operator : Uuid) :
    lastPoll? (calls ++ [call]) operator =
      if call.isPoll && call.operator == operator then some call.result
      else lastPoll? calls operator := by
  rw [lastPoll?, lastPoll?, pollsOf_append]
  split_ifs with poll
  · simp [pollsOf, List.filter, poll]
  · simp [pollsOf, List.filter, poll]

/-- An operator is polled until its job comes to an end, and not any more. -/
theorem Disciplined.lastPoll?_eq_iff (disciplined : Disciplined graph spec? calls)
    (terminal : status.isTerminal = true) :
    lastPoll? calls operator = some (.status status) ↔
      ∃ job, Answered calls operator job status := by
  induction calls using List.reverseRecOn with
  | nil => simp [lastPoll?, pollsOf, Answered]
  | append_singleton calls call ih =>
      have earlier_iff := ih disciplined.front
      have admissible := disciplined.last
      rw [lastPoll?_concat]
      obtain ⟨time, called, subject, result⟩ := call
      cases subject with
      | launch spec => simpa [CallRecord.isPoll, answered_concat] using earlier_iff
      | poll other job =>
          obtain ⟨rfl, -, unanswered⟩ := admissible
          by_cases same : other = operator
          · subst same
            have open_before (earlier : String) : ¬Answered calls other earlier status :=
              fun answered => by simp [unanswered earlier status answered] at terminal
            simp [CallRecord.isPoll, answered_concat, open_before]
          · simpa [CallRecord.isPoll, answered_concat, same] using earlier_iff

end Polls

end Calls

namespace Run

open Calls

variable {ω : Type} {settings : RunSettings ω} {dag : Dag} {paths : RunPaths} {id : Uuid}
  {order : List Uuid} {graph : Graph} {spec? : Uuid → Option JobSpec} {run : Run ω}

/-! ### The ledger of a run -/

/-- The order of dispatch and the launch errors of a run are what its calls say. -/
structure Ledger (run : Run ω) : Prop where
  /-- The dispatched operators are those that were accepted, in the same order. -/
  dispatchOrder_eq : run.dispatchOrder = acceptedOperators run.calls
  /-- There is a launch error for the operators that were refused. -/
  refused_iff (operator : Uuid) :
    operator ∈ run.launchErrors.keys ↔ ∃ message, Refused run.calls operator message

theorem ledger_start (order : List Uuid) (dag : Dag) (canceledAt : Option Nat) (world : ω) :
    (start order dag canceledAt world).Ledger where
  dispatchOrder_eq := rfl
  refused_iff operator := by simp [start, Table.mem_keys_iff, Refused, calls]

private theorem Ledger.heedLaunch {next : Run ω} {operator : Uuid} {spec : JobSpec} {time : Nat}
    {answer : Except JobError Unit} (ledger : run.Ledger)
    (dispatchOrder_eq : next.dispatchOrder = run.dispatchOrder)
    (launchErrors_eq : next.launchErrors = run.launchErrors)
    (calls_eq : next.calls =
      run.calls ++ [⟨time, operator, .launch spec, launchResult answer⟩]) :
    (next.heedLaunch operator spec.name answer).Ledger := by
  cases answer with
  | ok =>
      refine ⟨?_, fun other => ?_⟩
      · change next.dispatchOrder ++ [operator] = acceptedOperators next.calls
        rw [calls_eq, acceptedOperators_concat, dispatchOrder_eq, ledger.dispatchOrder_eq]
        rfl
      · change other ∈ next.launchErrors.keys ↔ ∃ message, Refused next.calls other message
        rw [launchErrors_eq, ledger.refused_iff, calls_eq]
        simp [refused_concat, launchResult]
  | error error =>
      refine ⟨?_, fun other => ?_⟩
      · change next.dispatchOrder = acceptedOperators next.calls
        rw [calls_eq, acceptedOperators_concat, dispatchOrder_eq, ledger.dispatchOrder_eq]
        exact (List.append_nil _).symm
      · change other ∈ (next.launchErrors.insert operator error.message).keys ↔
          ∃ message, Refused next.calls other message
        rw [Table.mem_keys_insert, launchErrors_eq, ledger.refused_iff, calls_eq]
        simp [refused_concat, launchResult, exists_or, or_comm, eq_comm]

private theorem Ledger.poll {next : Run ω} {operator : Uuid} {job : String} {time : Nat}
    {result : CallResult} (ledger : run.Ledger)
    (dispatchOrder_eq : next.dispatchOrder = run.dispatchOrder)
    (launchErrors_eq : next.launchErrors = run.launchErrors)
    (calls_eq : next.calls = run.calls ++ [⟨time, operator, .poll operator job, result⟩]) :
    next.Ledger where
  dispatchOrder_eq := by
    rw [calls_eq, acceptedOperators_concat, dispatchOrder_eq, ledger.dispatchOrder_eq]
    exact (List.append_nil _).symm
  refused_iff other := by
    rw [launchErrors_eq, ledger.refused_iff, calls_eq]
    simp [refused_concat]

/-- Each launch, poll and wait keeps the ledger of a run. -/
theorem kept_ledger : Kept settings dag paths id graph order Ledger (fun _ => True) where
  launch {run operator} _ ledger _ := by
    refine ensures_launch (fun _ => trivial) (fun _ _ _ _ => trivial) fun _ spec _ _ => ?_
    refine (run.perform_ensures settings operator _ _ _).mono ?_ fun _ _ => trivial
    rintro ⟨answer, next⟩ ⟨_, _, dispatchOrder_eq, launchErrors_eq, time, calls_eq⟩
    exact ledger.heedLaunch dispatchOrder_eq launchErrors_eq calls_eq
  poll {run operator} _ ledger _ := by
    refine ensures_poll (fun _ => ledger) fun job _ => ?_
    refine (run.perform_ensures settings operator _ _ _).mono ?_ fun _ _ => trivial
    rintro ⟨answer, next⟩ ⟨_, _, dispatchOrder_eq, launchErrors_eq, time, calls_eq⟩
    have next_ledger := ledger.poll dispatchOrder_eq launchErrors_eq calls_eq
    obtain ⟨progress, heeded_eq⟩ := next.heedPoll_eq operator answer
    simp only [heeded_eq]
    exact ⟨next_ledger.dispatchOrder_eq, next_ledger.refused_iff⟩
  wait {run due} _ ledger := by
    cases wait_eq : run.wait settings due with
    | ok waited =>
        obtain rfl := wait_eq_ok wait_eq
        exact ⟨ledger.dispatchOrder_eq, ledger.refused_iff⟩
    | error stopped => exact trivial
  cancel _ _ _ := trivial

/-! ### States and calls of a run -/

/-- Every operator has come to an end. -/
def AllEnded (run : Run ω) : Prop :=
  ∀ ⦃operator state⦄, run.progress.state? operator = some state → state.isTerminal = true

theorem AllEnded.cases (ended : run.AllEnded) (operator : Uuid) :
    run.progress.state? operator = none ∨ run.progress.state? operator = some .succeeded ∨
      run.progress.state? operator = some .failed ∨
      run.progress.state? operator = some .skipped := by
  cases found : run.progress.state? operator with
  | none => exact .inl rfl
  | some state =>
      have terminal := ended found
      cases state with
      | notReady | ready | dispatched => simp [OperatorState.isTerminal] at terminal
      | succeeded | failed | skipped => simp

theorem Faithful.allEnded (accepted : dag.executionOrder = .ok order)
    (faithful : run.Faithful (.build dag) spec? order)
    (finished : run.progress.isFinished = true) : run.AllEnded := by
  intro operator state found
  obtain ⟨other, other_found, terminal⟩ :=
    faithful.terminal accepted finished ((faithful.known_iff operator).1 ⟨state, found⟩)
  exact Option.some.inj (other_found.symm.trans found) ▸ terminal

/-- When every operator has come to an end, the accepted ones have succeeded or failed by a poll. -/
theorem Faithful.mem_acceptedOperators_iff (faithful : run.Faithful graph spec? order)
    (ended : run.AllEnded) {operator : Uuid} :
    operator ∈ acceptedOperators run.calls ↔
      run.progress.state? operator = some .succeeded ∨
        run.progress.state? operator = some .failed ∧ FailedAtPoll run.calls operator := by
  have evidence := faithful.evidence operator
  rw [mem_acceptedOperators]
  rcases ended.cases operator with found | found | found | found <;> rw [found] at evidence ⊢
  · exact iff_of_false (fun ⟨_, accepted⟩ => evidence accepted.launched) (by simp)
  · obtain ⟨job, accepted, _⟩ := evidence
    exact iff_of_true ⟨job, accepted⟩ (.inl rfl)
  · rw [FailedAtPoll, faithful.disciplined.lastPoll?_eq_iff rfl,
      faithful.disciplined.lastPoll?_eq_iff rfl]
    constructor
    · rintro ⟨job, accepted⟩
      rcases evidence with ⟨call, member, call_operator, spec, error, subject, refused⟩ |
        ⟨polled, status, answered, rfl | rfl⟩
      · exact absurd refused
          (faithful.disciplined.accepted_not_refused accepted member call_operator subject)
      · exact .inr ⟨rfl, .inl ⟨polled, answered⟩⟩
      · exact .inr ⟨rfl, .inr ⟨polled, answered⟩⟩
    · rintro (succeeded | ⟨_, ⟨job, answered⟩ | ⟨job, answered⟩⟩)
      · exact nomatch succeeded
      · exact ⟨job, faithful.disciplined.accepted_of_answered answered⟩
      · exact ⟨job, faithful.disciplined.accepted_of_answered answered⟩
  · exact iff_of_false (fun ⟨_, accepted⟩ => evidence accepted.launched) (by simp)

/-- When every operator has come to an end, the refused ones are those that have failed without
being accepted. -/
theorem Faithful.refused_iff (faithful : run.Faithful graph spec? order) (ended : run.AllEnded)
    {operator : Uuid} :
    (∃ message, Refused run.calls operator message) ↔
      run.progress.state? operator = some .failed ∧ operator ∉ acceptedOperators run.calls := by
  have evidence := faithful.evidence operator
  constructor
  · rintro ⟨message, call, member, call_operator, spec, error, subject, result, _⟩
    have launched : Launched run.calls operator := ⟨call, member, call_operator, spec, subject⟩
    have unaccepted : operator ∉ acceptedOperators run.calls := by
      rw [mem_acceptedOperators]
      rintro ⟨job, accepted⟩
      exact faithful.disciplined.accepted_not_refused accepted member call_operator subject result
    refine ⟨?_, unaccepted⟩
    rcases ended.cases operator with found | found | found | found <;> rw [found] at evidence
    · exact absurd launched evidence
    · exact absurd ((faithful.mem_acceptedOperators_iff ended).2 (.inl found)) unaccepted
    · exact found
    · exact absurd launched evidence
  · rintro ⟨failed, unaccepted⟩
    rw [failed] at evidence
    rcases evidence with ⟨call, member, call_operator, spec, error, subject, result⟩ |
      ⟨job, status, answered, _⟩
    · exact ⟨error.message, call, member, call_operator, spec, error, subject, result, rfl⟩
    · have accepted := faithful.disciplined.accepted_of_answered answered
      exact absurd (mem_acceptedOperators.2 ⟨job, accepted⟩) unaccepted

/-! ### The report -/

/-- When every operator has come to an end, each is found once: it was accepted or refused, or it is
skipped. -/
theorem Ledger.partition (ledger : run.Ledger) (faithful : run.Faithful graph spec? order)
    (ended : run.AllEnded) (id : Uuid) :
    (run.dispatchOrder ++ run.launchErrors.keys ++ (run.report id).skipped).Perm
      run.progress.states.keys := by
  rw [ledger.dispatchOrder_eq]
  have mem_keys (operator : Uuid) :
      operator ∈ run.launchErrors.keys ↔ run.progress.state? operator = some .failed ∧
        operator ∉ acceptedOperators run.calls :=
    (ledger.refused_iff operator).trans (faithful.refused_iff ended)
  have mem_skipped (operator : Uuid) :
      operator ∈ (run.report id).skipped ↔ run.progress.state? operator = some .skipped :=
    RunReport.mem_skipped
  have nodup : (acceptedOperators run.calls ++ run.launchErrors.keys ++
      (run.report id).skipped).Nodup := by
    have accepted_nodup := faithful.disciplined.nodup_acceptedOperators
    refine List.nodup_append'.2 ⟨List.nodup_append'.2
      ⟨accepted_nodup, Table.keys_nodup _, ?_⟩, Table.keys_nodup _, ?_⟩
    · exact fun operator accepted refused => ((mem_keys operator).1 refused).2 accepted
    · intro operator launched skipped
      have found := (mem_skipped operator).1 skipped
      rcases List.mem_append.1 launched with accepted | refused
      · simpa [found] using (faithful.mem_acceptedOperators_iff ended).1 accepted
      · simpa [found] using ((mem_keys operator).1 refused).1
  refine (List.perm_ext_iff_of_nodup nodup (Table.keys_nodup _)).2 fun operator => ?_
  rw [List.mem_append, List.mem_append, mem_keys, mem_skipped, Table.mem_keys_iff]
  change _ ↔ ∃ state, run.progress.state? operator = some state
  constructor
  · rintro ((accepted | ⟨failed, _⟩) | skipped)
    · rcases (faithful.mem_acceptedOperators_iff ended).1 accepted with succeeded | ⟨failed, _⟩
      · exact ⟨_, succeeded⟩
      · exact ⟨_, failed⟩
    · exact ⟨_, failed⟩
    · exact ⟨_, skipped⟩
  · rintro ⟨state, known⟩
    rcases ended.cases operator with found | found | found | found
    · simp [found] at known
    · exact .inl (.inl ((faithful.mem_acceptedOperators_iff ended).2 (.inl found)))
    · by_cases accepted : operator ∈ acceptedOperators run.calls
      · exact .inl (.inl accepted)
      · exact .inl (.inr ⟨found, accepted⟩)
    · exact .inr found

/-- Whatever the backend does, the report on an accepted workflow accounts for each operator once:
it was dispatched, could not be launched or was skipped.  The dispatched operators are those that
have succeeded or whose last poll told of a failure, and they come after their producers.  The run
is a success exactly if every operator was dispatched and its last poll told of success. -/
theorem report_accounts (accepted : dag.executionOrder = .ok order) {canceledAt : Option Nat}
    {world : ω} {ended : RunEnd ω RunReport} {report : RunReport}
    (ended_eq : ended = dag.execute settings order paths id canceledAt world)
    (reported : ended.conclusion = .result report) :
    report.operators.keys = dag.operators.keys ∧
    (∀ operator state, report.operators.find? operator = some state → state.isTerminal = true) ∧
    (report.dispatchOrder ++ report.launchErrors.keys ++ report.skipped).Perm
      dag.operators.keys ∧
    (∀ operator, operator ∈ report.dispatchOrder ↔
      report.operators.find? operator = some .succeeded ∨
        report.operators.find? operator = some .failed ∧ FailedAtPoll ended.calls operator) ∧
    (∀ operator ∈ report.launchErrors.keys, report.operators.find? operator = some .failed) ∧
    (Graph.build dag).Topological report.dispatchOrder ∧
    (report.status = .succeeded ↔
      dag.operators.keys ⊆ report.dispatchOrder ∧
        ∀ operator ∈ report.dispatchOrder,
          lastPoll? ended.calls operator = some (.status .succeeded)) := by
  have kept : Kept settings dag paths id (.build dag) order Ledger (fun _ => True) := kept_ledger
  obtain ⟨final, faithful, ledger, finished, rfl, rfl⟩ :=
    kept.of_report accepted (ledger_start order dag canceledAt world) ended_eq reported
  have keys_eq := faithful.keys_states accepted
  have all_ended := faithful.allEnded accepted finished
  have mem_dispatchOrder (operator : Uuid) : operator ∈ final.dispatchOrder ↔
      final.progress.state? operator = some .succeeded ∨
        final.progress.state? operator = some .failed ∧ FailedAtPoll final.calls operator := by
    rw [ledger.dispatchOrder_eq]
    exact faithful.mem_acceptedOperators_iff all_ended
  have succeeded_iff (operator : Uuid) :
      lastPoll? final.calls operator = some (.status .succeeded) ↔
        final.progress.state? operator = some .succeeded := by
    rw [faithful.succeeded_iff, faithful.disciplined.lastPoll?_eq_iff rfl]
    exact ⟨fun ⟨job, answered⟩ =>
      ⟨job, faithful.disciplined.accepted_of_answered answered, answered⟩,
      fun ⟨job, _, answered⟩ => ⟨job, answered⟩⟩
  refine ⟨keys_eq, all_ended, ?_, mem_dispatchOrder, fun operator refused => ?_, ?_, ?_⟩
  · rw [← keys_eq]
    exact ledger.partition faithful all_ended id
  · exact ((faithful.refused_iff all_ended).1 ((ledger.refused_iff operator).1 refused)).1
  · change (Graph.build dag).Topological final.dispatchOrder
    rw [ledger.dispatchOrder_eq]
    exact faithful.disciplined.topological_acceptedOperators
  · change final.progress.overall = .succeeded ↔ _
    rw [Progress.overall_eq_succeeded_iff, keys_eq]
    constructor
    · intro successful
      refine ⟨fun operator member => (mem_dispatchOrder operator).2 (.inl (successful _ member)),
        fun operator dispatched => (succeeded_iff operator).2 (successful operator ?_)⟩
      rw [← keys_eq, Table.mem_keys_iff]
      rcases (mem_dispatchOrder operator).1 dispatched with found | ⟨found, _⟩
      · exact ⟨_, found⟩
      · exact ⟨_, found⟩
    · rintro ⟨complete, polled⟩ operator member
      exact (succeeded_iff operator).1 (polled operator (complete member))

/-- A backend that has no room for the second operator; all other jobs succeed. -/
private def crowded : RunSettings Unit where
  backend :=
    { config := .process "" ""
      launch := fun spec world =>
        .now (if spec.operator = .ofNat 2 then .error (.backend "no room") else .ok (), world)
      poll := fun _ world => .now (.ok .succeeded, world) }
  storage := .file ""
  secrets := .file ""
  pollInterval := .ofMillis 1
  timeout := none
  horizon := (Duration.ofMillis 9).nanos

/-- The progress of a join when its operators have these states. -/
private def joinProgress (first second third fourth : OperatorState) : Progress :=
  ⟨[.ofNat 1, .ofNat 2, .ofNat 3, .ofNat 4], .build .join,
    .ofList [(.ofNat 1, first), (.ofNat 2, second), (.ofNat 3, third), (.ofNat 4, fourth)]⟩

private theorem skipDescendants_join :
    ((joinProgress .dispatched .failed .notReady .notReady).skipDescendants (.ofNat 2)).2 =
      joinProgress .dispatched .failed .skipped .skipped := by
  have graph_eq : (joinProgress .dispatched .failed .notReady .notReady).graph = .build .join := rfl
  have descendants_eq :
      (Graph.build .join).descendantsOf (.ofNat 2) = [.ofNat 3, .ofNat 4] := by cbv
  simp only [Progress.skipDescendants, Progress.isSkippedBy, graph_eq, descendants_eq]
  rfl

/-- Of a join, one operator is dispatched, one is refused and the two that need both are skipped. -/
theorem report_accounts_join :
    ∃ ended report, ended = Dag.join.execute crowded [.ofNat 1, .ofNat 2, .ofNat 3, .ofNat 4]
        (.generate .ofNat .join) .nil none () ∧
      ended.conclusion = .result report ∧
      report.dispatchOrder = [.ofNat 1] ∧ report.launchErrors.keys = [.ofNat 2] ∧
      report.skipped = [.ofNat 3, .ofNat 4] ∧
      (report.dispatchOrder ++ report.launchErrors.keys ++ report.skipped).Perm
        Dag.join.operators.keys := by
  have rounds : ∃ launched waited polled final : Run Unit,
      (Run.start [.ofNat 1, .ofNat 2, .ofNat 3, .ofNat 4] .join none ()).launchReady crowded .join
        (.generate .ofNat .join) .nil = .ok { launched with
          progress := ((joinProgress .dispatched .failed .notReady .notReady).skipDescendants
            (.ofNat 2)).2 } ∧
      { launched with progress := joinProgress .dispatched .failed .skipped .skipped }.wait
        crowded 0 = .ok waited ∧
      waited.pollDispatched crowded = .ok polled ∧
      polled.launchReady crowded .join (.generate .ofNat .join) .nil = .ok final ∧
      final.progress.isFinished = true ∧ final.dispatchOrder = [.ofNat 1] ∧
      final.launchErrors.keys = [.ofNat 2] ∧
      (final.report .nil).skipped = [.ofNat 3, .ofNat 4] := by
    refine ⟨⟨_, _, joinProgress .dispatched .failed .skipped .skipped, _, _, _, _, _⟩, _, _, _,
      rfl, rfl, rfl, rfl, ?_⟩
    decide +kernel
  obtain ⟨launched, waited, polled, final, launches, waits, polls, relaunches, finished, told⟩ :=
    rounds
  rw [skipDescendants_join] at launches
  have reaches : ReachesPolls crowded .join (.generate .ofNat .join) .nil 0 _ waited :=
    ⟨_, launches, rfl, waits⟩
  have reported : (Dag.join.execute crowded [.ofNat 1, .ofNat 2, .ofNat 3, .ofNat 4]
      (.generate .ofNat .join) .nil none ()).conclusion = .result (final.report .nil) := by
    rw [Dag.execute, reaches.cycle_eq, polls, ok_bind, cycle_of_finished relaunches finished]
    rfl
  obtain ⟨_, _, partition, _⟩ := report_accounts Dag.executionOrder_join rfl reported
  exact ⟨_, _, rfl, reported, told.1, told.2.1, told.2.2, partition⟩

end Run
end Workflow
