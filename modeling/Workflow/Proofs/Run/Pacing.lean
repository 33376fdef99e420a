import Workflow.Proofs.Run.Standing
import Workflow.Proofs.Run.Turns

/-!
# The pace of a rehearsal

Every job of a rehearsal takes the same number of polls, so its operators are launched in their
turns.  Rejected, failed and skipped operators leave gaps, but shift no turn.  `Finishes` counts the
rounds of a run.
-/

namespace Workflow

open Relation

namespace Rehearsal

/-- The job of an operator comes to an end in some way if it is launched. -/
def Plays (rehearsal : Rehearsal) (dag : Dag) (operator : Uuid) (outcome : Status) : Prop :=
  ∃ found, dag.operators.find? operator = some found ∧
    outcomeOf (rehearsal.behaviourOf found.name) = .ok outcome

/-- An operator is dispatched if it is not rejected and everything before it succeeds. -/
def Dispatches (rehearsal : Rehearsal) (dag : Dag) (operator : Uuid) : Prop :=
  (∃ outcome, rehearsal.Plays dag operator outcome) ∧
    ∀ ancestor, TransGen (Graph.build dag).Link ancestor operator →
      rehearsal.Plays dag ancestor .succeeded

private theorem dispatches_of_succeeded {rehearsal : Rehearsal} {dag : Dag} {order : List Uuid}
    {operator : Uuid} (accepted : dag.executionOrder = .ok order)
    (succeeded : ∀ operator ∈ order, rehearsal.Plays dag operator .succeeded)
    (known : operator ∈ order) : rehearsal.Dispatches dag operator := by
  have topological := Dag.topological_of_executionOrder accepted
  exact ⟨⟨_, succeeded operator known⟩, fun ancestor reach =>
    succeeded ancestor (topological.ancestor_mem known reach)⟩

end Rehearsal

namespace Run

open Calls

/-! ### Rounds of a rehearsal -/

section Rounds

open Rehearsal

variable {σ : Type} {rehearsal : Rehearsal} {store : Option (Store σ)}
  {settings : RunSettings (Stage × σ)} {dag : Dag} {paths : RunPaths} {id : Uuid}
  {order : List Uuid} {moment rounds bound : Nat} {run : Run (Stage × σ)} {operator : Uuid}

/-- A rehearsal at some moment after so many rounds of polls. -/
structure InPace (rehearsal : Rehearsal) (store : Option (Store σ))
    (settings : RunSettings (Stage × σ)) (dag : Dag) (paths : RunPaths) (id : Uuid)
    (order : List Uuid) (moment rounds bound : Nat) (run : Run (Stage × σ)) : Prop where
  /-- The calls account for the states. -/
  faithful : run.Faithful (.build dag) (dag.spec? settings paths id) order
  /-- The jobs stand as they should. -/
  staged : run.Staged rehearsal store settings paths (dag.spec? settings paths id) moment
  /-- The calls keep pace. -/
  paced : Paced (.build dag) order rehearsal.pollsPerJob rounds bound run.calls

private theorem InPace.standing (rehearses : Rehearses rehearsal store settings dag paths order)
    (inPace : run.InPace rehearsal store settings dag paths id order moment rounds bound)
    (known : operator ∈ order) :
    ∃ found spec, dag.operators.find? operator = some found ∧ spec.operatorName = found.name ∧
      rehearsal.Standing spec run.world.1 (run.jobs.find? operator)
        (pollsOf run.calls operator).length (run.progress.state? operator) := by
  obtain ⟨found, spec, found_eq, build_eq⟩ := rehearses.exists_spec id known
  have spec_eq : dag.spec? settings paths id operator = some spec :=
    Dag.spec?_eq_some_iff.2 ⟨found, found_eq, build_eq⟩
  exact ⟨found, spec, found_eq,
    ((JobSpec.build_names settings paths id found).of_eq_ok build_eq).2,
    inPace.staged.standing spec_eq⟩

/-- In its turn every ready operator is launched, and then none is ready any more. -/
theorem InPace.launches (rehearses : Rehearses rehearsal store settings dag paths order)
    (watched : moment ≤ settings.horizon)
    (inPace : run.InPace rehearsal store settings dag paths id order moment rounds rounds)
    (turn : ∀ operator, run.progress.state? operator = some .ready →
      (Graph.build dag).roundsBefore order rehearsal.pollsPerJob operator = rounds) :
    ∃ launched, run.launchReady settings dag paths id = .ok launched ∧
      launched.InPace rehearsal store settings dag paths id order moment rounds (rounds + 1) ∧
      ∀ operator, launched.progress.state? operator ≠ some .ready := by
  have coherent := Graph.build_coherent dag
  have topological := Dag.topological_of_executionOrder rehearses.accepted
  have uncanceled : Limits.isDue run.canceledAt run.now = false := by
    have canceledAt_eq : run.canceledAt = none := congrArg Limits.canceledAt inPace.staged.unlimited
    rw [canceledAt_eq]
    rfl
  obtain ⟨launched, launched_eq, midway, staged⟩ := Ensures.exists_ok <|
    round_ensures (fun _ faithful _ ready => launch_ensures coherent faithful ready)
      (fun _ faithful staged _ ready => staged.launch rehearses watched faithful ready)
      rehearses.nodup inPace.faithful inPace.staged
  obtain ⟨made, calls_eq, kinds, made_eq⟩ := midway.made
  rw [List.append_nil] at made_eq
  have was_ready {operator : Uuid} (member : operator ∈ made.map CallRecord.operator) :
      run.progress.state? operator = some .ready :=
    inPace.faithful.mem_inState_iff.1 (made_eq ▸ member)
  refine ⟨launched, ?_, ⟨midway.faithful, staged, ?_⟩, fun _ => midway.not_ready inPace.faithful⟩
  · rw [launchReady, uncanceled]
    exact launched_eq
  · rw [calls_eq]
    refine inPace.paced.launch rehearsal.pollsPerJob_pos rehearses.nodup kinds ?_ ?_
      (fun operator member => turn operator (was_ready member)) fun operator member => ?_
    · rw [made_eq]
      exact inPace.faithful.inState_sublist .ready
    · intro operator member
      rw [topological.level_eq rehearses.nodup member]
      omega
    · have known := (inPace.faithful.known_iff operator).1 ⟨_, was_ready member⟩
      obtain ⟨found, spec, _, _, standing⟩ := inPace.standing rehearses known
      rw [was_ready member] at standing
      exact standing.2

theorem Rehearses.level_pos (rehearses : Rehearses rehearsal store settings dag paths order)
    (known : operator ∈ order) : 0 < (Graph.build dag).level order operator := by
  have topological := Dag.topological_of_executionOrder rehearses.accepted
  rw [topological.level_eq rehearses.nodup known]
  omega

private theorem InPace.accepted_cases
    (rehearses : Rehearses rehearsal store settings dag paths order)
    (inPace : run.InPace rehearsal store settings dag paths id order moment rounds bound)
    (member : operator ∈ acceptedOperators run.calls) :
    operator ∈ order ∧ (∃ outcome, rehearsal.Plays dag operator outcome) ∧
      (run.progress.state? operator = some .dispatched ∨
        (pollsOf run.calls operator).length = rehearsal.pollsPerJob) := by
  obtain ⟨job, accepted⟩ := mem_acceptedOperators.1 member
  have evidence := inPace.faithful.evidence operator
  cases found : run.progress.state? operator with
  | none =>
      rw [found] at evidence
      exact absurd accepted.launched evidence
  | some state =>
      have known := (inPace.faithful.known_iff operator).1 ⟨state, found⟩
      obtain ⟨carried, spec, carried_eq, name_eq, standing⟩ := inPace.standing rehearses known
      rw [found] at evidence standing
      refine ⟨known, ?_⟩
      cases state with
      | notReady | ready | skipped => exact absurd accepted.launched evidence
      | dispatched =>
          obtain ⟨_, _, outcome, plays, _⟩ := standing
          exact ⟨⟨outcome, carried, carried_eq, name_eq ▸ plays⟩, .inl rfl⟩
      | succeeded => exact ⟨⟨_, carried, carried_eq, name_eq ▸ standing.1⟩, .inr standing.2⟩
      | failed =>
          rcases standing with ⟨_, unpolled⟩ | ⟨⟨outcome, plays, _⟩, polled⟩
          · exfalso
            rcases evidence with ⟨call, call_mem, call_operator, _, _, subject, refused⟩ |
              ⟨_, _, answered, _⟩
            · exact inPace.faithful.disciplined.accepted_not_refused accepted call_mem
                call_operator subject refused
            · exact length_pollsOf_ne_zero answered unpolled
          · exact ⟨⟨outcome, carried, carried_eq, name_eq ▸ plays⟩, .inr polled⟩

private theorem InPace.unfinished (rehearses : Rehearses rehearsal store settings dag paths order)
    (inPace : run.InPace rehearsal store settings dag paths id order moment rounds bound)
    (dispatched : run.progress.state? operator = some .dispatched) :
    operator ∈ acceptedOperators run.calls ∧
      (pollsOf run.calls operator).length < rehearsal.pollsPerJob := by
  have known := (inPace.faithful.known_iff operator).1 ⟨_, dispatched⟩
  obtain ⟨_, _, _, _, standing⟩ := inPace.standing rehearses known
  rw [dispatched] at standing
  exact ⟨mem_acceptedOperators.2 (inPace.faithful.dispatched_iff.1 dispatched).1, standing.2.1⟩

private theorem InPace.length_pollsOf
    (rehearses : Rehearses rehearsal store settings dag paths order)
    (inPace : run.InPace rehearsal store settings dag paths id order moment rounds bound)
    (ended : run.AllEnded) (member : operator ∈ acceptedOperators run.calls) :
    (pollsOf run.calls operator).length = rehearsal.pollsPerJob := by
  rcases (inPace.accepted_cases rehearses member).2.2 with dispatched | polled
  · exact nomatch ended dispatched
  · exact polled

private theorem InPace.dispatches (rehearses : Rehearses rehearsal store settings dag paths order)
    (inPace : run.InPace rehearsal store settings dag paths id order moment rounds bound)
    (member : operator ∈ acceptedOperators run.calls) : rehearsal.Dispatches dag operator := by
  refine ⟨(inPace.accepted_cases rehearses member).2.1, fun ancestor reach => ?_⟩
  obtain ⟨job, accepted⟩ := mem_acceptedOperators.1 member
  have succeeded := inPace.faithful.succeeded_iff.2
    (inPace.faithful.disciplined.ancestor_succeeded reach accepted.launched)
  have known := (inPace.faithful.known_iff ancestor).1 ⟨_, succeeded⟩
  obtain ⟨carried, spec, carried_eq, name_eq, standing⟩ := inPace.standing rehearses known
  rw [succeeded] at standing
  exact ⟨carried, carried_eq, name_eq ▸ standing.1⟩

private theorem InPace.accepted_of_dispatches
    (rehearses : Rehearses rehearsal store settings dag paths order)
    (inPace : run.InPace rehearsal store settings dag paths id order moment rounds bound)
    (ended : run.AllEnded) (known : operator ∈ order)
    (dispatches : rehearsal.Dispatches dag operator) : operator ∈ acceptedOperators run.calls := by
  obtain ⟨⟨outcome, found, found_eq, plays⟩, succeeds⟩ := dispatches
  have is_known := (inPace.faithful.known_iff operator).2 known
  rcases ended.cases operator with state_eq | state_eq | state_eq | state_eq
  · obtain ⟨state, known_eq⟩ := is_known
    exact nomatch state_eq.symm.trans known_eq
  · exact (inPace.faithful.mem_acceptedOperators_iff ended).2 (.inl state_eq)
  · obtain ⟨carried, spec, carried_eq, name_eq, standing⟩ := inPace.standing rehearses known
    obtain rfl := Option.some.inj (found_eq.symm.trans carried_eq)
    rw [state_eq] at standing
    rcases standing with ⟨⟨message, rejects⟩, _⟩ | ⟨_, polled⟩
    · rw [name_eq] at rejects
      exact nomatch plays.symm.trans rejects
    · refine inPace.faithful.disciplined.mem_acceptedOperators_of_polled ?_
      rw [polled]
      exact Nat.ne_of_gt rehearsal.pollsPerJob_pos
  · obtain ⟨ancestor, failed, reach⟩ := (inPace.faithful.consistent.skipped is_known).1 state_eq
    rw [inPace.faithful.graph_eq] at reach
    obtain ⟨carried, carried_eq, succeeded⟩ := succeeds ancestor reach
    have ancestor_known := (inPace.faithful.known_iff ancestor).1 ⟨_, failed⟩
    obtain ⟨other, spec, other_eq, name_eq, standing⟩ := inPace.standing rehearses ancestor_known
    obtain rfl := Option.some.inj (carried_eq.symm.trans other_eq)
    rw [failed, Standing, name_eq, succeeded] at standing
    rcases standing with ⟨⟨_, rejects⟩, _⟩ | ⟨⟨outcome, plays, unsuccessful⟩, _⟩
    · exact nomatch rejects
    · exact absurd (Except.ok.inj plays).symm unsuccessful

/-- When every operator has come to an end, what the jobs do tells which operators were accepted. -/
theorem InPace.mem_acceptedOperators_iff
    (rehearses : Rehearses rehearsal store settings dag paths order)
    (inPace : run.InPace rehearsal store settings dag paths id order moment rounds bound)
    (ended : run.AllEnded) :
    operator ∈ acceptedOperators run.calls ↔
      operator ∈ order ∧ rehearsal.Dispatches dag operator := by
  constructor
  · intro member
    exact ⟨(inPace.accepted_cases rehearses member).1, inPace.dispatches rehearses member⟩
  · rintro ⟨known, dispatches⟩
    exact inPace.accepted_of_dispatches rehearses ended known dispatches

/-- Every dispatched operator is polled, and the operators whose turn is next become ready. -/
theorem InPace.polls (rehearses : Rehearses rehearsal store settings dag paths order)
    (watched : moment ≤ settings.horizon)
    (inPace : run.InPace rehearsal store settings dag paths id order moment rounds (rounds + 1))
    (not_ready : ∀ operator, run.progress.state? operator ≠ some .ready) :
    ∃ polled, run.pollDispatched settings = .ok polled ∧
      polled.InPace rehearsal store settings dag paths id order moment (rounds + 1) (rounds + 1) ∧
      ∀ operator, polled.progress.state? operator = some .ready →
        (Graph.build dag).roundsBefore order rehearsal.pollsPerJob operator = rounds + 1 := by
  have coherent := Graph.build_coherent dag
  have topological := Dag.topological_of_executionOrder rehearses.accepted
  obtain ⟨polled, polled_eq, midway, staged⟩ := Ensures.exists_ok <|
    round_ensures (fun _ faithful _ dispatched => poll_ensures coherent faithful dispatched)
      (fun _ faithful staged _ dispatched => staged.poll rehearses watched faithful dispatched)
      rehearses.nodup inPace.faithful inPace.staged
  obtain ⟨made, calls_eq, kinds, made_eq⟩ := midway.made
  rw [List.append_nil] at made_eq
  have polled_iff (operator : Uuid) : operator ∈ made.map CallRecord.operator ↔
      run.progress.state? operator = some .dispatched := by
    rw [made_eq]
    exact inPace.faithful.mem_inState_iff
  have polled_inPace : polled.InPace rehearsal store settings dag paths id order moment
      (rounds + 1) (rounds + 1) := by
    refine ⟨midway.faithful, staged, ?_⟩
    rw [calls_eq]
    refine inPace.paced.poll kinds ?_ (fun operator member => ?_) fun operator member unpolled => ?_
    · rw [made_eq]
      exact rehearses.nodup.sublist (inPace.faithful.inState_sublist .dispatched)
    · exact (inPace.unfinished rehearses ((polled_iff operator).1 member)).2
    · exact (inPace.accepted_cases rehearses member).2.2.resolve_left
        fun dispatched => unpolled ((polled_iff operator).2 dispatched)
  refine ⟨polled, polled_eq, polled_inPace, fun operator ready => ?_⟩
  have known := (midway.faithful.known_iff operator).1 ⟨_, ready⟩
  have producer_known {producer : Uuid} (link : (Graph.build dag).Link producer operator) :=
    topological.producer_mem known link
  rw [Graph.roundsBefore, topological.level_eq rehearses.nodup known, Nat.add_sub_cancel_left]
  apply Nat.le_antisymm
  · rw [← Nat.le_div_iff_mul_le rehearsal.pollsPerJob_pos]
    refine Finset.sup_le fun producer member => ?_
    have link : (Graph.build dag).Link producer operator := List.mem_toFinset.1 member
    rw [Nat.le_div_iff_mul_le rehearsal.pollsPerJob_pos]
    have succeeded := midway.faithful.producer_succeeded ready link
    obtain ⟨job, accepted, _⟩ := midway.faithful.succeeded_iff.1 succeeded
    have accepted_mem := mem_acceptedOperators.2 ⟨job, accepted⟩
    have ended := (polled_inPace.accepted_cases rehearses accepted_mem).2.2.resolve_left
      (by simp [succeeded])
    exact polled_inPace.paced.level_mul_le rehearsal.pollsPerJob_pos
      (rehearses.level_pos (producer_known link)) accepted_mem ended
  · obtain ⟨producer, link, dispatched⟩ :=
      midway.exists_dispatched inPace.faithful (not_ready operator) ready
    obtain ⟨accepted_mem, early⟩ := inPace.unfinished rehearses dispatched
    have later := inPace.paced.lt_level_mul (rehearses.level_pos (producer_known link))
      accepted_mem early
    refine Nat.le_trans later (Nat.mul_le_mul_right _ ?_)
    exact Finset.le_sup (f := (Graph.build dag).level order) (List.mem_toFinset.2 link)

/-! ### The end of a rehearsal -/

/-- How deep a rehearsal gets into a workflow: the highest level of its dispatched operators. -/
def IsDepth (rehearsal : Rehearsal) (dag : Dag) (order : List Uuid) (depth : Nat) : Prop :=
  ∃ dispatched : List Uuid,
    (∀ operator, operator ∈ dispatched ↔ operator ∈ order ∧ rehearsal.Dispatches dag operator) ∧
      depth = dispatched.toFinset.sup ((Graph.build dag).level order)

private theorem exists_isDepth (rehearsal : Rehearsal) (dag : Dag) (order : List Uuid) :
    ∃ depth, IsDepth rehearsal dag order depth := by
  classical
  exact ⟨_, order.filter (rehearsal.Dispatches dag ·), by simp, rfl⟩

private theorem IsDepth.le_sup {depth : Nat} (isDepth : IsDepth rehearsal dag order depth) :
    depth ≤ order.toFinset.sup ((Graph.build dag).level order) := by
  obtain ⟨dispatched, dispatched_iff, rfl⟩ := isDepth
  refine Finset.sup_mono fun operator member => ?_
  exact List.mem_toFinset.2 ((dispatched_iff operator).1 (List.mem_toFinset.1 member)).1

private theorem IsDepth.level_le {depth : Nat} (isDepth : IsDepth rehearsal dag order depth)
    (known : operator ∈ order) (dispatches : rehearsal.Dispatches dag operator) :
    (Graph.build dag).level order operator ≤ depth := by
  obtain ⟨dispatched, dispatched_iff, rfl⟩ := isDepth
  have member := List.mem_toFinset.2 ((dispatched_iff operator).2 ⟨known, dispatches⟩)
  exact Finset.le_sup (f := (Graph.build dag).level order) member

theorem IsDepth.eq_sup {depth : Nat} (isDepth : IsDepth rehearsal dag order depth)
    {operators : List Uuid}
    (mem_iff : ∀ operator, operator ∈ operators ↔
      operator ∈ order ∧ rehearsal.Dispatches dag operator) :
    depth = operators.toFinset.sup ((Graph.build dag).level order) := by
  obtain ⟨dispatched, dispatched_iff, rfl⟩ := isDepth
  congr 1
  ext operator
  rw [List.mem_toFinset, List.mem_toFinset, dispatched_iff, mem_iff]

/-- After its launches a rehearsal is finished once all levels that it gets to had their rounds. -/
theorem InPace.isFinished_iff (rehearses : Rehearses rehearsal store settings dag paths order)
    (inPace : run.InPace rehearsal store settings dag paths id order moment rounds (rounds + 1))
    (not_ready : ∀ operator, run.progress.state? operator ≠ some .ready) {depth : Nat}
    (isDepth : IsDepth rehearsal dag order depth) :
    run.progress.isFinished = true ↔ depth * rehearsal.pollsPerJob ≤ rounds := by
  constructor
  · intro finished
    have ended := inPace.faithful.allEnded rehearses.accepted finished
    obtain ⟨dispatched, dispatched_iff, rfl⟩ := isDepth
    rw [← Nat.le_div_iff_mul_le rehearsal.pollsPerJob_pos]
    refine Finset.sup_le fun operator member => ?_
    obtain ⟨known, dispatches⟩ := (dispatched_iff operator).1 (List.mem_toFinset.1 member)
    have accepted_mem := (inPace.mem_acceptedOperators_iff rehearses ended).2 ⟨known, dispatches⟩
    have polled := inPace.length_pollsOf rehearses ended accepted_mem
    rw [Nat.le_div_iff_mul_le rehearsal.pollsPerJob_pos]
    exact inPace.paced.level_mul_le rehearsal.pollsPerJob_pos (rehearses.level_pos known)
      accepted_mem polled
  · intro enough
    refine Progress.isFinished_iff.2 fun operator state found => ?_
    cases state with
    | notReady | succeeded | failed | skipped => rfl
    | ready => exact absurd found (not_ready operator)
    | dispatched =>
        have known := (inPace.faithful.known_iff operator).1 ⟨_, found⟩
        obtain ⟨accepted_mem, early⟩ := inPace.unfinished rehearses found
        have later := inPace.paced.lt_level_mul (rehearses.level_pos known) accepted_mem early
        have deep := Nat.mul_le_mul_right rehearsal.pollsPerJob
          (isDepth.level_le known (inPace.dispatches rehearses accepted_mem))
        omega

/-- A rehearsal in pace finishes as soon as all levels that it gets to had their rounds, and its
rounds are a period apart. -/
theorem InPace.finishes (rehearses : Rehearses rehearsal store settings dag paths order)
    {depth period : Nat} (isDepth : IsDepth rehearsal dag order depth)
    (period_eq : period = Ticker.period settings.pollInterval)
    (watched : (depth * rehearsal.pollsPerJob - 1) * period ≤ settings.horizon)
    (bounded : rounds ≤ depth * rehearsal.pollsPerJob) (moment_eq : moment = (rounds - 1) * period)
    (inPace : run.InPace rehearsal store settings dag paths id order moment rounds rounds)
    (turn : ∀ operator, run.progress.state? operator = some .ready →
      (Graph.build dag).roundsBefore order rehearsal.pollsPerJob operator = rounds) :
    ∃ final, Finishes settings dag paths id final (depth * rehearsal.pollsPerJob - rounds)
        (rounds * period) run ∧
      final.progress.isFinished = true ∧
      final.InPace rehearsal store settings dag paths id order
        ((depth * rehearsal.pollsPerJob - 1) * period) (depth * rehearsal.pollsPerJob)
        (depth * rehearsal.pollsPerJob + 1) := by
  subst moment_eq
  induction remaining : depth * rehearsal.pollsPerJob - rounds generalizing rounds run with
  | zero =>
      have last : rounds = depth * rehearsal.pollsPerJob := by omega
      subst last
      obtain ⟨launched, launched_eq, launched_inPace, not_ready⟩ :=
        inPace.launches rehearses watched turn
      have finished := (launched_inPace.isFinished_iff rehearses not_ready isDepth).2 bounded
      exact ⟨launched, .done launched_eq finished, finished, launched_inPace⟩
  | succ remaining' ih =>
      have early : (rounds - 1) * period ≤ rounds * period :=
        Nat.mul_le_mul_right period (Nat.sub_le rounds 1)
      have due_watched : rounds * period ≤ settings.horizon :=
        Nat.le_trans (Nat.mul_le_mul_right period (by omega)) watched
      obtain ⟨launched, launched_eq, launched_inPace, not_ready⟩ :=
        inPace.launches rehearses (Nat.le_trans early due_watched) turn
      have unfinished : launched.progress.isFinished = false := by
        rw [Bool.eq_false_iff, Ne, launched_inPace.isFinished_iff rehearses not_ready isDepth]
        omega
      obtain ⟨waited, waited_eq, waited_staged⟩ :=
        launched_inPace.staged.wait early due_watched
      have keeps := (wait_ensures settings launched (rounds * period)).of_eq_ok waited_eq
      have waited_inPace : waited.InPace rehearsal store settings dag paths id order
          (rounds * period) rounds (rounds + 1) := by
        refine ⟨launched_inPace.faithful.keeps keeps, waited_staged, ?_⟩
        rw [keeps.calls_eq]
        exact launched_inPace.paced
      have waited_not_ready (operator : Uuid) :
          waited.progress.state? operator ≠ some .ready := by
        rw [keeps.progress_eq]
        exact not_ready operator
      obtain ⟨polled, polled_eq, polled_inPace, next_turn⟩ :=
        waited_inPace.polls rehearses due_watched waited_not_ready
      have next_eq : Ticker.next settings.pollInterval (rounds * period) waited.now =
          (rounds + 1) * period := by
        rw [waited_staged.now_eq, Ticker.next, if_neg (by omega), ← period_eq, Nat.succ_mul]
      obtain ⟨final, finishes, ends⟩ := ih (by omega) next_turn polled_inPace (by omega)
      refine ⟨final, .round ⟨launched, launched_eq, unfinished, waited_eq⟩ polled_eq ?_, ends⟩
      rw [next_eq]
      exact finishes

private theorem inPace_start (rehearses : Rehearses rehearsal store settings dag paths order)
    {stage : Stage} {state : σ} (unlimited : settings.timeout = none)
    (unknown : ∀ operator ∈ dag.operators.values, stage.jobs.find? (jobName operator id) = none)
    (writable : Writable store paths.all state) :
    (start order dag none (stage, state)).InPace rehearsal store settings dag paths id order 0 0 0 ∧
      ∀ operator, (start order dag none (stage, state)).progress.state? operator = some .ready →
        (Graph.build dag).roundsBefore order rehearsal.pollsPerJob operator = 0 := by
  have faithful : (start order dag none (stage, state)).Faithful (.build dag)
      (dag.spec? settings paths id) order := faithful_start order dag none (stage, state)
  refine ⟨⟨faithful, staged_start unlimited unknown writable, paced_nil⟩, fun operator ready => ?_⟩
  have topological := Dag.topological_of_executionOrder rehearses.accepted
  have known := (faithful.known_iff operator).1 ⟨_, ready⟩
  have free : (Graph.build dag).predecessorsOf operator = [] := by
    refine List.eq_nil_iff_forall_not_mem.2 fun producer link => ?_
    obtain ⟨job, ⟨call, member, _⟩, _⟩ :=
      faithful.succeeded_iff.1 (faithful.producer_succeeded ready link)
    exact absurd member List.not_mem_nil
  rw [Graph.roundsBefore, topological.level_eq rehearses.nodup known, free]
  exact Nat.zero_mul _

/-- A rehearsal that nothing interrupts ends with a report, whatever its jobs do, if it is watched
until then.  What the jobs do tells which operators are dispatched, and each of their jobs is polled
as often as a job takes.  The run makes so many rounds of polls for each level that it gets to, the
first one at once and the others a period apart, and it ends with the last one.  The operators are
dispatched by their levels, and those of one level in the order of the run. -/
theorem rehearsal_keeps_pace (accepted : dag.executionOrder = .ok order)
    (keyed : dag.OperatorsKeyed) (covers : paths.Covers dag)
    (backend_eq : settings.backend = rehearsal.backend store) (unlimited : settings.timeout = none)
    {stage : Stage} {state : σ}
    (unknown : ∀ operator ∈ dag.operators.values, stage.jobs.find? (jobName operator id) = none)
    (writable : Writable store paths.all state) {level : Uuid → Nat}
    (level_eq : level = (Graph.build dag).level order) {polls period : Nat}
    (polls_eq : polls = rehearsal.pollFailures + max rehearsal.pollsUntilDone 1)
    (period_eq : period = max settings.pollInterval.nanos (Duration.ofMillis 1).nanos) :
    (∀ operator ∈ order,
      level operator = 1 + ((Graph.build dag).predecessorsOf operator).toFinset.sup level) ∧
    ∃ depth, depth ≤ order.toFinset.sup level ∧
      ∀ horizon, (polls * depth - 1) * period ≤ horizon →
        ∀ ended, ended =
            dag.execute { settings with horizon } order paths id none (stage, state) →
          ∃ final report, report = final.report id ∧ ended = final.conclude (.result report) ∧
            (∀ operator, operator ∈ report.dispatchOrder ↔
              operator ∈ order ∧ rehearsal.Dispatches dag operator) ∧
            depth = report.dispatchOrder.toFinset.sup level ∧
            ended.now = (polls * depth - 1) * period ∧
            Finishes { settings with horizon } dag paths id final (polls * depth) 0
              (start order dag none (stage, state)) ∧
            (∀ operator ∈ report.dispatchOrder, (pollsOf ended.calls operator).length = polls) ∧
            report.dispatchOrder.Pairwise fun first second =>
              level first < level second ∨
                level first = level second ∧ order.idxOf first < order.idxOf second := by
  subst level_eq polls_eq
  have topological := Dag.topological_of_executionOrder accepted
  obtain ⟨depth, isDepth⟩ := exists_isDepth rehearsal dag order
  have nodup := Dag.nodup_of_executionOrder accepted
  refine ⟨fun operator => topological.level_eq nodup, depth, isDepth.le_sup, ?_⟩
  intro horizon watched ended ended_eq
  have rehearses : Rehearses rehearsal store { settings with horizon } dag paths order :=
    ⟨accepted, keyed, covers, backend_eq⟩
  have rounds_eq : (rehearsal.pollFailures + max rehearsal.pollsUntilDone 1) * depth =
      depth * rehearsal.pollsPerJob := Nat.mul_comm _ _
  obtain ⟨begun, turn⟩ := inPace_start rehearses unlimited unknown writable
  rw [rounds_eq] at watched ⊢
  obtain ⟨final, finishes, finished, inPace⟩ :=
    begun.finishes rehearses isDepth period_eq watched (Nat.zero_le _) (by simp) turn
  rw [Nat.zero_mul, Nat.sub_zero] at finishes
  have kept : Kept { settings with horizon } dag paths id (.build dag) order Ledger
      (fun _ => True) := kept_ledger
  have ledger := ((kept.from_start accepted
    (ledger_start order dag none (stage, state))).of_eq_ok finishes.cycle_eq).2.1
  have concludes : ended = final.conclude (.result (final.report id)) := by
    rw [ended_eq, Dag.execute, finishes.cycle_eq]
  have all_ended := inPace.faithful.allEnded accepted finished
  have dispatched_iff (operator : Uuid) : operator ∈ final.dispatchOrder ↔
      operator ∈ order ∧ rehearsal.Dispatches dag operator := by
    rw [ledger.dispatchOrder_eq]
    exact inPace.mem_acceptedOperators_iff rehearses all_ended
  refine ⟨final, _, rfl, concludes, dispatched_iff, isDepth.eq_sup dispatched_iff, ?now, finishes,
    ?polls, ?sorted⟩
  case now =>
    rw [concludes]
    exact inPace.staged.now_eq
  case polls =>
    intro operator dispatched
    rw [concludes]
    have member : operator ∈ acceptedOperators final.calls := ledger.dispatchOrder_eq ▸ dispatched
    exact inPace.length_pollsOf rehearses all_ended member
  case sorted =>
    change final.dispatchOrder.Pairwise ((Graph.build dag).Ahead order)
    rw [ledger.dispatchOrder_eq]
    exact inPace.paced.sorted

end Rounds

/-- Every job fails its first poll, then runs, and succeeds with its third poll. -/
private def unhurried : Rehearsal :=
  ⟨.empty, 2, 1, .empty⟩

/-- Polls are five milliseconds apart. -/
private def pacing : RunSettings (Rehearsal.Stage × Memory) where
  backend := unhurried.backend (some Memory.store)
  storage := .file ""
  secrets := .file ""
  pollInterval := .ofMillis 5
  timeout := none
  horizon := (Duration.ofMillis 40).nanos

/-- A join has three levels, which take nine rounds of polls. -/
theorem rehearsal_keeps_pace_join :
    ∃ ended final, ended = Dag.join.execute pacing [.ofNat 1, .ofNat 2, .ofNat 3, .ofNat 4]
        (.generate .ofNat .join) .nil none (.empty, .empty) ∧
      ended = final.conclude (.result (final.report .nil)) ∧
      ended.now = (Duration.ofMillis 40).nanos ∧
      Finishes pacing .join (.generate .ofNat .join) .nil final 9 0
        (start [.ofNat 1, .ofNat 2, .ofNat 3, .ofNat 4] .join none (.empty, .empty)) ∧
      ∀ operator ∈ [Uuid.ofNat 1, .ofNat 2, .ofNat 3, .ofNat 4],
        (pollsOf ended.calls operator).length = 3 := by
  have keyed : Dag.join.OperatorsKeyed := by decide
  have covers : (RunPaths.generate .ofNat .join).Covers .join := RunPaths.covers_generate keyed
  have backend_eq : pacing.backend = unhurried.backend (some Memory.store) := rfl
  have unknown : ∀ operator ∈ Dag.join.operators.values,
      Rehearsal.Stage.empty.jobs.find? (jobName operator .nil) = none := by decide
  have succeeded : ∀ operator ∈ [Uuid.ofNat 1, .ofNat 2, .ofNat 3, .ofNat 4],
      unhurried.Plays .join operator .succeeded := by
    intro operator known
    obtain ⟨found, found_eq⟩ := Table.mem_keys_iff.1
      ((Dag.perm_keys_of_executionOrder Dag.executionOrder_join).mem_iff.1 known)
    exact ⟨found, found_eq, rfl⟩
  obtain ⟨-, depth, depth_le, keeps_pace⟩ := rehearsal_keeps_pace Dag.executionOrder_join keyed
    covers backend_eq rfl unknown (Rehearsal.writable_memory _ .empty) rfl rfl rfl
  have shallow : depth ≤ 3 := Nat.le_trans depth_le (by decide)
  have watched : (3 * depth - 1) * 5000000 ≤ 40000000 := by omega
  obtain ⟨final, report, rfl, concludes, dispatched_iff, depth_eq, now_eq, finishes, polls, -⟩ :=
    keeps_pace 40000000 watched _ rfl
  have dispatched : ∀ operator ∈ [Uuid.ofNat 1, .ofNat 2, .ofNat 3, .ofNat 4],
      operator ∈ (final.report .nil).dispatchOrder := fun operator known =>
    (dispatched_iff operator).2
      ⟨known, Rehearsal.dispatches_of_succeeded Dag.executionOrder_join succeeded known⟩
  have deep : 3 ≤ depth := by
    rw [depth_eq]
    refine Nat.le_trans ?_ (Finset.le_sup (List.mem_toFinset.2 (dispatched (.ofNat 4) (by decide))))
    decide
  obtain rfl := Nat.le_antisymm shallow deep
  exact ⟨_, final, rfl, concludes, now_eq, finishes,
    fun operator known => polls operator (dispatched operator known)⟩

end Run
end Workflow
