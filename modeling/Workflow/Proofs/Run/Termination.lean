import Workflow.Proofs.Run.Report

/-!
# Runs with a deadline come to an end

Nothing in the cycles of a run counts down, so only its deadline bounds them, whatever the backend
does.  `Concludes` follows the cycles to their end and counts the rounds of polls that are begun.
Each tick is due at least an interval after the one before, and no tick is taken once the deadline
has come, so `exists_concludes` finds an end without any other measure.
-/

namespace Workflow

private theorem Limits.moment_le_deadline {limits : Limits} {interrupt : Interrupt}
    {now time moment deadline : Nat} (planned : limits.deadline = some deadline)
    (ahead : now ≤ deadline) (interrupted : limits.interrupt? now time = some (interrupt, moment)) :
    moment ≤ deadline := by
  obtain ⟨canceledAt, _⟩ := limits
  obtain rfl := planned
  cases canceledAt with
  | none =>
      simp only [interrupt?, Option.map_none, Option.map_some, max_eq_right ahead] at interrupted
      split_ifs at interrupted
      cases interrupted
      exact Nat.le_refl moment
  | some canceledAt =>
      simp only [interrupt?, Option.map_some, max_eq_right ahead] at interrupted
      split_ifs at interrupted with canceled
      · cases interrupted
        exact canceled.2
      · cases interrupted
        exact Nat.le_refl moment

namespace Calls

variable {graph : Graph} {spec? : Uuid → Option JobSpec} {calls : List CallRecord}

/-- The launches for an operator, first one first. -/
def launchesOf (calls : List CallRecord) (operator : Uuid) : List CallRecord :=
  calls.filter fun call => call.isLaunch && call.operator == operator

theorem launchesOf_concat (calls : List CallRecord) (call : CallRecord) (operator : Uuid) :
    launchesOf (calls ++ [call]) operator =
      launchesOf calls operator ++
        if call.isLaunch && call.operator == operator then [call] else [] := by
  rw [launchesOf, List.filter_append]
  split <;> rename_i kind <;> simp only [List.filter, kind] <;> rfl

theorem launched_of_mem_launchesOf {operator : Uuid} {call : CallRecord}
    (member : call ∈ launchesOf calls operator) : Launched calls operator := by
  obtain ⟨call_mem, kind⟩ := List.mem_filter.1 member
  obtain ⟨time, called, subject, result⟩ := call
  cases subject with
  | poll => simp [CallRecord.isLaunch] at kind
  | launch spec =>
      obtain rfl : called = operator := by simpa [CallRecord.isLaunch] using kind
      exact ⟨_, call_mem, rfl, spec, rfl⟩

/-- No operator is launched twice, whatever comes of its launch. -/
theorem Disciplined.length_launchesOf_le (disciplined : Disciplined graph spec? calls)
    (operator : Uuid) : (launchesOf calls operator).length ≤ 1 := by
  induction calls using List.reverseRecOn with
  | nil => exact Nat.zero_le 1
  | append_singleton calls call ih =>
      rw [launchesOf_concat]
      split
      · rename_i launch
        obtain ⟨time, called, subject, result⟩ := call
        cases subject with
        | poll => simp [CallRecord.isLaunch] at launch
        | launch spec =>
            obtain rfl : called = operator := by simpa [CallRecord.isLaunch] using launch
            have unlaunched : launchesOf calls called = [] := by
              apply List.eq_nil_iff_forall_not_mem.2
              intro earlier member
              exact disciplined.last.2.1 (launched_of_mem_launchesOf member)
            rw [unlaunched]
            exact Nat.le_refl 1
      · rw [List.append_nil]
        exact ih disciplined.front

end Calls

namespace Run

open Calls

variable {ω α : Type} {settings : RunSettings ω} {dag : Dag} {paths : RunPaths} {id : Uuid}
  {order : List Uuid} {run begun waited : Run ω} {due deadline period : Nat} {timeout : Duration}

/-! ### The end of the cycles -/

/-- The cycles of a run, the next one with a tick due at a moment, come to an end after so many
rounds of polls have been begun. -/
inductive Concludes (settings : RunSettings ω) (dag : Dag) (paths : RunPaths) (id : Uuid) :
    Nat → Nat → Run ω → Except (Stopped ω) (Run ω) → Prop
  /-- The run is finished after its launches. -/
  | finished {due : Nat} {begun final : Run ω}
      (launches : begun.launchReady settings dag paths id = .ok final)
      (finished : final.progress.isFinished = true) :
      Concludes settings dag paths id 0 due begun (.ok final)
  /-- The run stops during its launches. -/
  | launching {due : Nat} {begun : Run ω} {stopped : Stopped ω}
      (stops : begun.launchReady settings dag paths id = .error stopped) :
      Concludes settings dag paths id 0 due begun (.error stopped)
  /-- The run stops while it waits for the tick. -/
  | waiting {due : Nat} {begun launched : Run ω} {stopped : Stopped ω}
      (launches : begun.launchReady settings dag paths id = .ok launched)
      (unfinished : launched.progress.isFinished = false)
      (stops : launched.wait settings due = .error stopped) :
      Concludes settings dag paths id 0 due begun (.error stopped)
  /-- The run stops during its polls. -/
  | polling {due : Nat} {begun waited : Run ω} {stopped : Stopped ω}
      (reaches : ReachesPolls settings dag paths id due begun waited)
      (stops : waited.pollDispatched settings = .error stopped) :
      Concludes settings dag paths id 1 due begun (.error stopped)
  /-- The run polls and comes to an end after the rounds that follow. -/
  | round {rounds due : Nat} {begun waited polled : Run ω} {outcome : Except (Stopped ω) (Run ω)}
      (reaches : ReachesPolls settings dag paths id due begun waited)
      (polls : waited.pollDispatched settings = .ok polled)
      (rest : Concludes settings dag paths id rounds
        (Ticker.next settings.pollInterval due waited.now) polled outcome) :
      Concludes settings dag paths id (rounds + 1) due begun outcome

/-- What the cycles come to is what the run gives. -/
theorem Concludes.cycle_eq {rounds : Nat} {outcome : Except (Stopped ω) (Run ω)}
    (concludes : Concludes settings dag paths id rounds due begun outcome) :
    begun.cycle settings dag paths id due = outcome := by
  induction concludes with
  | finished launches finished => exact cycle_of_finished launches finished
  | launching stops =>
      rw [cycle, stops]
      rfl
  | waiting launches unfinished stops =>
      rw [cycle, launches]
      simp only [bind, Except.bind, unfinished, stops]
      rfl
  | polling reaches stops =>
      rw [reaches.cycle_eq, stops]
      rfl
  | round reaches polls _ ih =>
      rw [reaches.cycle_eq, polls, ok_bind, ih]

private theorem due_lt_deadline (timeout_eq : settings.timeout.map Duration.nanos = some deadline)
    (wait_eq : run.wait settings due = .ok waited) : due < deadline := by
  have watched := le_horizon_of_wait wait_eq
  unfold wait at wait_eq
  split at wait_eq
  · exact nomatch wait_eq
  · rename_i goes_on
    have allows := Limits.allows_of_interrupt? (le_max_left _ _) (Option.map_eq_none_iff.1 goes_on)
    have early := allows.2 deadline timeout_eq
    omega

/-- With a deadline the cycles come to an end, and the ticks of their rounds, which are an interval
apart, were all due before it. -/
theorem exists_concludes (timeout_eq : settings.timeout.map Duration.nanos = some deadline)
    (due : Nat) (begun : Run ω) :
    ∃ rounds outcome, Concludes settings dag paths id rounds due begun outcome ∧
      ∀ round < rounds, due + round * Ticker.period settings.pollInterval < deadline := by
  -- The time that is left until the deadline goes down from tick to tick.
  induction remaining : deadline - due using Nat.strong_induction_on generalizing due begun with
  | _ remaining ih =>
    cases launches : begun.launchReady settings dag paths id with
    | error stopped => exact ⟨0, _, .launching launches, nofun⟩
    | ok launched =>
      cases unfinished : launched.progress.isFinished with
      | true => exact ⟨0, _, .finished launches unfinished, nofun⟩
      | false =>
        cases wait_eq : launched.wait settings due with
        | error stopped => exact ⟨0, _, .waiting launches unfinished wait_eq, nofun⟩
        | ok waited =>
          have in_time := due_lt_deadline timeout_eq wait_eq
          have reaches : ReachesPolls settings dag paths id due begun waited :=
            ⟨launched, launches, unfinished, wait_eq⟩
          cases polls : waited.pollDispatched settings with
          | error stopped =>
              refine ⟨1, _, .polling reaches polls, fun round first => ?_⟩
              obtain rfl : round = 0 := by omega
              simpa using in_time
          | ok polled =>
              have later := Ticker.add_period_le_next settings.pollInterval due waited.now
              have positive := Ticker.period_pos settings.pollInterval
              obtain ⟨rounds, outcome, rest, before⟩ := ih _ (by omega)
                (Ticker.next settings.pollInterval due waited.now) polled rfl
              refine ⟨rounds + 1, outcome, .round reaches polls rest, fun round among => ?_⟩
              cases round with
              | zero => simpa using in_time
              | succ round =>
                  have next_before := before round (by omega)
                  rw [Nat.succ_mul]
                  omega

/-! ### Time -/

section Time

variable (timeout_eq : settings.timeout.map Duration.nanos = some deadline)

include timeout_eq

private theorem wait_in_time (ahead : run.now ≤ deadline) (time : Nat) :
    Ensures (fun waited => waited.now ≤ deadline) (fun stopped => stopped.run.now ≤ deadline)
      (run.wait settings time) := by
  refine (run.wait_cases settings time).mono ?_ fun stopped stops => ?_
  · rintro _ ⟨rfl, _, goes_on⟩
    exact Nat.le_of_lt
      ((Limits.allows_of_interrupt? (le_max_left _ _) goes_on).2 deadline timeout_eq)
  · cases stops with
    | interrupted interrupt_eq => exact Limits.moment_le_deadline timeout_eq ahead interrupt_eq
    | unwatched _ goes_on =>
        have early := (Limits.allows_of_interrupt? (le_max_left _ _) goes_on).2 deadline timeout_eq
        change settings.horizon ≤ deadline
        omega

private theorem waitInVain_in_time (ahead : run.now ≤ deadline) :
    (run.waitInVain settings).run.now ≤ deadline :=
  (wait_in_time timeout_eq ahead _).of_eq_error (run.wait_past_horizon settings)

private theorem perform_in_time (ahead : run.now ≤ deadline) (operator : Uuid)
    (subject : CallSubject) (call : ω → BackendCall ω α) (result : α → CallResult) :
    Ensures (fun (_, next) => next.now ≤ deadline) (fun stopped => stopped.run.now ≤ deadline)
      (run.perform settings operator subject call result) := by
  have during_ahead : (run.during (call run.world)).now ≤ deadline := ahead
  have waits := wait_in_time timeout_eq during_ahead
    (run.now + (call run.world).delay)
  obtain ⟨canceledAt, upon_eq⟩ := run.upon_eq (call run.world)
  refine (run.perform_cases settings operator subject rfl result).mono ?_ ?_
  · rintro ⟨answer, next⟩ ⟨world, _, wait_eq, rfl⟩
    have answered := waits.of_eq_ok wait_eq
    rw [upon_eq]
    exact answered
  · rintro stopped (begin_eq | ⟨_, halted, rfl, delay_eq | ⟨_, wait_eq, rfl⟩⟩)
    · exact (wait_in_time timeout_eq ahead _).of_eq_error begin_eq
    · have interrupted := waits.of_eq_error delay_eq
      exact interrupted
    · have unanswered := waits.of_eq_ok wait_eq
      apply waitInVain_in_time timeout_eq
      rw [upon_eq]
      exact unanswered

/-- Each launch, poll and wait ends no later than the deadline. -/
theorem kept_in_time {graph : Graph} :
    Kept settings dag paths id graph order (fun run => run.now ≤ deadline)
      (fun stopped => stopped.run.now ≤ deadline) where
  launch {run operator} _ ahead _ := by
    refine ensures_launch (fun _ => ahead) (fun _ _ _ _ => ahead) fun _ spec _ _ => ?_
    refine (perform_in_time timeout_eq ahead operator _ _ _).mono_value ?_
    rintro ⟨answer, next⟩ next_ahead
    cases answer <;> exact next_ahead
  poll {run operator} _ ahead _ := by
    refine ensures_poll (fun _ => ahead) fun job _ => ?_
    refine (perform_in_time timeout_eq ahead operator _ _ _).mono_value ?_
    rintro ⟨answer, next⟩ next_ahead
    obtain ⟨progress, heeded_eq⟩ := next.heedPoll_eq operator answer
    simp only [heeded_eq]
    exact next_ahead
  wait _ ahead := wait_in_time timeout_eq ahead _
  cancel _ ahead _ := ahead

end Time

/-- A run with a deadline comes to an end, whatever its backend does and whether or not it is
canceled.  It begins no more rounds of polls than intervals begin before the deadline, it launches
no operator twice, and it is over when the deadline comes, if it is watched until then. -/
theorem ends_by_deadline (accepted : dag.executionOrder = .ok order)
    (timeout_eq : settings.timeout = some timeout) (watched : timeout.nanos ≤ settings.horizon)
    (period_eq : period = max settings.pollInterval.nanos (Duration.ofMillis 1).nanos)
    {canceledAt : Option Nat} {world : ω} {ended : RunEnd ω RunReport}
    (ended_eq : ended = dag.execute settings order paths id canceledAt world) :
    (∃ rounds ≤ timeout.nanos ⌈/⌉ period,
      Concludes settings dag paths id rounds 0 (start order dag canceledAt world)
        ((start order dag canceledAt world).cycle settings dag paths id 0)) ∧
    (∀ operator, (launchesOf ended.calls operator).length ≤ 1) ∧
    ended.conclusion ≠ .unfinished ∧ ended.now ≤ timeout.nanos := by
  obtain rfl : period = Ticker.period settings.pollInterval := period_eq
  have planned : settings.timeout.map Duration.nanos = some timeout.nanos := by
    rw [timeout_eq, Option.map_some]
  refine ⟨?rounds, ?launches, ?watched, ?moment⟩
  case rounds =>
    obtain ⟨rounds, outcome, concludes, before⟩ := exists_concludes planned 0
      (start order dag canceledAt world)
    refine ⟨rounds, ?_, concludes.cycle_eq ▸ concludes⟩
    by_contra more
    have last := before _ (Nat.lt_of_not_le more)
    have covered := (ceilDiv_le_iff_le_mul (Ticker.period_pos settings.pollInterval)).1
      (Nat.le_refl (timeout.nanos ⌈/⌉ Ticker.period settings.pollInterval))
    rw [Nat.mul_comm] at covered
    omega
  case launches =>
    intro operator
    have disciplined : Disciplined (.build dag) (dag.spec? settings paths id) ended.calls := by
      rw [ended_eq]
      exact disciplined_execute accepted canceledAt world
    exact disciplined.length_launchesOf_le operator
  case watched =>
    intro unfinished
    have outcome := execute_outcome accepted canceledAt world ended_eq
    rw [unfinished] at outcome
    exact Nat.not_lt.2 watched (outcome.2 timeout.nanos planned)
  case moment =>
    have kept : Kept settings dag paths id (.build dag) order (fun run => run.now ≤ timeout.nanos)
        (fun stopped => stopped.run.now ≤ timeout.nanos) := kept_in_time planned
    have begun : (start order dag canceledAt world).now ≤ timeout.nanos := Nat.zero_le _
    have outcome := kept.from_start accepted begun
    rw [ended_eq, Dag.execute]
    cases cycle_eq : (start order dag canceledAt world).cycle settings dag paths id 0 with
    | ok final => exact (outcome.of_eq_ok cycle_eq).2.1
    | error stopped => exact outcome.of_eq_error cycle_eq

/-- A backend that accepts every job and never brings one to an end. -/
private def stubborn : RunSettings Unit where
  backend :=
    { config := .process "" ""
      launch := fun _ world => .now (.ok (), world)
      poll := fun _ world => .now (.ok .running, world) }
  storage := .file ""
  secrets := .file ""
  pollInterval := ⟨0⟩
  timeout := some (.ofMillis 4)
  horizon := (Duration.ofMillis 9).nanos

/-- A join whose jobs never end is polled in each of the four milliseconds before its deadline. -/
theorem ends_by_deadline_join :
    ∃ ended, ended = Dag.join.execute stubborn [.ofNat 1, .ofNat 2, .ofNat 3, .ofNat 4]
        (.generate .ofNat .join) .nil none () ∧
      ended.conclusion = .fault (.deadlineExceeded (.ofMillis 4) 2) ∧
      ended.now ≤ (Duration.ofMillis 4).nanos ∧
      (pollsOf ended.calls (.ofNat 1)).length = 4 ∧
      ∃ rounds ≤ 4, Concludes stubborn .join (.generate .ofNat .join) .nil rounds 0
        (start [.ofNat 1, .ofNat 2, .ofNat 3, .ofNat 4] .join none ())
        ((start [.ofNat 1, .ofNat 2, .ofNat 3, .ofNat 4] .join none ()).cycle stubborn .join
          (.generate .ofNat .join) .nil 0) := by
  have watched : (Duration.ofMillis 4).nanos ≤ stubborn.horizon := by decide
  obtain ⟨concludes, _, _, in_time⟩ := ends_by_deadline Dag.executionOrder_join rfl watched rfl
    (rfl : Dag.join.execute stubborn _ (.generate .ofNat .join) .nil none () = _)
  refine ⟨_, rfl, ?conclusion, in_time, ?polls, concludes⟩
  case conclusion => decide +kernel
  case polls => decide +kernel

end Run
end Workflow
