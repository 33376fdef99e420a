import Workflow.Run.Execution

/-!
# Computations that may stop

`Ensures` says what holds after a computation, of its value if it has one and of its error
otherwise.  `wait_cases` tells how a wait ends, `perform_cases` takes a call to the backend apart
into its waits, and `ensures_launch` and `ensures_poll` lead from what a call ensures to launches
and polls.
-/

namespace Workflow

section Ensures

variable {ε α β : Type} {good : α → Prop} {bad : ε → Prop}

/-- A value is good and an error is no worse than allowed. -/
def Ensures (good : α → Prop) (bad : ε → Prop) : Except ε α → Prop
  | .ok value => good value
  | .error error => bad error

theorem ok_bind (value : α) (next : α → Except ε β) : (Except.ok value >>= next) = next value :=
  rfl

theorem ensures_true (program : Except ε α) :
    Ensures (fun _ => True) (fun _ => True) program := by
  cases program <;> trivial

theorem Ensures.of_eq_ok {program : Except ε α} (ensures : Ensures good bad program) {value : α}
    (program_eq : program = .ok value) : good value := by
  rwa [program_eq] at ensures

theorem Ensures.of_eq_error {program : Except ε α} (ensures : Ensures good bad program) {error : ε}
    (program_eq : program = .error error) : bad error := by
  rwa [program_eq] at ensures

theorem Ensures.exists_ok {program : Except ε α} (ensures : Ensures good (fun _ => False) program) :
    ∃ value, program = .ok value ∧ good value := by
  cases program with
  | ok value => exact ⟨value, rfl, ensures⟩
  | error => exact ensures.elim

theorem Ensures.mono {program : Except ε α} {better : α → Prop} {worse : ε → Prop}
    (ensures : Ensures good bad program) (value_imp : ∀ value, good value → better value)
    (error_imp : ∀ error, bad error → worse error) : Ensures better worse program := by
  cases program with
  | ok value => exact value_imp value ensures
  | error error => exact error_imp error ensures

theorem Ensures.mono_error {program : Except ε α} {worse : ε → Prop}
    (ensures : Ensures good bad program) (error_imp : ∀ error, bad error → worse error) :
    Ensures good worse program :=
  ensures.mono (fun _ holds => holds) error_imp

theorem Ensures.mono_value {program : Except ε α} {better : α → Prop}
    (ensures : Ensures good bad program) (value_imp : ∀ value, good value → better value) :
    Ensures better bad program :=
  ensures.mono value_imp fun _ holds => holds

theorem Ensures.and {program : Except ε α} {also : α → Prop} {alsoBad : ε → Prop}
    (ensures : Ensures good bad program) (ensures_also : Ensures also alsoBad program) :
    Ensures (fun value => good value ∧ also value) (fun error => bad error ∧ alsoBad error)
      program := by
  cases program with
  | ok value => exact ⟨ensures, ensures_also⟩
  | error error => exact ⟨ensures, ensures_also⟩

theorem Ensures.bind {program : Except ε α} {next : α → Except ε β} {better : β → Prop}
    (ensures : Ensures good bad program)
    (next_ensures : ∀ value, good value → Ensures better bad (next value)) :
    Ensures better bad (program >>= next) := by
  cases program with
  | ok value => exact next_ensures value ensures
  | error error => exact ensures

/-- A fold keeps what each of its steps keeps; what is kept may mention the items that remain. -/
theorem ensures_foldlM {step : β → α → Except ε β} {holds : List α → β → Prop}
    (step_ensures : ∀ item items state, holds (item :: items) state →
      Ensures (holds items) bad (step state item))
    {items : List α} {state : β} (first : holds items state) :
    Ensures (holds []) bad (items.foldlM step state) := by
  induction items generalizing state with
  | nil => exact first
  | cons item items ih =>
      rw [List.foldlM_cons]
      exact (step_ensures item items state first).bind fun next => ih

end Ensures

namespace Run

variable {ω α : Type} {settings : RunSettings ω} {run : Run ω}

/-- The calls so far, first one first. -/
def calls (run : Run ω) : List CallRecord :=
  run.history.reverse

theorem calls_note (run : Run ω) (time : Nat) (operator : Uuid) (subject : CallSubject)
    (result : CallResult) :
    (run.note time operator subject result).calls =
      run.calls ++ [⟨time, operator, subject, result⟩] :=
  List.reverse_cons

/-! ### Waits -/

/-- What may stop a run that waits until a moment. -/
inductive Stops (settings : RunSettings ω) (run : Run ω) (time : Nat) : Stopped ω → Prop
  /-- It is interrupted. -/
  | interrupted {interrupt : Interrupt} {moment : Nat}
      (interrupt_eq : (run.limits settings).interrupt? run.now
        (max run.now (min settings.horizon time)) = some (interrupt, moment)) :
      Stops settings run time (run.stopAt settings interrupt moment)
  /-- It is watched no longer. -/
  | unwatched (late : settings.horizon < time)
      (goes_on : (run.limits settings).interrupt? run.now (max run.now settings.horizon) = none) :
      Stops settings run time (run.leave settings)

/-- A wait that nothing stops ends at its moment. -/
theorem wait_cases (settings : RunSettings ω) (run : Run ω) (time : Nat) :
    Ensures
      (fun waited => waited = { run with now := max run.now time } ∧ time ≤ settings.horizon ∧
        (run.limits settings).interrupt? run.now (max run.now time) = none)
      (Stops settings run time) (run.wait settings time) := by
  unfold wait
  cases stop_eq : run.stopBy? settings (max run.now (min settings.horizon time)) with
  | some stopped =>
      obtain ⟨_, interrupt_eq, rfl⟩ := Option.map_eq_some_iff.1 stop_eq
      exact .interrupted interrupt_eq
  | none =>
      have goes_on := Option.map_eq_none_iff.1 stop_eq
      dsimp only
      split
      · rename_i watched
        rw [Nat.min_eq_right watched] at goes_on
        exact ⟨rfl, watched, goes_on⟩
      · rename_i unwatched
        have late := Nat.lt_of_not_le unwatched
        rw [Nat.min_eq_left (Nat.le_of_lt late)] at goes_on
        exact .unwatched late goes_on

theorem wait_eq_ok {waited : Run ω} {time : Nat} (wait_eq : run.wait settings time = .ok waited) :
    waited = { run with now := max run.now time } :=
  ((run.wait_cases settings time).of_eq_ok wait_eq).1

theorem le_horizon_of_wait {waited : Run ω} {time : Nat}
    (wait_eq : run.wait settings time = .ok waited) : time ≤ settings.horizon :=
  ((run.wait_cases settings time).of_eq_ok wait_eq).2.1

theorem wait_eq_error {stopped : Stopped ω} {time : Nat}
    (wait_eq : run.wait settings time = .error stopped) :
    ∃ moment, stopped.run = { run with now := moment } := by
  cases (run.wait_cases settings time).of_eq_error wait_eq with
  | interrupted => exact ⟨_, rfl⟩
  | unwatched => exact ⟨_, rfl⟩

/-- To wait in vain is to wait for a moment at which the run is watched no longer. -/
theorem wait_past_horizon (settings : RunSettings ω) (run : Run ω) :
    run.wait settings (settings.horizon + 1) = .error (run.waitInVain settings) := by
  unfold wait waitInVain
  rw [Nat.min_eq_left (Nat.le_succ _)]
  cases run.stopBy? settings (max run.now settings.horizon) with
  | none => exact if_neg (Nat.not_succ_le_self _)
  | some stopped => rfl

theorem run_waitInVain (settings : RunSettings ω) (run : Run ω) :
    ∃ moment, (run.waitInVain settings).run = { run with now := moment } :=
  wait_eq_error (run.wait_past_horizon settings)

/-- At most time and the world have changed. -/
structure Keeps (run next : Run ω) : Prop where
  /-- The states of the operators are the same. -/
  progress_eq : next.progress = run.progress
  /-- The jobs are the same. -/
  jobs_eq : next.jobs = run.jobs
  /-- No call was added. -/
  calls_eq : next.calls = run.calls

theorem keeps_of_moment {next : Run ω} (next_eq : ∃ moment, next = { run with now := moment }) :
    run.Keeps next := by
  obtain ⟨_, rfl⟩ := next_eq
  exact ⟨rfl, rfl, rfl⟩

theorem wait_ensures (settings : RunSettings ω) (run : Run ω) (time : Nat) :
    Ensures run.Keeps (fun stopped => run.Keeps stopped.run) (run.wait settings time) := by
  cases wait_eq : run.wait settings time with
  | ok waited => exact keeps_of_moment ⟨_, wait_eq_ok wait_eq⟩
  | error stopped => exact keeps_of_moment (wait_eq_error wait_eq)

/-! ### Calls -/

/-- A run while a call is under way. -/
def during (run : Run ω) (call : BackendCall ω α) : Run ω :=
  { run with world := call.begun }

/-- A run when its call may be answered. -/
def upon (run : Run ω) (call : BackendCall ω α) : Run ω :=
  let run := { run.during call with now := run.now + call.delay }
  if call.cancels then { run with canceledAt := some run.now } else run

theorem upon_eq (run : Run ω) (call : BackendCall ω α) :
    ∃ canceledAt, run.upon call =
      { run with now := run.now + call.delay, canceledAt, world := call.begun } := by
  unfold upon
  dsimp only
  split <;> exact ⟨_, rfl⟩

/-- A call is answered at the end of its delay.  Otherwise the run stops before the call, during the
delay, or waiting for an answer that never comes. -/
theorem perform_cases (settings : RunSettings ω) (run : Run ω) (operator : Uuid)
    (subject : CallSubject) {call : ω → BackendCall ω α} {response : BackendCall ω α}
    (response_eq : call run.world = response) (result : α → CallResult) :
    Ensures
      (fun (answer, next) => ∃ world, response.answer = some (answer, world) ∧
        (run.during response).wait settings (run.now + response.delay) =
          .ok { run.during response with now := run.now + response.delay } ∧
        next = Run.note { run.upon response with world } run.now operator subject (result answer))
      (fun stopped => run.wait settings run.now = .error stopped ∨
        run.wait settings run.now = .ok run ∧ ∃ halted,
          stopped = abandon run.now operator subject halted ∧
          ((run.during response).wait settings (run.now + response.delay) = .error halted ∨
            response.answer = none ∧
              (run.during response).wait settings (run.now + response.delay) =
                .ok { run.during response with now := run.now + response.delay } ∧
              halted = (run.upon response).waitInVain settings))
      (run.perform settings operator subject call result) := by
  unfold perform
  cases begin_eq : run.wait settings run.now with
  | error stopped => exact .inl rfl
  | ok begun =>
      obtain rfl : begun = run := by simpa using wait_eq_ok begin_eq
      subst response_eq
      change Ensures _ _ (((begun.during (call begun.world)).wait settings
        (begun.now + (call begun.world).delay)).mapError (abandon begun.now operator subject) >>= _)
      cases delay_eq : (begun.during (call begun.world)).wait settings
          (begun.now + (call begun.world).delay) with
      | error halted => exact .inr ⟨rfl, halted, rfl, .inl rfl⟩
      | ok waited =>
          obtain rfl : waited =
              { begun.during (call begun.world) with
                now := begun.now + (call begun.world).delay } := by
            simpa [during] using wait_eq_ok delay_eq
          cases answer_eq : (call begun.world).answer with
          | none => exact .inr ⟨rfl, _, rfl, .inr ⟨rfl, rfl, rfl⟩⟩
          | some answer => exact ⟨answer.2, rfl, rfl, rfl⟩

/-- An answered call leaves its world and its record.  A run that stops during a call leaves the
world in which the call has begun, and the record that it was interrupted. -/
theorem perform_ends (settings : RunSettings ω) (run : Run ω) (operator : Uuid)
    (subject : CallSubject) {call : ω → BackendCall ω α} {response : BackendCall ω α}
    (response_eq : call run.world = response) (result : α → CallResult) :
    Ensures
      (fun (answer, next) => ∃ canceledAt world, response.answer = some (answer, world) ∧
        next = Run.note { run with now := run.now + response.delay, canceledAt, world } run.now
          operator subject (result answer))
      (fun stopped => (∃ moment, stopped.run = { run with now := moment }) ∨
        ∃ moment canceledAt, stopped.run =
          Run.note { run with now := moment, canceledAt, world := response.begun } run.now operator
            subject .interrupted)
      (run.perform settings operator subject call result) := by
  obtain ⟨canceledAt, upon_eq⟩ := run.upon_eq response
  refine (run.perform_cases settings operator subject response_eq result).mono ?_ ?_
  · rintro ⟨answer, next⟩ ⟨world, answer_eq, _, next_eq⟩
    rw [upon_eq] at next_eq
    exact ⟨canceledAt, world, answer_eq, next_eq⟩
  · rintro stopped (wait_eq | ⟨_, halted, rfl, wait_eq | ⟨_, _, rfl⟩⟩)
    · exact .inl (wait_eq_error wait_eq)
    · obtain ⟨moment, run_eq⟩ := wait_eq_error wait_eq
      refine .inr ⟨moment, run.canceledAt, ?_⟩
      rw [abandon, run_eq]
      rfl
    · obtain ⟨moment, run_eq⟩ := run_waitInVain settings (run.upon response)
      refine .inr ⟨moment, canceledAt, ?_⟩
      rw [abandon, run_eq, upon_eq]

/-- A run stopped without another call or during one. -/
def StopsIn (calls : List CallRecord) (operator : Uuid) (subject : CallSubject)
    (stopped : Stopped ω) : Prop :=
  stopped.run.calls = calls ∨
    ∃ time, stopped.run.calls = calls ++ [⟨time, operator, subject, .interrupted⟩]

/-- A call that is answered is added to the calls of the run, and changes no other record. -/
theorem perform_ensures (settings : RunSettings ω) (run : Run ω) (operator : Uuid)
    (subject : CallSubject) (call : ω → BackendCall ω α) (result : α → CallResult) :
    Ensures
      (fun (answer, next) => next.progress = run.progress ∧ next.jobs = run.jobs ∧
        next.dispatchOrder = run.dispatchOrder ∧ next.launchErrors = run.launchErrors ∧
        ∃ time, next.calls = run.calls ++ [⟨time, operator, subject, result answer⟩])
      (StopsIn run.calls operator subject)
      (run.perform settings operator subject call result) := by
  refine (run.perform_ends settings operator subject rfl result).mono ?_ ?_
  · rintro ⟨answer, next⟩ ⟨canceledAt, world, _, rfl⟩
    exact ⟨rfl, rfl, rfl, rfl, run.now, calls_note _ _ _ _ _⟩
  · rintro stopped (⟨moment, run_eq⟩ | ⟨moment, canceledAt, run_eq⟩)
    · rw [StopsIn, run_eq]
      exact .inl rfl
    · rw [StopsIn, run_eq]
      exact .inr ⟨run.now, calls_note _ _ _ _ _⟩

/-! ### Launches and polls -/

/-- A run after the answer to a launch. -/
def heedLaunch (run : Run ω) (operator : Uuid) (job : String) : Except JobError Unit → Run ω
  | .ok () => run.dispatch operator job
  | .error error => run.refuse operator error

/-- A run after the answer to a poll. -/
def heedPoll (run : Run ω) (operator : Uuid) : Except JobError Status → Run ω
  | .ok status =>
      if status.isTerminal then
        { run with progress := (run.progress.record operator status).2 }
      else run
  | .error _ => run

theorem heedPoll_eq (run : Run ω) (operator : Uuid) (answer : Except JobError Status) :
    ∃ progress, run.heedPoll operator answer = { run with progress } := by
  unfold heedPoll
  split
  · split <;> exact ⟨_, rfl⟩
  · exact ⟨_, rfl⟩

variable {dag : Dag} {paths : RunPaths} {id operator : Uuid} {good : Run ω → Prop}
  {bad : Stopped ω → Prop}

theorem ensures_launch
    (unknown : dag.operators.find? operator = none → bad (run.fail (.unknownOperator operator)))
    (missing : ∀ found fault, dag.operators.find? operator = some found →
      JobSpec.build settings paths id found = .error fault → bad (run.fail fault))
    (performed : ∀ found spec, dag.operators.find? operator = some found →
      JobSpec.build settings paths id found = .ok spec →
        Ensures (fun (answer, next) => good (next.heedLaunch operator spec.name answer)) bad
          (run.perform settings operator (.launch spec) (settings.backend.launch spec)
            launchResult)) :
    Ensures good bad (run.launch settings dag paths id operator) := by
  unfold launch
  cases found_eq : dag.operators.find? operator with
  | none => exact unknown found_eq
  | some found =>
      cases build_eq : JobSpec.build settings paths id found with
      | error fault =>
          simp only [build_eq]
          exact missing found fault found_eq build_eq
      | ok spec =>
          simp only [build_eq]
          refine (performed found spec found_eq build_eq).bind ?_
          rintro ⟨answer, next⟩ heeded
          cases answer <;> exact heeded

theorem ensures_poll (idle : run.jobs.find? operator = none → good run)
    (performed : ∀ job, run.jobs.find? operator = some job →
      Ensures (fun (answer, next) => good (next.heedPoll operator answer)) bad
        (run.perform settings operator (.poll operator job) (settings.backend.poll job)
          pollResult)) :
    Ensures good bad (run.poll settings operator) := by
  unfold poll
  cases job_eq : run.jobs.find? operator with
  | none => exact idle job_eq
  | some job =>
      refine (performed job job_eq).bind ?_
      rintro ⟨answer, next⟩ heeded
      cases answer with
      | error => exact heeded
      | ok status =>
          unfold heedPoll at heeded
          dsimp only at heeded ⊢
          split at heeded
          · rename_i terminal
            rwa [if_pos terminal]
          · rename_i unfinished
            rwa [if_neg unfinished]

end Run
end Workflow
