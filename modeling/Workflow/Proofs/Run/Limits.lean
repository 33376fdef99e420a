import Mathlib.Data.Nat.Basic
import Mathlib.Tactic.SplitIfs
import Workflow.Proofs.Run.Attempt

/-!
# The limits of a run

A run that waits goes on before any limit and is interrupted by the first one.  It has to begin to
wait in time for that: a limit that has already passed would be reported late.
-/

namespace Workflow

namespace Limits

variable {limits : Limits} {interrupt : Interrupt} {now time moment : Nat}

/-- No limit has been reached yet. -/
def Allows (limits : Limits) (time : Nat) : Prop :=
  (∀ canceledAt ∈ limits.canceledAt, time < canceledAt) ∧
    ∀ deadline ∈ limits.deadline, time < deadline

/-- The limit that is reached first; of two at the same moment, the cancellation. -/
def First (limits : Limits) : Interrupt → Nat → Prop
  | .canceled, moment =>
      moment ∈ limits.canceledAt ∧ ∀ deadline ∈ limits.deadline, moment ≤ deadline
  | .deadline, moment =>
      moment ∈ limits.deadline ∧ ∀ canceledAt ∈ limits.canceledAt, moment < canceledAt

theorem Allows.mono (allows : limits.Allows time) (le : now ≤ time) : limits.Allows now :=
  ⟨fun canceledAt planned => Nat.lt_of_le_of_lt le (allows.1 canceledAt planned),
    fun deadline planned => Nat.lt_of_le_of_lt le (allows.2 deadline planned)⟩

theorem First.not_allows (first : limits.First interrupt moment) (le : moment ≤ time) :
    ¬limits.Allows time := by
  intro allows
  cases interrupt with
  | canceled => exact absurd (allows.1 moment first.1) (Nat.not_lt.2 le)
  | deadline => exact absurd (allows.2 moment first.1) (Nat.not_lt.2 le)

private theorem le_limit (early : limits.Allows now ∨ now = 0) :
    (∀ canceledAt ∈ limits.canceledAt, now ≤ canceledAt) ∧
      ∀ deadline ∈ limits.deadline, now ≤ deadline := by
  rcases early with allows | rfl
  · exact ⟨fun canceledAt planned => Nat.le_of_lt (allows.1 canceledAt planned),
      fun deadline planned => Nat.le_of_lt (allows.2 deadline planned)⟩
  · exact ⟨fun canceledAt _ => canceledAt.zero_le, fun deadline _ => deadline.zero_le⟩

theorem allows_of_interrupt? (le : now ≤ time) (goes_on : limits.interrupt? now time = none) :
    limits.Allows time := by
  obtain ⟨_ | canceledAt, _ | deadline⟩ := limits
  · simp [Allows]
  · have late : ¬max now deadline ≤ time := by simpa [interrupt?] using goes_on
    simp [Allows]
    omega
  · have late : ¬max now canceledAt ≤ time := by simpa [interrupt?] using goes_on
    simp [Allows]
    omega
  · simp only [interrupt?, Option.map_some] at goes_on
    split_ifs at goes_on
    simp [Allows]
    omega

/-- A wait that begins before any limit, or with the run, is interrupted by the first limit. -/
theorem first_of_interrupt? (early : limits.Allows now ∨ now = 0)
    (interrupted : limits.interrupt? now time = some (interrupt, moment)) :
    limits.First interrupt moment ∧ moment ≤ time := by
  have after := le_limit early
  obtain ⟨_ | canceledAt, _ | deadline⟩ := limits
  · simp [interrupt?] at interrupted
  · have planned : now ≤ deadline := after.2 deadline rfl
    simp only [interrupt?, Option.map_none, Option.map_some, max_eq_right planned] at interrupted
    split_ifs at interrupted
    cases interrupted
    simpa [First]
  · have planned : now ≤ canceledAt := after.1 canceledAt rfl
    simp only [interrupt?, Option.map_none, Option.map_some, max_eq_right planned] at interrupted
    split_ifs at interrupted
    cases interrupted
    simpa [First]
  · simp only [interrupt?, Option.map_some, max_eq_right (after.1 canceledAt rfl),
      max_eq_right (after.2 deadline rfl)] at interrupted
    split_ifs at interrupted
    · cases interrupted
      simp [First]
      omega
    · cases interrupted
      simp [First]
      omega

/-- A cancellation that is due when it is checked is the first limit. -/
theorem first_of_isDue (early : limits.Allows now ∨ now = 0)
    (due : isDue limits.canceledAt now = true) : limits.First .canceled now := by
  obtain ⟨canceledAt, planned, passed⟩ := (Option.any_eq_true _ _).1 due
  have same : canceledAt = now :=
    le_antisymm (of_decide_eq_true passed) ((le_limit early).1 canceledAt planned)
  exact ⟨same ▸ planned, (le_limit early).2⟩

end Limits

/-! ### Waits -/

namespace Run

variable {ω : Type} {settings : RunSettings ω} {run : Run ω}

/-- How a run may stop while it waits. -/
inductive Halts (settings : RunSettings ω) (run : Run ω) : Stopped ω → Prop
  /-- The first limit is reached. -/
  | interrupted {interrupt : Interrupt} {moment : Nat}
      (first : (run.limits settings).First interrupt moment) :
      Halts settings run (run.stopAt settings interrupt moment)
  /-- No limit is reached as long as the run is watched. -/
  | unwatched (allows : (run.limits settings).Allows settings.horizon) :
      Halts settings run (run.leave settings)

theorem wait_within (early : (run.limits settings).Allows run.now ∨ run.now = 0) (time : Nat) :
    Ensures (fun _ => (run.limits settings).Allows (max run.now time))
      (fun stopped => Halts settings run stopped ∧
        ((run.limits settings).Allows (max run.now time) → settings.horizon < time))
      (run.wait settings time) := by
  refine (run.wait_cases settings time).mono
    (fun _ ⟨_, _, goes_on⟩ => Limits.allows_of_interrupt? (le_max_left _ _) goes_on)
    fun stopped stops => ?_
  cases stops with
  | @interrupted _ moment interrupt_eq =>
      obtain ⟨first, moment_le⟩ := Limits.first_of_interrupt? early interrupt_eq
      have in_time : moment ≤ max run.now time := by omega
      exact ⟨.interrupted first, fun allows => absurd allows (first.not_allows in_time)⟩
  | unwatched late goes_on =>
      have allows := Limits.allows_of_interrupt? (le_max_left _ _) goes_on
      exact ⟨.unwatched (allows.mono (le_max_right _ _)), fun _ => late⟩

theorem halts_waitInVain (early : (run.limits settings).Allows run.now ∨ run.now = 0) :
    Halts settings run (run.waitInVain settings) :=
  ((wait_within early _).of_eq_error (run.wait_past_horizon settings)).1

theorem Halts.run_eq {stopped : Stopped ω} (halts : Halts settings run stopped) :
    ∃ moment, stopped.run = { run with now := moment } := by
  cases halts with
  | interrupted => exact ⟨_, rfl⟩
  | unwatched => exact ⟨_, rfl⟩

end Run
end Workflow
