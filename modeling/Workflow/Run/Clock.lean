import Workflow.Duration

/-!
# Time in a run

Time is counted in nanoseconds from the beginning of a run.  A run can be interrupted by its
cancellation or by its deadline; the earlier one counts, and of two at the same moment the
cancellation.  Polling is paced by a ticker whose ticks are due at regular intervals, counted anew
after a tick that was taken late.
-/

namespace Workflow

/-- What can end a run early. -/
inductive Interrupt
  /-- The run is canceled. -/
  | canceled
  /-- The deadline has come. -/
  | deadline
  deriving DecidableEq

/-- The moments at which a run is interrupted, if there are any. -/
structure Limits where
  /-- When the run is canceled. -/
  canceledAt : Option Nat
  /-- When the deadline comes. -/
  deadline : Option Nat
  deriving DecidableEq

namespace Limits

/-- Whether something planned for a moment, if at all, happens by `time`. -/
def isDue (planned : Option Nat) (time : Nat) : Bool :=
  planned.any (· ≤ time)

/-- What interrupts a run that waits from `now` until `time`, and when. -/
def interrupt? (limits : Limits) (now time : Nat) : Option (Interrupt × Nat) :=
  let canceledAt := limits.canceledAt.map (max now)
  let deadline := limits.deadline.map (max now)
  match canceledAt, deadline with
  | some canceledAt, some deadline =>
      if canceledAt ≤ time ∧ canceledAt ≤ deadline then some (.canceled, canceledAt)
      else if deadline ≤ time then some (.deadline, deadline)
      else none
  | some canceledAt, none => if canceledAt ≤ time then some (.canceled, canceledAt) else none
  | none, some deadline => if deadline ≤ time then some (.deadline, deadline) else none
  | none, none => none

end Limits

namespace Ticker

/-- The shortest interval between two ticks. -/
def shortestInterval : Duration :=
  .ofMillis 1

/-- How late a tick may be taken before the next one is counted from then. -/
def tolerance : Duration :=
  .ofMillis 5

/-- The nanoseconds between two ticks of which the first one is taken in time. -/
def period (interval : Duration) : Nat :=
  max interval.nanos shortestInterval.nanos

/-- When the next tick is due after one that was due at `due` and taken at `taken`. -/
def next (interval : Duration) (due taken : Nat) : Nat :=
  (if due + tolerance.nanos < taken then taken else due) + period interval

theorem period_pos (interval : Duration) : 0 < period interval :=
  Nat.lt_of_lt_of_le (by decide) (Nat.le_max_right _ _)

theorem add_period_le_next (interval : Duration) (due taken : Nat) :
    due + period interval ≤ next interval due taken := by
  unfold next
  split <;> omega

theorem lt_next (interval : Duration) (due taken : Nat) : due < next interval due taken :=
  Nat.lt_of_lt_of_le (Nat.lt_add_of_pos_right (period_pos interval))
    (add_period_le_next interval due taken)

end Ticker
end Workflow
