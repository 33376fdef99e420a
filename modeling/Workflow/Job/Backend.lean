import Workflow.Job

/-!
# Backends

A backend launches jobs and reports their status.  Each call takes place in a world `ω` that it may
change, takes its time, and may never come back; it may also cancel the run that made it.
-/

namespace Workflow

/-- What becomes of one call to a backend. -/
structure BackendCall (ω α : Type) where
  /-- The world once the call has begun, which remains if the call is abandoned. -/
  begun : ω
  /-- The nanoseconds that pass before anything else happens. -/
  delay : Nat
  /-- Whether the run is then canceled. -/
  cancels : Bool
  /-- The answer that then comes at once, with the world that it leaves; none if none ever comes. -/
  answer : Option (α × ω)

/-- The call that answers without delay. -/
def BackendCall.now {ω α : Type} (result : α × ω) : BackendCall ω α :=
  ⟨result.2, 0, false, some result⟩

/-- What runs jobs in a world of type `ω`. -/
structure Backend (ω : Type) where
  /-- How jobs reach the backend. -/
  config : BackendConfig
  /-- Begin to launch a job. -/
  launch : JobSpec → ω → BackendCall ω (Except JobError Unit)
  /-- Begin to ask for the status of the job of a name. -/
  poll : String → ω → BackendCall ω (Except JobError Status)

end Workflow
