import Workflow.Json.Record

/-!
# The status of a job

A job or a whole run is pending or running until it succeeds, fails or is canceled; those three
never change again.
-/

namespace Workflow

/-- How far a job or a run has come. -/
inductive Status
  /-- Accepted and not started. -/
  | pending
  /-- Started and not finished. -/
  | running
  /-- Finished with its outputs written. -/
  | succeeded
  /-- Finished without success. -/
  | failed
  /-- Given up on request. -/
  | canceled
  deriving DecidableEq

namespace Status

/-- Every status with its name. -/
def names : List (String × Status) :=
  [("pending", .pending), ("running", .running), ("succeeded", .succeeded), ("failed", .failed),
    ("canceled", .canceled)]

/-- The name of a status. -/
def name : Status → String
  | pending => "pending"
  | running => "running"
  | succeeded => "succeeded"
  | failed => "failed"
  | canceled => "canceled"

instance : ToString Status :=
  ⟨name⟩

/-- A text that names no status. -/
structure Unknown where
  /-- The text. -/
  text : String
  deriving DecidableEq

/-- What is said about a text that names no status. -/
def Unknown.message (unknown : Unknown) : String :=
  "unknown execution status: " ++ unknown.text

/-- The status with a name. -/
def ofName (text : String) : Except Unknown Status :=
  match names.lookup text with
  | some status => .ok status
  | none => .error ⟨text⟩

/-- Whether the status never changes again. -/
def isTerminal : Status → Bool
  | succeeded | failed | canceled => true
  | pending | running => false

/-- A status in JSON. -/
def toJson (status : Status) : Json :=
  .str status.name

/-- Read a status from JSON. -/
def ofJson? : Json → Option Status :=
  Json.name? names

theorem ofName_name (status : Status) : ofName status.name = .ok status := by
  cases status <;> rfl

end Status
end Workflow
