import Workflow.Dag.Edge
import Workflow.Dag.Order
import Workflow.Duration
import Workflow.Storage
import Workflow.Text.Quoted

/-!
# Why a workflow gives no result

Only a malformed workflow is the fault of whoever submitted it; every other fault is one of the
system.
-/

namespace Workflow

/-- Why there is no result. -/
inductive Fault
  /-- The workflow is malformed. -/
  | validation (defect : Defect)
  /-- An operator is named that the workflow does not have. -/
  | unknownOperator (id : Uuid)
  /-- The run was canceled while some operators were dispatched. -/
  | canceled (dispatched : Nat)
  /-- The run took too long, and some operators were still dispatched. -/
  | deadlineExceeded (timeout : Duration) (dispatched : Nat)
  /-- An operator or artifact has no path. -/
  | missingStoragePath (id : Uuid)
  /-- The content of an artifact is not of its kind. -/
  | malformedArtifact (id : Uuid) (expected content : String)
  /-- The storage failed. -/
  | storage (failure : StorageError)
  deriving DecidableEq

namespace Fault

/-- What is said about a fault. -/
def message : Fault → String
  | validation defect => "invalid workflow: " ++ defect.message
  | unknownOperator id => "edge references unknown operator '" ++ id.toString ++ "'"
  | canceled dispatched =>
      "preview was canceled with " ++ toString dispatched ++ " operator(s) still running"
  | deadlineExceeded timeout dispatched =>
      "preview exceeded its " ++ timeout.toString ++ " deadline with " ++ toString dispatched ++
        " operator(s) still running"
  | missingStoragePath id => "no storage path assigned to '" ++ id.toString ++ "'"
  | malformedArtifact id expected content =>
      "artifact '" ++ id.toString ++ "' content is not a valid " ++ expected ++ ": " ++
        Text.quote content
  | storage failure => "storage error: " ++ failure.message

/-- Whether whoever submitted the workflow is at fault. -/
def isUserError : Fault → Bool
  | validation _ => true
  | _ => false

/-- The defect of the workflow, if that is the fault. -/
def defect? : Fault → Option Defect
  | validation defect => some defect
  | _ => none

/-- The fault of an edge without operator. -/
def ofUnknownOperator (unknown : UnknownOperator) : Fault :=
  unknownOperator unknown.id

end Fault
end Workflow
