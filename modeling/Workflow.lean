import Workflow.Job.Script
import Workflow.Main
import Workflow.Preview
import Workflow.Proofs.Dag.Links
import Workflow.Storage.Directory
import Workflow.Storage.Memory
import Workflow.Text.Hexadecimal
import Workflow.Proofs.Dag.Keys
import Workflow.Proofs.Dag.Sorting
import Workflow.Proofs.Dag.Validation
import Workflow.Proofs.Progress.Consistency
import Workflow.Proofs.Progress.Confluence
import Workflow.Proofs.Run.Trace
import Workflow.Proofs.Run.Attempt
import Workflow.Proofs.Run.Faithful
import Workflow.Proofs.Run.Rounds
import Workflow.Proofs.Run.Discipline
import Workflow.Proofs.Dag.Precedence
import Workflow.Proofs.Progress.Greedy
import Workflow.Proofs.Run.Specification
import Workflow.Proofs.Run.Conversation
import Workflow.Proofs.Run.Limits
import Workflow.Proofs.Run.Interruption
import Workflow.Proofs.Storage.Sweep
import Workflow.Proofs.Preview.Reading
import Workflow.Proofs.Preview.Cleanup
import Workflow.Proofs.Uuid
import Workflow.Proofs.Run.Paths
import Workflow.Proofs.Run.Outcome
import Workflow.Proofs.Json
import Workflow.Proofs.Task
import Workflow.Proofs.Storage.Accesses
import Workflow.Proofs.Preview.Fetching
import Workflow.Proofs.Preview.Collection
import Workflow.Proofs.Preview.Faults
import Workflow.Proofs.Preview.Response
import Workflow.Proofs.Preview.Agreement
import Workflow.Proofs.Preview.Wiring
import Workflow.Proofs.Dag.Edges
import Workflow.Proofs.Dag.Rebuilding
import Workflow.Proofs.Storage.PlainPath
import Workflow.Proofs.Storage.Interchange
import Workflow.Proofs.Text.Decimal
import Workflow.Proofs.Timestamp
import Workflow.Proofs.Json.RoundTrip
import Workflow.Proofs.Shapes
import Workflow.Proofs.Text.Utf8
import Workflow.Proofs.Json.Printing
import Workflow.Proofs.Job.Rehearsal
import Workflow.Proofs.Run.Rehearsed
import Workflow.Proofs.Preview.Rehearsed
import Workflow.Proofs.Dag.Least
import Workflow.Proofs.Dag.Loads
import Workflow.Proofs.Run.Report
import Workflow.Proofs.Dag.Levels
import Workflow.Proofs.Run.Standing
import Workflow.Proofs.Run.Turns
import Workflow.Proofs.Run.Pacing
import Workflow.Proofs.Run.Termination
import Workflow.Proofs.Progress.Advance
import Workflow.Proofs.Results.Artifacts
import Workflow.Proofs.Results.Operators
import Workflow.Proofs.Dag.Attachment
import Workflow.Proofs.Text.Decoding
import Workflow.Proofs.Binary64
import Workflow.Proofs.Results.Contents
import Workflow.Proofs.Job.Exchanges
import Workflow.Proofs.Storage.Absence
import Workflow.Proofs.Results.Refusals
import Workflow.Proofs.Storage.Containment
import Workflow.Proofs.Job.Names
import Workflow.Proofs.Run.Naming
import Workflow.Proofs.Job.Polling
import Workflow.Proofs.Dag.Reachability
import Workflow.Proofs.Dag.Countdown
