import Workflow.Operator
import Workflow.Status

/-!
# Jobs

A job runs one operator on a backend.  Its specification says what to do, how the services around it
are reached, and under which paths its inputs and outputs are kept.  Its name is made of the name of
the operator, the operator and the run, so that no two operators or runs share a name.
-/

namespace Workflow

/-- Where blobs are kept. -/
inductive StorageConfig
  /-- As files in a directory. -/
  | file (directory : String)
  deriving DecidableEq

namespace StorageConfig

/-- A storage configuration in JSON. -/
def toJson : StorageConfig → Json
  | file directory => .obj [(Json.tagName, .str "file"), ("directory", .str directory)]

/-- Read a storage configuration from JSON. -/
def ofJson? (value : Json) : Option StorageConfig := do
  let (tag, rest) ← Json.tagged? value
  let record ← Json.record? ["directory"] rest
  if tag = "file" then (record.field? "directory" Json.string?).map file else none

end StorageConfig

/-- Where credentials are kept. -/
inductive SecretStoreConfig
  /-- As encrypted files in a directory. -/
  | file (directory : String)
  deriving DecidableEq

namespace SecretStoreConfig

/-- A secret store configuration in JSON. -/
def toJson : SecretStoreConfig → Json
  | file directory => .obj [(Json.tagName, .str "file"), ("directory", .str directory)]

/-- Read a secret store configuration from JSON. -/
def ofJson? (value : Json) : Option SecretStoreConfig := do
  let (tag, rest) ← Json.tagged? value
  let record ← Json.record? ["directory"] rest
  if tag = "file" then (record.field? "directory" Json.string?).map file else none

end SecretStoreConfig

/-- How jobs reach the backend that runs them. -/
inductive BackendConfig
  /-- As child processes on one machine. -/
  | process (binaryDirectory operatorDirectory : String)
  deriving DecidableEq

namespace BackendConfig

/-- A backend configuration in JSON. -/
def toJson : BackendConfig → Json
  | process binaryDirectory operatorDirectory =>
      .obj
        [(Json.tagName, .str "process"), ("binary_dir", .str binaryDirectory),
          ("operator_storage_dir", .str operatorDirectory)]

/-- Read a backend configuration from JSON. -/
def ofJson? (value : Json) : Option BackendConfig := do
  let (tag, rest) ← Json.tagged? value
  let record ← Json.record? ["binary_dir", "operator_storage_dir"] rest
  let binaryDirectory ← record.field? "binary_dir" Json.string?
  let operatorDirectory ← record.field? "operator_storage_dir" Json.string?
  if tag = "process" then some (process binaryDirectory operatorDirectory) else none

end BackendConfig

/-- Everything that a backend needs to run one operator. -/
structure JobSpec where
  /-- The name of the job. -/
  name : String
  /-- The operator that it runs. -/
  operator : Uuid
  /-- The name of that operator. -/
  operatorName : String
  /-- What the operator does, which only the backend interprets. -/
  task : Json
  /-- Where blobs are kept. -/
  storage : StorageConfig
  /-- Where credentials are kept. -/
  secrets : SecretStoreConfig
  /-- How the backend is reached. -/
  backend : BackendConfig
  /-- Where the job writes its error and its logs. -/
  metadataPath : String
  /-- Where the contents of the inputs are. -/
  inputContentPaths : List String
  /-- Where the schemas of the inputs are. -/
  inputMetadataPaths : List String
  /-- Where the contents of the outputs go. -/
  outputContentPaths : List String
  /-- Where the schemas of the outputs go. -/
  outputMetadataPaths : List String
  deriving DecidableEq

namespace JobSpec

/-- The fields of a specification in order. -/
def fieldNames : List String :=
  ["job_name", "operator_id", "operator_name", "task", "storage_config", "secret_store_config",
    "job_manager_config", "metadata_path", "input_content_paths", "input_metadata_paths",
    "output_content_paths", "output_metadata_paths"]

/-- A specification in JSON. -/
def toJson (spec : JobSpec) : Json :=
  .obj
    [("job_name", .str spec.name), ("operator_id", spec.operator.toJson),
      ("operator_name", .str spec.operatorName), ("task", spec.task),
      ("storage_config", spec.storage.toJson), ("secret_store_config", spec.secrets.toJson),
      ("job_manager_config", spec.backend.toJson), ("metadata_path", .str spec.metadataPath),
      ("input_content_paths", Json.ofList Json.str spec.inputContentPaths),
      ("input_metadata_paths", Json.ofList Json.str spec.inputMetadataPaths),
      ("output_content_paths", Json.ofList Json.str spec.outputContentPaths),
      ("output_metadata_paths", Json.ofList Json.str spec.outputMetadataPaths)]

/-- Read a specification from JSON. -/
def ofJson? (value : Json) : Option JobSpec := do
  let record ← Json.record? fieldNames value
  let name ← record.field? "job_name" Json.string?
  let operator ← record.field? "operator_id" Uuid.ofJson?
  let operatorName ← record.field? "operator_name" Json.string?
  let task ← record.field? "task" Json.free?
  let storage ← record.field? "storage_config" StorageConfig.ofJson?
  let secrets ← record.field? "secret_store_config" SecretStoreConfig.ofJson?
  let backend ← record.field? "job_manager_config" BackendConfig.ofJson?
  let metadataPath ← record.field? "metadata_path" Json.string?
  let inputContentPaths ← record.field? "input_content_paths" (Json.list? Json.string?)
  let inputMetadataPaths ← record.field? "input_metadata_paths" (Json.list? Json.string?)
  let outputContentPaths ← record.field? "output_content_paths" (Json.list? Json.string?)
  let outputMetadataPaths ← record.field? "output_metadata_paths" (Json.list? Json.string?)
  some
    { name, operator, operatorName, task, storage, secrets, backend, metadataPath,
      inputContentPaths, inputMetadataPaths, outputContentPaths, outputMetadataPaths }

end JobSpec

/-- Why a backend does not do what it is asked to. -/
inductive JobError
  /-- The backend cannot be used as it is configured. -/
  | invalidConfig (message : String)
  /-- There is no job of this name. -/
  | jobNotExist (job : String)
  /-- There is a job of this name already. -/
  | jobAlreadyExists (job : String)
  /-- The backend does not want to run the job. -/
  | launchRejected (job : String) (message : String)
  /-- The run was canceled before the backend answered. -/
  | canceled (job : String)
  /-- Anything else. -/
  | backend (message : String)
  deriving DecidableEq

/-- What is said about a refusal of a backend. -/
def JobError.message : JobError → String
  | invalidConfig message => "job manager config is not valid: " ++ message
  | jobNotExist job => "job '" ++ job ++ "' does not exist"
  | jobAlreadyExists job => "job '" ++ job ++ "' already exists"
  | launchRejected job message => "job '" ++ job ++ "' was rejected: " ++ message
  | canceled job => "job '" ++ job ++ "' call was canceled"
  | backend message => "job backend error: " ++ message

/-- One character of an operator's name in the name of its job: letters and digits of ASCII in lower
case, and a dash for everything else. -/
def jobNameChar (c : Char) : Char :=
  if c.isAlphanum then c.toLower else '-'

/-- The name of an operator as it begins the name of its job, without dashes at the ends. -/
def jobNameStem (name : String) : String :=
  String.ofList ((((name.toList.map jobNameChar).dropWhile (· == '-')).reverse.dropWhile
    (· == '-')).reverse)

/-- The name of the job of an operator in a run. -/
def jobName (operator : Operator) (run : Uuid) : String :=
  jobNameStem operator.name ++ "-" ++ operator.id.toString ++ "-" ++ run.toString

end Workflow
