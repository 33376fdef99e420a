import Workflow.Artifact

/-!
# Operators

An operator reads some artifacts and writes others.  What it does is its task: it runs code, or it
moves data from or to an outside service.
-/

namespace Workflow

/-- How an outside service is reached. -/
structure Connector where
  /-- The name of the service. -/
  service : String
  /-- The integration that holds its credentials. -/
  integration : Uuid
  /-- Parameters that only the service understands. -/
  parameters : Json
  deriving DecidableEq

namespace Connector

/-- A connector in JSON. -/
def toJson (connector : Connector) : Json :=
  .obj
    [("service", .str connector.service), ("integration_id", connector.integration.toJson),
      ("parameters", connector.parameters)]

/-- Read a connector from JSON. -/
def ofJson? (value : Json) : Option Connector := do
  let record ← Json.record? ["service", "integration_id", "parameters"] value
  let service ← record.field? "service" Json.string?
  let integration ← record.field? "integration_id" Uuid.ofJson?
  let parameters ← record.fieldOr? "parameters" .null Json.free?
  some ⟨service, integration, parameters⟩

end Connector

/-- How serious it is when a check does not pass. -/
inductive CheckLevel
  /-- Worth a look. -/
  | warning
  /-- A fault of the data. -/
  | error
  deriving DecidableEq

namespace CheckLevel

/-- Every level with its name. -/
def names : List (String × CheckLevel) :=
  [("warning", .warning), ("error", .error)]

/-- The name of a level. -/
def name : CheckLevel → String
  | warning => "warning"
  | error => "error"

/-- A level in JSON. -/
def toJson (level : CheckLevel) : Json :=
  .str level.name

/-- Read a level from JSON. -/
def ofJson? : Json → Option CheckLevel :=
  Json.name? names

end CheckLevel

/-- Code that an operator runs. -/
structure Code where
  /-- Where the code is stored. -/
  storagePath : String
  /-- Where it begins. -/
  entryPoint : String
  deriving DecidableEq

namespace Code

/-- The fields of code in JSON. -/
def fields (code : Code) : List (String × Json) :=
  [("storage_path", .str code.storagePath), ("entry_point", .str code.entryPoint)]

/-- Read code from the fields of a record. -/
def ofRecord? (record : Json.Record) : Option Code := do
  let storagePath ← record.field? "storage_path" Json.string?
  let entryPoint ← record.field? "entry_point" Json.string?
  some ⟨storagePath, entryPoint⟩

end Code

/-- What an operator does. -/
inductive Task
  /-- Run code that writes tables or parameters. -/
  | function (code : Code)
  /-- Run code that writes one number. -/
  | metric (code : Code)
  /-- Run code that writes whether a check passed. -/
  | check (code : Code) (level : CheckLevel)
  /-- Fetch data from a service. -/
  | extract (connector : Connector)
  /-- Send data to a service. -/
  | load (connector : Connector)
  deriving DecidableEq

namespace Task

/-- The name of what is done. -/
def name : Task → String
  | function _ => "function"
  | metric _ => "metric"
  | check _ _ => "check"
  | extract _ => "extract"
  | load _ => "load"

/-- Whether data is sent to a service. -/
def isLoad : Task → Bool
  | load _ => true
  | _ => false

/-- The fields of a task beside its tag. -/
def fields : Task → List (String × Json)
  | function code | metric code => code.fields
  | check code level => code.fields ++ [("level", level.toJson)]
  | extract connector | load connector => [("connector", connector.toJson)]

/-- A task in JSON. -/
def toJson (task : Task) : Json :=
  .obj ((Json.tagName, .str task.name) :: task.fields)

/-- Read the fields of code alone. -/
def codeOf? (value : Json) : Option Code :=
  Json.record? ["storage_path", "entry_point"] value >>= Code.ofRecord?

/-- Read the fields of a check. -/
def checkOf? (value : Json) : Option Task := do
  let record ← Json.record? ["storage_path", "entry_point", "level"] value
  let code ← Code.ofRecord? record
  let level ← record.field? "level" (Json.innerName? CheckLevel.names)
  some (check code level)

/-- Read the only field of a transfer. -/
def connectorOf? (value : Json) : Option Connector := do
  let record ← Json.record? ["connector"] value
  record.field? "connector" Connector.ofJson?

/-- Read a task from JSON. -/
def ofJson? (value : Json) : Option Task := do
  let (tag, rest) ← Json.tagged? value
  match tag with
  | "function" => (codeOf? rest).map function
  | "metric" => (codeOf? rest).map metric
  | "check" => checkOf? rest
  | "extract" => (connectorOf? rest).map extract
  | "load" => (connectorOf? rest).map load
  | _ => none

end Task

/-- A step of a workflow. -/
structure Operator where
  /-- The identifier that it carries. -/
  id : Uuid
  /-- A name for people. -/
  name : String
  /-- A text for people. -/
  description : String
  /-- What it does. -/
  task : Task
  /-- The artifacts that it reads, in order. -/
  inputs : List Uuid
  /-- The artifacts that it writes, in order. -/
  outputs : List Uuid
  deriving DecidableEq

namespace Operator

/-- An operator in JSON. -/
def toJson (operator : Operator) : Json :=
  .obj
    [("id", operator.id.toJson), ("name", .str operator.name),
      ("description", .str operator.description), ("spec", operator.task.toJson),
      ("inputs", Json.ofList Uuid.toJson operator.inputs),
      ("outputs", Json.ofList Uuid.toJson operator.outputs)]

/-- Read an operator from JSON. -/
def ofJson? (value : Json) : Option Operator := do
  let record ← Json.record? ["id", "name", "description", "spec", "inputs", "outputs"] value
  let id ← record.field? "id" Uuid.ofJson?
  let name ← record.field? "name" Json.string?
  let description ← record.fieldOr? "description" "" Json.string?
  let task ← record.field? "spec" Task.ofJson?
  let inputs ← record.fieldOr? "inputs" [] (Json.list? Uuid.ofJson?)
  let outputs ← record.fieldOr? "outputs" [] (Json.list? Uuid.ofJson?)
  some ⟨id, name, description, task, inputs, outputs⟩

end Operator
end Workflow
