import Workflow.Dag.Order
import Workflow.Json.Printer

/-!
# Execution plans

A plan lists the operators of a well-formed workflow in the order in which they run, numbered from
one.
-/

namespace Workflow

/-- One line of a plan. -/
structure PlannedOperator where
  /-- Its place, from one. -/
  position : Nat
  /-- The operator. -/
  id : Uuid
  /-- The name of the operator. -/
  name : String
  /-- The name of what it does. -/
  kind : String
  deriving DecidableEq

namespace PlannedOperator

/-- A line of a plan in JSON. -/
def toJson (planned : PlannedOperator) : Json :=
  .obj
    [("position", .ofNat planned.position), ("id", planned.id.toJson),
      ("name", .str planned.name), ("kind", .str planned.kind)]

/-- A line of a plan for people, with the position aligned to the right. -/
def line (planned : PlannedOperator) : String :=
  let position := Text.decimalText planned.position
  String.ofList (List.replicate (4 - position.length) ' ' ++ position) ++ ". " ++ planned.name ++
    " (" ++ planned.kind ++ ") " ++ planned.id.toString

end PlannedOperator

/-- The plan of a workflow, without the operators that send data to a service if it is a preview. -/
def Dag.plan (dag : Dag) (preview : Bool) : Except Defect (List PlannedOperator) := do
  let dag := if preview then dag.withoutLoads else dag
  let order ← dag.executionOrder
  return (order.filterMap dag.operators.find?).mapIdx fun index operator =>
    ⟨index + 1, operator.id, operator.name, operator.task.name⟩

end Workflow
