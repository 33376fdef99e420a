import Workflow.Proofs.Dag.Loads
import Workflow.Proofs.Preview.Cleanup
import Workflow.Proofs.Preview.Collection

/-!
# The faults of a preview

A malformed workflow is found out before anything is done, and a well-formed one whose operators are
kept under their own identifiers is never blamed: its preview fails only if it is interrupted or if
an artifact cannot be read.
-/

namespace Workflow

namespace PreviewService

variable {ω : Type} {service : PreviewService ω} {dag : Dag} {fresh : Nat → Uuid} {id : Uuid}
  {canceledAt : Option Nat} {world : ω} {ended : RunEnd ω PreviewResponse}

theorem operatorsKeyed_prepare (service : PreviewService ω) (keyed : dag.OperatorsKeyed) :
    (service.prepare dag).OperatorsKeyed := by
  unfold prepare
  split
  · exact keyed.withoutLoads
  · exact keyed

private theorem exists_of_mem_specs
    (ended_eq : ended = service.preview dag fresh id canceledAt world) {spec : JobSpec}
    (member : spec ∈ ended.specs) :
    ∃ operator ∈ (service.prepare dag).operators.values,
      spec.task = operator.task.toJson.canonical := by
  obtain ⟨call, call_mem, subject⟩ := RunEnd.mem_specs.1 member
  cases order_eq : (service.prepare dag).executionOrder with
  | error defect =>
      rw [ended_eq, preview_of_error order_eq] at call_mem
      simp at call_mem
  | ok order =>
      rw [ended_eq, (ends_preview order_eq rfl rfl).calls_eq] at call_mem
      obtain ⟨operator, found, build_eq⟩ := Run.build_eq_of_launch order_eq call_mem subject
      have located := (JobSpec.build_locates service.settings _ id operator).of_eq_ok build_eq
      exact ⟨operator, Table.mem_values_iff.2 ⟨_, found⟩, located.2.1⟩

/-- The preview of a well-formed workflow ends with an answer, is interrupted, or cannot read some
artifact, unless no limit is reached as long as it is watched. -/
theorem conclusion_of_accepted (keyed : dag.OperatorsKeyed) {order : List Uuid}
    (accepted : (service.prepare dag).executionOrder = .ok order) :
    match (service.preview dag fresh id canceledAt world).conclusion with
    | .result _ => True
    | .fault fault => fault.IsInterruption ∨ fault.IsUnreadable
    | .unfinished => (service.settings.limits canceledAt).Allows service.horizon := by
  have covers : (RunPaths.generate fresh (service.prepare dag)).Covers (service.prepare dag) :=
    RunPaths.covers_generate (service.operatorsKeyed_prepare keyed)
  have ends : service.Ends (service.prepare dag) _ _
      (service.preview dag fresh id canceledAt world) := ends_preview accepted rfl rfl
  have outcome := Run.execute_outcome accepted canceledAt world
    (rfl : (service.prepare dag).execute service.settings order
      (.generate fresh (service.prepare dag)) id canceledAt world = _)
  generalize service.preview dag fresh id canceledAt world = ended at ends ⊢
  cases ends with
  | response answered =>
      rw [answered]
      trivial
  | unreadable finished told unreadable partly => exact .inr unreadable
  | stopped stopped =>
      rw [stopped] at outcome
      rcases outcome with interruption | ⟨_, uncovered⟩
      · exact .inl interruption
      · exact absurd covers uncovered
  | unwatched unwatched =>
      rw [unwatched] at outcome
      exact outcome

/-- User errors and system errors are never confused.  A preview and a plan blame a workflow for
exactly what keeps it from having an order of execution, and then the world is left alone, so that
no call to the backend or to the store has been made.  The preview of any other workflow ends with
an answer unless it is interrupted, an artifact cannot be read, or no limit is reached as long as it
is watched.  Only operators that send no data to a service are launched if the others are to be left
out. -/
theorem preview_faults (keyed : dag.OperatorsKeyed)
    (ended_eq : ended = service.preview dag fresh id canceledAt world) :
    (∀ defect,
      (ended.conclusion = .fault (.validation defect) ↔
        (service.prepare dag).executionOrder = .error defect) ∧
      (dag.plan service.config.skipLoads = .error defect ↔
        (service.prepare dag).executionOrder = .error defect) ∧
      ((service.prepare dag).executionOrder = .error defect →
        ended = ⟨.fault (.validation defect), 0, [], world⟩)) ∧
    (∀ order, (service.prepare dag).executionOrder = .ok order →
      match ended.conclusion with
      | .result _ => True
      | .fault fault => fault.IsInterruption ∨ fault.IsUnreadable
      | .unfinished => (service.settings.limits canceledAt).Allows service.horizon) ∧
    (service.config.skipLoads = true → ∀ spec ∈ ended.specs,
      (∃ operator ∈ dag.operators.values, operator.task.isLoad = false ∧
        spec.task = operator.task.toJson.canonical) ∧
      ∀ connector, Task.ofJson? spec.task ≠ some (.load connector)) := by
  have within (order : List Uuid) (accepted : (service.prepare dag).executionOrder = .ok order) :
      match ended.conclusion with
      | .result _ => True
      | .fault fault => fault.IsInterruption ∨ fault.IsUnreadable
      | .unfinished => (service.settings.limits canceledAt).Allows service.horizon := by
    subst ended_eq
    exact conclusion_of_accepted keyed accepted
  refine ⟨fun defect => ⟨?blames, Dag.plan_eq_error_iff, fun rejected => ?idle⟩, within,
    fun skips spec member => ?launched⟩
  case blames =>
    cases order_eq : (service.prepare dag).executionOrder with
    | error other => simp [ended_eq, preview_of_error order_eq]
    | ok order =>
        simp only [reduceCtorEq, iff_false]
        intro blamed
        have impossible := within order order_eq
        rw [blamed] at impossible
        rcases impossible with interruption | unreadable
        · exact interruption
        · exact unreadable
  case idle => rw [ended_eq, preview_of_error rejected]
  case launched =>
    obtain ⟨operator, member, task_eq⟩ := exists_of_mem_specs ended_eq member
    rw [prepare, if_pos skips] at member
    obtain ⟨key, found⟩ := Table.mem_values_iff.1 member
    obtain ⟨found, unloaded⟩ := Dag.find?_withoutLoads.1 found
    refine ⟨⟨operator, Table.mem_values_iff.2 ⟨key, found⟩, unloaded, task_eq⟩, ?_⟩
    intro connector read
    rw [task_eq] at read
    have loads := Task.isLoad_iff_name.2 (Task.name_of_ofJson?_canonical_toJson read).symm
    simp [unloaded] at loads

/-- The preview of two operators that wait for each other says so and does nothing else. -/
theorem preview_faults_ring :
    ∃ ended, ended = littering.preview .ring .ofNat .nil none (0, .empty) ∧
      Dag.ring.OperatorsKeyed ∧ Dag.ring.plan true = .error .unexecutableOperator ∧
      ended.conclusion = .fault (.validation .unexecutableOperator) ∧ ended.calls = [] := by
  have keyed : Dag.ring.OperatorsKeyed := by decide
  have rejected : (littering.prepare .ring).executionOrder = .error .unexecutableOperator := by
    decide
  obtain ⟨blames, plans, idle⟩ :=
    (preview_faults keyed (rfl : littering.preview .ring .ofNat .nil none (0, .empty) = _)).1
      .unexecutableOperator
  refine ⟨_, rfl, keyed, plans.2 rejected, blames.2 rejected, ?_⟩
  rw [idle rejected]

end PreviewService
end Workflow
