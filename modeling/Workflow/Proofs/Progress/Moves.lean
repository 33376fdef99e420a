import Workflow.Progress
import Workflow.Proofs.Dag.Links

/-!
# Moves of a run

A move is a launch that is noted or a status that is reported.  A move that is not ignored does one
of three things, which `Progress.Effect` lists; look-up lemmas say what becomes of every operator.
-/

namespace Workflow

/-- What can be told to the progress of a run. -/
inductive Move
  /-- The job of an operator was launched. -/
  | dispatch (operator : Uuid)
  /-- The job of an operator has a status. -/
  | record (operator : Uuid) (status : Status)

/-- The operator that a move is about. -/
def Move.operator : Move → Uuid
  | .dispatch operator | .record operator _ => operator

namespace OperatorState

/-- Whether every producer has succeeded. -/
def isReleased : OperatorState → Bool
  | ready | dispatched | succeeded | failed => true
  | notReady | skipped => false

end OperatorState

namespace Progress

/-- Make one move; returns the operators that it skips. -/
def move (progress : Progress) : Move → List Uuid × Progress
  | .dispatch operator => ([], progress.markDispatched operator)
  | .record operator status => progress.record operator status

/-- The progress after a sequence of moves. -/
def after (progress : Progress) (moves : List Move) : Progress :=
  moves.foldl (fun progress move => (progress.move move).2) progress

/-- What each of a sequence of moves returns. -/
def returns (progress : Progress) : List Move → List (List Uuid)
  | [] => []
  | move :: moves => (progress.move move).1 :: (progress.move move).2.returns moves

@[simp]
theorem after_nil (progress : Progress) : progress.after [] = progress := rfl

theorem after_concat (progress : Progress) (moves : List Move) (move : Move) :
    progress.after (moves ++ [move]) = ((progress.after moves).move move).2 := by
  simp [after]

theorem returns_concat (progress : Progress) (moves : List Move) (move : Move) :
    progress.returns (moves ++ [move]) =
      progress.returns moves ++ [((progress.after moves).move move).1] := by
  induction moves generalizing progress with
  | nil => rfl
  | cons first moves ih => simpa [returns, after] using ih (progress.move first).2

/-! ### Look-up -/

@[simp]
theorem graph_setState (progress : Progress) (operator : Uuid) (state : OperatorState) :
    (progress.setState operator state).graph = progress.graph := rfl

theorem state?_setState (progress : Progress) (operator other : Uuid) (state : OperatorState) :
    (progress.setState operator state).state? other =
      if other = operator then some state else progress.state? other :=
  Table.find?_insert progress.states operator other state

theorem isSatisfied_iff {progress : Progress} {operator : Uuid} :
    progress.isSatisfied operator = true ↔
      ∀ producer, progress.graph.Link producer operator →
        progress.state? producer = some .succeeded := by
  simp [isSatisfied, Graph.Link]

theorem state?_promote (progress : Progress) (operator : Uuid) :
    progress.promote.state? operator =
      (progress.state? operator).map fun state =>
        if state = .notReady ∧ progress.isSatisfied operator then .ready else state :=
  Table.find?_map _ progress.states operator

theorem isSkippedBy_iff {progress : Progress} {failed operator : Uuid} :
    progress.isSkippedBy failed operator = true ↔
      operator ∈ progress.graph.descendantsOf failed ∧
        progress.state? operator = some .notReady := by
  simp [isSkippedBy]

theorem mem_skipDescendants {progress : Progress} {failed operator : Uuid} :
    operator ∈ (progress.skipDescendants failed).1 ↔
      operator ∈ progress.graph.descendantsOf failed ∧
        progress.state? operator = some .notReady := by
  simp [skipDescendants]

theorem state?_skipDescendants (progress : Progress) (failed operator : Uuid) :
    (progress.skipDescendants failed).2.state? operator =
      if operator ∈ progress.graph.descendantsOf failed ∧
        progress.state? operator = some .notReady then some .skipped
      else progress.state? operator := by
  have mapped : (progress.skipDescendants failed).2.state? operator =
      (progress.state? operator).map fun state =>
        if progress.isSkippedBy failed operator then .skipped else state :=
    Table.find?_map _ progress.states operator
  simp only [mapped, isSkippedBy_iff]
  split
  · rename_i skipped
    simp [skipped.2]
  · simp

/-! ### Effects -/

/-- The progress after the job of an operator has succeeded. -/
def succeed (progress : Progress) (operator : Uuid) : Progress :=
  (progress.setState operator .succeeded).promote

/-- What a failure of an operator skips, and the progress after it. -/
def fail (progress : Progress) (operator : Uuid) : List Uuid × Progress :=
  (progress.setState operator .failed).skipDescendants operator

@[simp]
theorem graph_succeed (progress : Progress) (operator : Uuid) :
    (progress.succeed operator).graph = progress.graph := rfl

@[simp]
theorem graph_fail (progress : Progress) (operator : Uuid) :
    (progress.fail operator).2.graph = progress.graph := rfl

/-- A success changes the operator itself and releases those that now await nothing. -/
theorem state?_succeed (progress : Progress) (operator other : Uuid) :
    (progress.succeed operator).state? other =
      if other = operator then some .succeeded
      else if progress.state? other = some .notReady ∧
        (progress.setState operator .succeeded).isSatisfied other then some .ready
      else progress.state? other := by
  rw [succeed, state?_promote, state?_setState]
  by_cases same : other = operator
  · simp [same]
  · cases progress.state? other with
    | none => simp [same]
    | some state => by_cases waiting : state = .notReady <;> simp [same, waiting, apply_ite some]

/-- A failure changes the operator itself and skips the descendants that are not ready. -/
theorem state?_fail (progress : Progress) (operator other : Uuid) :
    (progress.fail operator).2.state? other =
      if other = operator then some .failed
      else if other ∈ progress.graph.descendantsOf operator ∧
        progress.state? other = some .notReady then some .skipped
      else progress.state? other := by
  simp only [fail, state?_skipDescendants, state?_setState, graph_setState]
  by_cases same : other = operator <;> simp [same]

theorem mem_fail {progress : Progress} {operator skipped : Uuid} :
    skipped ∈ (progress.fail operator).1 ↔
      skipped ≠ operator ∧ skipped ∈ progress.graph.descendantsOf operator ∧
        progress.state? skipped = some .notReady := by
  simp only [fail, mem_skipDescendants, state?_setState, graph_setState]
  by_cases same : skipped = operator <;> simp [same]

theorem skipped_fail_iff {progress : Progress} {operator other : Uuid}
    (active : progress.state? operator = some .ready ∨
      progress.state? operator = some .dispatched) :
    (progress.fail operator).2.state? other = some .skipped ↔
      progress.state? other = some .skipped ∨ other ∈ (progress.fail operator).1 := by
  rw [mem_fail, state?_fail]
  split_ifs with same waiting
  · subst same
    rcases active with ready | dispatched <;> simp_all
  · simp [same, waiting]
  · simp_all

/-- What a move can do. -/
inductive Effect (progress : Progress) : Move → List Uuid × Progress → Prop
  /-- Nothing happens. -/
  | ignored (move : Move) : Effect progress move ([], progress)
  /-- A ready operator is dispatched. -/
  | dispatched {operator : Uuid} (ready : progress.state? operator = some .ready) :
      Effect progress (.dispatch operator) ([], progress.setState operator .dispatched)
  /-- A dispatched operator succeeds. -/
  | succeeded {operator : Uuid} (dispatched : progress.state? operator = some .dispatched) :
      Effect progress (.record operator .succeeded) ([], progress.succeed operator)
  /-- A ready or dispatched operator fails. -/
  | failed {operator : Uuid} {status : Status}
      (active : progress.state? operator = some .ready ∨
        progress.state? operator = some .dispatched)
      (unsuccessful : status = .failed ∨ status = .canceled) :
      Effect progress (.record operator status) (progress.fail operator)

theorem effect_markDispatched (progress : Progress) (operator : Uuid) :
    Effect progress (.dispatch operator) ([], progress.markDispatched operator) := by
  unfold markDispatched
  split
  · rename_i ready
    exact .dispatched ready
  · exact .ignored _

theorem effect_record (progress : Progress) (operator : Uuid) (status : Status) :
    Effect progress (.record operator status) (progress.record operator status) := by
  unfold record
  split
  · rename_i dispatched
    exact .succeeded dispatched
  · rename_i ready
    exact .failed (.inl ready) (.inl rfl)
  · rename_i ready
    exact .failed (.inl ready) (.inr rfl)
  · rename_i dispatched
    exact .failed (.inr dispatched) (.inl rfl)
  · rename_i dispatched
    exact .failed (.inr dispatched) (.inr rfl)
  · exact .ignored _

/-- Every move has one of the effects. -/
theorem effect_move (progress : Progress) (move : Move) :
    Effect progress move (progress.move move) := by
  cases move with
  | dispatch operator => exact progress.effect_markDispatched operator
  | record operator status => exact progress.effect_record operator status

/-- A move leaves the other operators alone, except that it makes ready or skips some of those that
are not ready. -/
theorem state?_move_of_ne (progress : Progress) {move : Move} {other : Uuid}
    (other_ne : other ≠ move.operator) :
    (progress.move move).2.state? other = progress.state? other ∨
      progress.state? other = some .notReady ∧
        ((progress.move move).2.state? other = some .ready ∨
          (progress.move move).2.state? other = some .skipped) := by
  have effect := progress.effect_move move
  generalize progress.move move = result at effect ⊢
  cases effect with
  | ignored => exact .inl rfl
  | @dispatched operator ready =>
      have apart : other ≠ operator := other_ne
      rw [state?_setState, if_neg apart]
      exact .inl rfl
  | @succeeded operator dispatched =>
      have apart : other ≠ operator := other_ne
      rw [state?_succeed, if_neg apart]
      split_ifs with released
      · exact .inr ⟨released.1, .inl rfl⟩
      · exact .inl rfl
  | @failed operator status active _ =>
      have apart : other ≠ operator := other_ne
      rw [state?_fail, if_neg apart]
      split_ifs with skipped
      · exact .inr ⟨skipped.2, .inr rfl⟩
      · exact .inl rfl

/-- What is said alike of operators that are not ready, ready and skipped is kept by a move of
another operator. -/
theorem holds_move_of_ne {motive : Option OperatorState → Prop} {progress : Progress} {move : Move}
    {other : Uuid} (released : motive (some .notReady) → motive (some .ready))
    (skipped : motive (some .notReady) → motive (some .skipped)) (other_ne : other ≠ move.operator)
    (before : motive (progress.state? other)) : motive ((progress.move move).2.state? other) := by
  rcases progress.state?_move_of_ne other_ne with unchanged | ⟨waiting, after | after⟩
  · rwa [unchanged]
  · rw [after]
    exact released (waiting ▸ before)
  · rw [after]
    exact skipped (waiting ▸ before)

/-- A move keeps the state of another operator that is not waiting for its producers. -/
theorem state?_move_of_settled {progress : Progress} {move : Move} {other : Uuid}
    {state : OperatorState} (other_ne : other ≠ move.operator)
    (found : progress.state? other = some state) (settled : state ≠ .notReady) :
    (progress.move move).2.state? other = some state := by
  rcases progress.state?_move_of_ne other_ne with unchanged | ⟨notReady, _⟩
  · rw [unchanged, found]
  · rw [found] at notReady
    exact absurd (Option.some.inj notReady) settled

theorem state?_markDispatched_self {progress : Progress} {operator : Uuid}
    (ready : progress.state? operator = some .ready) :
    (progress.markDispatched operator).state? operator = some .dispatched := by
  simp only [markDispatched, ready]
  rw [state?_setState, if_pos rfl]

theorem record_of_not_terminal {progress : Progress} {operator : Uuid} {status : Status}
    (open_status : status.isTerminal = false) :
    progress.record operator status = ([], progress) := by
  cases status with
  | pending | running =>
      unfold record
      split <;> first | rfl | contradiction
  | succeeded | failed | canceled => simp [Status.isTerminal] at open_status

theorem record_eq_fail {progress : Progress} {operator : Uuid} {status : Status}
    (active : progress.state? operator = some .ready ∨
      progress.state? operator = some .dispatched)
    (unsuccessful : status = .failed ∨ status = .canceled) :
    progress.record operator status = progress.fail operator := by
  rcases active with ready | dispatched <;> rcases unsuccessful with rfl | rfl <;>
    simp [record, fail, *]

theorem state?_record_self {progress : Progress} {operator : Uuid} {status : Status}
    (active : progress.state? operator = some .ready ∨
      progress.state? operator = some .dispatched)
    (unsuccessful : status = .failed ∨ status = .canceled) :
    (progress.record operator status).2.state? operator = some .failed := by
  rw [record_eq_fail active unsuccessful, state?_fail, if_pos rfl]

theorem state?_record_succeeded_self {progress : Progress} {operator : Uuid}
    (dispatched : progress.state? operator = some .dispatched) :
    (progress.record operator .succeeded).2.state? operator = some .succeeded := by
  have record_eq : progress.record operator .succeeded = ([], progress.succeed operator) := by
    simp only [record, dispatched]
    rfl
  rw [record_eq, state?_succeed, if_pos rfl]

end Progress
end Workflow
