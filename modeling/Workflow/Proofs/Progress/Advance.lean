import Mathlib.Algebra.Order.BigOperators.Group.List
import Workflow.Proofs.Progress.Consistency

/-!
# Operators only move forward

Whatever a run is told, and whatever its graph looks like, an operator stays in its state or takes
one of the six steps of `OperatorState.Step`.  A move counts if its operator is in the right state,
and every other move is ignored.  The rank of a state says how many moves its operator has taken up,
so a run takes up at most two for each operator.
-/

namespace Workflow

namespace OperatorState

/-- The steps from one state to the next. -/
inductive Step : OperatorState → OperatorState → Prop
  /-- Every producer has succeeded. -/
  | release : Step .notReady .ready
  /-- An operator that it depends on has failed. -/
  | skip : Step .notReady .skipped
  /-- The job is launched. -/
  | dispatch : Step .ready .dispatched
  /-- The job cannot be launched. -/
  | refuse : Step .ready .failed
  /-- The job succeeds. -/
  | succeed : Step .dispatched .succeeded
  /-- The job fails or is canceled. -/
  | fail : Step .dispatched .failed

/-- How many moves may have brought an operator into the state. -/
def rank : OperatorState → Nat
  | notReady | ready => 0
  | dispatched => 1
  | succeeded | failed | skipped => 2

theorem rank_le (state : OperatorState) : state.rank ≤ 2 := by
  cases state <;> decide

variable {before after : OperatorState}

private theorem Step.rank_le_rank (step : Step before after) : before.rank ≤ after.rank := by
  cases step <;> decide

theorem Step.not_terminal (step : Step before after) : before.isTerminal = false := by
  cases step <;> rfl

end OperatorState

namespace Progress

open OperatorState (Step)

variable {progress : Progress} {move : Move} {operator : Uuid} {status : Status}

/-- The operator of a move is in a state in which the move counts. -/
def Admits (progress : Progress) : Move → Prop
  | .dispatch operator => progress.state? operator = some .ready
  | .record operator .succeeded => progress.state? operator = some .dispatched
  | .record operator .failed | .record operator .canceled =>
      progress.state? operator = some .ready ∨ progress.state? operator = some .dispatched
  | .record _ .pending | .record _ .running => False

/-! ### One move -/

private theorem move_of_not_admits (idle : ¬progress.Admits move) :
    progress.move move = ([], progress) := by
  have effect := progress.effect_move move
  generalize progress.move move = result at effect ⊢
  cases effect with
  | ignored => rfl
  | dispatched ready => exact absurd ready idle
  | succeeded dispatched => exact absurd dispatched idle
  | failed active unsuccessful => rcases unsuccessful with rfl | rfl <;> exact absurd active idle

private theorem skipped_fail_eq
    (active : progress.state? operator = some .ready ∨
      progress.state? operator = some .dispatched) :
    (progress.fail operator).1 = (progress.graph.descendantsOf operator).filter
      fun other => progress.state? other = some .notReady := by
  apply List.filter_congr
  intro other _
  rw [state?_setState]
  split
  · rename_i same
    subst same
    rcases active with ready | dispatched <;> simp [*]
  · exact Bool.beq_eq_decide_eq _ _

/-- An operator stays in its state or takes one step. -/
theorem step_of_move (progress : Progress) (move : Move) {before : OperatorState}
    (found : progress.state? operator = some before) :
    ∃ after, (progress.move move).2.state? operator = some after ∧
      (after = before ∨ Step before after) := by
  have effect := progress.effect_move move
  generalize progress.move move = result at effect ⊢
  cases effect with
  | ignored => exact ⟨before, found, .inl rfl⟩
  | dispatched ready =>
      simp only [state?_setState]
      split
      · rename_i same
        subst same
        obtain rfl := Option.some.inj (found.symm.trans ready)
        exact ⟨_, rfl, .inr .dispatch⟩
      · exact ⟨before, found, .inl rfl⟩
  | succeeded dispatched =>
      simp only [state?_succeed]
      split
      · rename_i same
        subst same
        obtain rfl := Option.some.inj (found.symm.trans dispatched)
        exact ⟨_, rfl, .inr .succeed⟩
      · split
        · rename_i released
          obtain rfl := Option.some.inj (found.symm.trans released.1)
          exact ⟨_, rfl, .inr .release⟩
        · exact ⟨before, found, .inl rfl⟩
  | failed active unsuccessful =>
      simp only [state?_fail]
      split
      · rename_i same
        subst same
        rcases active with ready | dispatched
        · obtain rfl := Option.some.inj (found.symm.trans ready)
          exact ⟨_, rfl, .inr .refuse⟩
        · obtain rfl := Option.some.inj (found.symm.trans dispatched)
          exact ⟨_, rfl, .inr .fail⟩
      · split
        · rename_i skipped
          obtain rfl := Option.some.inj (found.symm.trans skipped.2)
          exact ⟨_, rfl, .inr .skip⟩
        · exact ⟨before, found, .inl rfl⟩

private theorem rank_lt_of_failure
    (active : progress.state? operator = some .ready ∨
      progress.state? operator = some .dispatched)
    (unsuccessful : status = .failed ∨ status = .canceled) :
    ∃ before after, progress.state? operator = some before ∧
      (progress.record operator status).2.state? operator = some after ∧
        before.rank < after.rank := by
  have failed := state?_record_self active unsuccessful
  rcases active with ready | dispatched
  · exact ⟨_, _, ready, failed, by decide⟩
  · exact ⟨_, _, dispatched, failed, by decide⟩

/-- A move that counts takes its operator further. -/
theorem rank_lt_of_admits (admits : progress.Admits move) :
    ∃ before after, progress.state? move.operator = some before ∧
      (progress.move move).2.state? move.operator = some after ∧ before.rank < after.rank := by
  cases move with
  | dispatch operator =>
      exact ⟨_, _, admits, state?_markDispatched_self admits, by decide⟩
  | record operator status =>
      cases status with
      | pending | running => exact admits.elim
      | succeeded => exact ⟨_, _, admits, state?_record_succeeded_self admits, by decide⟩
      | failed => exact rank_lt_of_failure admits (.inl rfl)
      | canceled => exact rank_lt_of_failure admits (.inr rfl)

@[simp]
theorem keys_move (progress : Progress) (move : Move) :
    (progress.move move).2.states.keys = progress.states.keys := by
  refine Table.keys_eq_of_mem_iff fun operator => ?_
  rw [Table.mem_keys_iff, Table.mem_keys_iff]
  exact progress.known_move move operator

/-! ### Sequences of moves -/

/-- The moves of a sequence that change some state. -/
def effective (progress : Progress) : List Move → List Move
  | [] => []
  | move :: moves =>
      let next := (progress.move move).2
      if next.states = progress.states then next.effective moves else move :: next.effective moves

/-- How far an operator has come. -/
def rankOf (progress : Progress) (operator : Uuid) : Nat :=
  (progress.state? operator).elim 0 OperatorState.rank

/-- How far all operators have come. -/
def headway (progress : Progress) : Nat :=
  (progress.states.keys.map progress.rankOf).sum

private theorem headway_le (progress : Progress) : progress.headway ≤ 2 * progress.states.size := by
  have bounded : ∀ rank ∈ progress.states.keys.map progress.rankOf, rank ≤ 2 := by
    intro rank member
    obtain ⟨operator, _, rfl⟩ := List.mem_map.1 member
    rw [rankOf]
    cases progress.state? operator with
    | none => exact Nat.zero_le 2
    | some state => exact state.rank_le
  have summed := List.sum_le_card_nsmul _ 2 bounded
  rw [List.length_map, Table.keys, List.length_map, smul_eq_mul, Nat.mul_comm] at summed
  exact summed

private theorem rankOf_le_move (progress : Progress) (move : Move) (operator : Uuid) :
    progress.rankOf operator ≤ (progress.move move).2.rankOf operator := by
  cases found : progress.state? operator with
  | none => simp [rankOf, found]
  | some before =>
      obtain ⟨after, after_found, same | step⟩ := progress.step_of_move move found
      · simp [rankOf, found, after_found, same]
      · simpa [rankOf, found, after_found] using step.rank_le_rank

private theorem headway_le_move (progress : Progress) (move : Move) :
    progress.headway ≤ (progress.move move).2.headway := by
  rw [headway, headway, keys_move]
  exact List.sum_le_sum fun operator _ => progress.rankOf_le_move move operator

private theorem headway_lt_move (admits : progress.Admits move) :
    progress.headway < (progress.move move).2.headway := by
  obtain ⟨before, after, found, after_found, further⟩ := rank_lt_of_admits admits
  rw [headway, headway, keys_move]
  apply List.sum_lt_sum
  · intro operator _
    exact progress.rankOf_le_move move operator
  · refine ⟨move.operator, Table.mem_keys_iff.2 ⟨before, found⟩, ?_⟩
    simpa [rankOf, found, after_found] using further

/-- A move that counts changes some state. -/
theorem states_move_ne (admits : progress.Admits move) :
    (progress.move move).2.states ≠ progress.states := by
  obtain ⟨before, after, found, after_found, further⟩ := rank_lt_of_admits admits
  intro same
  rw [state?, same, ← state?, found] at after_found
  obtain rfl := Option.some.inj after_found
  exact Nat.lt_irrefl _ further

/-- Each move of a sequence that changes something adds to the headway. -/
theorem length_effective_le (progress : Progress) (moves : List Move) :
    (progress.effective moves).length ≤ 2 * progress.states.size - progress.headway := by
  induction moves generalizing progress with
  | nil => exact Nat.zero_le _
  | cons move moves ih =>
      have size_eq : (progress.move move).2.states.size = progress.states.size := by
        have lengths := congrArg List.length (progress.keys_move move)
        simpa [Table.keys, Table.size] using lengths
      have rest := ih (progress.move move).2
      rw [size_eq] at rest
      rw [effective]
      split
      · have onward := progress.headway_le_move move
        omega
      · rename_i changed
        have admits : progress.Admits move := by
          by_contra idle
          exact changed (by rw [move_of_not_admits idle])
        have further := headway_lt_move admits
        have bounded := (progress.move move).2.headway_le
        rw [size_eq] at bounded
        rw [List.length_cons]
        omega

/-- Whatever a run is told, its operators stay the same and each of them keeps its state or takes a
step forward, never out of a final state.  A move that does not count changes nothing, and one that
counts does.  A failure that counts fails its operator and skips the descendants that are not ready,
which it returns, and changes nothing else.  So however long it is told more, a run takes up at most
two moves for each of its operators. -/
theorem moves_advance (progress : Progress) {move : Move} {skipped : List Uuid} {next : Progress}
    (moved : progress.move move = (skipped, next)) :
    next.order = progress.order ∧ next.graph = progress.graph ∧
    next.states.keys = progress.states.keys ∧
    (∀ operator before, progress.state? operator = some before →
      ∃ after, next.state? operator = some after ∧ (after = before ∨ Step before after) ∧
        (before.isTerminal = true → after = before)) ∧
    (¬progress.Admits move → skipped = [] ∧ next = progress) ∧
    (progress.Admits move → next.states ≠ progress.states) ∧
    (∀ operator status, move = .record operator status → status = .failed ∨ status = .canceled →
      progress.Admits move →
        skipped = (progress.graph.descendantsOf operator).filter
          (fun other => progress.state? other = some .notReady) ∧
        ∀ other, next.state? other =
          if other = operator then some .failed
          else if other ∈ skipped then some .skipped else progress.state? other) ∧
    ∀ moves, (progress.effective moves).length ≤ 2 * progress.states.size := by
  obtain rfl : (progress.move move).1 = skipped := by rw [moved]
  obtain rfl : (progress.move move).2 = next := by rw [moved]
  refine ⟨progress.order_move move, progress.graph_move move, progress.keys_move move,
    fun operator before found => ?step, fun idle => by simp [move_of_not_admits idle],
    states_move_ne, ?failure, fun moves => ?bound⟩
  case step =>
    obtain ⟨after, after_found, same | step⟩ := progress.step_of_move move found
    · exact ⟨after, after_found, .inl same, fun _ => same⟩
    · refine ⟨after, after_found, .inr step, fun terminal => ?_⟩
      rw [step.not_terminal] at terminal
      exact nomatch terminal
  case failure =>
    rintro operator status rfl unsuccessful admits
    have active : progress.state? operator = some .ready ∨
        progress.state? operator = some .dispatched := by
      rcases unsuccessful with rfl | rfl <;> exact admits
    have move_eq : progress.move (.record operator status) = progress.fail operator :=
      record_eq_fail active unsuccessful
    rw [move_eq]
    refine ⟨skipped_fail_eq active, fun other => ?_⟩
    rw [state?_fail, skipped_fail_eq active]
    simp only [List.mem_filter, decide_eq_true_eq]
  case bound =>
    have bounded := progress.length_effective_le moves
    omega

/-- When an operator of a join is canceled before its launch, the two that depend on it are
skipped. -/
theorem moves_advance_join :
    ∃ progress next : Progress,
      progress = start [.ofNat 1, .ofNat 2, .ofNat 3, .ofNat 4] (.build .join) ∧
      progress.move (.record (.ofNat 1) .canceled) = ([.ofNat 3, .ofNat 4], next) ∧
      next.state? (.ofNat 1) = some .failed ∧ next.state? (.ofNat 4) = some .skipped ∧
      next.state? (.ofNat 2) = some .ready ∧
      ∀ moves, (progress.effective moves).length ≤ 8 := by
  obtain ⟨progress, progress_eq⟩ :
      ∃ progress, progress = start [.ofNat 1, .ofNat 2, .ofNat 3, .ofNat 4] (.build .join) :=
    ⟨_, rfl⟩
  have descendants_eq : progress.graph.descendantsOf (.ofNat 1) = [.ofNat 3, .ofNat 4] := by
    rw [progress_eq]
    cbv
  obtain ⟨⟨skipped, next⟩, moved⟩ :
      ∃ result, progress.move (.record (.ofNat 1) .canceled) = result := ⟨_, rfl⟩
  obtain ⟨_, _, _, _, _, _, failure, bound⟩ := progress.moves_advance moved
  have admits : progress.Admits (.record (.ofNat 1) .canceled) := .inl (by rw [progress_eq]; rfl)
  obtain ⟨skipped_eq, states⟩ := failure _ _ rfl (.inr rfl) admits
  obtain rfl : skipped = [.ofNat 3, .ofNat 4] := by
    rw [skipped_eq, descendants_eq, progress_eq]
    rfl
  have size_eq : progress.states.size = 4 := by
    rw [progress_eq]
    rfl
  rw [size_eq] at bound
  refine ⟨progress, next, progress_eq, moved, states _, states _, ?_, bound⟩
  rw [states, progress_eq]
  rfl

end Progress
end Workflow
