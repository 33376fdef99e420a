import Mathlib
import Workflow.Proofs.Dag.Keys
import Workflow.Proofs.Dag.Sorting
import Workflow.Proofs.Run.Rounds
import Workflow.Proofs.Run.Specification

/-!
# The discipline of a run

`Begins` lists the points at which the cycles of a run begin, and `ReachesPolls` leads from such a
point to the polls of its cycle.  The run goes on from every one of these points, as
`Begins.cycle_eq` and `ReachesPolls.cycle_eq` say, so what is called there is part of its calls.
`Finishes` counts the cycles with polls that are left.
-/

namespace Workflow

namespace Run

open Calls

variable {ω : Type} {graph : Graph} {order : List Uuid} {settings : RunSettings ω} {dag : Dag}
  {paths : RunPaths} {id : Uuid} {first begun waited polled : Run ω} {due : Nat}

/-- The launches of a cycle and the wait after them lead to its polls. -/
def ReachesPolls (settings : RunSettings ω) (dag : Dag) (paths : RunPaths) (id : Uuid) (due : Nat)
    (begun waited : Run ω) : Prop :=
  ∃ launched, begun.launchReady settings dag paths id = .ok launched ∧
    launched.progress.isFinished = false ∧ launched.wait settings due = .ok waited

/-- Where the cycles of a run begin, and when the tick of the cycle is due. -/
inductive Begins (settings : RunSettings ω) (dag : Dag) (paths : RunPaths) (id : Uuid)
    (first : Run ω) : Nat → Run ω → Prop
  /-- The first cycle begins with the run. -/
  | first : Begins settings dag paths id first 0 first
  /-- The next cycle begins after the polls. -/
  | next {due : Nat} {begun waited polled : Run ω}
      (begins : Begins settings dag paths id first due begun)
      (reaches : ReachesPolls settings dag paths id due begun waited)
      (polls : waited.pollDispatched settings = .ok polled) :
      Begins settings dag paths id first (Ticker.next settings.pollInterval due waited.now) polled

/-- A run finishes after so many more rounds of polls, the next one of which is due at a moment. -/
inductive Finishes (settings : RunSettings ω) (dag : Dag) (paths : RunPaths) (id : Uuid)
    (final : Run ω) : Nat → Nat → Run ω → Prop
  /-- The run is finished after its launches. -/
  | done {due : Nat} {begun : Run ω}
      (launches : begun.launchReady settings dag paths id = .ok final)
      (finished : final.progress.isFinished = true) :
      Finishes settings dag paths id final 0 due begun
  /-- The run polls and finishes after one round less. -/
  | round {rounds due : Nat} {begun waited polled : Run ω}
      (reaches : ReachesPolls settings dag paths id due begun waited)
      (polls : waited.pollDispatched settings = .ok polled)
      (rest : Finishes settings dag paths id final rounds
        (Ticker.next settings.pollInterval due waited.now) polled) :
      Finishes settings dag paths id final (rounds + 1) due begun

theorem cycle_of_finished {final : Run ω}
    (launches : begun.launchReady settings dag paths id = .ok final)
    (finished : final.progress.isFinished = true) :
    begun.cycle settings dag paths id due = .ok final := by
  rw [cycle, launches, ok_bind, if_pos finished]
  rfl

/-- From its polls a cycle goes on to the next one. -/
theorem ReachesPolls.cycle_eq (reaches : ReachesPolls settings dag paths id due begun waited) :
    begun.cycle settings dag paths id due =
      waited.pollDispatched settings >>= fun polled =>
        polled.cycle settings dag paths id (Ticker.next settings.pollInterval due waited.now) := by
  obtain ⟨launched, launched_eq, unfinished, waited_eq⟩ := reaches
  rw [cycle, launched_eq]
  simp only [bind, Except.bind, unfinished, waited_eq]
  rw [dif_pos (le_horizon_of_wait waited_eq)]
  rfl

/-- The run goes on from the beginning of every cycle. -/
theorem Begins.cycle_eq (begins : Begins settings dag paths id first due begun) :
    first.cycle settings dag paths id 0 = begun.cycle settings dag paths id due := by
  induction begins with
  | first => rfl
  | next _ reaches polls ih =>
      rw [ih, reaches.cycle_eq, polls, ok_bind]

/-- A run that finishes ends with its last round. -/
theorem Finishes.cycle_eq {final : Run ω} {rounds : Nat}
    (finishes : Finishes settings dag paths id final rounds due begun) :
    begun.cycle settings dag paths id due = .ok final := by
  induction finishes with
  | done launches finished => exact cycle_of_finished launches finished
  | round reaches polls _ ih =>
      rw [reaches.cycle_eq, polls, ok_bind, ih]

theorem ReachesPolls.faithful (coherent : graph.Coherent) (nodup : order.Nodup)
    (faithful : begun.Faithful graph (dag.spec? settings paths id) order)
    (reaches : ReachesPolls settings dag paths id due begun waited) :
    waited.Faithful graph (dag.spec? settings paths id) order := by
  obtain ⟨launched, launched_eq, _, waited_eq⟩ := reaches
  have launches := (launchReady_ensures coherent nodup faithful).of_eq_ok launched_eq
  exact launches.faithful.keeps ((wait_ensures settings launched due).of_eq_ok waited_eq)

theorem Begins.faithful (coherent : graph.Coherent) (nodup : order.Nodup)
    (faithful : first.Faithful graph (dag.spec? settings paths id) order)
    (begins : Begins settings dag paths id first due begun) :
    begun.Faithful graph (dag.spec? settings paths id) order := by
  induction begins with
  | first => exact faithful
  | next _ reaches polls ih =>
      have waited_faithful := reaches.faithful coherent nodup ih
      exact ((pollDispatched_ensures coherent nodup waited_faithful).of_eq_ok polls).faithful

/-- What holds of the calls when the run ends holds of the calls that are reported. -/
theorem holds_calls_execute {holds : List CallRecord → Prop} {canceledAt : Option Nat} {world : ω}
    (ensures : Ensures (fun final : Run ω => holds final.calls)
      (fun stopped => holds stopped.run.calls)
      ((start order dag canceledAt world).cycle settings dag paths id 0)) :
    holds (dag.execute settings order paths id canceledAt world).calls := by
  unfold Dag.execute
  split
  · rename_i final final_eq
    exact ensures.of_eq_ok final_eq
  · rename_i stopped stopped_eq
    rwa [stopped_eq] at ensures

private theorem Begins.calls_prefix (coherent : graph.Coherent) (nodup : order.Nodup)
    {canceledAt : Option Nat} {world : ω}
    (begins : Begins settings dag paths id (start order dag canceledAt world) due begun)
    (faithful : begun.Faithful graph (dag.spec? settings paths id) order) :
    begun.calls <+: (dag.execute settings order paths id canceledAt world).calls := by
  apply holds_calls_execute
  rw [begins.cycle_eq]
  exact (cycle_ensures coherent nodup faithful).mono (fun _ => And.right) fun _ => And.right

private theorem ReachesPolls.calls_prefix (coherent : graph.Coherent) (nodup : order.Nodup)
    {canceledAt : Option Nat} {world : ω}
    (begins : Begins settings dag paths id (start order dag canceledAt world) due begun)
    (reaches : ReachesPolls settings dag paths id due begun waited)
    (faithful : waited.Faithful graph (dag.spec? settings paths id) order) :
    waited.calls <+: (dag.execute settings order paths id canceledAt world).calls := by
  apply holds_calls_execute
  rw [begins.cycle_eq, reaches.cycle_eq]
  refine ((pollDispatched_ensures coherent nodup faithful).mono_error fun _ => And.right).bind
    fun polled polls => ?_
  exact (cycle_ensures coherent nodup polls.faithful).mono
    (fun _ holds => polls.grown.trans holds.2) fun _ orderly => polls.grown.trans orderly.2

/-- Whatever the backend answers, each call of a run is admissible after those before it, and
nothing is launched that descends from a failed operator.  Before the polls of a cycle, the
dispatched operators are those whose job was accepted and has not come to an end; each of them has a
job, and polls that are completed ask once for each of them, in the order of the run. -/
theorem calls_disciplined (accepted : dag.executionOrder = .ok order) {canceledAt : Option Nat}
    {world : ω} {calls : List CallRecord}
    (calls_eq : calls = (dag.execute settings order paths id canceledAt world).calls) :
    (∀ before call after, calls = before ++ call :: after →
      Admissible (.build dag) (dag.spec? settings paths id) before call) ∧
    (∀ failed operator, Failed calls failed →
      operator ∈ (Graph.build dag).descendantsOf failed → ¬Launched calls operator) ∧
    ∀ due begun waited,
      Begins settings dag paths id (start order dag canceledAt world) due begun →
      ReachesPolls settings dag paths id due begun waited →
        waited.calls <+: calls ∧
        (∀ operator, operator ∈ waited.progress.dispatched ↔
          (∃ job, Accepted waited.calls operator job) ∧ Unanswered waited.calls operator) ∧
        (∀ operator ∈ waited.progress.dispatched, ∃ job, waited.jobs.find? operator = some job) ∧
        waited.progress.dispatched.Nodup ∧ waited.progress.dispatched.Sublist order ∧
        ∀ polled, waited.pollDispatched settings = .ok polled →
          polled.calls <+: calls ∧ ∃ polls, polled.calls = waited.calls ++ polls ∧
            (∀ call ∈ polls, call.isPoll) ∧
              polls.map CallRecord.operator = waited.progress.dispatched := by
  have coherent := Graph.build_coherent dag
  have nodup := Dag.nodup_of_executionOrder accepted
  have start_faithful : (start order dag canceledAt world).Faithful (.build dag)
      (dag.spec? settings paths id) order := faithful_start order dag canceledAt world
  have disciplined : Disciplined (.build dag) (dag.spec? settings paths id) calls := by
    rw [calls_eq]
    apply holds_calls_execute
    exact (cycle_ensures coherent nodup start_faithful).mono
      (fun _ holds => holds.1.disciplined) fun _ => And.left
  refine ⟨disciplined, fun failed operator failure descends => ?_,
    fun due begun waited begins reaches => ?_⟩
  · exact disciplined.not_launched failure (coherent.mem_descendantsOf.1 descends)
  · have begun_faithful := begins.faithful coherent nodup start_faithful
    have waited_faithful := reaches.faithful coherent nodup begun_faithful
    have sublist := waited_faithful.inState_sublist .dispatched
    refine ⟨?_, fun operator => ?_, fun operator dispatched => ?_, nodup.sublist sublist, sublist,
      fun polled polls => ⟨?_, ?_⟩⟩
    · exact calls_eq ▸ reaches.calls_prefix coherent nodup begins waited_faithful
    · exact waited_faithful.mem_inState_iff.trans waited_faithful.dispatched_iff
    · have evidence := waited_faithful.evidence operator
      rw [waited_faithful.mem_inState_iff.1 dispatched] at evidence
      obtain ⟨⟨job, job_eq, _⟩, _⟩ := evidence
      exact ⟨job, job_eq⟩
    · have next_begins := begins.next reaches polls
      exact calls_eq ▸ next_begins.calls_prefix coherent nodup
        (next_begins.faithful coherent nodup start_faithful)
    · have midway := (pollDispatched_ensures coherent nodup waited_faithful).of_eq_ok polls
      simpa [Progress.dispatched] using midway.made

/-- A backend that accepts every job and says that it has succeeded. -/
def obliging : RunSettings Unit where
  backend :=
    { config := .process "" ""
      launch := fun _ world => .now (.ok (), world)
      poll := fun _ world => .now (.ok .succeeded, world) }
  storage := .file ""
  secrets := .file ""
  pollInterval := .ofMillis 1
  timeout := none
  horizon := (Duration.ofMillis 9).nanos

/-- The calls of a join whose jobs all succeed. -/
theorem calls_of_join :
    ∃ calls, calls = (Dag.join.execute obliging [.ofNat 1, .ofNat 2, .ofNat 3, .ofNat 4]
        (.generate .ofNat .join) .nil none ()).calls ∧
      calls.map CallRecord.operator = [1, 2, 1, 2, 3, 3, 4, 4].map .ofNat ∧
      ∀ before call after, calls = before ++ call :: after →
        Admissible (.build .join) (Dag.join.spec? obliging (.generate .ofNat .join) .nil) before
          call := by
  obtain ⟨admissible, -⟩ := calls_disciplined Dag.executionOrder_join
    (rfl : (Dag.join.execute obliging _ (.generate .ofNat .join) .nil none ()).calls = _)
  refine ⟨_, rfl, ?operators, admissible⟩
  case operators => decide +kernel

end Run
end Workflow
