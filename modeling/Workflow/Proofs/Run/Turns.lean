import Workflow.Proofs.Dag.Levels
import Workflow.Proofs.Run.Report

/-!
# Turns of operators

Where every job takes the same number of polls, the jobs of one level come to an end in the same
round, and the operators of the next level become ready in it.  `Paced` says this of the calls of a
run, at the beginning of a round and after its launches.
-/

namespace Workflow

/-- How many rounds of polls come before the launch of an operator if each job takes so many. -/
def Graph.roundsBefore (graph : Graph) (order : List Uuid) (polls : Nat) (operator : Uuid) : Nat :=
  (graph.level order operator - 1) * polls

namespace Calls

variable {calls made : List CallRecord} {operator : Uuid} {graph : Graph} {order : List Uuid}
  {polls rounds bound : Nat}

theorem acceptedOperators_sublist :
    (acceptedOperators made).Sublist (made.map CallRecord.operator) :=
  List.filter_sublist.map _

private theorem acceptedOperators_of_polls (kinds : ∀ call ∈ made, call.isPoll) :
    acceptedOperators made = [] := by
  rw [acceptedOperators, List.map_eq_nil_iff, List.filter_eq_nil_iff]
  intro call member accepted
  obtain ⟨job, subject⟩ := CallRecord.isPoll_iff.1 (kinds call member)
  simp [CallRecord.isAcceptance, CallRecord.isLaunch, subject] at accepted

private theorem pollsOf_of_launches (kinds : ∀ call ∈ made, call.isLaunch) :
    pollsOf made operator = [] := by
  rw [pollsOf, List.filter_eq_nil_iff]
  intro call member polled
  obtain ⟨spec, subject⟩ := CallRecord.isLaunch_iff.1 (kinds call member)
  simp [CallRecord.isPoll, subject] at polled

private theorem length_pollsOf_of_polls (kinds : ∀ call ∈ made, call.isPoll) :
    (pollsOf made operator).length = (made.map CallRecord.operator).count operator := by
  rw [pollsOf, ← List.countP_eq_length_filter, List.count, List.countP_map]
  refine List.countP_congr fun call member => ?_
  obtain ⟨job, subject⟩ := CallRecord.isPoll_iff.1 (kinds call member)
  simp [CallRecord.isPoll, subject]

private theorem Answered.of_append {calls made : List CallRecord} {job : String} {status : Status}
    (answered : Answered (calls ++ made) operator job status) :
    Answered calls operator job status ∨
      ∃ call ∈ made, call.operator = operator ∧ call.isPoll := by
  obtain ⟨call, member, rfl, subject, result⟩ := answered
  rcases List.mem_append.1 member with earlier | new
  · exact .inl ⟨call, earlier, rfl, subject, result⟩
  · exact .inr ⟨call, new, rfl, CallRecord.isPoll_iff.2 ⟨job, subject⟩⟩

/-- After so many rounds every accepted operator was launched in its turn and polled since then, or
as often as its job took, and the operators were accepted by level and position. -/
structure Paced (graph : Graph) (order : List Uuid) (polls rounds bound : Nat)
    (calls : List CallRecord) : Prop where
  /-- The operator was launched before the round `bound`. -/
  launched : ∀ operator ∈ acceptedOperators calls, graph.roundsBefore order polls operator < bound
  /-- It was polled in each round since then until its job came to an end. -/
  polled : ∀ operator ∈ acceptedOperators calls,
    (pollsOf calls operator).length =
      min polls (rounds - graph.roundsBefore order polls operator)
  /-- Lower levels come first, and earlier operators of the same level. -/
  sorted : (acceptedOperators calls).Pairwise (graph.Ahead order)

theorem paced_nil : Paced graph order polls 0 0 [] where
  launched _ member := absurd member List.not_mem_nil
  polled _ member := absurd member List.not_mem_nil
  sorted := .nil

/-- The launches of a round are for the operators of one level. -/
theorem Paced.launch (paced : Paced graph order polls rounds rounds calls) (some_polls : 0 < polls)
    (nodup : order.Nodup) (kinds : ∀ call ∈ made, call.isLaunch)
    (sublist : (made.map CallRecord.operator).Sublist order)
    (positive : ∀ operator ∈ order, 0 < graph.level order operator)
    (turn : ∀ operator ∈ made.map CallRecord.operator,
      graph.roundsBefore order polls operator = rounds)
    (unpolled : ∀ operator ∈ made.map CallRecord.operator, (pollsOf calls operator).length = 0) :
    Paced graph order polls rounds (rounds + 1) (calls ++ made) where
  launched operator member := by
    rw [acceptedOperators_append] at member
    rcases List.mem_append.1 member with earlier | new
    · exact Nat.lt_succ_of_lt (paced.launched operator earlier)
    · rw [turn operator (acceptedOperators_sublist.subset new)]
      exact Nat.lt_succ_self rounds
  polled operator member := by
    rw [acceptedOperators_append] at member
    rw [pollsOf_append, pollsOf_of_launches kinds, List.append_nil]
    rcases List.mem_append.1 member with earlier | new
    · exact paced.polled operator earlier
    · have new_mem := acceptedOperators_sublist.subset new
      rw [unpolled operator new_mem, turn operator new_mem, Nat.sub_self, Nat.min_zero]
  sorted := by
    rw [acceptedOperators_append, List.pairwise_append]
    refine ⟨paced.sorted, ?_, fun first earlier second new => .inl ?_⟩
    · have new_sublist := acceptedOperators_sublist.trans sublist
      refine (pairwise_idxOf nodup new_sublist).imp_of_mem
        fun {first second} first_mem second_mem lt => .inr ⟨?_, lt⟩
      have same := (turn first (acceptedOperators_sublist.subset first_mem)).trans
        (turn second (acceptedOperators_sublist.subset second_mem)).symm
      have levels_eq := Nat.eq_of_mul_eq_mul_right some_polls same
      have first_positive := positive first (new_sublist.subset first_mem)
      have second_positive := positive second (new_sublist.subset second_mem)
      omega
    · have before := paced.launched first earlier
      rw [← turn second (acceptedOperators_sublist.subset new)] at before
      have levels_lt := Nat.lt_of_mul_lt_mul_right before
      omega

/-- The polls of a round are for the operators whose jobs have not come to an end. -/
theorem Paced.poll (paced : Paced graph order polls rounds (rounds + 1) calls)
    (kinds : ∀ call ∈ made, call.isPoll) (nodup : (made.map CallRecord.operator).Nodup)
    (unfinished : ∀ operator ∈ made.map CallRecord.operator,
      (pollsOf calls operator).length < polls)
    (ended : ∀ operator ∈ acceptedOperators calls, operator ∉ made.map CallRecord.operator →
      (pollsOf calls operator).length = polls) :
    Paced graph order polls (rounds + 1) (rounds + 1) (calls ++ made) where
  launched operator member := by
    rw [acceptedOperators_append, acceptedOperators_of_polls kinds, List.append_nil] at member
    exact paced.launched operator member
  polled operator member := by
    rw [acceptedOperators_append, acceptedOperators_of_polls kinds, List.append_nil] at member
    have before := paced.polled operator member
    have turn := paced.launched operator member
    rw [pollsOf_append, List.length_append, length_pollsOf_of_polls kinds, nodup.count]
    split_ifs with polled
    · have early := unfinished operator polled
      omega
    · have all := ended operator member polled
      omega
  sorted := by
    rw [acceptedOperators_append, acceptedOperators_of_polls kinds, List.append_nil]
    exact paced.sorted

theorem roundsBefore_add (positive : 0 < graph.level order operator) :
    graph.roundsBefore order polls operator + polls = graph.level order operator * polls := by
  rw [Graph.roundsBefore, ← Nat.succ_mul, Nat.succ_eq_add_one, Nat.sub_add_cancel positive]

theorem Paced.level_mul_le (paced : Paced graph order polls rounds bound calls)
    (some_polls : 0 < polls) (positive : 0 < graph.level order operator)
    (member : operator ∈ acceptedOperators calls)
    (ended : (pollsOf calls operator).length = polls) :
    graph.level order operator * polls ≤ rounds := by
  have polled := paced.polled operator member
  rw [← roundsBefore_add positive]
  omega

theorem Paced.lt_level_mul (paced : Paced graph order polls rounds (rounds + 1) calls)
    (positive : 0 < graph.level order operator) (member : operator ∈ acceptedOperators calls)
    (unfinished : (pollsOf calls operator).length < polls) :
    rounds < graph.level order operator * polls := by
  have polled := paced.polled operator member
  have launched := paced.launched operator member
  rw [← roundsBefore_add positive]
  omega

end Calls

namespace Run

open Calls

/-! ### Operators that become ready -/

section Ready

variable {ω : Type} {graph : Graph} {spec? : Uuid → Option JobSpec} {order : List Uuid}
  {first run : Run ω} {operator : Uuid}

private theorem Faithful.launched_of_released (faithful : run.Faithful graph spec? order)
    (released : run.progress.Released operator)
    (not_ready : run.progress.state? operator ≠ some .ready) : Launched run.calls operator := by
  obtain ⟨state, found, released⟩ := released
  have evidence := faithful.evidence operator
  rw [found] at evidence not_ready
  cases state with
  | notReady | skipped => exact nomatch released
  | ready => exact absurd rfl not_ready
  | dispatched =>
      obtain ⟨⟨job, _, accepted⟩, _⟩ := evidence
      exact accepted.launched
  | succeeded =>
      obtain ⟨job, accepted, _⟩ := evidence
      exact accepted.launched
  | failed =>
      rcases evidence with ⟨call, member, call_operator, spec, _, subject, _⟩ |
        ⟨job, status, answered, _⟩
      · exact ⟨call, member, call_operator, spec, subject⟩
      · exact faithful.disciplined.launched_of_answered answered

private theorem Faithful.ready_before (first_faithful : first.Faithful graph spec? order)
    (faithful : run.Faithful graph spec? order) (grown : first.calls ⊆ run.calls)
    (ready : run.progress.state? operator = some .ready)
    (succeeded : ∀ producer, graph.Link producer operator → Succeeded first.calls producer) :
    first.progress.state? operator = some .ready := by
  by_contra not_ready
  have known := (first_faithful.known_iff operator).2 ((faithful.known_iff operator).1 ⟨_, ready⟩)
  have released : first.progress.Released operator := by
    refine (first_faithful.consistent.released known).2 fun producer link => ?_
    rw [first_faithful.graph_eq] at link
    exact first_faithful.succeeded_iff.2 (succeeded producer link)
  have launched := (first_faithful.launched_of_released released not_ready).mono grown
  have evidence := faithful.evidence operator
  rw [ready] at evidence
  exact evidence launched

/-- Every producer of a ready operator has succeeded. -/
theorem Faithful.producer_succeeded (faithful : run.Faithful graph spec? order)
    (ready : run.progress.state? operator = some .ready) {producer : Uuid}
    (link : graph.Link producer operator) :
    run.progress.state? producer = some .succeeded := by
  have released := Progress.released_of_state ready rfl
  refine (faithful.consistent.released released.known).1 released producer ?_
  rwa [faithful.graph_eq]

theorem Midway.not_ready (first_faithful : first.Faithful graph spec? order)
    (midway : Midway graph spec? order .ready CallRecord.isLaunch first [] run) :
    run.progress.state? operator ≠ some .ready := by
  intro ready
  obtain ⟨made, calls_eq, kinds, made_eq⟩ := midway.made
  rw [List.append_nil] at made_eq
  have before := first_faithful.ready_before midway.faithful midway.grown.subset ready
    fun producer link => by
      have succeeded := midway.faithful.producer_succeeded ready link
      obtain ⟨job, _, answered⟩ := midway.faithful.succeeded_iff.1 succeeded
      rw [calls_eq] at answered
      rcases answered.of_append with earlier | ⟨call, member, _, polled⟩
      · exact ⟨job, first_faithful.disciplined.accepted_of_answered earlier, earlier⟩
      · obtain ⟨spec, launched⟩ := CallRecord.isLaunch_iff.1 (kinds call member)
        obtain ⟨later, subject⟩ := CallRecord.isPoll_iff.1 polled
        exact nomatch launched.symm.trans subject
  have member := first_faithful.mem_inState_iff.2 before
  rw [← made_eq] at member
  obtain ⟨call, call_mem, call_operator⟩ := List.mem_map.1 member
  obtain ⟨spec, subject⟩ := CallRecord.isLaunch_iff.1 (kinds call call_mem)
  have evidence := midway.faithful.evidence operator
  rw [ready] at evidence
  refine evidence ⟨call, ?_, call_operator, spec, subject⟩
  rw [calls_eq]
  exact List.mem_append_right _ call_mem

/-- An operator becomes ready in the round in which the job of some producer comes to an end. -/
theorem Midway.exists_dispatched (first_faithful : first.Faithful graph spec? order)
    (midway : Midway graph spec? order .dispatched CallRecord.isPoll first [] run)
    (not_ready : first.progress.state? operator ≠ some .ready)
    (ready : run.progress.state? operator = some .ready) :
    ∃ producer, graph.Link producer operator ∧
      first.progress.state? producer = some .dispatched := by
  obtain ⟨made, calls_eq, _, made_eq⟩ := midway.made
  rw [List.append_nil] at made_eq
  by_contra none_dispatched
  refine not_ready (first_faithful.ready_before midway.faithful midway.grown.subset ready
    fun producer link => ?_)
  have succeeded := midway.faithful.producer_succeeded ready link
  obtain ⟨job, _, answered⟩ := midway.faithful.succeeded_iff.1 succeeded
  rw [calls_eq] at answered
  rcases answered.of_append with earlier | ⟨call, member, call_operator, _⟩
  · exact ⟨job, first_faithful.disciplined.accepted_of_answered earlier, earlier⟩
  · have polled : producer ∈ made.map CallRecord.operator :=
      call_operator ▸ List.mem_map_of_mem member
    rw [made_eq] at polled
    exact absurd ⟨producer, link, first_faithful.mem_inState_iff.1 polled⟩ none_dispatched

end Ready

end Run
end Workflow
