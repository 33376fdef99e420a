import Workflow.Proofs.Run.Attempt

/-!
# Conversations with a backend

A conversation is what the answered calls of a run amount to for the backend.  Each of them begins
in the world that the one before has left, and no earlier than that one was answered.
-/

namespace Workflow

/-- The same call with another answer. -/
def BackendCall.map {ω α β : Type} (change : α → β) (call : BackendCall ω α) : BackendCall ω β where
  begun := call.begun
  delay := call.delay
  cancels := call.cancels
  answer := call.answer.map fun (answer, world) => (change answer, world)

namespace Backend

variable {ω : Type}

/-- What becomes of a call to a backend, with its answer as the history has it. -/
def respond (backend : Backend ω) : CallSubject → ω → BackendCall ω CallResult
  | .launch spec, world => (backend.launch spec world).map Run.launchResult
  | .poll _ job, world => (backend.poll job world).map Run.pollResult

/-- The answered calls of a conversation, first one first, with the world and the time after
them. -/
inductive Conversation (backend : Backend ω) (first : ω) : List CallRecord → ω → Nat → Prop
  /-- Nothing has been asked yet. -/
  | start : Conversation backend first [] first 0
  /-- Time passes. -/
  | pause {calls : List CallRecord} {world : ω} {now later : Nat}
      (before : Conversation backend first calls world now) (passes : now ≤ later) :
      Conversation backend first calls world later
  /-- A call is answered. -/
  | answer {calls : List CallRecord} {world after : ω} {now : Nat} {subject : CallSubject}
      {result : CallResult} (before : Conversation backend first calls world now) (operator : Uuid)
      (answer_eq : (backend.respond subject world).answer = some (result, after)) :
      Conversation backend first (calls ++ [⟨now, operator, subject, result⟩]) after
        (now + (backend.respond subject world).delay)

variable {backend : Backend ω} {first world : ω} {calls : List CallRecord} {now : Nat}

theorem Conversation.time_le (conversation : backend.Conversation first calls world now) :
    ∀ call ∈ calls, call.time ≤ now := by
  induction conversation with
  | start => simp
  | pause before passes ih => exact fun call member => Nat.le_trans (ih call member) passes
  | answer before _ _ ih =>
      intro call member
      rcases List.mem_append.1 member with earlier | last
      · exact Nat.le_trans (ih call earlier) (Nat.le_add_right _ _)
      · rw [List.mem_singleton.1 last]
        exact Nat.le_add_right _ _

end Backend

section Run

variable {ω α : Type} {settings : RunSettings ω} {run next : Run ω} {first world : ω}
  {subject : CallSubject} {response : BackendCall ω α} {result : α → CallResult} {answer : α}

theorem Backend.answer_respond {backend : Backend ω}
    (responds : backend.respond subject world = response.map result) {after : ω}
    (answer_eq : response.answer = some (answer, after)) :
    (backend.respond subject world).answer = some (result answer, after) := by
  rw [responds, BackendCall.map, answer_eq]
  rfl

/-- An answered call carries the conversation on. -/
theorem Run.converses
    (conversation : settings.backend.Conversation first run.calls run.world run.now)
    (responds : settings.backend.respond subject run.world = response.map result)
    (answer_eq : response.answer = some (answer, world)) {canceledAt : Option Nat} {operator : Uuid}
    (next_eq : next = Run.note { run with now := run.now + response.delay, canceledAt, world }
      run.now operator subject (result answer)) :
    settings.backend.Conversation first next.calls next.world next.now ∧
      next.calls = run.calls ++ [⟨run.now, operator, subject, result answer⟩] := by
  have calls_eq : next.calls = run.calls ++ [⟨run.now, operator, subject, result answer⟩] := by
    rw [next_eq, calls_note]
    rfl
  have answered := conversation.answer operator (Backend.answer_respond responds answer_eq)
  rw [responds] at answered
  refine ⟨?_, calls_eq⟩
  rw [calls_eq, next_eq]
  exact answered

end Run

end Workflow
