import Workflow.Job.Backend
import Workflow.Json.Printer
import Workflow.Storage

/-!
# A backend for rehearsals

The backend plays jobs without running anything.  What a job does depends on the name of its
operator; every job takes the same number of polls.  If the backend has a store, it writes what the
job would have written as soon as the job is launched.

Polls are counted in words of 32 bits.  The counts are natural numbers here, and `wordAnswer?_eq`
and `wordSum?_eq` say that arithmetic of words gives the same as long as a word holds the result.
-/

namespace Workflow

/-- What the job of an operator does. -/
inductive Behaviour
  /-- It finishes with success. -/
  | succeed
  /-- It finishes without success and leaves a message. -/
  | fail (message : String)
  /-- It is not even accepted. -/
  | reject (message : String)
  /-- It ends by being canceled. -/
  | cancel
  deriving DecidableEq

/-- How jobs are played.  Both numbers of polls are words. -/
structure Rehearsal where
  /-- What jobs do, by operator name; all others succeed. -/
  behaviours : Table String Behaviour
  /-- The poll, of those answered, that first tells the outcome. -/
  pollsUntilDone : Nat
  /-- How many polls of each job fail at first. -/
  pollFailures : Nat
  /-- What successful jobs write to their outputs, by operator name. -/
  outputs : Table String (List Bytes)
  deriving DecidableEq

namespace Rehearsal

/-- Every job succeeds at its first poll and writes nothing to its outputs. -/
def succeeding : Rehearsal :=
  ⟨.empty, 1, 0, .empty⟩

/-- How jobs reach this backend. -/
def config : BackendConfig :=
  .process "bin" "operators"

/-! ### Words -/

/-- The word of a number, if it fits into 32 bits. -/
def word? (value : Int) : Option Nat :=
  if 0 ≤ value ∧ value < UInt32.size then some value.toNat else none

/-- A sum in arithmetic of 32 bits, unless some part of it does not fit. -/
def wordSum? (numbers : List Nat) : Option Nat :=
  numbers.foldlM (fun sum number => word? (sum + number : Nat)) 0

theorem word?_of_eq {value : Int} {number : Nat} (value_eq : value = number)
    (fits : number < UInt32.size) : word? value = some number := by
  subst value_eq
  rw [word?, if_pos (by omega), Int.toNat_natCast]

theorem wordSum?_eq {numbers : List Nat} (fits : numbers.foldl (· + ·) 0 < UInt32.size) :
    wordSum? numbers = some (numbers.foldl (· + ·) 0) := by
  rw [← List.sum_eq_foldl_nat] at fits ⊢
  have from_start (start : Nat) (fits : start + numbers.sum < UInt32.size) :
      numbers.foldlM (fun sum number => word? (sum + number : Nat)) start =
        some (start + numbers.sum) := by
    induction numbers generalizing start with
    | nil => rfl
    | cons number numbers ih =>
        rw [List.sum_cons] at fits ⊢
        have first_eq : word? (start + number : Nat) = some (start + number) :=
          word?_of_eq rfl (by omega)
        rw [List.foldlM_cons, first_eq, Option.bind_eq_bind, Option.bind_some,
          ih (by omega) _ (by omega), Nat.add_assoc]
  rw [wordSum?, from_start 0 (by omega), Nat.zero_add]

/-! ### The stage -/

/-- A job that was accepted. -/
structure Job where
  /-- The name of its operator. -/
  operatorName : String
  /-- How often it was polled, as far as a word can count it. -/
  polls : Nat
  /-- How it ends. -/
  outcome : Status
  deriving DecidableEq

/-- The jobs played so far. -/
structure Stage where
  /-- The names of the accepted jobs, first one first. -/
  launched : List String
  /-- The accepted jobs by name. -/
  jobs : Table String Job
  deriving DecidableEq

/-- No job was played yet. -/
def Stage.empty : Stage :=
  ⟨[], .empty⟩

/-- The operator names of the accepted jobs, first one first. -/
def Stage.launchedOperators (stage : Stage) : List String :=
  stage.launched.filterMap fun name => (stage.jobs.find? name).map Job.operatorName

/-- How many launches were accepted. -/
def Stage.launchCount (stage : Stage) : Nat :=
  stage.launched.length

/-- How often the jobs of an operator were polled. -/
def Stage.pollCount (stage : Stage) (operatorName : String) : Nat :=
  (stage.jobs.values.filter fun job => job.operatorName == operatorName).foldl
    (fun polls job => polls + job.polls) 0

/-- What the job of an operator does. -/
def behaviourOf (rehearsal : Rehearsal) (operatorName : String) : Behaviour :=
  (rehearsal.behaviours.find? operatorName).getD .succeed

/-- How a job ends, or the message with which it is rejected. -/
def outcomeOf : Behaviour → Except String Status
  | .succeed => .ok .succeeded
  | .fail _ => .ok .failed
  | .cancel => .ok .canceled
  | .reject message => .error message

/-- The metadata that a job writes. -/
def metadataOf (behaviour : Behaviour) (operatorName : String) : Json :=
  match behaviour with
  | .fail message => .obj [("error", .str message), ("logs", .obj [])]
  | _ =>
      .obj [("error", .str ""), ("logs", .obj [("stdout", .str ("ran " ++ operatorName))])]

variable {σ : Type}

/-- What an accepted job writes: its metadata and, if it succeeds, its outputs. -/
def blobsOf (rehearsal : Rehearsal) (spec : JobSpec) : List (String × Bytes) :=
  let behaviour := rehearsal.behaviourOf spec.operatorName
  let metadata := Utf8.encode (metadataOf behaviour spec.operatorName).print
  let outputs :=
    if behaviour = .succeed then
      spec.outputContentPaths.zip ((rehearsal.outputs.find? spec.operatorName).getD [])
    else []
  (spec.metadataPath, metadata) :: outputs

/-- Write what an accepted job writes. -/
def writeResults (rehearsal : Rehearsal) (store : Option (Store σ)) (spec : JobSpec) :
    StateM σ (Except JobError Unit) := do
  match store with
  | none => return .ok ()
  | some store =>
      match ← store.putAll (rehearsal.blobsOf spec) with
      | .error failure => return .error (.backend failure.message)
      | .ok () => return .ok ()

/-- Accept a job onto the stage. -/
def Stage.accept (stage : Stage) (spec : JobSpec) (outcome : Status) : Stage :=
  ⟨stage.launched ++ [spec.name], stage.jobs.insert spec.name ⟨spec.operatorName, 0, outcome⟩⟩

/-- Launch a job.  A job whose results cannot be written has been accepted all the same. -/
def launch (rehearsal : Rehearsal) (store : Option (Store σ)) (canceled : Bool) (spec : JobSpec) :
    StateM (Stage × σ) (Except JobError Unit) := fun (stage, state) =>
  if canceled then (.error (.canceled spec.name), (stage, state))
  else
    match outcomeOf (rehearsal.behaviourOf spec.operatorName) with
    | .error message => (.error (.launchRejected spec.name message), (stage, state))
    | .ok outcome =>
        if stage.jobs.contains spec.name then
          (.error (.jobAlreadyExists spec.name), (stage, state))
        else
          let (result, next) := rehearsal.writeResults store spec state
          (result, (stage.accept spec outcome, next))

/-- What a poll answers that is the `polls`-th of a job. -/
def answer (rehearsal : Rehearsal) (name : String) (job : Job) (polls : Nat) :
    Except JobError Status :=
  if polls ≤ rehearsal.pollFailures then
    .error (.backend ("transient poll failure for '" ++ name ++ "'"))
  else if polls - rehearsal.pollFailures < max rehearsal.pollsUntilDone 1 then .ok .running
  else .ok job.outcome

/-- The answer to one more poll of a job in arithmetic of 32 bits, unless a number does not fit. -/
def wordAnswer? (rehearsal : Rehearsal) (name : String) (job : Job) :
    Option (Except JobError Status) := do
  let polls ← word? (job.polls + 1)
  if polls ≤ rehearsal.pollFailures then
    return .error (.backend ("transient poll failure for '" ++ name ++ "'"))
  else
    let answered ← word? (polls - rehearsal.pollFailures)
    return if answered < max rehearsal.pollsUntilDone 1 then .ok .running else .ok job.outcome

/-- No subtraction goes below zero, and no addition goes beyond 32 bits as long as the number of
polls does not. -/
theorem wordAnswer?_eq {rehearsal : Rehearsal} {name : String} {job : Job}
    (fits : job.polls + 1 < UInt32.size) :
    rehearsal.wordAnswer? name job = some (rehearsal.answer name job (job.polls + 1)) := by
  have polls_eq : word? (job.polls + 1) = some (job.polls + 1) := word?_of_eq rfl fits
  unfold wordAnswer? answer
  rw [polls_eq, Option.bind_eq_bind, Option.bind_some]
  split
  · rfl
  · have answered_eq : word? (((job.polls + 1 : Nat) : Int) - rehearsal.pollFailures) =
        some (job.polls + 1 - rehearsal.pollFailures) := word?_of_eq (by omega) (by omega)
    rw [answered_eq, Option.bind_some]
    rfl

/-- Ask for the status of a job. -/
def poll (rehearsal : Rehearsal) (canceled : Bool) (name : String) :
    StateM Stage (Except JobError Status) := fun stage =>
  if canceled then (.error (.canceled name), stage)
  else
    match stage.jobs.find? name with
    | none => (.error (.jobNotExist name), stage)
    | some job =>
        let polls := job.polls + 1
        (rehearsal.answer name job polls,
          { stage with jobs := stage.jobs.insert name { job with polls } })

/-- The backend that plays jobs, on a stage and the state of its store. -/
def backend (rehearsal : Rehearsal) (store : Option (Store σ)) : Backend (Stage × σ) where
  config := config
  launch spec world := .now (rehearsal.launch store false spec world)
  poll name world :=
    let (result, stage) := rehearsal.poll false name world.1
    .now (result, (stage, world.2))

end Rehearsal
end Workflow
