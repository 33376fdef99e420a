import Mathlib.Data.List.DropRight
import Workflow.Proofs.Job.Exchanges

/-!
# What is in the name of a job

The name of a job is made of letters, digits and dashes only, whatever its operator is called, and
ends with two identifiers of fixed length.  A rehearsal that is asked for jobs of different names
never answers that one of them already exists.
-/

namespace Workflow

/-- A small letter, a digit or a dash. -/
def IsJobNameChar (c : Char) : Prop :=
  ('a' ≤ c ∧ c ≤ 'z') ∨ ('0' ≤ c ∧ c ≤ '9') ∨ c = '-'

instance (c : Char) : Decidable (IsJobNameChar c) :=
  inferInstanceAs (Decidable (_ ∨ _ ∨ _))

/-! ### Identifiers -/

private theorem isJobNameChar_hexDigit : ∀ value < 16, IsJobNameChar (Text.hexDigit value) := by
  decide

private theorem isJobNameChar_of_mem_hexDigits {width value : Nat} {c : Char}
    (member : c ∈ Text.hexDigits width value) : IsJobNameChar c := by
  induction width with
  | zero => exact nomatch member
  | succ width ih =>
      rcases List.mem_cons.1 member with rfl | later
      · exact isJobNameChar_hexDigit _ (Nat.mod_lt _ (by decide))
      · exact ih later

private theorem Uuid.mem_of_mem_hyphenate {lengths : List Nat} {digits : List Char} {c : Char}
    (member : c ∈ hyphenate lengths digits) : c = '-' ∨ c ∈ digits := by
  induction lengths generalizing digits with
  | nil => exact nomatch member
  | cons length lengths ih =>
      cases lengths with
      | nil => exact .inr (List.mem_of_mem_take member)
      | cons next lengths =>
          rw [hyphenate, List.mem_append, List.mem_cons] at member
          · rcases member with first | rfl | later
            · exact .inr (List.mem_of_mem_take first)
            · exact .inl rfl
            · exact (ih later).imp_right List.mem_of_mem_drop
          · simp

private theorem isJobNameChar_of_mem_toString {id : Uuid} {c : Char}
    (member : c ∈ id.toString.toList) :
    IsJobNameChar c := by
  rw [Uuid.toString, String.toList_ofList] at member
  rcases Uuid.mem_of_mem_hyphenate member with rfl | digit
  · decide
  · exact isJobNameChar_of_mem_hexDigits digit

/-! ### Stems -/

theorem isJobNameChar_jobNameChar (c : Char) : IsJobNameChar (jobNameChar c) := by
  have ascii : ∀ code < 128, IsJobNameChar (jobNameChar (Char.ofNat code)) := by decide
  by_cases small : c.toNat < 128
  · simpa using ascii c.toNat small
  · have other : ¬c.isAlphanum = true := by
      intro alphanumeric
      unfold Char.isAlphanum Char.isAlpha Char.isUpper Char.isLower Char.isDigit at alphanumeric
      simp only [Bool.or_eq_true, Bool.and_eq_true, decide_eq_true_eq, ge_iff_le,
        UInt32.le_iff_toNat_le, Char.reduceVal, UInt32.reduceToNat] at alphanumeric
      simp only [Char.toNat] at small
      omega
    rw [jobNameChar, if_neg other]
    decide

private theorem head?_dropWhile_dash (chars : List Char) :
    (chars.dropWhile (· == '-')).head? ≠ some '-' := by
  intro dash
  have kept := List.head?_dropWhile_not (· == '-') chars
  rw [dash] at kept
  exact nomatch kept

private theorem jobNameStem_leads (name : String) :
    (jobNameStem name).toList <+: (name.toList.map jobNameChar).dropWhile (· == '-') := by
  rw [jobNameStem, String.toList_ofList]
  exact List.rdropWhile_prefix _ _

private theorem isJobNameChar_of_mem_jobNameStem {name : String} {c : Char}
    (member : c ∈ (jobNameStem name).toList) : IsJobNameChar c := by
  have kept := (jobNameStem_leads name).subset member
  obtain ⟨own, -, rfl⟩ := List.mem_map.1 ((List.dropWhile_sublist _).subset kept)
  exact isJobNameChar_jobNameChar own

theorem head?_jobNameStem (name : String) : (jobNameStem name).toList.head? ≠ some '-' := by
  intro dash
  obtain ⟨rest, front_eq⟩ := jobNameStem_leads name
  refine head?_dropWhile_dash (name.toList.map jobNameChar) ?_
  rw [← front_eq, List.head?_append, dash, Option.some_or]

theorem getLast?_jobNameStem (name : String) : (jobNameStem name).toList.getLast? ≠ some '-' := by
  rw [jobNameStem, String.toList_ofList, List.getLast?_reverse]
  exact head?_dropWhile_dash _

theorem isJobNameChar_of_mem_jobName {operator : Operator} {run : Uuid} {c : Char}
    (member : c ∈ (jobName operator run).toList) : IsJobNameChar c := by
  have dash : "-".toList = ['-'] := rfl
  simp only [jobName, String.toList_append, dash, List.mem_append, List.mem_singleton] at member
  rcases member with (((stem | rfl) | own) | rfl) | whole
  · exact isJobNameChar_of_mem_jobNameStem stem
  · decide
  · exact isJobNameChar_of_mem_toString own
  · decide
  · exact isJobNameChar_of_mem_toString whole

/-! ### Jobs that already exist -/

namespace Rehearsal

/-- The job that is to be launched, if any is. -/
def Request.spec? : Request → Option JobSpec
  | .launch _ spec => some spec
  | _ => none

/-- The jobs that are to be launched, first one first. -/
def requestedSpecs (requests : List Request) : List JobSpec :=
  requests.filterMap Request.spec?

theorem requestedSpecs_cons (request : Request) (requests : List Request) :
    requestedSpecs (request :: requests) = request.spec?.toList ++ requestedSpecs requests := by
  simp only [requestedSpecs, List.filterMap_eq_flatMap_toList, List.flatMap_cons]

theorem requestedSpecs_append (first second : List Request) :
    requestedSpecs (first ++ second) = requestedSpecs first ++ requestedSpecs second :=
  List.filterMap_append

/-- The error of an answer, if it is one. -/
def Reply.error? : Reply → Option JobError
  | .launch (.error error) | .poll (.error error) => some error
  | _ => none

variable {σ : Type} (rehearsal : Rehearsal) (store : Option (Store σ)) {world : Stage × σ}
  {request : Request} {name : String}

private theorem reply_new (new : world.1.jobs.find? name = none)
    (unasked : ∀ spec, request.spec? = some spec → spec.name ≠ name) :
    (rehearsal.reply store request world).2.1.jobs.find? name = none := by
  cases request with
  | launch canceled spec =>
      have name_ne : name ≠ spec.name := (unasked spec rfl).symm
      rw [reply_launch]
      rcases rehearsal.launch_cases store world canceled spec with
        ⟨error, -, launch_eq⟩ | ⟨-, outcome, -, launch_eq⟩
      · rw [launch_eq]
        exact new
      · rw [launch_eq]
        change (world.1.jobs.insert spec.name _).find? name = none
        rw [Table.find?_insert, if_neg name_ne, new]
  | poll canceled other =>
      change (rehearsal.poll canceled other world.1).2.jobs.find? name = none
      rcases rehearsal.poll_cases canceled other world.1 with
        ⟨-, poll_eq⟩ | ⟨-, -, poll_eq⟩ | ⟨-, job, found, poll_eq⟩
      · rw [poll_eq]
        exact new
      · rw [poll_eq]
        exact new
      · rw [poll_eq, Stage.find?_update, if_neg, new]
        rintro rfl
        cases new.symm.trans found
  | _ => exact new

/-- Only a job of an old name already exists. -/
theorem reply_ne_jobAlreadyExists
    (new : ∀ spec, request.spec? = some spec → world.1.jobs.find? spec.name = none) :
    (rehearsal.reply store request world).1.error? ≠ some (.jobAlreadyExists name) := by
  cases request with
  | launch canceled spec =>
      rw [reply_launch]
      cases canceled with
      | true => rintro ⟨⟩
      | false =>
          cases outcome_eq : outcomeOf (rehearsal.behaviourOf spec.operatorName) with
          | error message =>
              simp only [launch, outcome_eq]
              rintro ⟨⟩
          | ok outcome =>
              rw [launch_of_new outcome_eq (new spec rfl)]
              rcases rehearsal.writeResults_cases store spec world.2 with
                written | ⟨message, spoiled⟩
              · rw [written]
                rintro ⟨⟩
              · rw [spoiled]
                rintro ⟨⟩
  | poll canceled other =>
      change (Reply.poll (rehearsal.poll canceled other world.1).1).error? ≠ _
      rcases rehearsal.poll_cases canceled other world.1 with
        ⟨-, poll_eq⟩ | ⟨-, -, poll_eq⟩ | ⟨-, job, -, poll_eq⟩
      · rw [poll_eq]
        rintro ⟨⟩
      · rw [poll_eq]
        rintro ⟨⟩
      · rw [poll_eq]
        unfold answer
        split_ifs <;> rintro ⟨⟩
  | _ => rintro ⟨⟩

/-- Jobs of different names that are all new never already exist. -/
theorem exchanges_ne_jobAlreadyExists {requests : List Request}
    (distinct : ((requestedSpecs requests).map JobSpec.name).Nodup)
    (new : ∀ spec ∈ requestedSpecs requests, world.1.jobs.find? spec.name = none) :
    ∀ exchange ∈ (rehearsal.exchanges store requests world).1,
      exchange.2.error? ≠ some (.jobAlreadyExists name) := by
  induction requests generalizing world with
  | nil => exact List.forall_mem_nil _
  | cons request requests ih =>
      rw [requestedSpecs_cons, List.map_append, List.nodup_append'] at distinct
      rw [requestedSpecs_cons] at new
      rw [exchanges_cons, List.forall_mem_cons]
      refine ⟨rehearsal.reply_ne_jobAlreadyExists store fun spec asked =>
        new spec (List.mem_append_left _ (by simp [asked])), ih distinct.2.1 fun spec later => ?_⟩
      refine rehearsal.reply_new store (new spec (List.mem_append_right _ later)) ?_
      intro other asked same
      exact distinct.2.2 (List.mem_map_of_mem (Option.mem_toList.2 asked))
        (same ▸ List.mem_map_of_mem later)

end Rehearsal
end Workflow
