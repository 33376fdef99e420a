import Workflow.Proofs.Dag.Keys
import Workflow.Proofs.Preview.Reading
import Workflow.Proofs.Run.Conversation
import Workflow.Proofs.Run.Rounds
import Workflow.Proofs.Run.Specification

/-!
# What a preview leaves behind

A backend is confined when it writes only during its calls and only where the specifications that it
was given say.  All these paths are deleted after a preview, however it ends, so that at most a blob
is left whose own deletion has failed.
-/

namespace Workflow

variable {ω : Type} {blobs : ω → Memory}

/-- A specification was given to the backend with one of the calls or with the next one. -/
def Calls.Given (calls : List CallRecord) (next : CallSubject) (spec : JobSpec) : Prop :=
  next = .launch spec ∨ ∃ call ∈ calls, call.subject = .launch spec

/-- In every conversation that begins in a world, each call changes blobs only where the
specifications given so far say, whether it is answered or abandoned. -/
def Backend.Confined (backend : Backend ω) (blobs : ω → Memory) (first : ω) : Prop :=
  ∀ ⦃calls world now⦄, backend.Conversation first calls world now → ∀ subject (paths : List String),
    (∀ spec, Calls.Given calls subject spec → spec.writable ⊆ paths) →
      (blobs world).SameOutside paths (blobs (backend.respond subject world).begun) ∧
      ∀ result after, (backend.respond subject world).answer = some (result, after) →
        (blobs world).SameOutside paths (blobs after)

namespace Run

variable {settings : RunSettings ω} {dag : Dag} {paths : RunPaths} {id : Uuid} {order : List Uuid}
  {first : ω} {run : Run ω}

/-- A run has changed blobs only at its own paths, and told the backend of no others. -/
structure Contained (settings : RunSettings ω) (blobs : ω → Memory) (paths : RunPaths) (first : ω)
    (run : Run ω) : Prop where
  /-- The calls so far were answered. -/
  conversation : settings.backend.Conversation first run.calls run.world run.now
  /-- The backend was told of no other paths. -/
  given : ∀ call ∈ run.calls, ∀ spec, call.subject = .launch spec → spec.writable ⊆ paths.all
  /-- No other blob has changed. -/
  outside : (blobs first).SameOutside paths.all (blobs run.world)

private theorem Contained.perform {α : Type} (confined : settings.backend.Confined blobs first)
    (contained : run.Contained settings blobs paths first) {operator : Uuid} {subject : CallSubject}
    {call : ω → BackendCall ω α} {result : α → CallResult}
    (responds : settings.backend.respond subject run.world = (call run.world).map result)
    (own : ∀ spec, subject = .launch spec → spec.writable ⊆ paths.all) :
    Ensures (fun (_, next) => next.Contained settings blobs paths first)
      (fun stopped => (blobs first).SameOutside paths.all (blobs stopped.run.world))
      (run.perform settings operator subject call result) := by
  have given (spec : JobSpec) (spec_given : Calls.Given run.calls subject spec) :
      spec.writable ⊆ paths.all := by
    rcases spec_given with next | ⟨earlier, member, launched⟩
    · exact own spec next
    · exact contained.given earlier member spec launched
  obtain ⟨begun, answered⟩ := confined contained.conversation subject paths.all given
  refine (run.perform_ends settings operator subject rfl result).mono ?_ ?_
  · rintro ⟨answer, next⟩ ⟨canceledAt, world, answer_eq, next_eq⟩
    obtain ⟨conversation, calls_eq⟩ :=
      converses contained.conversation responds answer_eq next_eq
    refine ⟨conversation, ?_, ?_⟩
    · rw [calls_eq]
      intro other member spec launched
      rcases List.mem_append.1 member with earlier | last
      · exact contained.given other earlier spec launched
      · rw [List.mem_singleton.1 last] at launched
        exact own spec launched
    · rw [next_eq]
      exact contained.outside.trans
        (answered _ _ (Backend.answer_respond responds answer_eq))
  · rw [responds] at begun
    rintro stopped (⟨moment, run_eq⟩ | ⟨moment, canceledAt, run_eq⟩)
    · rw [run_eq]
      exact contained.outside
    · rw [run_eq]
      exact contained.outside.trans begun

/-- Each launch, poll and wait keeps to the paths of the run. -/
theorem kept_contained (confined : settings.backend.Confined blobs first) :
    Kept settings dag paths id (.build dag) order (Contained settings blobs paths first)
      (fun stopped => (blobs first).SameOutside paths.all (blobs stopped.run.world)) where
  launch {run operator} faithful contained ready := by
    refine ensures_launch (fun _ => contained.outside) (fun _ _ _ _ => contained.outside)
      fun found spec _ build_eq => ?_
    have responds : settings.backend.respond (.launch spec) run.world =
        (settings.backend.launch spec run.world).map launchResult := rfl
    have own (other : JobSpec) (same : CallSubject.launch spec = .launch other) :
        other.writable ⊆ paths.all := by
      obtain rfl := CallSubject.launch.inj same
      exact ((JobSpec.build_ensures settings paths id found).of_eq_ok build_eq).2
    refine (contained.perform confined responds own).mono_value ?_
    rintro ⟨answer, next⟩ ⟨conversation, given, outside⟩
    cases answer <;> exact ⟨conversation, given, outside⟩
  poll {run operator} faithful contained dispatched := by
    refine ensures_poll (fun _ => contained) fun job _ => ?_
    have responds : settings.backend.respond (.poll operator job) run.world =
        (settings.backend.poll job run.world).map pollResult := rfl
    refine (contained.perform confined responds (by simp)).mono_value ?_
    rintro ⟨answer, next⟩ ⟨conversation, given, outside⟩
    obtain ⟨progress, heeded_eq⟩ := next.heedPoll_eq operator answer
    simp only [heeded_eq]
    exact ⟨conversation, given, outside⟩
  wait {run due} faithful contained := by
    cases wait_eq : run.wait settings due with
    | error stopped =>
        obtain ⟨moment, run_eq⟩ := wait_eq_error wait_eq
        change (blobs first).SameOutside paths.all (blobs stopped.run.world)
        rw [run_eq]
        exact contained.outside
    | ok waited =>
        obtain rfl := wait_eq_ok wait_eq
        exact ⟨contained.conversation.pause (le_max_left _ _), contained.given, contained.outside⟩
  cancel _ contained _ := contained.outside

/-- A run changes no blob but at its own paths, however it ends. -/
theorem execute_outside (accepted : dag.executionOrder = .ok order)
    (confined : settings.backend.Confined blobs first) (canceledAt : Option Nat) :
    (blobs first).SameOutside paths.all
      (blobs (dag.execute settings order paths id canceledAt first).world) := by
  have kept : Kept settings dag paths id (.build dag) order (Contained settings blobs paths first)
      (fun stopped => (blobs first).SameOutside paths.all (blobs stopped.run.world)) :=
    kept_contained confined
  have start_contained : (start order dag canceledAt first).Contained settings blobs paths first :=
    ⟨.start, by simp [start, calls], fun _ _ => rfl⟩
  have outcome := kept.from_start accepted start_contained
  unfold Dag.execute
  split
  · rename_i run run_eq
    exact (outcome.of_eq_ok run_eq).2.1.outside
  · rename_i stopped stopped_eq
    exact outcome.of_eq_error stopped_eq

end Run

theorem RunPaths.mem_disposable {paths : RunPaths} {path : String} :
    path ∈ paths.disposable true ↔ path ∈ paths.all := by
  simp only [disposable, all, if_pos, List.mem_append]
  tauto

namespace PreviewService

variable {service : PreviewService ω} {dag : Dag} {order : List Uuid} {paths : RunPaths}
  {fresh : Nat → Uuid} {id : Uuid} {canceledAt : Option Nat} {world : ω}

/-- A run that ends is followed by a sweep over its paths, and nothing else has changed before. -/
theorem run_swept (shows : service.store.Shows blobs) (cleans : service.config.cleanUp = true)
    (accepted : dag.executionOrder = .ok order) (confined : service.backend.Confined blobs world)
    (returns : (service.run dag order paths id canceledAt world).conclusion ≠ .unfinished) :
    ∃ before, (blobs world).SameOutside paths.all (blobs before) ∧
      (service.run dag order paths id canceledAt world).world =
        (service.store.sweep (paths.disposable true) before).2 := by
  have outside : (blobs world).SameOutside paths.all
      (blobs (dag.execute service.settings order paths id canceledAt world).world) :=
    Run.execute_outside accepted confined canceledAt
  have tidy_eq (before : ω) : service.tidy paths before =
      (service.store.sweep (paths.disposable true) before).2 := by
    rw [tidy, if_pos cleans, RunPaths.cleanup_eq]
  unfold run at returns ⊢
  dsimp only at returns ⊢
  split
  · rename_i report conclusion_eq
    exact ⟨_, (reads_collect shows dag paths report _).symm ▸ outside, tidy_eq _⟩
  · exact ⟨_, outside, tidy_eq _⟩
  · rename_i conclusion_eq
    simp [conclusion_eq] at returns

/-- How deletions go makes no difference to the answer. -/
theorem preview_of_delete (service : PreviewService ω) (dag : Dag) (fresh : Nat → Uuid) (id : Uuid)
    (canceledAt : Option Nat) (world : ω)
    (delete : String → StateM ω (Except StorageError Unit)) :
    let other : PreviewService ω := { service with store := { service.store with delete } }
    let ended := service.preview dag fresh id canceledAt world
    let other_ended := other.preview dag fresh id canceledAt world
    other_ended.conclusion = ended.conclusion ∧ other_ended.now = ended.now ∧
      other_ended.calls = ended.calls := by
  intro other ended other_ended
  have prepare_eq : other.prepare dag = service.prepare dag := rfl
  have settings_eq : other.settings = service.settings := rfl
  have collect_eq (dag : Dag) (paths : RunPaths) (report : RunReport) :
      other.collect dag paths report = service.collect dag paths report :=
    service.collect_of_delete delete dag paths report
  unfold other_ended ended preview
  rw [prepare_eq]
  dsimp only
  split
  · simp only [run, settings_eq, collect_eq]
    split <;> exact ⟨rfl, rfl, rfl⟩
  · exact ⟨rfl, rfl, rfl⟩

/-- Sweeping over paths that were empty before brings a preview's blobs back, but for failures. -/
theorem find?_swept (shows : service.store.Shows blobs) {before : ω}
    (outside : (blobs world).SameOutside paths.all (blobs before))
    (unused : ∀ path ∈ paths.all, (blobs world).find? path = none) (path : String) :
    (blobs (service.store.sweep (paths.disposable true) before).2).find? path =
        (blobs world).find? path ∨
      path ∈ paths.all ∧
        ∃ failure, (path, .error failure) ∈
          (service.store.sweep (paths.disposable true) before).1 := by
  by_cases member : path ∈ paths.all
  · rw [unused path member]
    exact (shows.sweep_inside (.inl (RunPaths.mem_disposable.2 member))).imp_right
      fun failed => ⟨member, failed⟩
  · have kept := shows.sweep_outside (paths.disposable true) before path
      (mt RunPaths.mem_disposable.1 member)
    exact .inl (kept.trans (outside path member))

/-- A preview leaves no blobs behind.  Whatever comes of it, each path that was generated for it is
deleted, and other blobs are as they were before; so a blob can only be left where its own deletion
has failed.  A failure keeps no other path from being deleted, and how the deletions go makes no
difference to the answer. -/
theorem preview_leaves_no_blobs (shows : service.store.Shows blobs)
    (cleans : service.config.cleanUp = true) (confined : service.backend.Confined blobs world)
    (paths_eq : paths = .generate fresh (service.prepare dag))
    (unused : ∀ path ∈ paths.all, (blobs world).find? path = none)
    {ended : RunEnd ω PreviewResponse}
    (ended_eq : ended = service.preview dag fresh id canceledAt world)
    (returns : ended.conclusion ≠ .unfinished) :
    ∃ deletions : List (String × Except StorageError Unit),
      (match (service.prepare dag).executionOrder with
        | .ok _ => deletions.map Prod.fst = paths.disposable true ∧
            ∃ before, service.store.sweep (paths.disposable true) before = (deletions, ended.world)
        | .error _ => deletions = [] ∧ ended.world = world) ∧
      (∀ path, (blobs ended.world).find? path = (blobs world).find? path ∨
        path ∈ paths.all ∧ ∃ failure, (path, .error failure) ∈ deletions) ∧
      ((∀ path failure, (path, .error failure) ∉ deletions) → blobs ended.world = blobs world) ∧
      ∀ delete : String → StateM ω (Except StorageError Unit),
        let other : PreviewService ω := { service with store := { service.store with delete } }
        let other_ended := other.preview dag fresh id canceledAt world
        other_ended.conclusion = ended.conclusion ∧ other_ended.now = ended.now ∧
          other_ended.calls = ended.calls := by
  have unchanged := service.preview_of_delete dag fresh id canceledAt world
  subst ended_eq
  cases order_eq : (service.prepare dag).executionOrder with
  | error defect =>
      have world_eq : (service.preview dag fresh id canceledAt world).world = world := by
        simp only [preview, order_eq]
      exact ⟨[], ⟨rfl, world_eq⟩, fun _ => .inl (by rw [world_eq]), fun _ => by rw [world_eq],
        unchanged⟩
  | ok order =>
      have preview_eq : service.preview dag fresh id canceledAt world =
          service.run (service.prepare dag) order paths id canceledAt world := by
        simp only [preview, order_eq, paths_eq]
      rw [preview_eq] at returns
      obtain ⟨before, outside, world_eq⟩ := run_swept shows cleans order_eq confined returns
      rw [← preview_eq] at world_eq
      have restored := find?_swept shows outside unused
      rw [← world_eq] at restored
      refine ⟨(service.store.sweep (paths.disposable true) before).1,
        ⟨service.store.paths_sweep _ _, before, Prod.ext rfl world_eq.symm⟩, restored,
        fun deleted => Table.eq_of_find?_eq fun path => ?_, unchanged⟩
      exact (restored path).resolve_right fun ⟨_, failure, failed⟩ => deleted path failure failed

/-- A preview that cannot read its blobs, with a backend that counts its polls.  Each launch leaves
an empty blob at every path where the job is to write, and is answered after a millisecond. -/
def littering : PreviewService (Nat × Memory) where
  backend :=
    { config := .process "" ""
      launch := fun spec (polls, blobs) =>
        let littered := spec.writable.foldl (fun blobs path => blobs.insert path []) blobs
        ⟨(polls, littered), 1, false, some (.ok (), (polls, littered))⟩
      poll := fun _ (polls, blobs) => .now (.ok .running, (polls + 1, blobs)) }
  store := (Memory.store.failing [.get]).onSecond
  storage := .file ""
  secrets := .file ""
  config := .standard
  horizon := (Duration.ofMillis 9).nanos

private theorem confined_littering (first : Nat × Memory) :
    littering.backend.Confined Prod.snd first := by
  intro calls world now _ subject paths given
  cases subject with
  | launch spec =>
      have littered := (Memory.sameOutside_foldl_insert [] spec.writable world.2).mono
        (given spec (.inl rfl))
      refine ⟨littered, fun result after answer_eq => ?_⟩
      obtain ⟨_, rfl⟩ := Prod.mk.inj (Option.some.inj answer_eq)
      exact littered
  | poll operator job =>
      refine ⟨fun _ _ => rfl, fun result after answer_eq => ?_⟩
      obtain ⟨_, rfl⟩ := Prod.mk.inj (Option.some.inj answer_eq)
      exact fun _ _ => rfl

/-- A preview of a join is canceled with two jobs in flight, and a blob from before is all that
remains. -/
theorem preview_leaves_no_blobs_join :
    ∃ blobs ended, blobs = Table.empty.insert "kept" [1] ∧
      ended = littering.preview .join .ofNat .nil (some 3) (0, blobs) ∧
      ended.conclusion = .fault (.canceled 2) ∧ ended.world.2 = blobs := by
  let blobs : Memory := Table.empty.insert "kept" [1]
  have shows : littering.store.Shows Prod.snd := (Store.shows_memory.failing [.get]).onSecond
  have unused : ∀ path ∈ (RunPaths.generate .ofNat (littering.prepare .join)).all,
      blobs.find? path = none := by decide +kernel
  have canceled : (littering.preview .join .ofNat .nil (some 3) (0, blobs)).conclusion =
      .fault (.canceled 2) := by decide +kernel
  obtain ⟨deletions, swept, _, restored, _⟩ := preview_leaves_no_blobs shows rfl
    (confined_littering (0, blobs)) rfl unused rfl (by rw [canceled]; exact nofun)
  have accepted : (littering.prepare .join).executionOrder =
      .ok [.ofNat 1, .ofNat 2, .ofNat 3, .ofNat 4] := by decide +kernel
  rw [accepted] at swept
  obtain ⟨_, before, sweep_eq⟩ := swept
  refine ⟨blobs, _, rfl, rfl, canceled, restored fun path failure failed => ?_⟩
  have granted (path : String) (state : Nat × Memory) :
      (littering.store.delete path state).1 = .ok () := rfl
  have deleted := Store.not_mem_sweep granted
    (RunPaths.disposable (.generate .ofNat (littering.prepare .join)) true) before path failure
  rw [sweep_eq] at deleted
  exact deleted failed

end PreviewService
end Workflow
