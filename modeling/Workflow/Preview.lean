import Workflow.Results

/-!
# Previews

A preview runs a workflow on paths of its own and reads the results back.  Operators that send data
to a service are left out unless they are wanted.  Whatever comes of the run, its blobs are deleted
afterwards, unless they are to stay.
-/

namespace Workflow

/-- How previews are made. -/
structure PreviewConfig where
  /-- The time between two rounds of polls. -/
  pollInterval : Duration
  /-- The time after which a run is given up. -/
  timeout : Option Duration
  /-- Whether operators that send data to a service are left out. -/
  skipLoads : Bool
  /-- Whether the blobs of a run are deleted afterwards. -/
  cleanUp : Bool
  deriving DecidableEq

/-- A poll every tenth of a second, no timeout, no loads, and no blobs left. -/
def PreviewConfig.standard : PreviewConfig :=
  ⟨.ofMillis 100, none, true, true⟩

/-- What makes previews in a world of type `ω`. -/
structure PreviewService (ω : Type) where
  /-- What runs the jobs. -/
  backend : Backend ω
  /-- Where the blobs are. -/
  store : Store ω
  /-- How jobs reach the same blobs. -/
  storage : StorageConfig
  /-- Where credentials are kept. -/
  secrets : SecretStoreConfig
  /-- How previews are made. -/
  config : PreviewConfig
  /-- The nanosecond up to which a run is watched. -/
  horizon : Nat

/-- The answer to a preview. -/
structure PreviewResponse where
  /-- Success if every operator succeeded. -/
  status : Status
  /-- The result of every operator that was part of the run. -/
  operators : Table Uuid OperatorResult
  /-- The content of every artifact whose producers all succeeded. -/
  artifacts : Table Uuid ArtifactResult
  deriving DecidableEq

namespace PreviewService

variable {ω : Type}

/-- The part of a workflow that a preview runs. -/
def prepare (service : PreviewService ω) (dag : Dag) : Dag :=
  if service.config.skipLoads then dag.withoutLoads else dag

/-- What the run of a preview is told. -/
def settings (service : PreviewService ω) : RunSettings ω where
  backend := service.backend
  storage := service.storage
  secrets := service.secrets
  pollInterval := service.config.pollInterval
  timeout := service.config.timeout
  horizon := service.horizon

/-- Read back the results of a finished run. -/
def collect (service : PreviewService ω) (dag : Dag) (paths : RunPaths) (report : RunReport) :
    StateM ω (Except Fault PreviewResponse) := do
  let operators ← Results.collectOperators service.store paths report
  let skip := Results.skipSet dag operators
  let artifacts ← Results.collectArtifacts service.store paths dag.artifacts skip
  return artifacts.map (⟨report.status, operators, ·⟩)

/-- Delete the blobs of a run, if that is wanted. -/
def tidy (service : PreviewService ω) (paths : RunPaths) (world : ω) : ω :=
  if service.config.cleanUp then (paths.cleanup service.store true world).2 else world

/-- Run a well-formed workflow, read its results back and delete its blobs. -/
def run (service : PreviewService ω) (dag : Dag) (order : List Uuid) (paths : RunPaths) (id : Uuid)
    (canceledAt : Option Nat) (world : ω) : RunEnd ω PreviewResponse :=
  let ended := dag.execute service.settings order paths id canceledAt world
  match ended.conclusion with
  | .result report =>
      let (response, world) := service.collect dag paths report ended.world
      let conclusion :=
        match response with
        | .ok response => .result response
        | .error fault => .fault fault
      ⟨conclusion, ended.now, ended.calls, service.tidy paths world⟩
  | .fault fault => ⟨.fault fault, ended.now, ended.calls, service.tidy paths ended.world⟩
  | .unfinished => ⟨.unfinished, ended.now, ended.calls, ended.world⟩

/-- Preview a workflow; the paths of its run come from a supply of fresh identifiers. -/
def preview (service : PreviewService ω) (dag : Dag) (fresh : Nat → Uuid) (id : Uuid)
    (canceledAt : Option Nat) (world : ω) : RunEnd ω PreviewResponse :=
  let prepared := service.prepare dag
  match prepared.executionOrder with
  | .ok order => service.run prepared order (.generate fresh prepared) id canceledAt world
  | .error defect => ⟨.fault (.validation defect), 0, [], world⟩

end PreviewService
end Workflow
