import VpsManager.Cloudflare.Model
import VpsManager.Control.Server

namespace VpsManager.Cloudflare

open Go Control Checks

def requireGlobalWorkerScope (principal : Principal) : Except ApiError Unit :=
  ensure (principal.allHosts = true)
    ⟨403, "global_scope_required", "Cloudflare worker resources require a global session scope"⟩

structure CreateWorkerDeploymentRequest where
  versionID : String
  kind : Kind
  deriving DecidableEq, Repr

/-- `createWorkerDeployment` up to its first read. -/
def acceptPlan (principal : Principal) (body : Except String CreateWorkerDeploymentRequest) :
    Except ApiError CreateWorkerDeploymentRequest := do
  requireGlobalWorkerScope principal
  let input ← body.mapError fun message => ⟨400, "invalid_request", message⟩
  ensure (hasPrefix input.versionID "wver_" = true ∧ len input.versionID ≤ 128 ∧
      (input.kind = .deploy ∨ input.kind = .rollback))
    ⟨400, "validation_error", "versionId and kind deploy or rollback are required"⟩
  return input

def tokenRequired (message : String) : ApiError := ⟨409, "token_required", message⟩

def plannedDeployment (worker : Worker) (workerID : String) (input : CreateWorkerDeploymentRequest)
    (id createdBy : String) (now : Int) : Deployment where
  id := id
  workerID := workerID
  versionID := input.versionID
  previousDesiredVersionID := worker.desiredVersionID
  kind := input.kind
  state := .readyForProvider
  providerExecutionAllowed := false
  providerVersionID := ""
  providerDeploymentID := ""
  providerState := ""
  errorCode := ""
  startedAt := none
  finishedAt := none
  createdAt := now
  createdBy := createdBy

def plannedWorker (worker : Worker) (input : CreateWorkerDeploymentRequest) (now : Int) : Worker :=
  { worker with
    desiredVersionID := input.versionID
    version := worker.version + 1
    updatedAt := now }

def planStoreError : StoreError → ApiError
  | .conflict =>
    ⟨409, "version_conflict", "deployment plan conflicts with current desired state"⟩
  | error => writeStoreError error

structure Boundary where
  cloudflareExecutionEnabled : Bool
  secretExecutionEnabled : Bool
  /-- Whether there is a provider factory. -/
  cloudflareProviderFactory : Bool
  deriving DecidableEq, Repr

/-- `executeWorkerDeployment` up to its first read. -/
def acceptExecution (boundary : Boundary) (principal : Principal) (body : Except String Unit) :
    Except ApiError Unit := do
  requireGlobalWorkerScope principal
  ensure (boundary.cloudflareExecutionEnabled = true ∧ boundary.secretExecutionEnabled = true ∧
      boundary.cloudflareProviderFactory = true)
    ⟨503, "execution_boundary_unavailable", "Cloudflare provider execution is unavailable"⟩
  body.mapError fun message => ⟨400, "invalid_request", message⟩

def checkReady (deployment : Deployment) : Except ApiError Unit :=
  ensure (deployment.state = .readyForProvider ∧ deployment.providerExecutionAllowed = false)
    ⟨409, "deployment_not_ready", "deployment is not ready for provider execution"⟩

def checkNotSuperseded (worker : Worker) (deployment : Deployment) : Except ApiError Unit :=
  ensure (worker.desiredVersionID = deployment.versionID)
    ⟨409, "deployment_superseded",
      "deployment plan has been superseded by a newer desired version"⟩

def checkUploaded (version : StoredWorkerVersion) (deployment : Deployment) :
    Except ApiError Unit :=
  ensure (¬ (deployment.kind = .rollback ∧ version.metadata.providerVersionID = ""))
    ⟨409, "provider_version_required", "rollback target has not been uploaded to Cloudflare"⟩

def tokenStoreError : StoreError → ApiError
  | .notFound => tokenRequired "an encrypted Cloudflare token is required"
  | error => writeStoreError error

inductive ErrorKind
  | validation
  | authentication
  | permission
  | accountScope
  | notFound
  | conflict
  | rateLimited
  | provider
  | responseTooLarge
  | timeout
  | transport
  | redirect
  | cancelled
  deriving DecidableEq, Repr

def ErrorKind.name : ErrorKind → String
  | .validation => "validation"
  | .authentication => "authentication"
  | .permission => "permission"
  | .accountScope => "account_scope"
  | .notFound => "not_found"
  | .conflict => "conflict"
  | .rateLimited => "rate_limited"
  | .provider => "provider"
  | .responseTooLarge => "response_too_large"
  | .timeout => "timeout"
  | .transport => "transport"
  | .redirect => "redirect"
  | .cancelled => "cancelled"

/-- An error of the provider; `none` is one of another type. -/
abbrev ProviderError := Option ErrorKind

def classifyCloudflareProviderError : ProviderError → String × Nat
  | none => ("cloudflare_provider_failed", 502)
  | some kind =>
    ("cloudflare_" ++ kind.name,
      match kind with
      | .conflict | .notFound => 409
      | .rateLimited | .timeout | .transport => 503
      | _ => 502)

structure UploadedVersion where
  id : String
  number : Int
  createdAt : Option Int
  scriptName : String
  sha256 : String
  sizeBytes : Int
  deriving DecidableEq, Repr

/-- What the provider answers to `DeployVersion` and `Rollback`. -/
structure ProviderDeployment where
  id : String
  scriptName : String
  state : String
  deriving DecidableEq, Repr

def runningDeployment (deployment : Deployment) (version : StoredWorkerVersion) (now : Int) :
    Deployment :=
  { deployment with
    state := .running
    providerExecutionAllowed := true
    startedAt := some now
    providerVersionID :=
      if deployment.kind = .rollback then version.metadata.providerVersionID
      else deployment.providerVersionID }

/-- Whether an upload is of the module that was sent. -/
def UploadedVersion.matches (uploaded : UploadedVersion) (worker : Worker)
    (version : StoredWorkerVersion) : Bool :=
  uploaded.id != "" && uploaded.scriptName == worker.scriptName &&
    uploaded.sizeBytes == version.metadata.sizeBytes &&
    "sha256:" ++ uploaded.sha256 == version.metadata.sha256

def ProviderDeployment.isActive (answer : ProviderDeployment) (worker : Worker) : Bool :=
  answer.id != "" && answer.scriptName == worker.scriptName && answer.state == "active"

def succeededDeployment (running : Deployment) (providerVersionID : String)
    (answer : ProviderDeployment) (now : Int) : Deployment :=
  { running with
    state := .succeeded
    providerVersionID := providerVersionID
    providerDeploymentID := answer.id
    providerState := answer.state
    errorCode := ""
    finishedAt := some now }

/-- The record `failCloudflareDeploymentCode` writes. -/
def failedDeployment (running : Deployment) (providerVersionID code : String) (now : Int) :
    Deployment :=
  { running with
    state := .failed
    providerVersionID := providerVersionID
    errorCode := code
    finishedAt := some now }

def executionFailed (code : String) (status : Nat) : ApiError :=
  ⟨status, code, "Cloudflare deployment execution failed"⟩

/-- The answer if the first update of an execution is refused. -/
def startStoreError : StoreError → ApiError
  | .conflict =>
    ⟨409, "deployment_not_ready", "deployment is not ready for provider execution"⟩
  | _ => ⟨500, "persistence_failure", "deployment execution state could not be saved"⟩

def sampleWorker : Worker where
  id := "worker_1"
  name := "edge"
  accountID := "0123456789abcdef0123456789abcdef"
  scriptName := "edge"
  desiredVersionID := ""
  version := 1
  createdAt := 0
  updatedAt := 0

def sampleInput : CreateWorkerDeploymentRequest := ⟨"wver_1", .deploy⟩

end VpsManager.Cloudflare
