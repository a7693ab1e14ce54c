import VpsManager.Cloudflare.Plane
import VpsManager.Cloudflare.Rows

/- The repository of Workers in PostgreSQL. Each statement or transaction is one
step; the update of a deployment is a read, a check and a conditional UPDATE. -/
namespace VpsManager.Cloudflare

open Go Control Checks Persistence Sql

structure Database where
  workers : Keyed Worker.id
  tokens : Keyed StoredToken.workerID
  versions : Keyed StoredWorkerVersion.id
  deployments : Keyed DeploymentRow.id

/-- An instant at the precision of a `timestamptz`. -/
def storedTime (t : Int) : Int := ofTimestamptz (timestamptz t)

/-- The CHECK constraints on the columns of a Worker that a plan changes. -/
def workersChecks : List (Worker → Truth) :=
  [fun worker => test (0 < worker.version.toNat),
    fun worker => test (worker.createdAt ≤ worker.updatedAt)]

/-- `cloudflare_worker_versions_provider_metadata_check` on an uploaded version. -/
def uploadedCheck (version : StoredWorkerVersion) : Truth :=
  both (test (lengthBetween 1 128 version.metadata.providerVersionID = true))
    (test (0 ≤ version.metadata.providerVersionNumber))

namespace Database

variable (db : Database)

def getWorker (id : String) : Except StoreError Worker := do
  sendTexts [id]
  orError (db.workers.get id) .notFound

def getWorkerVersion (workerID versionID : String) : Except StoreError StoredWorkerVersion := do
  sendTexts [workerID, versionID]
  let version ← orError (db.versions.get versionID) .notFound
  ensure (version.metadata.workerID = workerID) .notFound
  return version

def getWorkerToken (workerID : String) : Except StoreError StoredToken := do
  sendTexts [workerID]
  orError (db.tokens.get workerID) .notFound

/-- The row that `GetWorkerDeployment` of the persistence layer reads. -/
def findDeployment (workerID deploymentID : String) : Except StoreError DeploymentRow := do
  sendTexts [workerID, deploymentID]
  let row ← orError (db.deployments.get deploymentID) .notFound
  ensure (row.workerID = workerID) .notFound
  return row

def getWorkerDeployment (workerID deploymentID : String) : Except StoreError Deployment := do
  let row ← db.findDeployment workerID deploymentID
  return persistenceToWorkerDeployment row

def planWorkerDeployment (installationID : String) (deployment : Deployment) (updated : Worker) :
    Except StoreError Database := do
  sendTexts [deployment.workerID]
  let worker ← orError (db.workers.get deployment.workerID) .notFound
  ensure (deployment.previousDesiredVersionID = worker.desiredVersionID ∧
    updated.version = worker.version + 1 ∧ updated.desiredVersionID = deployment.versionID ∧
    deployment.providerExecutionAllowed = false) .conflict
  ensure (nulFree deployment.versionID = true) (.other "verify PostgreSQL worker version")
  ensure ((∃ version ∈ db.versions.get deployment.versionID,
      version.metadata.workerID = deployment.workerID) ∧
    (db.tokens.get deployment.workerID).isSome = true) .notFound
  ensure (¬ (deployment.kind = .rollback ∧
    (worker.desiredVersionID = "" ∨ worker.desiredVersionID = deployment.versionID))) .conflict
  sendTexts [deployment.id, deployment.kind.name, deployment.createdBy]
  let row := insertedRow installationID deployment
  ensure (Satisfies cloudflareDeploymentsChecks row) operationFailed
  ensure (db.deployments.get deployment.id = none) .conflict
  let _ ← orError (bigint updated.version) operationFailed
  let target ← orError (db.workers.get updated.id) .conflict
  ensure (target.version = worker.version) .conflict
  let written := { target with
    desiredVersionID := updated.desiredVersionID
    version := updated.version
    updatedAt := storedTime updated.updatedAt }
  ensure (Satisfies workersChecks written) operationFailed
  return { db with deployments := db.deployments.put row, workers := db.workers.put written }

def updateWorkerVersionProvider (workerID versionID providerVersionID : String)
    (providerVersionNumber uploadedAt : Int) : Except StoreError Database := do
  ensure (¬ (workerID = "" ∨ versionID = "" ∨ providerVersionID = "" ∨
    providerVersionNumber < 0 ∨ uploadedAt = zeroTime)) .conflict
  sendTexts [workerID, versionID, providerVersionID]
  let version ← orError (db.versions.get versionID) .conflict
  ensure (version.metadata.workerID = workerID) .conflict
  let written := { version with
    metadata := { version.metadata with
      providerVersionID := providerVersionID
      providerVersionNumber := providerVersionNumber
      providerUploadedAt := some (storedTime uploadedAt) } }
  ensure (passes (uploadedCheck written)) operationFailed
  return { db with versions := db.versions.put written }

/-- `UpdateWorkerDeployment` up to its UPDATE. -/
def checkDeployment (updated : Deployment) (expected : State) : UpdateStep Database :=
  match db.findDeployment updated.workerID updated.id with
  | .error error => .done (.error error)
  | .ok current =>
    if current.state = expected.name ∧
        validWorkerDeploymentTransition (persistenceToWorkerDeployment current) updated =
          true then
      .checked
    else .done (.error .conflict)

/-- The UPDATE of `UpdateWorkerDeployment`, whose only condition is the expected state. -/
def updateWorkerDeployment (installationID : String) (updated : Deployment) (expected : State) :
    Except StoreError Database := do
  ensure (¬ (installationID = "" ∨ updated.id = "" ∨ updated.workerID = "" ∨
    expected.name = "")) .conflict
  ensure (updated.state = .running ∨ updated.state = .succeeded ∨ updated.state = .failed) .conflict
  sendTexts [updated.workerID, updated.id, updated.providerVersionID, updated.providerDeploymentID,
    updated.providerState, updated.errorCode]
  let row ← orError (db.deployments.get updated.id) .conflict
  ensure (row.workerID = updated.workerID ∧ row.state = expected.name) .conflict
  let written ← orError (updatedRow row updated) operationFailed
  ensure (Satisfies cloudflareDeploymentsChecks written) operationFailed
  return { db with deployments := db.deployments.put written }

variable {db} {installationID : String} {after : Database} {updated : Deployment} {expected : State}

theorem planWorkerDeployment_ok {deployment : Deployment} {updated : Worker}
    (planned : db.planWorkerDeployment installationID deployment updated = .ok after) :
    db.deployments.get deployment.id = none ∧
      after.deployments = db.deployments.put (insertedRow installationID deployment) := by
  simp only [planWorkerDeployment, bind_eq_ok, ensure_eq_ok, pure_eq_ok] at planned
  obtain ⟨_, -, _, -, _, -, _, -, _, -, _, -, _, -, _, -, _, fresh, _, -, _, -, _, -, _, -, rfl⟩ :=
    planned
  exact ⟨fresh, rfl⟩

theorem updateWorkerVersionProvider_ok {workerID versionID providerVersionID : String}
    {number uploadedAt : Int}
    (done : db.updateWorkerVersionProvider workerID versionID providerVersionID number uploadedAt =
      .ok after) : after.deployments = db.deployments := by
  simp only [updateWorkerVersionProvider, bind_eq_ok, ensure_eq_ok, pure_eq_ok] at done
  obtain ⟨_, -, _, -, _, -, _, -, _, -, rfl⟩ := done
  rfl

theorem checkDeployment_ne_ok : db.checkDeployment updated expected ≠ .done (.ok after) := by
  unfold checkDeployment
  split
  · nofun
  · split <;> nofun

theorem updateWorkerDeployment_ok
    (done : db.updateWorkerDeployment installationID updated expected = .ok after) :
    ∃ row, db.deployments.get updated.id = some row ∧ row.state = expected.name ∧
      row.id = updated.id ∧
      after.deployments = db.deployments.put (updatedColumns row updated) := by
  simp only [updateWorkerDeployment, bind_eq_ok, ensure_eq_ok, orError_eq_ok, pure_eq_ok] at done
  obtain ⟨_, -, _, -, _, -, row, found, _, ⟨-, state⟩, written, sent, _, -, rfl⟩ := done
  obtain ⟨-, rfl⟩ := updatedRow_eq_some.mp sent
  exact ⟨row, found, state, Keyed.key_of_get found, rfl⟩

end Database

/-- The repository over a database, where any request may change the other tables. -/
def postgres (installationID : String) : Repository Database where
  getWorker := Database.getWorker
  getWorkerVersion := Database.getWorkerVersion
  getWorkerToken := Database.getWorkerToken
  getWorkerDeployment := Database.getWorkerDeployment
  planWorkerDeployment db := db.planWorkerDeployment installationID
  updateWorkerVersionProvider := Database.updateWorkerVersionProvider
  updateWorkerDeployment := Database.checkDeployment
  writeDeployment db := db.updateWorkerDeployment installationID
  change db after := after.deployments = db.deployments

end VpsManager.Cloudflare
