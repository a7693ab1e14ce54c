import VpsManager.Cloudflare.Model

/- The in-process repository of Workers. Each function is one critical section of
the source. -/
namespace VpsManager.Cloudflare

open Go Control Checks

/-- Tokens are stored by their Worker's ID, the other records by their own. -/
structure Tables where
  workers : Keyed Worker.id
  tokens : Keyed StoredToken.workerID
  versions : Keyed StoredWorkerVersion.id
  deployments : Keyed Deployment.id

namespace Tables

variable (m : Tables)

def createWorker (worker : Worker) : Except StoreError Tables := do
  ensure (m.workers.get worker.id = none) .conflict
  return { m with workers := m.workers.put worker }

def getWorker (id : String) : Except StoreError Worker := orError (m.workers.get id) .notFound

def putWorkerToken (token : StoredToken) : Except StoreError Tables := do
  let _ ← orError (m.workers.get token.workerID) .notFound
  return { m with tokens := m.tokens.put token }

def getWorkerToken (workerID : String) : Except StoreError StoredToken :=
  orError (m.tokens.get workerID) .notFound

def deleteWorkerToken (workerID : String) : Except StoreError Tables := do
  let _ ← orError (m.tokens.get workerID) .notFound
  return { m with tokens := m.tokens.erase workerID }

def createWorkerVersion (version : StoredWorkerVersion) : Except StoreError Tables := do
  let _ ← orError (m.workers.get version.metadata.workerID) .notFound
  ensure (m.versions.get version.id = none) .conflict
  return { m with versions := m.versions.put version }

def getWorkerVersion (workerID versionID : String) : Except StoreError StoredWorkerVersion := do
  let version ← orError (m.versions.get versionID) .notFound
  ensure (version.metadata.workerID = workerID) .notFound
  return version

def planWorkerDeployment (deployment : Deployment) (updated : Worker) :
    Except StoreError Tables := do
  ensure ((deployment.kind = .deploy ∨ deployment.kind = .rollback) ∧
    deployment.state = .readyForProvider ∧ deployment.providerExecutionAllowed = false) .conflict
  let worker ← orError (m.workers.get deployment.workerID) .notFound
  let version ← orError (m.versions.get deployment.versionID) .notFound
  ensure (version.metadata.workerID = worker.id) .notFound
  let _ ← orError (m.tokens.get worker.id) .notFound
  ensure (m.deployments.get deployment.id = none) .conflict
  ensure (deployment.previousDesiredVersionID = worker.desiredVersionID) .conflict
  ensure (¬ (deployment.kind = .rollback ∧
    (worker.desiredVersionID = "" ∨ worker.desiredVersionID = deployment.versionID))) .conflict
  ensure (updated.id = worker.id ∧ updated.version = worker.version + 1 ∧
    updated.desiredVersionID = deployment.versionID) .conflict
  return { m with
    deployments := m.deployments.put deployment
    workers := m.workers.put updated }

def updateWorkerVersionProvider (workerID versionID providerVersionID : String)
    (providerVersionNumber uploadedAt : Int) : Except StoreError Tables := do
  ensure (¬ (workerID = "" ∨ versionID = "" ∨ providerVersionID = "" ∨
    providerVersionNumber < 0 ∨ uploadedAt = zeroTime)) .conflict
  let version ← m.getWorkerVersion workerID versionID
  return { m with
    versions := m.versions.put { version with
      metadata := { version.metadata with
        providerVersionID := providerVersionID
        providerVersionNumber := providerVersionNumber
        providerUploadedAt := some uploadedAt } } }

def getWorkerDeployment (workerID deploymentID : String) : Except StoreError Deployment := do
  let deployment ← orError (m.deployments.get deploymentID) .notFound
  ensure (deployment.workerID = workerID) .notFound
  return deployment

def updateWorkerDeployment (updated : Deployment) (expectedState : State) :
    Except StoreError Tables := do
  let current ← orError (m.deployments.get updated.id) .notFound
  ensure (current.workerID = updated.workerID) .notFound
  ensure (current.state = expectedState ∧
    validWorkerDeploymentTransition current updated = true) .conflict
  return { m with deployments := m.deployments.put updated }

variable {m}

/-- What a plan that is accepted has met, and what it leaves. -/
structure PlanAccepted (m after : Tables) (deployment : Deployment) (updated worker : Worker)
    (version : StoredWorkerVersion) : Prop where
  kind : deployment.kind = .deploy ∨ deployment.kind = .rollback
  state : deployment.state = .readyForProvider
  hasWorker : m.workers.get deployment.workerID = some worker
  hasVersion : m.versions.get deployment.versionID = some version
  owned : version.metadata.workerID = worker.id
  fresh : m.deployments.get deployment.id = none
  previous : deployment.previousDesiredVersionID = worker.desiredVersionID
  rollback : deployment.kind = .rollback →
    worker.desiredVersionID ≠ "" ∧ worker.desiredVersionID ≠ deployment.versionID
  updatedID : updated.id = worker.id
  updatedVersion : updated.version = worker.version + 1
  desired : updated.desiredVersionID = deployment.versionID
  after : after = { m with
    deployments := m.deployments.put deployment
    workers := m.workers.put updated }

theorem planWorkerDeployment_ok {deployment : Deployment} {updated : Worker} {after : Tables}
    (planned : m.planWorkerDeployment deployment updated = .ok after) :
    ∃ worker version, PlanAccepted m after deployment updated worker version := by
  simp only [planWorkerDeployment, bind_eq_ok, ensure_eq_ok, orError_eq_ok, pure_eq_ok] at planned
  obtain ⟨_, ⟨kind, state, -⟩, worker, found, version, hasVersion, _, owned, _, -, _, fresh, _,
    previous, _, rollback, _, ⟨updatedID, updatedVersion, desired⟩, rfl⟩ := planned
  refine ⟨worker, version, kind, state, found, hasVersion, owned, fresh, previous, ?_, updatedID,
    updatedVersion, desired, rfl⟩
  intro isRollback
  exact ⟨fun empty => rollback ⟨isRollback, .inl empty⟩,
    fun same => rollback ⟨isRollback, .inr same⟩⟩

theorem getWorkerVersion_eq_ok {workerID versionID : String} {version : StoredWorkerVersion} :
    m.getWorkerVersion workerID versionID = .ok version ↔
      m.versions.get versionID = some version ∧ version.metadata.workerID = workerID := by
  simp only [getWorkerVersion, bind_eq_ok, orError_eq_ok, ensure_eq_ok, pure_eq_ok]
  constructor
  · rintro ⟨found, present, _, owned, rfl⟩
    exact ⟨present, owned⟩
  · rintro ⟨present, owned⟩
    exact ⟨version, present, (), owned, rfl⟩

theorem updateWorkerDeployment_eq_ok {updated : Deployment} {expectedState : State}
    {after : Tables} :
    m.updateWorkerDeployment updated expectedState = .ok after ↔
      (∃ current, m.deployments.get updated.id = some current ∧
        current.state = expectedState ∧
        validWorkerDeploymentTransition current updated = true) ∧
      after = { m with deployments := m.deployments.put updated } := by
  simp only [updateWorkerDeployment, bind_eq_ok, orError_eq_ok, ensure_eq_ok, pure_eq_ok]
  constructor
  · rintro ⟨current, found, _, -, _, ⟨expected, valid⟩, rfl⟩
    exact ⟨⟨current, found, expected, valid⟩, rfl⟩
  · rintro ⟨⟨current, found, expected, valid⟩, rfl⟩
    exact ⟨current, found, (), (samePlan_of_valid valid).workerID.symm, (), ⟨expected, valid⟩, rfl⟩

theorem updateWorkerVersionProvider_ok {workerID versionID providerVersionID : String}
    {number uploadedAt : Int} {after : Tables}
    (done : m.updateWorkerVersionProvider workerID versionID providerVersionID number uploadedAt =
      .ok after) :
    after.workers = m.workers ∧ after.deployments = m.deployments ∧
      ∀ id version, m.versions.get id = some version →
        ∃ kept, after.versions.get id = some kept ∧
          kept.metadata.workerID = version.metadata.workerID := by
  simp only [updateWorkerVersionProvider, bind_eq_ok, ensure_eq_ok, getWorkerVersion_eq_ok,
    pure_eq_ok] at done
  obtain ⟨_, -, changed, ⟨found, -⟩, rfl⟩ := done
  refine ⟨rfl, rfl, ?_⟩
  intro id version present
  rw [Keyed.get_put]
  split
  · rename_i same
    have stored : changed.id = versionID := Keyed.key_of_get found
    have key : id = versionID := same.trans stored
    rw [key, found] at present
    cases present
    exact ⟨_, rfl, rfl⟩
  · exact ⟨version, present, rfl⟩

end Tables

/-- What changes the tables besides the requests to plan and to execute. -/
inductive TablesChange (m : Tables) : Tables → Prop
  | createWorker {after : Tables} (worker : Worker) (version : worker.version = 1)
      (undesired : worker.desiredVersionID = "") (done : m.createWorker worker = .ok after) :
      TablesChange m after
  | putWorkerToken {after : Tables} (token : StoredToken)
      (done : m.putWorkerToken token = .ok after) : TablesChange m after
  | deleteWorkerToken {after : Tables} (workerID : String)
      (done : m.deleteWorkerToken workerID = .ok after) : TablesChange m after
  | createWorkerVersion {after : Tables} (version : StoredWorkerVersion)
      (done : m.createWorkerVersion version = .ok after) : TablesChange m after

/-- Such a change keeps every deployment, and every Worker and version there is. -/
structure TablesKept (m after : Tables) : Prop where
  deployments : after.deployments = m.deployments
  workers : ∀ id worker, m.workers.get id = some worker → after.workers.get id = some worker
  created : ∀ id worker, after.workers.get id = some worker →
    m.workers.get id = some worker ∨
      m.workers.get id = none ∧ worker.version = 1 ∧ worker.desiredVersionID = ""
  versions : ∀ id version, m.versions.get id = some version →
    after.versions.get id = some version

theorem TablesChange.kept {m after : Tables} (change : TablesChange m after) :
    TablesKept m after := by
  cases change with
  | createWorker worker version undesired done =>
    simp only [Tables.createWorker, bind_eq_ok, ensure_eq_ok, pure_eq_ok] at done
    obtain ⟨_, fresh, rfl⟩ := done
    refine ⟨rfl, ?_, ?_, fun _ _ found => found⟩
    · intro id other found
      have differs : id ≠ worker.id := by
        rintro rfl
        rw [fresh] at found
        cases found
      exact (Keyed.get_put_of_ne _ _ differs).trans found
    · intro id other found
      rw [Keyed.get_put] at found
      split at found
      · rename_i same
        cases found
        exact .inr ⟨same ▸ fresh, version, undesired⟩
      · exact .inl found
  | putWorkerToken token done =>
    simp only [Tables.putWorkerToken, bind_eq_ok, pure_eq_ok] at done
    obtain ⟨_, -, rfl⟩ := done
    exact ⟨rfl, fun _ _ found => found, fun _ _ found => .inl found, fun _ _ found => found⟩
  | deleteWorkerToken workerID done =>
    simp only [Tables.deleteWorkerToken, bind_eq_ok, pure_eq_ok] at done
    obtain ⟨_, -, rfl⟩ := done
    exact ⟨rfl, fun _ _ found => found, fun _ _ found => .inl found, fun _ _ found => found⟩
  | createWorkerVersion version done =>
    simp only [Tables.createWorkerVersion, bind_eq_ok, ensure_eq_ok, pure_eq_ok] at done
    obtain ⟨_, -, _, fresh, rfl⟩ := done
    refine ⟨rfl, fun _ _ found => found, fun _ _ found => .inl found, ?_⟩
    intro id other found
    have differs : id ≠ version.id := by
      rintro rfl
      rw [fresh] at found
      cases found
    exact (Keyed.get_put_of_ne _ _ differs).trans found

end VpsManager.Cloudflare
