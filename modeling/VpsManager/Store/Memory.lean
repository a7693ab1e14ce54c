import VpsManager.Lib.Critical
import VpsManager.Control.Audit
import VpsManager.Cloudflare.Memory

namespace VpsManager.Store

open Go Control Cloudflare Checks Critical

structure Memory where
  hosts : StringMap Host
  /-- Keyed by host ID. -/
  credentials : StringMap StoredCredential
  jobs : StringMap Job
  audits : List Control.AuditEvent
  workers : StringMap Worker
  workerTokens : StringMap StoredToken
  workerVersions : StringMap StoredWorkerVersion
  workerDeployments : StringMap Deployment

namespace Memory

def newMemory : Memory := ⟨∅, ∅, ∅, [], ∅, ∅, ∅, ∅⟩

/-- The records of a map. A listing sorts them by their time of creation, and those
of one time may come in any order, so that the order is left out here. -/
def values {α : Type} (records : StringMap α) : Multiset α :=
  records.entries.map Sigma.snd

def cloneAudit (event : Control.AuditEvent) : Control.AuditEvent :=
  { event with details := (sanitizeDetails event.details).map entriesToValue }

/-- A method of the repository, which holds its lock from the start to the end. -/
abbrev Method (α : Type) := Critical Memory StoreError α

def createHost (host : Host) : Method Unit := do
  let m ← get
  ensure (m.hosts.lookup host.id = none) StoreError.conflict
  set { m with hosts := m.hosts.insert host.id host }

def getHost (id : String) : Method Host := do
  let m ← get
  orError (m.hosts.lookup id) StoreError.notFound

def listHosts : Method (Multiset Host) := do
  let m ← get
  return values m.hosts

def updateHost (host : Host) (expectedVersion : UInt64) : Method Unit := do
  let m ← get
  let current ← orError (m.hosts.lookup host.id) StoreError.notFound
  ensure (current.version = expectedVersion) StoreError.conflict
  set { m with hosts := m.hosts.insert host.id host }

def deleteHost (id : String) : Method Unit := do
  let m ← get
  let _ ← orError (m.hosts.lookup id) StoreError.notFound
  modify fun m => { m with hosts := m.hosts.erase id }
  modify fun m => { m with credentials := m.credentials.erase id }

def putCredential (credential : StoredCredential) : Method Unit := do
  let m ← get
  let _ ← orError (m.hosts.lookup credential.metadata.hostID) StoreError.notFound
  set { m with credentials := m.credentials.insert credential.metadata.hostID credential }

def getCredential (hostID : String) : Method StoredCredential := do
  let m ← get
  orError (m.credentials.lookup hostID) StoreError.notFound

def deleteCredential (hostID : String) : Method Unit := do
  let m ← get
  let _ ← orError (m.credentials.lookup hostID) StoreError.notFound
  set { m with credentials := m.credentials.erase hostID }

def createJob (job : Job) : Method Unit := do
  let m ← get
  ensure (m.jobs.lookup job.id = none) StoreError.conflict
  set { m with jobs := m.jobs.insert job.id job }

def getJob (id : String) : Method Job := do
  let m ← get
  orError (m.jobs.lookup id) StoreError.notFound

def listJobs : Method (Multiset Job) := do
  let m ← get
  return values m.jobs

/-- The changed job is stored under the ID that was asked for, whatever its own is. -/
def mutateJob (id : String) (mutate : Job → Except StoreError Job) : Method Job := do
  let m ← get
  let job ← orError (m.jobs.lookup id) StoreError.notFound
  let updated ← mutate job
  set { m with jobs := m.jobs.insert id updated }
  return updated

def appendAudit (event : Control.AuditEvent) : Method Unit :=
  modify fun m => { m with audits := m.audits ++ [cloneAudit event] }

/-- The latest events, the last one first. -/
def listAudits (limit : Int) : Method (List Control.AuditEvent) := do
  let m ← get
  let limit := if limit ≤ 0 ∨ 500 < limit then 100 else limit
  return (m.audits.reverse.take limit.toNat).map cloneAudit

def createWorker (worker : Worker) : Method Unit := do
  let m ← get
  ensure (m.workers.lookup worker.id = none) StoreError.conflict
  set { m with workers := m.workers.insert worker.id worker }

def getWorker (id : String) : Method Worker := do
  let m ← get
  orError (m.workers.lookup id) StoreError.notFound

def listWorkers : Method (Multiset Worker) := do
  let m ← get
  return values m.workers

def putWorkerToken (token : StoredToken) : Method Unit := do
  let m ← get
  let _ ← orError (m.workers.lookup token.metadata.workerID) StoreError.notFound
  set { m with workerTokens := m.workerTokens.insert token.metadata.workerID token }

def getWorkerToken (workerID : String) : Method StoredToken := do
  let m ← get
  orError (m.workerTokens.lookup workerID) StoreError.notFound

def deleteWorkerToken (workerID : String) : Method Unit := do
  let m ← get
  let _ ← orError (m.workerTokens.lookup workerID) StoreError.notFound
  set { m with workerTokens := m.workerTokens.erase workerID }

def createWorkerVersion (version : StoredWorkerVersion) : Method Unit := do
  let m ← get
  let _ ← orError (m.workers.lookup version.metadata.workerID) StoreError.notFound
  ensure (m.workerVersions.lookup version.metadata.id = none) StoreError.conflict
  set { m with workerVersions := m.workerVersions.insert version.metadata.id version }

def getWorkerVersion (workerID versionID : String) : Method StoredWorkerVersion := do
  let m ← get
  let version ← orError (m.workerVersions.lookup versionID) StoreError.notFound
  ensure (version.metadata.workerID = workerID) StoreError.notFound
  return version

def listWorkerVersions (workerID : String) : Method (Multiset WorkerVersion) := do
  let m ← get
  return ((values m.workerVersions).map StoredWorkerVersion.metadata).filter
    (·.workerID = workerID)

def planWorkerDeployment (deployment : Deployment) (updatedAt : Worker) : Method Unit := do
  let m ← get
  let found := m.workers.lookup deployment.workerID
  ensure ((deployment.kind = .deploy ∨ deployment.kind = .rollback) ∧
    deployment.state = .readyForProvider ∧ deployment.providerExecutionAllowed = false)
    StoreError.conflict
  let worker ← orError found StoreError.notFound
  let version ← orError (m.workerVersions.lookup deployment.versionID) StoreError.notFound
  ensure (version.metadata.workerID = worker.id) StoreError.notFound
  let _ ← orError (m.workerTokens.lookup worker.id) StoreError.notFound
  ensure (m.workerDeployments.lookup deployment.id = none) StoreError.conflict
  ensure (deployment.previousDesiredVersionID = worker.desiredVersionID) StoreError.conflict
  ensure (¬ (deployment.kind = .rollback ∧
    (worker.desiredVersionID = "" ∨ worker.desiredVersionID = deployment.versionID)))
    StoreError.conflict
  ensure (updatedAt.id = worker.id ∧ updatedAt.version = worker.version + 1 ∧
    updatedAt.desiredVersionID = deployment.versionID) StoreError.conflict
  modify fun m =>
    { m with workerDeployments := m.workerDeployments.insert deployment.id deployment }
  modify fun m => { m with workers := m.workers.insert worker.id updatedAt }

def listWorkerDeployments (workerID : String) : Method (Multiset Deployment) := do
  let m ← get
  return (values m.workerDeployments).filter (·.workerID = workerID)

/-- The arguments are checked before the lock is taken. -/
def updateWorkerVersionProvider (workerID versionID providerVersionID : String)
    (providerVersionNumber uploadedAt : Int) : Method Unit := do
  ensure (¬ (workerID = "" ∨ versionID = "" ∨ providerVersionID = "" ∨
    providerVersionNumber < 0 ∨ uploadedAt = zeroTime)) StoreError.conflict
  let m ← get
  let version ← orError (m.workerVersions.lookup versionID) StoreError.notFound
  ensure (version.metadata.workerID = workerID) StoreError.notFound
  set { m with
    workerVersions := m.workerVersions.insert versionID { version with
      metadata := { version.metadata with
        providerVersionID := providerVersionID
        providerVersionNumber := providerVersionNumber
        providerUploadedAt := some uploadedAt } } }

def getWorkerDeployment (workerID deploymentID : String) : Method Deployment := do
  let m ← get
  let deployment ← orError (m.workerDeployments.lookup deploymentID) StoreError.notFound
  ensure (deployment.workerID = workerID) StoreError.notFound
  return deployment

def updateWorkerDeployment (updated : Deployment) (expectedState : Cloudflare.State) :
    Method Unit := do
  let m ← get
  let current ← orError (m.workerDeployments.lookup updated.id) StoreError.notFound
  ensure (current.workerID = updated.workerID) StoreError.notFound
  ensure (current.state = expectedState ∧
    validWorkerDeploymentTransition current updated = true) StoreError.conflict
  set { m with workerDeployments := m.workerDeployments.insert updated.id updated }

inductive Operation
  | createHost (host : Host)
  | getHost (id : String)
  | listHosts
  | updateHost (host : Host) (expectedVersion : UInt64)
  | deleteHost (id : String)
  | putCredential (credential : StoredCredential)
  | getCredential (hostID : String)
  | deleteCredential (hostID : String)
  | createJob (job : Job)
  | getJob (id : String)
  | listJobs
  | mutateJob (id : String) (mutate : Job → Except StoreError Job)
  | appendAudit (event : Control.AuditEvent)
  | listAudits (limit : Int)
  | createWorker (worker : Worker)
  | getWorker (id : String)
  | listWorkers
  | putWorkerToken (token : StoredToken)
  | getWorkerToken (workerID : String)
  | deleteWorkerToken (workerID : String)
  | createWorkerVersion (version : StoredWorkerVersion)
  | getWorkerVersion (workerID versionID : String)
  | listWorkerVersions (workerID : String)
  | planWorkerDeployment (deployment : Deployment) (updatedAt : Worker)
  | listWorkerDeployments (workerID : String)
  | updateWorkerVersionProvider (workerID versionID providerVersionID : String)
      (providerVersionNumber uploadedAt : Int)
  | getWorkerDeployment (workerID deploymentID : String)
  | updateWorkerDeployment (updated : Deployment) (expectedState : Cloudflare.State)

inductive Reply
  | done
  | host (host : Host)
  | hosts (listed : Multiset Host)
  | credential (credential : StoredCredential)
  | job (job : Job)
  | jobs (listed : Multiset Job)
  | audits (listed : List Control.AuditEvent)
  | worker (worker : Worker)
  | workers (listed : Multiset Worker)
  | workerToken (token : StoredToken)
  | workerVersion (version : StoredWorkerVersion)
  | workerVersions (listed : Multiset WorkerVersion)
  | workerDeployment (deployment : Deployment)
  | workerDeployments (listed : Multiset Deployment)

def Reply.ofUnit (_ : Unit) : Reply := .done

def perform : Operation → Method Reply
  | .createHost host => Reply.ofUnit <$> createHost host
  | .getHost id => .host <$> getHost id
  | .listHosts => .hosts <$> listHosts
  | .updateHost host expectedVersion => Reply.ofUnit <$> updateHost host expectedVersion
  | .deleteHost id => Reply.ofUnit <$> deleteHost id
  | .putCredential credential => Reply.ofUnit <$> putCredential credential
  | .getCredential hostID => .credential <$> getCredential hostID
  | .deleteCredential hostID => Reply.ofUnit <$> deleteCredential hostID
  | .createJob job => Reply.ofUnit <$> createJob job
  | .getJob id => .job <$> getJob id
  | .listJobs => .jobs <$> listJobs
  | .mutateJob id mutate => .job <$> mutateJob id mutate
  | .appendAudit event => Reply.ofUnit <$> appendAudit event
  | .listAudits limit => .audits <$> listAudits limit
  | .createWorker worker => Reply.ofUnit <$> createWorker worker
  | .getWorker id => .worker <$> getWorker id
  | .listWorkers => .workers <$> listWorkers
  | .putWorkerToken token => Reply.ofUnit <$> putWorkerToken token
  | .getWorkerToken workerID => .workerToken <$> getWorkerToken workerID
  | .deleteWorkerToken workerID => Reply.ofUnit <$> deleteWorkerToken workerID
  | .createWorkerVersion version => Reply.ofUnit <$> createWorkerVersion version
  | .getWorkerVersion workerID versionID => .workerVersion <$> getWorkerVersion workerID versionID
  | .listWorkerVersions workerID => .workerVersions <$> listWorkerVersions workerID
  | .planWorkerDeployment deployment updatedAt =>
    Reply.ofUnit <$> planWorkerDeployment deployment updatedAt
  | .listWorkerDeployments workerID => .workerDeployments <$> listWorkerDeployments workerID
  | .updateWorkerVersionProvider workerID versionID providerVersionID number uploadedAt =>
    Reply.ofUnit <$>
      updateWorkerVersionProvider workerID versionID providerVersionID number uploadedAt
  | .getWorkerDeployment workerID deploymentID =>
    .workerDeployment <$> getWorkerDeployment workerID deploymentID
  | .updateWorkerDeployment updated expectedState =>
    Reply.ofUnit <$> updateWorkerDeployment updated expectedState

/-- No Worker is created with a desired version. -/
def Operation.Undesired : Operation → Prop
  | .createWorker worker => worker.desiredVersionID = ""
  | _ => True

/-- Every method makes its checks before its first write. -/
theorem perform_atomic (operation : Operation) : Atomic (perform operation) := by
  cases operation with
  | createHost | createJob | createWorker | putCredential | deleteCredential | putWorkerToken
  | deleteWorkerToken =>
    exact (readOnly_get.bind_atomic fun _ => (readOnly_check _).bind_atomic fun _ =>
      (succeeds_set _).atomic).map _
  | updateHost | createWorkerVersion =>
    exact (readOnly_get.bind_atomic fun _ => (readOnly_check _).bind_atomic fun _ =>
      (readOnly_check _).bind_atomic fun _ => (succeeds_set _).atomic).map _
  | getHost | getCredential | getJob | getWorker | getWorkerToken =>
    exact (readOnly_get.bind fun _ => readOnly_check _).atomic.map _
  | listHosts | listJobs | listAudits | listWorkers | listWorkerVersions
  | listWorkerDeployments =>
    exact (readOnly_get.bind fun _ => readOnly_pure _).atomic.map _
  | getWorkerVersion | getWorkerDeployment =>
    exact (readOnly_get.bind fun _ => (readOnly_check _).bind fun _ =>
      (readOnly_check _).bind fun _ => readOnly_pure _).atomic.map _
  | deleteHost =>
    exact (readOnly_get.bind_atomic fun _ => (readOnly_check _).bind_atomic fun _ =>
      ((succeeds_modify _).bind fun _ => succeeds_modify _).atomic).map _
  | mutateJob =>
    exact (readOnly_get.bind_atomic fun _ => (readOnly_check _).bind_atomic fun _ =>
      (readOnly_check _).bind_atomic fun _ =>
        ((succeeds_set _).bind fun _ => succeeds_pure _).atomic).map _
  | appendAudit => exact (succeeds_modify _).atomic.map _
  | planWorkerDeployment =>
    exact (readOnly_get.bind_atomic fun _ => (readOnly_check _).bind_atomic fun _ =>
      (readOnly_check _).bind_atomic fun _ => (readOnly_check _).bind_atomic fun _ =>
      (readOnly_check _).bind_atomic fun _ => (readOnly_check _).bind_atomic fun _ =>
      (readOnly_check _).bind_atomic fun _ => (readOnly_check _).bind_atomic fun _ =>
      (readOnly_check _).bind_atomic fun _ => (readOnly_check _).bind_atomic fun _ =>
        ((succeeds_modify _).bind fun _ => succeeds_modify _).atomic).map _
  | updateWorkerVersionProvider =>
    exact ((readOnly_check _).bind_atomic fun _ => readOnly_get.bind_atomic fun _ =>
      (readOnly_check _).bind_atomic fun _ => (readOnly_check _).bind_atomic fun _ =>
        (succeeds_set _).atomic).map _
  | updateWorkerDeployment =>
    exact (readOnly_get.bind_atomic fun _ => (readOnly_check _).bind_atomic fun _ =>
      (readOnly_check _).bind_atomic fun _ => (readOnly_check _).bind_atomic fun _ =>
        (succeeds_set _).atomic).map _

def OwnKeyed {α : Type} (key : α → String) (records : StringMap α) : Prop :=
  ∀ id record, records.lookup id = some record → key record = id

/-- The version is stored, and is one of the Worker's. -/
def HasVersion (versions : StringMap StoredWorkerVersion) (versionID workerID : String) : Prop :=
  ∃ version, versions.lookup versionID = some version ∧ version.metadata.workerID = workerID

/-- Credentials are keyed by their hosts, which exist. -/
structure HostReferences (hosts : StringMap Host) (credentials : StringMap StoredCredential) :
    Prop where
  hostKeys : OwnKeyed Host.id hosts
  credentialKeys : OwnKeyed StoredCredential.hostID credentials
  hosted : ∀ id credential, credentials.lookup id = some credential →
    credential.metadata.hostID ∈ hosts

/-- Tokens, versions and deployments name Workers that exist, and a deployment or a
Worker a version of the same Worker. -/
structure WorkerReferences (workers : StringMap Worker) (tokens : StringMap StoredToken)
    (versions : StringMap StoredWorkerVersion) (deployments : StringMap Deployment) : Prop where
  workerKeys : OwnKeyed Worker.id workers
  tokenKeys : OwnKeyed StoredToken.workerID tokens
  versionKeys : OwnKeyed StoredWorkerVersion.id versions
  deploymentKeys : OwnKeyed Deployment.id deployments
  tokenOwned : ∀ id token, tokens.lookup id = some token → token.metadata.workerID ∈ workers
  versionOwned : ∀ id version, versions.lookup id = some version →
    version.metadata.workerID ∈ workers
  deploymentOwned : ∀ id deployment, deployments.lookup id = some deployment →
    deployment.workerID ∈ workers
  deployed : ∀ id deployment, deployments.lookup id = some deployment →
    HasVersion versions deployment.versionID deployment.workerID
  desired : ∀ id worker, workers.lookup id = some worker → worker.desiredVersionID ≠ "" →
    HasVersion versions worker.desiredVersionID worker.id

structure References (m : Memory) : Prop where
  hosts : HostReferences m.hosts m.credentials
  workers : WorkerReferences m.workers m.workerTokens m.workerVersions m.workerDeployments

section Maps

variable {α : Type} {key : α → String} {records : StringMap α} {id : String} {record : α}

theorem lookup_insert_cases {other : String} {stored : α}
    (found : (records.insert id record).lookup other = some stored) :
    other = id ∧ stored = record ∨ other ≠ id ∧ records.lookup other = some stored := by
  by_cases same : other = id
  · subst same
    rw [Finmap.lookup_insert] at found
    exact .inl ⟨rfl, (Option.some.inj found).symm⟩
  · rw [Finmap.lookup_insert_of_ne _ same] at found
    exact .inr ⟨same, found⟩

theorem lookup_of_erase {gone : String}
    (found : (records.erase gone).lookup id = some record) :
    id ≠ gone ∧ records.lookup id = some record := by
  by_cases same : id = gone
  · subst same
    simp at found
  · rw [Finmap.lookup_erase_ne same] at found
    exact ⟨same, found⟩

theorem OwnKeyed.insert (own : OwnKeyed key records) (same : key record = id) :
    OwnKeyed key (records.insert id record) := by
  intro other stored found
  rcases lookup_insert_cases found with ⟨rfl, rfl⟩ | ⟨-, before⟩
  · exact same
  · exact own other stored before

theorem OwnKeyed.erase (own : OwnKeyed key records) (gone : String) :
    OwnKeyed key (records.erase gone) := by
  intro other stored found
  exact own other stored (lookup_of_erase found).2

theorem forall_insert {holds : α → Prop} (new : holds record)
    (others : ∀ other stored, records.lookup other = some stored → holds stored) :
    ∀ other stored, (records.insert id record).lookup other = some stored → holds stored := by
  intro other stored found
  rcases lookup_insert_cases found with ⟨-, rfl⟩ | ⟨-, before⟩
  · exact new
  · exact others other stored before

end Maps

variable {workerID id : String} {version : StoredWorkerVersion} {versionID : String}
  {credential : StoredCredential} {worker : Worker} {token : StoredToken} {deployment : Deployment}

/-- A stored version stays one of its Worker's when a version of the same Worker
takes its place or comes in addition. -/
theorem HasVersion.insert {versions : StringMap StoredWorkerVersion}
    (has : HasVersion versions versionID workerID)
    (same : ∀ before, versions.lookup id = some before →
      version.metadata.workerID = before.metadata.workerID) :
    HasVersion (versions.insert id version) versionID workerID := by
  obtain ⟨stored, found, owned⟩ := has
  by_cases replaced : versionID = id
  · subst replaced
    exact ⟨version, Finmap.lookup_insert _, (same stored found).trans owned⟩
  · exact ⟨stored, (Finmap.lookup_insert_of_ne _ replaced).trans found, owned⟩

theorem newMemory_references : References newMemory := by
  have none {α : Type} {holds : String → α → Prop} :
      ∀ id record, (∅ : StringMap α).lookup id = some record → holds id record := by
    intro id record found
    simp at found
  exact ⟨⟨none, none, none⟩, ⟨none, none, none, none, none, none, none, none, none⟩⟩

section HostReferences

variable {hosts : StringMap Host} {credentials : StringMap StoredCredential}

theorem HostReferences.putHost (sound : HostReferences hosts credentials) (host : Host) :
    HostReferences (hosts.insert host.id host) credentials where
  hostKeys := sound.hostKeys.insert rfl
  credentialKeys := sound.credentialKeys
  hosted id credential found := (Finmap.mem_insert ..).mpr (.inr (sound.hosted id credential found))

/-- A host goes with its credential, and no other credential names it. -/
theorem HostReferences.deleteHost (sound : HostReferences hosts credentials) (id : String) :
    HostReferences (hosts.erase id) (credentials.erase id) where
  hostKeys := sound.hostKeys.erase id
  credentialKeys := sound.credentialKeys.erase id
  hosted other credential found := by
    obtain ⟨differs, before⟩ := lookup_of_erase found
    have key : credential.metadata.hostID = other := sound.credentialKeys other credential before
    exact (Finmap.mem_erase ..).mpr
      ⟨key ▸ differs, sound.hosted other credential before⟩

theorem HostReferences.putCredential (sound : HostReferences hosts credentials)
    (hosted : credential.metadata.hostID ∈ hosts) :
    HostReferences hosts (credentials.insert credential.metadata.hostID credential) where
  hostKeys := sound.hostKeys
  credentialKeys := sound.credentialKeys.insert rfl
  hosted := forall_insert hosted sound.hosted

theorem HostReferences.deleteCredential (sound : HostReferences hosts credentials)
    (hostID : String) : HostReferences hosts (credentials.erase hostID) where
  hostKeys := sound.hostKeys
  credentialKeys := sound.credentialKeys.erase hostID
  hosted id credential found := sound.hosted id credential (lookup_of_erase found).2

end HostReferences

section WorkerReferences

variable {workers : StringMap Worker} {tokens : StringMap StoredToken}
  {versions : StringMap StoredWorkerVersion} {deployments : StringMap Deployment}

theorem WorkerReferences.putWorker (sound : WorkerReferences workers tokens versions deployments)
    (desired : worker.desiredVersionID ≠ "" →
      HasVersion versions worker.desiredVersionID worker.id) :
    WorkerReferences (workers.insert worker.id worker) tokens versions deployments :=
  { sound with
    workerKeys := sound.workerKeys.insert rfl
    tokenOwned := fun id token found =>
      (Finmap.mem_insert ..).mpr (.inr (sound.tokenOwned id token found))
    versionOwned := fun id version found =>
      (Finmap.mem_insert ..).mpr (.inr (sound.versionOwned id version found))
    deploymentOwned := fun id deployment found =>
      (Finmap.mem_insert ..).mpr (.inr (sound.deploymentOwned id deployment found))
    desired := forall_insert desired sound.desired }

theorem WorkerReferences.putToken (sound : WorkerReferences workers tokens versions deployments)
    (owned : token.metadata.workerID ∈ workers) :
    WorkerReferences workers (tokens.insert token.metadata.workerID token) versions
      deployments :=
  { sound with
    tokenKeys := sound.tokenKeys.insert rfl
    tokenOwned := forall_insert owned sound.tokenOwned }

theorem WorkerReferences.deleteToken
    (sound : WorkerReferences workers tokens versions deployments) (workerID : String) :
    WorkerReferences workers (tokens.erase workerID) versions deployments :=
  { sound with
    tokenKeys := sound.tokenKeys.erase workerID
    tokenOwned := fun id token found => sound.tokenOwned id token (lookup_of_erase found).2 }

/-- A version is new, or takes the place of one of the same Worker. -/
theorem WorkerReferences.putVersion (sound : WorkerReferences workers tokens versions deployments)
    (key : version.id = id) (owned : version.metadata.workerID ∈ workers)
    (same : ∀ before, versions.lookup id = some before →
      version.metadata.workerID = before.metadata.workerID) :
    WorkerReferences workers tokens (versions.insert id version) deployments :=
  { sound with
    versionKeys := sound.versionKeys.insert key
    versionOwned := forall_insert owned sound.versionOwned
    deployed := fun other deployment found => (sound.deployed other deployment found).insert same
    desired := fun other worker found named =>
      (sound.desired other worker found named).insert same }

theorem WorkerReferences.putDeployment
    (sound : WorkerReferences workers tokens versions deployments)
    (owned : deployment.workerID ∈ workers)
    (deployed : HasVersion versions deployment.versionID deployment.workerID) :
    WorkerReferences workers tokens versions (deployments.insert deployment.id deployment) :=
  { sound with
    deploymentKeys := sound.deploymentKeys.insert rfl
    deploymentOwned := forall_insert owned sound.deploymentOwned
    deployed := forall_insert deployed sound.deployed }

end WorkerReferences

section Success

variable {m after : Memory} {done : Unit} {host : Host}

theorem createHost_ok :
    outcome (createHost host) m = (.ok done, after) ↔
      m.hosts.lookup host.id = none ∧ { m with hosts := m.hosts.insert host.id host } = after := by
  simp [createHost]

theorem updateHost_ok {expectedVersion : UInt64} :
    outcome (updateHost host expectedVersion) m = (.ok done, after) ↔
      (∃ current, m.hosts.lookup host.id = some current ∧ current.version = expectedVersion ∧
        { m with hosts := m.hosts.insert host.id host } = after) := by
  simp [updateHost]

theorem deleteHost_ok :
    outcome (deleteHost id) m = (.ok done, after) ↔
      (∃ host, m.hosts.lookup id = some host) ∧
      { m with hosts := m.hosts.erase id, credentials := m.credentials.erase id } = after := by
  simp [deleteHost]

theorem putCredential_ok :
    outcome (putCredential credential) m = (.ok done, after) ↔
      (∃ host, m.hosts.lookup credential.metadata.hostID = some host) ∧
      { m with credentials := m.credentials.insert credential.metadata.hostID credential } =
        after := by
  simp [putCredential]

theorem deleteCredential_ok {hostID : String} :
    outcome (deleteCredential hostID) m = (.ok done, after) ↔
      (∃ credential, m.credentials.lookup hostID = some credential) ∧
      { m with credentials := m.credentials.erase hostID } = after := by
  simp [deleteCredential]

theorem createJob_ok {job : Job} :
    outcome (createJob job) m = (.ok done, after) ↔
      m.jobs.lookup job.id = none ∧ { m with jobs := m.jobs.insert job.id job } = after := by
  simp [createJob]

theorem mutateJob_ok {mutate : Job → Except StoreError Job} {updated : Job} :
    outcome (mutateJob id mutate) m = (.ok updated, after) ↔
      (∃ job, m.jobs.lookup id = some job ∧ mutate job = .ok updated) ∧
      { m with jobs := m.jobs.insert id updated } = after := by
  simp only [mutateJob, outcome_get_bind, outcome_check_ok, orError_eq_ok, outcome_set_bind,
    outcome_pure, Prod.mk.injEq, Except.ok.injEq]
  constructor
  · rintro ⟨job, found, _, ran, rfl, rfl⟩
    exact ⟨⟨job, found, ran⟩, rfl⟩
  · rintro ⟨⟨job, found, ran⟩, rfl⟩
    exact ⟨job, found, updated, ran, rfl, rfl⟩

theorem createWorker_ok :
    outcome (createWorker worker) m = (.ok done, after) ↔
      m.workers.lookup worker.id = none ∧
      { m with workers := m.workers.insert worker.id worker } = after := by
  simp [createWorker]

theorem putWorkerToken_ok :
    outcome (putWorkerToken token) m = (.ok done, after) ↔
      (∃ worker, m.workers.lookup token.metadata.workerID = some worker) ∧
      { m with workerTokens := m.workerTokens.insert token.metadata.workerID token } = after := by
  simp [putWorkerToken]

theorem deleteWorkerToken_ok :
    outcome (deleteWorkerToken workerID) m = (.ok done, after) ↔
      (∃ token, m.workerTokens.lookup workerID = some token) ∧
      { m with workerTokens := m.workerTokens.erase workerID } = after := by
  simp [deleteWorkerToken]

theorem createWorkerVersion_ok :
    outcome (createWorkerVersion version) m = (.ok done, after) ↔
      (∃ worker, m.workers.lookup version.metadata.workerID = some worker) ∧
      m.workerVersions.lookup version.metadata.id = none ∧
      { m with workerVersions := m.workerVersions.insert version.metadata.id version } = after := by
  simp [createWorkerVersion]

theorem updateWorkerVersionProvider_ok {providerVersionID : String} {number uploadedAt : Int} :
    outcome (updateWorkerVersionProvider workerID versionID providerVersionID number uploadedAt) m =
        (.ok done, after) ↔
      ¬ (workerID = "" ∨ versionID = "" ∨ providerVersionID = "" ∨ number < 0 ∨
        uploadedAt = zeroTime) ∧
      ∃ version, m.workerVersions.lookup versionID = some version ∧
        version.metadata.workerID = workerID ∧
        { m with workerVersions := m.workerVersions.insert versionID { version with
          metadata := { version.metadata with
            providerVersionID := providerVersionID
            providerVersionNumber := number
            providerUploadedAt := some uploadedAt } } } = after := by
  simp only [updateWorkerVersionProvider, outcome_get_bind, outcome_check_ok, ensure_eq_ok,
    orError_eq_ok, outcome_set, Prod.mk.injEq, true_and, exists_const]

theorem updateWorkerDeployment_ok {updated : Deployment} {expectedState : Cloudflare.State} :
    outcome (updateWorkerDeployment updated expectedState) m = (.ok done, after) ↔
      ∃ current, m.workerDeployments.lookup updated.id = some current ∧
        current.workerID = updated.workerID ∧ (current.state = expectedState ∧
          validWorkerDeploymentTransition current updated = true) ∧
        { m with workerDeployments := m.workerDeployments.insert updated.id updated } = after := by
  simp only [updateWorkerDeployment, outcome_get_bind, outcome_check_ok, ensure_eq_ok,
    orError_eq_ok, outcome_set, Prod.mk.injEq, true_and, exists_const]

/-- What a plan that is accepted says of the records, and what it leaves. -/
theorem planWorkerDeployment_accepted {updatedAt : Worker}
    (accepted : outcome (planWorkerDeployment deployment updatedAt) m = (.ok done, after)) :
    ∃ worker version, m.workers.lookup deployment.workerID = some worker ∧
      m.workerVersions.lookup deployment.versionID = some version ∧
      version.metadata.workerID = worker.id ∧ updatedAt.id = worker.id ∧
      updatedAt.desiredVersionID = deployment.versionID ∧
      { m with
        workerDeployments := m.workerDeployments.insert deployment.id deployment
        workers := m.workers.insert worker.id updatedAt } = after := by
  simp only [planWorkerDeployment, outcome_get_bind, outcome_check_ok, ensure_eq_ok, orError_eq_ok,
    outcome_modify_bind, outcome_modify, Prod.mk.injEq] at accepted
  obtain ⟨_, -, worker, found, version, hasVersion, _, owned, _, -, _, -, _, -, _, -, _,
    ⟨sameID, -, desires⟩, -, left⟩ := accepted
  exact ⟨worker, version, found, hasVersion, owned, sameID, desires, left⟩

end Success

/-- What a method that succeeds leaves keeps the references. -/
theorem perform_references {operation : Operation} {m after : Memory} {reply : Reply}
    (undesired : operation.Undesired)
    (succeeded : outcome (perform operation) m = (.ok reply, after)) (sound : References m) :
    References after := by
  obtain ⟨hosts, workers⟩ := sound
  cases operation with
  | createHost host =>
    obtain ⟨_, done, -⟩ := outcome_map_ok.mp succeeded
    obtain ⟨-, rfl⟩ := createHost_ok.mp done
    exact ⟨hosts.putHost host, workers⟩
  | updateHost host expectedVersion =>
    obtain ⟨_, done, -⟩ := outcome_map_ok.mp succeeded
    obtain ⟨_, -, -, rfl⟩ := updateHost_ok.mp done
    exact ⟨hosts.putHost host, workers⟩
  | deleteHost id =>
    obtain ⟨_, done, -⟩ := outcome_map_ok.mp succeeded
    obtain ⟨-, rfl⟩ := deleteHost_ok.mp done
    exact ⟨hosts.deleteHost id, workers⟩
  | putCredential credential =>
    obtain ⟨_, done, -⟩ := outcome_map_ok.mp succeeded
    obtain ⟨⟨host, found⟩, rfl⟩ := putCredential_ok.mp done
    exact ⟨hosts.putCredential (Finmap.mem_of_lookup_eq_some found), workers⟩
  | deleteCredential hostID =>
    obtain ⟨_, done, -⟩ := outcome_map_ok.mp succeeded
    obtain ⟨-, rfl⟩ := deleteCredential_ok.mp done
    exact ⟨hosts.deleteCredential hostID, workers⟩
  | createJob job =>
    obtain ⟨_, done, -⟩ := outcome_map_ok.mp succeeded
    obtain ⟨-, rfl⟩ := createJob_ok.mp done
    exact ⟨hosts, workers⟩
  | mutateJob id mutate =>
    obtain ⟨_, done, -⟩ := outcome_map_ok.mp succeeded
    obtain ⟨-, rfl⟩ := mutateJob_ok.mp done
    exact ⟨hosts, workers⟩
  | appendAudit event =>
    cases succeeded
    exact ⟨hosts, workers⟩
  | createWorker worker =>
    obtain ⟨_, done, -⟩ := outcome_map_ok.mp succeeded
    obtain ⟨-, rfl⟩ := createWorker_ok.mp done
    exact ⟨hosts, workers.putWorker fun named => absurd undesired named⟩
  | putWorkerToken token =>
    obtain ⟨_, done, -⟩ := outcome_map_ok.mp succeeded
    obtain ⟨⟨worker, found⟩, rfl⟩ := putWorkerToken_ok.mp done
    exact ⟨hosts, workers.putToken (Finmap.mem_of_lookup_eq_some found)⟩
  | deleteWorkerToken workerID =>
    obtain ⟨_, done, -⟩ := outcome_map_ok.mp succeeded
    obtain ⟨-, rfl⟩ := deleteWorkerToken_ok.mp done
    exact ⟨hosts, workers.deleteToken workerID⟩
  | createWorkerVersion version =>
    obtain ⟨_, done, -⟩ := outcome_map_ok.mp succeeded
    obtain ⟨⟨worker, found⟩, fresh, rfl⟩ := createWorkerVersion_ok.mp done
    refine ⟨hosts, workers.putVersion rfl (Finmap.mem_of_lookup_eq_some found) ?_⟩
    intro before present
    rw [fresh] at present
    cases present
  | planWorkerDeployment deployment updatedAt =>
    obtain ⟨_, done, -⟩ := outcome_map_ok.mp succeeded
    obtain ⟨worker, version, found, hasVersion, owned, sameID, desires, rfl⟩ :=
      planWorkerDeployment_accepted done
    have key : worker.id = deployment.workerID := workers.workerKeys _ worker found
    have has : HasVersion m.workerVersions deployment.versionID deployment.workerID :=
      ⟨version, hasVersion, owned.trans key⟩
    have planned := workers.putDeployment (Finmap.mem_of_lookup_eq_some found) has
    refine ⟨hosts, ?_⟩
    rw [← sameID]
    refine planned.putWorker fun _ => ?_
    rw [desires, sameID, key]
    exact has
  | updateWorkerVersionProvider workerID versionID providerVersionID number uploadedAt =>
    obtain ⟨_, done, -⟩ := outcome_map_ok.mp succeeded
    obtain ⟨-, version, found, -, rfl⟩ := updateWorkerVersionProvider_ok.mp done
    refine ⟨hosts, workers.putVersion (workers.versionKeys versionID version found)
      (workers.versionOwned versionID version found) ?_⟩
    intro before present
    rw [found] at present
    cases present
    rfl
  | updateWorkerDeployment updated expectedState =>
    obtain ⟨_, done, -⟩ := outcome_map_ok.mp succeeded
    obtain ⟨current, found, -, ⟨-, valid⟩, rfl⟩ := updateWorkerDeployment_ok.mp done
    have same := samePlan_of_valid valid
    refine ⟨hosts, workers.putDeployment ?_ ?_⟩
    · rw [same.workerID]
      exact workers.deploymentOwned updated.id current found
    · rw [same.workerID, same.versionID]
      exact workers.deployed updated.id current found
  | getHost | getCredential | getJob | getWorker | getWorkerToken =>
    obtain ⟨_, done, -⟩ := outcome_map_ok.mp succeeded
    obtain rfl := (readOnly_get.bind fun _ => readOnly_check _).unchanged done
    exact ⟨hosts, workers⟩
  | listHosts | listJobs | listAudits | listWorkers | listWorkerVersions
  | listWorkerDeployments =>
    obtain ⟨_, done, -⟩ := outcome_map_ok.mp succeeded
    obtain rfl := (readOnly_get.bind fun _ => readOnly_pure _).unchanged done
    exact ⟨hosts, workers⟩
  | getWorkerVersion | getWorkerDeployment =>
    obtain ⟨_, done, -⟩ := outcome_map_ok.mp succeeded
    obtain rfl := (readOnly_get.bind fun _ => (readOnly_check _).bind fun _ =>
      (readOnly_check _).bind fun _ => readOnly_pure _).unchanged done
    exact ⟨hosts, workers⟩

/-- After any run in which no Worker is created with a desired version, the records
refer to records that exist, and no further method changes anything if it fails. -/
theorem references_kept (operations : List Operation)
    (undesired : ∀ operation ∈ operations, operation.Undesired) :
    References (run perform operations newMemory) ∧
      ∀ next failure, (outcome (perform next) (run perform operations newMemory)).1 =
          .error failure →
        leaves (perform next) (run perform operations newMemory) =
          run perform operations newMemory := by
  refine ⟨?_, fun next failure => perform_atomic next _ failure⟩
  refine run_keeps ?_ undesired newMemory_references
  intro operation m allowed sound
  refine (perform_atomic operation).keeps ?_ sound
  intro before reply after succeeded
  exact perform_references allowed succeeded

def sampleWorker : Worker where
  id := "worker_1"
  name := "site"
  accountID := "account"
  scriptName := "site"
  desiredVersionID := ""
  version := 1
  createdAt := 0
  updatedAt := 0

def sampleVersion : StoredWorkerVersion where
  metadata := {
    id := "version_1"
    workerID := "worker_1"
    sha256 := ""
    sizeBytes := 1
    contentType := "application/javascript+module"
    entrypoint := "index.js"
    state := "uploaded"
    providerVersionID := ""
    providerVersionNumber := 0
    providerUploadedAt := none
    createdAt := 0
    createdBy := "olga" }
  module := [0]

def sampleOperations : List Operation :=
  [.createWorker sampleWorker, .createWorkerVersion sampleVersion, .deleteHost "host_1"]

theorem sampleOperations_references :
    (∀ operation ∈ sampleOperations, operation.Undesired) ∧
      References (run perform sampleOperations newMemory) := by
  have undesired : ∀ operation ∈ sampleOperations, operation.Undesired := by
    intro operation member
    simp only [sampleOperations, List.mem_cons, List.not_mem_nil, or_false] at member
    rcases member with rfl | rfl | rfl
    · rfl
    · trivial
    · trivial
  exact ⟨undesired, (references_kept sampleOperations undesired).1⟩

/-- The maps behind the tables that the other modules work on, which hold every record under
its own key. -/
def ofTables (control : Control.Memory) (tables : Tables) (audits : List Control.AuditEvent) :
    Memory where
  hosts := control.hosts.entries
  credentials := control.credentials.entries
  jobs := control.jobs.entries
  audits := audits
  workers := tables.workers.entries
  workerTokens := tables.tokens.entries
  workerVersions := tables.versions.entries
  workerDeployments := tables.deployments.entries

section Tables

variable (control : Control.Memory) (tables : Tables) (audits : List Control.AuditEvent)

/-- A method and the function on the hosts, credentials and jobs agree. -/
def ControlMatches {α : Type} (method : Method α) (model : Except StoreError Control.Memory) :
    Prop :=
  Matches (fun after modelled => after = ofTables modelled tables audits)
    (ofTables control tables audits) method model

/-- A method and the function on the tables of Workers agree. -/
def TablesMatch {α : Type} (method : Method α) (model : Except StoreError Tables) : Prop :=
  Matches (fun after modelled => after = ofTables control modelled audits)
    (ofTables control tables audits) method model

theorem updateHost_matches (host : Host) (expectedVersion : UInt64) :
    ControlMatches control tables audits (updateHost host expectedVersion)
      (control.updateHost host expectedVersion) :=
  matches_get <| matches_check fun _ _ => matches_check fun _ _ => matches_written rfl rfl

theorem deleteHost_matches (id : String) :
    ControlMatches control tables audits (deleteHost id) (control.deleteHost id) :=
  matches_get <| matches_check fun _ _ => matches_written rfl rfl

theorem putCredential_matches (credential : StoredCredential) :
    ControlMatches control tables audits (putCredential credential)
      (control.putCredential credential) :=
  matches_get <| matches_check fun _ _ => matches_written rfl rfl

theorem createJob_matches (job : Job) :
    ControlMatches control tables audits (createJob job) (control.createJob job) :=
  matches_get <| matches_check fun _ _ => matches_written rfl rfl

/-- A change of a job keeps its ID, so that it is stored under its own key. -/
theorem mutateJob_matches (id : String) (mutate : JobMutation) :
    ControlMatches control tables audits (mutateJob id mutate.run)
      ((control.mutateJob id mutate).map Prod.snd) := by
  have spread : (control.mutateJob id mutate).map Prod.snd =
      orError (control.jobs.get id) .notFound >>= fun job => mutate.run job >>= fun updated =>
        .ok { control with jobs := control.jobs.put updated } := by
    unfold Control.Memory.mutateJob
    rcases orError (control.jobs.get id) StoreError.notFound with _ | job
    · rfl
    · change (mutate.run job >>= _).map _ = mutate.run job >>= _
      rcases mutate.run job with _ | updated <;> rfl
  rw [spread]
  refine matches_get <| matches_check fun job found => matches_check fun updated ran =>
    matches_written rfl ?_
  have sameID : updated.id = id :=
    (mutate.continues job updated ran).id.trans
      (Keyed.key_of_get ((orError_eq_ok _ _ _).mp found))
  rw [← sameID]
  rfl

theorem createWorker_matches (worker : Worker) :
    TablesMatch control tables audits (createWorker worker) (tables.createWorker worker) :=
  matches_get <| matches_check fun _ _ => matches_written rfl rfl

theorem putWorkerToken_matches (token : StoredToken) :
    TablesMatch control tables audits (putWorkerToken token) (tables.putWorkerToken token) :=
  matches_get <| matches_check fun _ _ => matches_written rfl rfl

theorem deleteWorkerToken_matches (workerID : String) :
    TablesMatch control tables audits (deleteWorkerToken workerID)
      (tables.deleteWorkerToken workerID) :=
  matches_get <| matches_check fun _ _ => matches_written rfl rfl

theorem createWorkerVersion_matches (version : StoredWorkerVersion) :
    TablesMatch control tables audits (createWorkerVersion version)
      (tables.createWorkerVersion version) :=
  matches_get <| matches_check fun _ _ => matches_check fun _ _ => matches_written rfl rfl

theorem planWorkerDeployment_matches (deployment : Deployment) (updatedAt : Worker) :
    TablesMatch control tables audits (planWorkerDeployment deployment updatedAt)
      (tables.planWorkerDeployment deployment updatedAt) := by
  refine matches_get <| matches_check fun _ _ => matches_check fun worker found =>
    matches_check fun version hasVersion => matches_check fun _ _ => matches_check fun _ _ =>
    matches_check fun _ _ => matches_check fun _ _ => matches_check fun _ _ =>
    matches_check fun _ same => matches_written rfl ?_
  rw [← ((ensure_eq_ok _ _ _).mp same).1]
  rfl

theorem updateWorkerVersionProvider_matches (workerID versionID providerVersionID : String)
    (number uploadedAt : Int) :
    TablesMatch control tables audits
      (updateWorkerVersionProvider workerID versionID providerVersionID number uploadedAt)
      (tables.updateWorkerVersionProvider workerID versionID providerVersionID number
        uploadedAt) := by
  unfold Tables.updateWorkerVersionProvider Tables.getWorkerVersion
  simp only [bind_assoc, pure_bind]
  refine matches_check fun _ _ => matches_get <| matches_check fun version found =>
    matches_check fun _ _ => matches_written rfl ?_
  have key : version.id = versionID := Keyed.key_of_get ((orError_eq_ok _ _ _).mp found)
  rw [← key]
  rfl

theorem updateWorkerDeployment_matches (updated : Deployment) (expectedState : Cloudflare.State) :
    TablesMatch control tables audits (updateWorkerDeployment updated expectedState)
      (tables.updateWorkerDeployment updated expectedState) :=
  matches_get <| matches_check fun _ _ => matches_check fun _ _ => matches_check fun _ _ =>
    matches_written rfl rfl

end Tables

end Memory

end VpsManager.Store
