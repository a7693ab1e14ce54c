import VpsManager.Control.Hosts

namespace VpsManager.Control

open Go Checks Protocol

/-- Move a job to another state and write the given results into it. -/
def moveJob (target : JobState) (now : Int) (preview : Option RunbookPreviewResult)
    (execution : Option RunbookExecutionResult) (error : Option JobError) : JobMutation where
  run job := do
    let moved ← (transitionJob job target now).mapError .other
    return { moved with
      runbookPreview := preview.or moved.runbookPreview
      runbookExecution := execution.or moved.runbookExecution
      error := error.or moved.error }
  continues := by
    intro job updated ran
    simp only [transitionJob, bind_eq_ok, mapError_eq_ok, ensure_eq_ok, pure_eq_ok] at ran
    obtain ⟨_, ⟨_, possible, rfl⟩, rfl⟩ := ran
    exact ⟨rfl, rfl, rfl, rfl, possible⟩

def startJob (now : Int) : JobMutation := moveJob .running now none none none

def storePreview (preview : RunbookPreviewResult) (now : Int) : JobMutation :=
  moveJob .awaitingApproval now (some preview) none none

/-- The state of a job whose runbook the Connector has executed. -/
def executedState (execution : RunbookExecutionResult) : JobState :=
  if execution.status ≠ "succeeded" then .failed else .succeeded

def finishJob (execution : RunbookExecutionResult) (now : Int) : JobMutation :=
  moveJob (executedState execution) now none (some execution)
    (if executedState execution = .failed then
      some ⟨"runbook_failed", "one or more reviewed runbook steps failed"⟩
    else none)

/-- `failRunbookJob` answers a conflict where the others answer the failed
transition. -/
def failRunbookJob (code message : String) (now : Int) : JobMutation where
  run job :=
    if job.state ≠ .running then .error .conflict
    else (moveJob .failed now none none (some ⟨code, message⟩)).run job
  continues := by
    intro job updated ran
    split at ran
    · cases ran
    · exact (moveJob .failed now none none (some ⟨code, message⟩)).continues job updated ran

/-- Where a job goes and which preview it has afterwards. -/
theorem moveJob_ok {target : JobState} {now : Int} {preview : Option RunbookPreviewResult}
    {execution : Option RunbookExecutionResult} {error : Option JobError} {job updated : Job}
    (ran : (moveJob target now preview execution error).run job = .ok updated) :
    updated.state = target ∧ updated.runbookPreview = preview.or job.runbookPreview := by
  simp only [moveJob, transitionJob, bind_eq_ok, mapError_eq_ok, ensure_eq_ok, pure_eq_ok] at ran
  obtain ⟨_, ⟨_, -, rfl⟩, rfl⟩ := ran
  exact ⟨rfl, rfl⟩

theorem moveJob_possible {target : JobState} (now : Int) (preview : Option RunbookPreviewResult)
    (execution : Option RunbookExecutionResult) (error : Option JobError) {job : Job}
    (possible : canTransition job.state target = true) :
    ∃ updated, (moveJob target now preview execution error).run job = .ok updated := by
  simp only [moveJob, transitionJob, bind_eq_ok, mapError_eq_ok, ensure_eq_ok, pure_eq_ok]
  exact ⟨_, _, ⟨(), possible, rfl⟩, rfl⟩

theorem failRunbookJob_ok {code message : String} {now : Int} {job updated : Job}
    (ran : (failRunbookJob code message now).run job = .ok updated) :
    updated.state = .failed ∧ updated.runbookPreview = job.runbookPreview := by
  simp only [failRunbookJob] at ran
  split at ran
  · cases ran
  · exact moveJob_ok ran

/-- The checks of `putCredential` on its body, with the public key of the
credential. -/
def readCredential (server : Server) (body : Except String CredentialPayload) :
    Except ApiError (CredentialPayload × Ssh.PublicKey) := do
  let input ← body.mapError fun _ => invalidRequest "credential payload is invalid"
  ensure (len input.privateKey ≠ 0 ∧ len input.privateKey ≤ 256 * 1024 ∧
      len input.passphrase ≤ 4096)
    (validationError "private key is required and must be within the size limit")
  let key ← orError
    (Ssh.parseSigner server.library (bytes input.privateKey) (bytes input.passphrase))
    ⟨400, "invalid_credential", "SSH private key or passphrase is invalid"⟩
  return (input, key)

/-- The credential to store: `envelope` is what the encryption service made of
the payload, which it opens again in the same context. -/
def sealCredential (server : Server) (principal : Principal) (hostID : String)
    (payload : CredentialPayload) (key : Ssh.PublicKey) (raw : Option Bytes)
    (envelope : Option Envelope) (now : Int) : Except ApiError StoredCredential := do
  let raw ← orError raw ⟨500, "internal_error", "could not store credential"⟩
  let id := newID "cred" raw
  let opens := envelope.filter fun sealed =>
    server.vault.opened (server.credentialAAD hostID id) sealed = some payload
  let sealed ← orError opens
    ⟨503, "kms_unavailable", "credential encryption is unavailable"⟩
  return {
    metadata := {
      id := id
      hostID := hostID
      kind := "ssh_private_key"
      publicKeyFingerprint := server.library.fingerprintSHA256 key
      keyID := sealed.keyID
      createdAt := now
      createdBy := principal.subject }
    envelope := sealed }

def decodeConnectorCredential (payload : CredentialPayload) : Except String Credential := do
  ensure (payload.privateKey ≠ "") "stored credential payload is invalid"
  return ⟨bytes payload.privateKey, bytes payload.passphrase⟩

structure PreviewRunbookRequest where
  actionID : String
  version : Int
  parameters : Runbook.Parameters
  deriving DecidableEq, Repr

def acceptPreview (server : Server) (body : Except String PreviewRunbookRequest) :
    Except ApiError PreviewRunbookRequest := do
  let input ← body.mapError invalidRequest
  ensure (input.actionID ≠ "" ∧ 1 ≤ input.version)
    (validationError "actionId and version are required")
  let _ ← (Runbook.build server.sha256 input.actionID input.version input.parameters).mapError
    fun _ => validationError "runbook action or parameters are invalid"
  return input

def newRunbookJob (principal : Principal) (hostID jobID : String) (now : Int) : Job where
  id := jobID
  type := "runbook"
  hostID := hostID
  state := .queued
  requestedBy := principal.subject
  requestedSessionID := principal.sessionID
  createdAt := now
  startedAt := none
  finishedAt := none
  snapshot := none
  command := none
  commandResult := none
  anomalyScan := none
  runbookPreview := none
  runbookExecution := none
  error := none
  version := 1

def Host.target (host : Host) : Ssh.Target := ⟨host.address, host.port, host.username⟩

def previewBinding (host : Host) (pin : HostKeyPin) (credential : StoredCredential)
    (input : PreviewRunbookRequest) (hostID jobID : String) : RunbookBinding where
  action := ⟨input.actionID, input.version⟩
  hostID := hostID
  jobID := jobID
  target := host.target
  pinnedHostKeySHA256 := pin.fingerprintSHA256
  credentialPublicKeySHA256 := credential.metadata.publicKeyFingerprint
  parameters := input.parameters

def runbookPreviewModel (value : RunbookPreviewResponse) : RunbookPreviewResult where
  protocolVersion := value.protocolVersion
  requestID := value.requestID
  action := value.action
  catalogVersion := value.catalogVersion
  binding := value.binding
  scopeDigest := value.scopeDigest
  title := value.title
  mutating := value.mutating
  emergency := value.emergency
  executionEnabled := value.executionEnabled
  retryPolicy := value.retryPolicy
  steps := value.steps

/-- What `previewRunbook` compares in the Connector's answer. -/
def PreviewAccepted (jobID hostID : String) (preview : RunbookPreviewResponse) : Prop :=
  preview.scopeDigest ≠ "" ∧ preview.binding.jobID = jobID ∧ preview.binding.hostID = hostID

instance (jobID hostID : String) (preview : RunbookPreviewResponse) :
    Decidable (PreviewAccepted jobID hostID preview) := by
  unfold PreviewAccepted
  infer_instance

def previewFailed : ApiError := ⟨502, "preview_failed", "Connector could not preview the runbook"⟩

/-- The preview to store, from the Connector's answer. -/
def acceptedPreview (server : Server) (jobID hostID : String)
    (reply : Except String RunbookPreviewResponse) : Except ApiError RunbookPreviewResult := do
  let preview ← reply.mapError fun _ => previewFailed
  ensure (PreviewAccepted jobID hostID preview) previewFailed
  return { runbookPreviewModel preview with
    executionEnabled :=
      preview.executionEnabled && (!preview.mutating || server.mutationsEnabled) }

theorem acceptedPreview_eq_ok {server : Server} {jobID hostID : String}
    {reply : Except String RunbookPreviewResponse} {stored : RunbookPreviewResult}
    (accepted : acceptedPreview server jobID hostID reply = .ok stored) :
    ∃ preview, reply = .ok preview ∧ PreviewAccepted jobID hostID preview ∧
      stored.binding = preview.binding ∧ stored.scopeDigest = preview.scopeDigest := by
  simp only [acceptedPreview, bind_eq_ok, mapError_eq_ok, ensure_eq_ok, pure_eq_ok] at accepted
  obtain ⟨preview, answered, _, compared, rfl⟩ := accepted
  exact ⟨preview, answered, compared, rfl, rfl⟩

structure ExecuteRunbookRequest where
  scopeDigest : String
  reason : String
  incidentID : String
  deriving DecidableEq, Repr

def validRunbookReason (value : String) : Bool :=
  8 ≤ len value && len value ≤ 500 && value.toList.all fun c => !isControl c

def validRunbookIdentifier (value : String) (max : Nat) : Bool :=
  1 ≤ len value && len value ≤ max && identifierChars value

/-- The checks of `executeRunbook` before it reads the job. -/
def acceptExecute (server : Server) (body : Except String ExecuteRunbookRequest) :
    Except ApiError ExecuteRunbookRequest := do
  ensure (server.runbooks = true ∧ server.devMode = true ∧ server.secretExecutionEnabled = true)
    ⟨503, "execution_boundary_unavailable",
      "Runbook execution requires a development execution identity with credential decryption"⟩
  let input ← body.mapError invalidRequest
  let input :=
    { input with reason := trimSpace input.reason, incidentID := trimSpace input.incidentID }
  ensure (input.scopeDigest ≠ "" ∧ validRunbookReason input.reason = true ∧
      (input.incidentID = "" ∨ validRunbookIdentifier input.incidentID 128 = true))
    (validationError "scopeDigest, reason, or incidentId is invalid")
  return input

/-- The preview of a runbook job that waits for its approval. -/
def awaitingPreview (job : Job) : Except ApiError RunbookPreviewResult := do
  let notAwaiting : ApiError := ⟨409, "runbook_not_awaiting_approval",
    "runbook job is not awaiting execution approval"⟩
  ensure (job.type = "runbook" ∧ job.state = .awaitingApproval) notAwaiting
  orError job.runbookPreview notAwaiting

def authorizationExpired : ApiError :=
  ⟨403, "authorization_expired", "runbook authorization expired or was revoked"⟩

/-- The caller must hold the session that asked for the job, still valid. -/
def checkAuthorized (principal : Principal) (authorized : Option Principal) :
    Except ApiError Unit := do
  let authorized ← orError authorized authorizationExpired
  ensure (authorized.sessionID = principal.sessionID ∧ authorized.subject = principal.subject)
    authorizationExpired

def checkApproval (server : Server) (input : ExecuteRunbookRequest)
    (preview : RunbookPreviewResult) : Except ApiError Unit := do
  ensure (input.scopeDigest = preview.scopeDigest)
    ⟨409, "scope_changed", "runbook scope digest does not match the preview"⟩
  ensure (preview.emergency = false ∨ input.incidentID ≠ "")
    ⟨400, "incident_required", "emergency runbooks require an incidentId"⟩
  ensure (preview.mutating = false ∨ server.mutationsEnabled = true)
    ⟨503, "mutations_disabled", "mutating runbooks require VPSMGR_ENABLE_MUTATIONS=true"⟩
  ensure (preview.executionEnabled = true)
    ⟨503, "runbook_execution_disabled", "Connector execution is disabled for this runbook"⟩

/-- The request to the Connector, with the credential it opened. -/
def executeRequest (job : Job) (preview : RunbookPreviewResult) (input : ExecuteRunbookRequest)
    (pin : HostKeyPin) (credential : Credential) (now : Int) : RunbookExecuteRequest where
  protocolVersion := ""
  binding := preview.binding
  approval := {
    decision := "approved"
    action := preview.binding.action
    hostID := job.hostID
    jobID := job.id
    scopeDigest := preview.scopeDigest
    approvedAt := now
    expiresAt := now + 5 * minute }
  emergency :=
    if preview.emergency then ⟨input.incidentID, now + 5 * minute⟩ else noEmergencyGrant
  reason := input.reason
  pinnedHostKey := pin.publicKey
  credential := credential

/-- The credential in an envelope, unless the service cannot be reached. -/
def openCredential (server : Server) (reachable : Bool) (credential : StoredCredential)
    (hostID : String) : Except String Credential := do
  ensure (reachable = true) "credential decryption is unavailable in this process"
  let payload ← orError
    (server.vault.opened (server.credentialAAD hostID credential.metadata.id) credential.envelope)
    "credential authentication failed"
  decodeConnectorCredential payload

def safeRemoteOutput (value : Bytes) : String :=
  String.ofList ((toValidUTF8 value).toList.map fun c =>
    if c == '\n' || c == '\t' || !isControl c then c else ' ')

def runbookExecutionModel (value : RunbookExecuteResponse) : RunbookExecutionResult where
  protocolVersion := value.protocolVersion
  requestID := value.requestID
  action := value.action
  catalogVersion := value.catalogVersion
  binding := value.binding
  scopeDigest := value.scopeDigest
  status := value.status
  stopped := value.stopped
  retryable := value.retryable
  idempotentReplay := value.idempotentReplay
  steps := value.steps.map fun step => {
    id := step.id
    phase := step.phase
    state := step.state
    stdout := safeRemoteOutput step.stdout
    stderr := safeRemoteOutput step.stderr
    exitCode := step.exitCode
    durationMillis := step.durationMillis
    errorCode := step.errorCode }

def executionFailed : ApiError :=
  ⟨502, "execution_failed", "Connector could not execute the runbook"⟩

/-- The execution to store, from the Connector's answer. -/
def acceptedExecution (jobID : String) (preview : RunbookPreviewResult)
    (reply : Except String RunbookExecuteResponse) : Except ApiError RunbookExecutionResult := do
  let execution ← reply.mapError fun _ => executionFailed
  ensure (execution.scopeDigest = preview.scopeDigest ∧ execution.binding.jobID = jobID)
    executionFailed
  return runbookExecutionModel execution

end VpsManager.Control
