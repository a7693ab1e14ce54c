import VpsManager.Protocol.Runbook

namespace VpsManager.Connector

open Go Checks Protocol

structure ConnectorError where
  status : Nat
  code : String
  message : String
  retryable : Bool
  deriving DecidableEq, Repr

structure Handler where
  library : Ssh.Library
  sha256 : Bytes → Bytes
  mutationsEnabled : Bool
  allowPrivateTargets : Bool
  outputLimit : Int
  connectTimeout : Int
  concurrency : Nat
  /-- `MaxIdempotencyJobs`. -/
  maxIdempotencyJobs : Int

def maxApprovalLifetime : Int := 15 * minute
def maxEmergencyLifetime : Int := 240 * minute

def validIdentifier (value : String) (max : Nat) : Bool :=
  1 ≤ len value && len value ≤ max && value == trimSpace value && identifierChars value

def isFingerprintChar (c : Char) : Bool := isAlnumASCII c || "+/-_".toList.contains c

def validSSHFingerprint (value : String) : Bool :=
  hasPrefix value "SHA256:" && 20 ≤ len value && len value ≤ 96 &&
    (value.toList.drop 7).all isFingerprintChar

def validReason (value : String) : Bool :=
  8 ≤ len value && len value ≤ 500 && value == trimSpace value &&
    value.toList.all fun c => !isControl c

def validateBoundTarget (binding : RunbookBinding) : Except String Unit := do
  let address := binding.target.address
  let user := binding.target.user
  ensure (trimSpace address ≠ "" ∧ address = trimSpace address ∧ len address ≤ 253 ∧
      1 ≤ binding.target.port ∧ binding.target.port ≤ 65535 ∧
      trimSpace user ≠ "" ∧ user = trimSpace user ∧ len user ≤ 64 ∧
      validSSHFingerprint binding.pinnedHostKeySHA256 = true ∧
      validSSHFingerprint binding.credentialPublicKeySHA256 = true)
    "invalid bound SSH target"
  ensure ((address ++ user).toList.all (fun c => !isControl c) = true)
    "target contains control characters"

/-- The plan of a binding and the digest that covers all of it. -/
def buildBoundPlan (sha256 : Bytes → Bytes) (version : String) (binding : RunbookBinding) :
    Except String (Runbook.Plan × String) := do
  ensure (version = protocolVersion ∧ validIdentifier binding.hostID 128 = true ∧
      validIdentifier binding.jobID 128 = true)
    "invalid protocol or identifiers"
  validateBoundTarget binding
  let plan ← Runbook.build sha256 binding.action.id binding.action.version binding.parameters
  let baseDigest ← Runbook.scopeDigest sha256 binding.hostID binding.jobID plan
  let canonical := "\n".intercalate
    [baseDigest, binding.target.address, toString binding.target.port, binding.target.user,
      binding.pinnedHostKeySHA256, binding.credentialPublicKeySHA256]
  return (plan, hex (sha256 (bytes canonical)))

/-- The emergency grant an action needs, or must not have. -/
def validateEmergency (grant : RunbookEmergencyGrant) (emergency : Bool) (now : Int) :
    Except String Unit :=
  if emergency then
    ensure (validIdentifier grant.incidentID 128 = true ∧ grant.expiresAt ≠ zeroTime ∧
        now < grant.expiresAt ∧ grant.expiresAt ≤ now + maxEmergencyLifetime)
      "emergency grant is invalid"
  else
    ensure (grant = noEmergencyGrant) "non-emergency action included an emergency grant"

def validateApproval (payload : RunbookExecuteRequest) (definition : Runbook.Definition)
    (digest : String) (now : Int) : Except String Unit := do
  let approval := payload.approval
  ensure (approval.decision = "approved" ∧ approval.action = payload.binding.action ∧
      approval.hostID = payload.binding.hostID ∧ approval.jobID = payload.binding.jobID ∧
      approval.scopeDigest = digest)
    "approval does not match binding"
  ensure (approval.approvedAt ≠ zeroTime ∧ approval.expiresAt ≠ zeroTime ∧
      approval.approvedAt ≤ now + 30 * second ∧ now - maxApprovalLifetime ≤ approval.approvedAt ∧
      now < approval.expiresAt ∧ approval.expiresAt ≤ approval.approvedAt + maxApprovalLifetime)
    "approval is expired or outside its maximum lifetime"
  ensure (validReason payload.reason = true) "reason is invalid"
  validateEmergency payload.emergency definition.emergency now

/-- The pinned host key and the key of the credential. -/
def validateRunbookSSHMaterial (library : Ssh.Library) (payload : RunbookExecuteRequest) :
    Except String (Ssh.PublicKey × Ssh.PublicKey) := do
  ensure (len payload.pinnedHostKey ≠ 0 ∧ len payload.pinnedHostKey ≤ 16 * 1024 ∧
      payload.credential.privateKeyPEM.length ≠ 0 ∧
      payload.credential.privateKeyPEM.length ≤ 48 * 1024 ∧
      payload.credential.passphrase.length ≤ 4 * 1024)
    "SSH material size is invalid"
  let pinned ← (Ssh.parsePinnedHostKey library payload.pinnedHostKey).mapError fun _ =>
    "pinned host key does not match binding"
  ensure (library.fingerprintSHA256 pinned = payload.binding.pinnedHostKeySHA256)
    "pinned host key does not match binding"
  let signer ← orError
    (Ssh.parseSigner library payload.credential.privateKeyPEM payload.credential.passphrase)
    "credential does not match binding"
  ensure (library.fingerprintSHA256 signer = payload.binding.credentialPublicKeySHA256)
    "credential does not match binding"
  return (pinned, signer)

def invalidJSON : ConnectorError :=
  ⟨400, "invalid_json", "request must be one valid JSON object with only supported fields", false⟩

def invalidRunbook : ConnectorError := ⟨400, "invalid_runbook", "runbook binding is invalid", false⟩

/-- What `handleExecute` runs: the plan, what the ledger knows it by, and the
connection. -/
structure Accepted where
  binding : RunbookBinding
  plan : Runbook.Plan
  digest : String
  now : Int
  config : Ssh.Config

/-- `handleExecute` from the decoding of its body to the ledger. -/
def acceptExecute (handler : Handler) (body : Except String RunbookExecuteRequest) (now : Int) :
    Except ConnectorError Accepted := do
  let payload ← body.mapError fun _ => invalidJSON
  let (plan, digest) ← (buildBoundPlan handler.sha256 payload.protocolVersion
    payload.binding).mapError fun _ => invalidRunbook
  ensure (plan.definition.mutating = false ∨ handler.mutationsEnabled = true)
    ⟨403, "mutations_disabled", "mutating runbooks are disabled by connector policy", false⟩
  (validateApproval payload plan.definition digest now).mapError fun _ =>
    ⟨403, "approval_invalid", "runbook approval, reason, or emergency grant is invalid", false⟩
  let (pinned, signer) ← (validateRunbookSSHMaterial handler.library payload).mapError fun _ =>
    ⟨400, "ssh_material_invalid",
      "SSH target, host key, or credential does not match the approved binding", false⟩
  return {
    binding := payload.binding
    plan := plan
    digest := digest
    now := now
    config := {
      target := payload.binding.target
      authKey := signer
      pinnedHostKey := pinned
      connectTimeout := handler.connectTimeout
      maxOutputBytes := handler.outputLimit
      allowPrivateTargets := handler.allowPrivateTargets } }

/-- The response to an execution. An error of the executor counts as failed and
stopped. -/
def executeResponse (requestID : String) (accepted : Accepted)
    (execution : Except String Runbook.Execution) : RunbookExecuteResponse where
  protocolVersion := protocolVersion
  requestID := requestID
  action := "runbook_execute_v1"
  catalogVersion := Runbook.catalogVersion
  binding := accepted.binding
  scopeDigest := accepted.digest
  status := (execution.toOption.map fun result => result.status.name).getD "failed"
  stopped := (execution.toOption.map fun result => result.stopped).getD true
  retryable := false
  idempotentReplay := false
  steps := ((execution.toOption.map fun result => result.steps).getD []).map fun step => {
    id := step.id
    phase := step.phase.name
    state := step.state.name
    stdout := step.stdout
    stderr := step.stderr
    exitCode := step.exitCode
    durationMillis := step.duration.tdiv 1000000
    errorCode := step.errorCode }

variable {handler : Handler} {payload : RunbookExecuteRequest} {now : Int} {plan : Runbook.Plan}
  {digest : String}

theorem acceptExecute_of {pinned signer : Ssh.PublicKey}
    (built : buildBoundPlan handler.sha256 payload.protocolVersion payload.binding =
      .ok (plan, digest))
    (enabled : plan.definition.mutating = false ∨ handler.mutationsEnabled = true)
    (approved : validateApproval payload plan.definition digest now = .ok ())
    (material : validateRunbookSSHMaterial handler.library payload = .ok (pinned, signer)) :
    ∃ accepted, acceptExecute handler (.ok payload) now = .ok accepted ∧
      accepted.binding = payload.binding ∧ accepted.now = now := by
  simp only [acceptExecute, bind_eq_ok, mapError_eq_ok, ensure_eq_ok, pure_eq_ok]
  exact ⟨_, ⟨payload, rfl, (plan, digest), built, (), enabled, (), approved, (pinned, signer),
    material, rfl⟩, rfl, rfl⟩

theorem buildBoundPlan_ok {sha256 : Bytes → Bytes} {version : String} {binding : RunbookBinding}
    (built : buildBoundPlan sha256 version binding = .ok (plan, digest)) :
    validIdentifier binding.hostID 128 = true ∧ validIdentifier binding.jobID 128 = true ∧
      validateBoundTarget binding = .ok () ∧
      Runbook.build sha256 binding.action.id binding.action.version binding.parameters = .ok plan ∧
      ∃ canonical, digest = hex (sha256 canonical) := by
  simp only [buildBoundPlan, bind_eq_ok, ensure_eq_ok, pure_eq_ok, Prod.mk.injEq] at built
  obtain ⟨_, ⟨-, host, job⟩, _, target, _, planned, _, -, rfl, rfl⟩ := built
  exact ⟨host, job, target, planned, _, rfl⟩

theorem acceptExecute_planned {accepted : Accepted}
    (done : acceptExecute handler (.ok payload) now = .ok accepted) :
    buildBoundPlan handler.sha256 payload.protocolVersion accepted.binding =
      .ok (accepted.plan, accepted.digest) := by
  simp only [acceptExecute, bind_eq_ok, mapError_eq_ok, ensure_eq_ok, pure_eq_ok] at done
  obtain ⟨_, same, ⟨plan, digest⟩, built, _, -, _, -, ⟨pinned, signer⟩, -, rfl⟩ := done
  cases same
  exact built

theorem acceptExecute_binding {accepted : Accepted}
    (done : acceptExecute handler (.ok payload) now = .ok accepted) :
    accepted.binding = payload.binding := by
  simp only [acceptExecute, bind_eq_ok, mapError_eq_ok, ensure_eq_ok, pure_eq_ok] at done
  obtain ⟨_, same, ⟨plan, digest⟩, -, _, -, _, -, ⟨pinned, signer⟩, -, rfl⟩ := done
  cases same
  rfl

end VpsManager.Connector
