import VpsManager.Protocol.Auth
import VpsManager.Runbook.Executor
import VpsManager.Ssh.Connector

namespace VpsManager.Protocol

open Go

structure RunbookActionRef where
  id : String
  version : Int
  deriving DecidableEq, Repr

structure RunbookBinding where
  action : RunbookActionRef
  hostID : String
  jobID : String
  target : Ssh.Target
  pinnedHostKeySHA256 : String
  credentialPublicKeySHA256 : String
  parameters : Runbook.Parameters
  deriving DecidableEq, Repr

structure RunbookApprovalSummary where
  decision : String
  action : RunbookActionRef
  hostID : String
  jobID : String
  scopeDigest : String
  approvedAt : Int
  expiresAt : Int
  deriving DecidableEq, Repr

structure RunbookEmergencyGrant where
  incidentID : String
  expiresAt : Int
  deriving DecidableEq, Repr

/-- The grant of a request for an action that is no emergency. -/
def noEmergencyGrant : RunbookEmergencyGrant := ⟨"", zeroTime⟩

structure RunbookPreviewRequest where
  protocolVersion : String
  binding : RunbookBinding
  deriving DecidableEq, Repr

structure RunbookStepPreview where
  id : String
  phase : String
  description : String
  timeoutSeconds : Int
  deriving DecidableEq, Repr

structure RunbookPreviewResponse where
  protocolVersion : String
  requestID : String
  action : String
  catalogVersion : String
  binding : RunbookBinding
  scopeDigest : String
  title : String
  mutating : Bool
  emergency : Bool
  executionEnabled : Bool
  retryPolicy : String
  steps : List RunbookStepPreview
  deriving DecidableEq, Repr

structure Credential where
  privateKeyPEM : Bytes
  passphrase : Bytes
  deriving DecidableEq, Repr

structure RunbookExecuteRequest where
  protocolVersion : String
  binding : RunbookBinding
  approval : RunbookApprovalSummary
  emergency : RunbookEmergencyGrant
  reason : String
  pinnedHostKey : String
  credential : Credential
  deriving DecidableEq, Repr

structure RunbookStepResult where
  id : String
  phase : String
  state : String
  stdout : Bytes
  stderr : Bytes
  exitCode : Int
  durationMillis : Int
  errorCode : String
  deriving DecidableEq, Repr

structure RunbookExecuteResponse where
  protocolVersion : String
  requestID : String
  action : String
  catalogVersion : String
  binding : RunbookBinding
  scopeDigest : String
  status : String
  stopped : Bool
  retryable : Bool
  idempotentReplay : Bool
  steps : List RunbookStepResult
  deriving DecidableEq, Repr

/-- Letters and digits, and after the first character also dots, underscores,
colons and dashes. -/
def identifierChars (text : String) : Bool :=
  match text.toList with
  | [] => true
  | first :: rest =>
    isAlnumASCII first && rest.all fun c => isAlnumASCII c || "._:-".toList.contains c

/-- The message `Client.PreviewRunbook` posts. -/
def previewRunbook (request : RunbookPreviewRequest) : RunbookPreviewRequest :=
  { request with protocolVersion := protocolVersion }

/-- The message `Client.ExecuteRunbook` posts. -/
def executeRunbook (request : RunbookExecuteRequest) : RunbookExecuteRequest :=
  { request with protocolVersion := protocolVersion }

end VpsManager.Protocol
