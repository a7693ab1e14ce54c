import VpsManager.Control.Auth
import VpsManager.Protocol.Runbook

namespace VpsManager.Control

open Go Protocol Checks

structure HostKeyPin where
  algorithm : String
  fingerprintSHA256 : String
  publicKey : String
  confirmedAt : Int
  confirmedBy : String
  deriving DecidableEq, Repr

/-- A host; absent labels are the nil map. -/
structure Host where
  id : String
  name : String
  address : String
  port : Int
  username : String
  labels : Option (StringMap String)
  hostKey : Option HostKeyPin
  version : UInt64
  createdAt : Int
  updatedAt : Int
  deriving DecidableEq

structure CredentialMetadata where
  id : String
  hostID : String
  kind : String
  publicKeyFingerprint : String
  keyID : String
  createdAt : Int
  createdBy : String
  deriving DecidableEq, Repr

/-- An encrypted secret, as the key management service returns it. -/
structure Envelope where
  keyID : String
  wrappedKey : Bytes
  keyNonce : Bytes
  ciphertext : Bytes
  nonce : Bytes
  deriving DecidableEq, Repr

structure StoredCredential where
  metadata : CredentialMetadata
  envelope : Envelope
  deriving DecidableEq, Repr

inductive JobState
  | queued
  | running
  | awaitingApproval
  | succeeded
  | failed
  | timedOut
  | cancelled
  deriving DecidableEq, Repr

def JobState.name : JobState → String
  | .queued => "queued"
  | .running => "running"
  | .awaitingApproval => "awaiting_approval"
  | .succeeded => "succeeded"
  | .failed => "failed"
  | .timedOut => "timed_out"
  | .cancelled => "cancelled"

structure JobError where
  code : String
  message : String
  deriving DecidableEq, Repr

structure RunbookPreviewResult where
  protocolVersion : String
  requestID : String
  action : String
  catalogVersion : String
  binding : RunbookBinding
  scopeDigest : String
  title : String
  mutating : Bool
  emergency : Bool
  executionEnabled : Bool
  retryPolicy : String
  steps : List RunbookStepPreview
  deriving DecidableEq, Repr

structure RunbookStepExecution where
  id : String
  phase : String
  state : String
  stdout : String
  stderr : String
  exitCode : Int
  durationMillis : Int
  errorCode : String
  deriving DecidableEq, Repr

structure RunbookExecutionResult where
  protocolVersion : String
  requestID : String
  action : String
  catalogVersion : String
  binding : RunbookBinding
  scopeDigest : String
  status : String
  stopped : Bool
  retryable : Bool
  idempotentReplay : Bool
  steps : List RunbookStepExecution
  deriving DecidableEq, Repr

structure FilesystemUsage where
  mount : String
  totalBytes : UInt64
  usedBytes : UInt64
  freeBytes : UInt64
  deriving DecidableEq, Repr

/-- What a host reported about itself; absent field errors are the nil map. -/
structure RuntimeSnapshot where
  observedAt : Int
  hostname : String
  kernel : String
  uptimeSeconds : UInt64
  load : Float64 × Float64 × Float64
  memoryTotalBytes : UInt64
  memoryAvailableBytes : UInt64
  cpuModel : String
  cpuLogicalCores : UInt32
  filesystems : List FilesystemUsage
  fieldErrors : Option (StringMap String)
  deriving DecidableEq

structure CommandDescriptor where
  id : String
  parameters : Option (StringMap String)
  deriving DecidableEq

structure CommandResult where
  commandID : String
  stdout : String
  stderr : String
  exitCode : Int
  durationMillis : Int
  truncated : Bool
  deriving DecidableEq, Repr

structure FindingEvidence where
  pid : Int
  parentPID : Int
  user : String
  processName : String
  cpuPercent : Float64
  elapsedSeconds : UInt64
  deriving DecidableEq, Repr

structure ProcessFinding where
  id : String
  ruleID : String
  title : String
  severity : String
  confidence : Float64
  evidence : FindingEvidence
  falsePositiveNote : String
  deriving DecidableEq, Repr

structure RankedFinding where
  findingID : String
  rank : Int
  rationale : String
  deriving DecidableEq, Repr

structure HumanVerificationStep where
  findingID : String
  description : String
  deriving DecidableEq, Repr

structure Recommendation where
  findingID : String
  priority : String
  advice : String
  deriving DecidableEq, Repr

structure Analysis where
  schemaVersion : String
  summary : String
  rankedFindings : List RankedFinding
  humanVerificationSteps : List HumanVerificationStep
  recommendations : List Recommendation
  executionAllowed : Bool
  deriving DecidableEq, Repr

/-- An explanation of findings, and where it comes from. -/
structure AnalysisOutcome where
  analysis : Analysis
  mode : String
  fallbackReason : String
  deriving DecidableEq, Repr

structure AnomalyScanResult where
  observedAt : Int
  engine : String
  aiExecutionAllowed : Bool
  processesEvaluated : Int
  findings : List ProcessFinding
  aiAnalysis : Option AnalysisOutcome
  deriving DecidableEq, Repr

/-- A job, with the results its kind of work leaves in it. -/
structure Job where
  id : String
  type : String
  hostID : String
  state : JobState
  requestedBy : String
  requestedSessionID : String
  createdAt : Int
  startedAt : Option Int
  finishedAt : Option Int
  snapshot : Option RuntimeSnapshot
  command : Option CommandDescriptor
  commandResult : Option CommandResult
  anomalyScan : Option AnomalyScanResult
  runbookPreview : Option RunbookPreviewResult
  runbookExecution : Option RunbookExecutionResult
  error : Option JobError
  version : UInt64
  deriving DecidableEq

/-- `NewID` for the random bytes it drew. -/
def newID (kind : String) (raw : Bytes) : String := kind ++ "_" ++ rawURLEncode raw

def canTransition (source target : JobState) : Bool :=
  match source with
  | .queued => target == .running || target == .cancelled
  | .awaitingApproval => target == .running || target == .cancelled
  | .running =>
    target == .awaitingApproval || target == .succeeded || target == .failed ||
      target == .timedOut || target == .cancelled
  | _ => false

def transitionJob (job : Job) (target : JobState) (now : Int) : Except String Job := do
  ensure (canTransition job.state target = true)
    ("invalid job transition " ++ job.state.name ++ " -> " ++ target.name)
  return { job with
    state := target
    version := job.version + 1
    startedAt := if target = .running then some now else job.startedAt
    finishedAt :=
      if target = .succeeded ∨ target = .failed ∨ target = .timedOut ∨ target = .cancelled then
        some now
      else job.finishedAt }

end VpsManager.Control
