import VpsManager.Control.Plane

namespace VpsManager.Control

open Go Checks Interleaving

structure ReadOnlyCommandRequest where
  commandID : String
  parameters : Option (StringMap String)
  deriving DecidableEq

structure CatalogCommand where
  id : String
  script : String
  deriving DecidableEq, Repr

/-- `serviceStatusCommands`: the services whose status may be asked for. -/
def serviceStatusCommand (service : String) : Option String :=
  if service ∈ ["nginx", "ssh", "docker", "cron"] then
    some ("LC_ALL=C systemctl show --no-pager --property=Id,Description,LoadState,ActiveState," ++
      "SubState,UnitFileState,MainPID " ++ service ++ ".service 2>/dev/null")
  else none

def readOnlyCommand (id service : String) : Except String CatalogCommand :=
  if id = "disk_usage_v1" then do
    ensure (service = "") "disk usage does not accept parameters"
    return ⟨id, "LC_ALL=C df -P -B1 2>/dev/null"⟩
  else if id = "listening_ports_v1" then do
    ensure (service = "") "listening ports does not accept parameters"
    return ⟨id, "LC_ALL=C ss -H -lntu 2>/dev/null"⟩
  else if id = "service_status_v1" then do
    let script ← orError (serviceStatusCommand service)
      "service must be one of nginx, ssh, docker, or cron"
    return ⟨id, script⟩
  else .error "command id is not in the read-only catalog"

def parseReadOnlyCommand (input : ReadOnlyCommandRequest) :
    Except String (CatalogCommand × CommandDescriptor) := do
  let parameters := input.parameters.getD ∅
  ensure (parameters.entries.card ≤ 1) "command accepts at most one known parameter"
  ensure (∀ entry ∈ parameters.entries, entry.1 = "service")
    "command contains an unknown parameter"
  let command ← readOnlyCommand input.commandID ((parameters.lookup "service").getD "")
  return (command, ⟨command.id, if parameters = ∅ then none else some parameters⟩)

/-- The errors that are told apart when a remote operation fails. -/
inductive Sentinel
  | authorizationExpired
  | canceled
  | deadlineExceeded
  | hostKeyMismatch
  | hostKeyRequired
  | outputLimit
  | targetDenied
  deriving DecidableEq, Repr

/-- An error, by those of the known errors it wraps. -/
abbrev RemoteError := List Sentinel

inductive Operation
  | snapshot
  | command
  | scan
  deriving DecidableEq, Repr

namespace Operation

def permission : Operation → Permission
  | .snapshot => .snapshotsRun
  | .command => .commandsRun
  | .scan => .anomalyScansRun

def jobType : Operation → String
  | .snapshot => "runtime_snapshot"
  | .command => "read_only_command"
  | .scan => "process_anomaly_scan"

/-- The text `safeOperationError` is called with. -/
def text : Operation → String
  | .snapshot => "snapshot"
  | .command => "command"
  | .scan => "anomaly scan"

end Operation

structure JobFailure where
  state : JobState
  code : String
  message : String
  unsuccessful : state = .failed ∨ state = .timedOut ∨ state = .cancelled
  proper : code ≠ "" ∧ message.length ≤ 4096

namespace JobFailure

def failed (code message : String) (proper : code ≠ "" ∧ message.length ≤ 4096) : JobFailure :=
  ⟨.failed, code, message, .inl rfl, proper⟩

def timedOut (code message : String) (proper : code ≠ "" ∧ message.length ≤ 4096) : JobFailure :=
  ⟨.timedOut, code, message, .inr (.inl rfl), proper⟩

def cancelled (code message : String) (proper : code ≠ "" ∧ message.length ≤ 4096) : JobFailure :=
  ⟨.cancelled, code, message, .inr (.inr rfl), proper⟩

end JobFailure

/-- `safeJobError`, for snapshots. -/
def safeJobError (error : RemoteError) : JobFailure :=
  if .canceled ∈ error then .cancelled "cancelled" "job was cancelled" (by decide +kernel)
  else if .deadlineExceeded ∈ error then
    .timedOut "timeout" "snapshot collection timed out" (by decide +kernel)
  else if .hostKeyMismatch ∈ error ∨ .hostKeyRequired ∈ error then
    .failed "host_key_verification_failed" "SSH host key verification failed" (by decide +kernel)
  else if .outputLimit ∈ error then
    .failed "output_limit" "snapshot collector exceeded its output limit" (by decide +kernel)
  else if .targetDenied ∈ error then
    .failed "target_denied" "SSH target is blocked by network policy" (by decide +kernel)
  else .failed "snapshot_failed" "snapshot collection failed" (by decide +kernel)

def safeOperationError (error : RemoteError) (operation : Operation) : JobFailure :=
  if .authorizationExpired ∈ error then
    .cancelled "authorization_expired" "job authorization expired or was revoked"
      (by decide +kernel)
  else if .canceled ∈ error then .cancelled "cancelled" "job was cancelled" (by decide +kernel)
  else if .deadlineExceeded ∈ error then
    .timedOut "timeout" (operation.text ++ " timed out") (by cases operation <;> decide +kernel)
  else if .hostKeyMismatch ∈ error ∨ .hostKeyRequired ∈ error then
    .failed "host_key_verification_failed" "SSH host key verification failed" (by decide +kernel)
  else if .outputLimit ∈ error then
    .failed "output_limit" (operation.text ++ " exceeded its output limit")
      (by cases operation <;> decide +kernel)
  else if .targetDenied ∈ error then
    .failed "target_denied" "SSH target is blocked by network policy" (by decide +kernel)
  else .failed "operation_failed" (operation.text ++ " failed")
    (by cases operation <;> decide +kernel)

def finishQueuedCancellation (code message : String) (now : Int) : JobMutation :=
  moveJob .cancelled now none none (some ⟨code, message⟩)

inductive Cancellation
  | authorizationExpired
  | cancelled
  deriving DecidableEq, Repr

/-- The call of `finishQueuedCancellation` for either reason. -/
def Cancellation.mutation : Cancellation → Int → JobMutation
  | .authorizationExpired =>
    finishQueuedCancellation "authorization_expired" "job authorization expired or was revoked"
  | .cancelled => finishQueuedCancellation "cancelled" "job was cancelled"

/-- `finishJob`. -/
def finishSnapshotJob (result : Option RuntimeSnapshot) (state : JobState) (code message : String)
    (now : Int) : JobMutation where
  run job := do
    let updated ← (transitionJob job state now).mapError .other
    return { updated with
      snapshot := result
      error := if code ≠ "" then some ⟨code, message⟩ else updated.error }
  continues := by
    intro job updated ran
    simp only [transitionJob, bind_eq_ok, mapError_eq_ok, ensure_eq_ok, pure_eq_ok] at ran
    obtain ⟨_, ⟨_, possible, rfl⟩, rfl⟩ := ran
    exact ⟨rfl, rfl, rfl, rfl, possible⟩

def finishOperationJob (command : Option CommandResult) (scan : Option AnomalyScanResult)
    (state : JobState) (code message : String) (now : Int) : JobMutation where
  run job := do
    let updated ← (transitionJob job state now).mapError .other
    return { updated with
      commandResult := command
      anomalyScan := scan
      error := if code ≠ "" then some ⟨code, message⟩ else updated.error }
  continues := by
    intro job updated ran
    simp only [transitionJob, bind_eq_ok, mapError_eq_ok, ensure_eq_ok, pure_eq_ok] at ran
    obtain ⟨_, ⟨_, possible, rfl⟩, rfl⟩ := ran
    exact ⟨rfl, rfl, rfl, rfl, possible⟩

inductive OperationEnd
  | collected (snapshot : RuntimeSnapshot)
  | executed (result : CommandResult)
  | scanned (scan : AnomalyScanResult)
  | failed (failure : JobFailure)

/-- The call of `finishJob` or `finishOperationJob` at the end of a goroutine. -/
def OperationEnd.mutation (operation : Operation) (result : OperationEnd) (now : Int) :
    JobMutation :=
  match operation, result with
  | .snapshot, .failed failure =>
    finishSnapshotJob none failure.state failure.code failure.message now
  | _, .failed failure =>
    finishOperationJob none none failure.state failure.code failure.message now
  | _, .collected snapshot => finishSnapshotJob (some snapshot) .succeeded "" "" now
  | _, .executed command => finishOperationJob (some command) none .succeeded "" "" now
  | _, .scanned scan => finishOperationJob none (some scan) .succeeded "" "" now

/-- The body of a request; a snapshot has none that is read. -/
inductive OperationRequest
  | createRuntimeSnapshot
  | createReadOnlyCommand (body : Except String ReadOnlyCommandRequest)
  | createAnomalyScan (body : Except String Unit)

namespace OperationRequest

def operation : OperationRequest → Operation
  | .createRuntimeSnapshot => .snapshot
  | .createReadOnlyCommand _ => .command
  | .createAnomalyScan _ => .scan

/-- The checks of a request on its body, and the command to store in the job. -/
def descriptor : OperationRequest → Except ApiError (Option CommandDescriptor)
  | .createRuntimeSnapshot => return none
  | .createReadOnlyCommand body => do
    let input ← body.mapError invalidRequest
    let (_, descriptor) ← (parseReadOnlyCommand input).mapError validationError
    return some descriptor
  | .createAnomalyScan body => do
    body.mapError invalidRequest
    return none

end OperationRequest

/-- The host of a job that runs over SSH, with a key to pin. -/
def sshJobHost (server : Server) (m : Memory) (principal : Principal) (hostID : String) :
    Except ApiError Host := do
  checkHostScope principal hostID
  ensure (server.secretExecutionEnabled = true)
    ⟨503, "execution_boundary_unavailable",
      "SSH execution requires the independent secret handoff service"⟩
  let host ← (m.getHost hostID).mapError writeStoreError
  ensure (host.hostKey.isSome = true)
    ⟨409, "host_key_required", "host key must be confirmed before SSH jobs can run"⟩
  return host

def newOperationJob (operation : Operation) (principal : Principal) (hostID jobID : String)
    (command : Option CommandDescriptor) (now : Int) : Job where
  id := jobID
  type := operation.jobType
  hostID := hostID
  state := .queued
  requestedBy := principal.subject
  requestedSessionID := principal.sessionID
  createdAt := now
  startedAt := none
  finishedAt := none
  snapshot := none
  command := command
  commandResult := none
  anomalyScan := none
  runbookPreview := none
  runbookExecution := none
  error := none
  version := 1

/-- Where a request for a job is in its handler, and then its goroutine. -/
inductive OperationCall
  | arrived (authorization : String) (hostID : String) (request : OperationRequest)
  | accepted (principal : Principal) (hostID : String) (request : OperationRequest)
  | targetRead (principal : Principal) (hostID : String) (request : OperationRequest)
  | targetAccepted (principal : Principal) (hostID : String) (request : OperationRequest)
  | prepared (operation : Operation) (job : Job)
  | created (operation : Operation) (jobID : String)
  | registered (operation : Operation) (jobID : String)
  | queuedRead (operation : Operation) (queued : Job)
  | authorized (operation : Operation) (jobID : String)
  | cancelling (jobID : String) (reason : Cancellation)
  | cancelTimed (jobID : String) (reason : Cancellation) (now : Int)
  | ready (operation : Operation) (jobID : String)
  | readyTimed (jobID : String) (now : Int)
  | running (operation : Operation) (job : Job)
  | hostRead (operation : Operation) (job : Job) (host : Host)
  | credentialRead (operation : Operation) (job : Job) (host : Host)
      (credential : StoredCredential)
  | authorizedAgain (operation : Operation) (job : Job) (host : Host)
      (credential : StoredCredential)
  | finishing (operation : Operation) (jobID : String) (result : OperationEnd)
  | finishTimed (jobID : String) (result : OperationEnd) (now : Int)
  | ended (jobID : String)
  | returned
  | failed (error : ApiError)

structure RemoteOutput where
  stdout : Bytes
  stderr : Bytes
  exitCode : Int
  durationMillis : Int
  deriving DecidableEq, Repr

/-- What a step takes from outside: random bytes, the order of ranging over the
sessions, whether the job's context is done, and what the remote work gives.
`scan` is what the rules make of the inventory, unless it cannot be parsed. -/
structure OperationChoice where
  raw : Option Bytes
  ranged : List StoredSession
  done : Bool
  collect : Except RemoteError RuntimeSnapshot
  execute : Except RemoteError RemoteOutput
  scan : Option AnomalyScanResult
  analysis : Option AnalysisOutcome

/-- The command of a job, parsed again from the stored descriptor. -/
def storedCommand (job : Job) : Option CatalogCommand := do
  let descriptor ← job.command
  let (command, _) ← (parseReadOnlyCommand ⟨descriptor.id, descriptor.parameters⟩).toOption
  return command

def catalogInvalid : JobFailure :=
  .failed "catalog_invalid" "stored command is not in the catalog" (by decide +kernel)

def hostUnavailable : Operation → JobFailure
  | .snapshot => .failed "host_unavailable" "target host is unavailable" (by decide +kernel)
  | operation => safeOperationError [] operation

def credentialUnavailable : Operation → JobFailure
  | .snapshot =>
    .failed "credential_unavailable" "SSH credential is unavailable" (by decide +kernel)
  | operation => safeOperationError [] operation

def authorizationLost : Operation → JobFailure
  | .snapshot =>
    .cancelled "authorization_expired" "job authorization expired or was revoked"
      (by decide +kernel)
  | operation => safeOperationError [.authorizationExpired] operation

def commandResult (command : CatalogCommand) (output : RemoteOutput) : CommandResult where
  commandID := command.id
  stdout := safeRemoteOutput output.stdout
  stderr := safeRemoteOutput output.stderr
  exitCode := output.exitCode
  durationMillis := output.durationMillis
  truncated := false

def analyzedScan (scan : Option AnomalyScanResult) (analysis : Option AnalysisOutcome) :
    OperationEnd :=
  match scan with
  | none => .failed
      (.failed "inventory_invalid" "process inventory could not be safely parsed"
        (by decide +kernel))
  | some scan =>
    match analysis with
    | none => .failed
        (.failed "ai_analysis_failed" "anomaly findings could not be analyzed"
          (by decide +kernel))
    | some outcome => .scanned { scan with aiAnalysis := some outcome }

/-- The remote work of a goroutine: it opens the credential, connects and runs the
command. -/
def operate (choice : OperationChoice) (operation : Operation) (job : Job) : OperationEnd :=
  match operation with
  | .snapshot =>
    match choice.collect with
    | .error error => .failed (safeJobError error)
    | .ok snapshot => .collected snapshot
  | .command =>
    match storedCommand job, choice.execute with
    | none, _ => .failed catalogInvalid
    | some _, .error error => .failed (safeOperationError error .command)
    | some command, .ok output => .executed (commandResult command output)
  | .scan =>
    match choice.execute with
    | .error error => .failed (safeOperationError error .scan)
    | .ok _ => analyzedScan choice.scan choice.analysis

def operationAdvance (server : Server) (choice : OperationChoice) (s : State) :
    OperationCall → Except ApiError (State × OperationCall)
  | .arrived authorization hostID request =>
    match authenticate server.sha256 s.sessions authorization s.clock with
    | (none, sessions) =>
      return ({ s with sessions := sessions },
        .failed ⟨401, "unauthorized", "a valid bearer session is required"⟩)
    | (some principal, sessions) => do
      require principal request.operation.permission
      return ({ s with sessions := sessions }, .accepted principal hostID request)
  | .accepted principal hostID request => do
    let _ ← sshJobHost server s.memory principal hostID
    return (s, .targetRead principal hostID request)
  | .targetRead principal hostID request => do
    let _ ← (s.memory.getCredential hostID).mapError fun _ =>
      ⟨409, "credential_required", "an SSH credential is required before SSH jobs can run"⟩
    return (s, .targetAccepted principal hostID request)
  | .targetAccepted principal hostID request => do
    let command ← request.descriptor
    let raw ← orError choice.raw ⟨500, "internal_error", "could not create job"⟩
    return (s, .prepared request.operation
      (newOperationJob request.operation principal hostID (newID "job" raw) command s.clock))
  | .prepared operation job => do
    let memory ← (s.memory.createJob job).mapError fun _ =>
      ⟨409, "conflict", "could not create job"⟩
    return ({ s with memory := memory }, .created operation job.id)
  | .created operation jobID =>
    return ({ s with jobCancels := jobID :: s.jobCancels }, .registered operation jobID)
  -- the goroutine
  | .registered operation jobID =>
    match s.memory.getJob jobID with
    | .error _ => return (s, .ended jobID)
    | .ok queued => return (s, .queuedRead operation queued)
  | .queuedRead operation queued =>
    match authorizeSession choice.ranged queued.requestedSessionID operation.permission
        queued.hostID s.clock with
    | none => return (s, .cancelling queued.id .authorizationExpired)
    | some _ => return (s, .authorized operation queued.id)
  | .authorized operation jobID =>
    if choice.done then return (s, .cancelling jobID .cancelled)
    else return (s, .ready operation jobID)
  -- the clock is read before the repository is called
  | .cancelling jobID reason => return (s, .cancelTimed jobID reason s.clock)
  | .cancelTimed jobID reason now =>
    match s.memory.mutateJob jobID (reason.mutation now) with
    | .error _ => return (s, .ended jobID)
    | .ok (_, memory) => return ({ s with memory := memory }, .ended jobID)
  | .ready .snapshot jobID => return (s, .readyTimed jobID s.clock)
  | .readyTimed jobID now =>
    match s.memory.mutateJob jobID (startJob now) with
    | .error _ => return (s, .ended jobID)
    | .ok (job, memory) => return ({ s with memory := memory }, .running .snapshot job)
  -- the other two read it in the function they pass
  | .ready operation jobID =>
    match s.memory.mutateJob jobID (startJob s.clock) with
    | .error _ => return (s, .ended jobID)
    | .ok (job, memory) => return ({ s with memory := memory }, .running operation job)
  | .running operation job =>
    if operation = .command ∧ storedCommand job = none then
      return (s, .finishing operation job.id (.failed catalogInvalid))
    else match s.memory.getHost job.hostID with
    | .error _ => return (s, .finishing operation job.id (.failed (hostUnavailable operation)))
    | .ok host => return (s, .hostRead operation job host)
  | .hostRead operation job host =>
    match s.memory.getCredential job.hostID with
    | .error _ =>
      return (s, .finishing operation job.id (.failed (credentialUnavailable operation)))
    | .ok credential => return (s, .credentialRead operation job host credential)
  | .credentialRead operation job host credential =>
    match authorizeSession choice.ranged job.requestedSessionID operation.permission job.hostID
        s.clock with
    | none => return (s, .finishing operation job.id (.failed (authorizationLost operation)))
    | some _ => return (s, .authorizedAgain operation job host credential)
  | .authorizedAgain operation job _ _ =>
    return (s, .finishing operation job.id (operate choice operation job))
  | .finishing .snapshot jobID result => return (s, .finishTimed jobID result s.clock)
  | .finishTimed jobID result now =>
    match s.memory.mutateJob jobID (result.mutation .snapshot now) with
    | .error _ => return (s, .ended jobID)
    | .ok (_, memory) => return ({ s with memory := memory }, .ended jobID)
  | .finishing operation jobID result =>
    match s.memory.mutateJob jobID (result.mutation operation s.clock) with
    | .error _ => return (s, .ended jobID)
    | .ok (_, memory) => return ({ s with memory := memory }, .ended jobID)
  | .ended jobID => return ({ s with jobCancels := s.jobCancels.filter (· ≠ jobID) }, .returned)
  | .returned => return (s, .returned)
  | .failed error => return (s, .failed error)

end VpsManager.Control
