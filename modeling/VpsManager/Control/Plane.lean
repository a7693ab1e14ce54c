import VpsManager.Control.Preview

/- The control plane under concurrent requests. Every call of the repository, of
the sessions and of the Connector is a step of its own, and so is the local work
between two of them. -/
namespace VpsManager.Control

open Go Checks Protocol Interleaving

inductive Request
  | editHost (edit : HostEdit) (hostID : String)
  | putCredential (hostID : String) (body : Except String CredentialPayload)
  | previewRunbook (hostID : String) (body : Except String PreviewRunbookRequest)
  | executeRunbook (jobID : String) (body : Except String ExecuteRunbookRequest)
  | cancelJob (jobID : String)
  | revokeCurrentSession

def Request.permission : Request → Permission
  | .editHost edit _ => edit.permission
  | .putCredential _ _ => .credentialsManage
  | .previewRunbook _ _ => .runbooksPreview
  | .executeRunbook _ _ => .runbooksExecute
  | .cancelJob _ => .jobsCancel
  | .revokeCurrentSession => .sessionRevokeSelf

/-- What `executeRunbook` carries along: who asked for what, and the job with the
preview it read. -/
structure Approval where
  principal : Principal
  input : ExecuteRunbookRequest
  job : Job
  preview : RunbookPreviewResult

inductive Call
  | arrived (authorization : String) (request : Request)
  | accepted (authorization : String) (principal : Principal) (request : Request)
  | hostRead (principal : Principal) (edit : HostEdit) (host : Host)
  | hostPrepared (principal : Principal) (edit : HostEdit) (now : Int) (written : Host)
      (expected : UInt64)
  | credentialHostRead (principal : Principal) (hostID : String)
      (body : Except String CredentialPayload)
  | credentialSealed (credential : StoredCredential)
  | previewHostRead (principal : Principal) (hostID : String)
      (body : Except String PreviewRunbookRequest) (host : Host) (pin : HostKeyPin)
  | previewCredentialRead (principal : Principal) (hostID : String)
      (body : Except String PreviewRunbookRequest) (host : Host) (pin : HostKeyPin)
      (credential : StoredCredential)
  | previewAccepted (job : Job) (binding : RunbookBinding)
  | previewCreated (jobID : String) (binding : RunbookBinding)
  | previewRunning (jobID : String) (binding : RunbookBinding)
  | previewAnswered (jobID : String) (preview : RunbookPreviewResult)
  | previewFailing (jobID : String) (failure : ApiError)
  | executeJobRead (approval : Approval)
  | executeAuthorized (approval : Approval)
  | executeHostRead (approval : Approval) (host : Host) (pin : HostKeyPin)
  | executeCredentialRead (approval : Approval) (host : Host) (pin : HostKeyPin)
      (credential : StoredCredential)
  | executeRunning (approval : Approval) (host : Host) (pin : HostKeyPin)
      (credential : StoredCredential)
  | executeDispatched (jobID : String) (preview : RunbookPreviewResult)
  | executeAnswered (jobID : String) (execution : RunbookExecutionResult)
  | executeFailing (jobID : String) (failure : ApiError)
  | cancelRead (jobID : String)
  | finished
  | failed (error : ApiError)

/-- An invocation of `ExecuteRunbook`: what the handler had read, the job as it
is stored at that moment, and the message posted. -/
structure Dispatch where
  principal : Principal
  input : ExecuteRunbookRequest
  stored : Option Job
  request : RunbookExecuteRequest

def Dispatch.jobID (dispatch : Dispatch) : String := dispatch.request.approval.jobID

inductive Event
  | silent
  /-- A write of a host, with the record it replaces. -/
  | hostWritten (principal : Principal) (edit : HostEdit) (now : Int) (stored : Option Host)
      (written : Host)
  | jobCreated (job : Job)
  | previewStored (jobID : String) (preview : RunbookPreviewResult)
  | dispatched (dispatch : Dispatch)

structure State where
  clock : Int
  memory : Memory
  sessions : Sessions
  /-- The jobs with a registered cancel function. -/
  jobCancels : List String

/-- What a step takes from outside: random bytes, the envelope of a new secret,
whether a stored one can be opened, the order of ranging over the sessions, and
the Connector's answers. -/
structure Choice where
  raw : Option Bytes
  envelope : Option Envelope
  reachable : Bool
  ranged : List StoredSession
  previewReply : Except String RunbookPreviewResponse
  executeReply : Except String RunbookExecuteResponse

/-- The next step of a request: the state after it, where the request is then and
what is recorded. An error ends the request. -/
def advance (server : Server) (choice : Choice) (s : State) :
    Call → Except ApiError (State × Call × Event)
  | .arrived authorization request =>
    match authenticate server.sha256 s.sessions authorization s.clock with
    | (none, sessions) =>
      return ({ s with sessions := sessions },
        .failed ⟨401, "unauthorized", "a valid bearer session is required"⟩, .silent)
    | (some principal, sessions) => do
      require principal request.permission
      return ({ s with sessions := sessions }, .accepted authorization principal request,
        .silent)
  -- updateHost and pinHostKey
  | .accepted _ principal (.editHost edit hostID) => do
    checkHostScope principal hostID
    let host ← (s.memory.getHost hostID).mapError writeStoreError
    return (s, .hostRead principal edit host, .silent)
  | .hostRead principal edit host => do
    let (written, expected) ← edit.prepare server principal host s.clock
    return (s, .hostPrepared principal edit s.clock written expected, .silent)
  | .hostPrepared principal edit now written expected => do
    let memory ← (s.memory.updateHost written expected).mapError writeStoreError
    return ({ s with memory := memory }, .finished,
      .hostWritten principal edit now (s.memory.hosts.get written.id) written)
  -- putCredential
  | .accepted _ principal (.putCredential hostID body) => do
    checkHostScope principal hostID
    let _ ← (s.memory.getHost hostID).mapError writeStoreError
    return (s, .credentialHostRead principal hostID body, .silent)
  | .credentialHostRead principal hostID body => do
    let (payload, key) ← readCredential server body
    let credential ← sealCredential server principal hostID payload key choice.raw
      choice.envelope s.clock
    return (s, .credentialSealed credential, .silent)
  | .credentialSealed credential => do
    let memory ← (s.memory.putCredential credential).mapError writeStoreError
    return ({ s with memory := memory }, .finished, .silent)
  -- previewRunbook
  | .accepted _ principal (.previewRunbook hostID body) => do
    checkConnector server
    checkHostScope principal hostID
    let host ← (s.memory.getHost hostID).mapError writeStoreError
    let pin ← previewPin host
    return (s, .previewHostRead principal hostID body host pin, .silent)
  | .previewHostRead principal hostID body host pin => do
    let credential ← previewCredential s.memory hostID
    return (s, .previewCredentialRead principal hostID body host pin credential, .silent)
  | .previewCredentialRead principal hostID body host pin credential => do
    let (job, binding) ← previewJob server principal host pin credential hostID body choice.raw
      s.clock
    return (s, .previewAccepted job binding, .silent)
  | .previewAccepted job binding => do
    let memory ← (s.memory.createJob job).mapError writeStoreError
    return ({ s with memory := memory }, .previewCreated job.id binding, .jobCreated job)
  | .previewCreated jobID binding => do
    let (_, memory) ← (s.memory.mutateJob jobID (startJob s.clock)).mapError writeStoreError
    return ({ s with memory := memory }, .previewRunning jobID binding, .silent)
  | .previewRunning jobID binding =>
    match acceptedPreview server jobID binding.hostID choice.previewReply with
    | .ok preview => return (s, .previewAnswered jobID preview, .silent)
    | .error failure => return (s, .previewFailing jobID failure, .silent)
  | .previewAnswered jobID preview => do
    let (_, memory) ←
      (s.memory.mutateJob jobID (storePreview preview s.clock)).mapError writeStoreError
    return ({ s with memory := memory }, .finished, .previewStored jobID preview)
  | .previewFailing jobID failure =>
    let memory := failedJob s.memory jobID "preview_failed" "Runbook preview failed" s.clock
    return ({ s with memory := memory }, .failed failure, .silent)
  -- executeRunbook
  | .accepted _ principal (.executeRunbook jobID body) => do
    let input ← acceptExecute server body
    let job ← (s.memory.getJob jobID).mapError writeStoreError
    checkHostScope principal job.hostID
    let preview ← awaitingPreview job
    return (s, .executeJobRead ⟨principal, input, job, preview⟩, .silent)
  | .executeJobRead approval => do
    checkAuthorized approval.principal
      (authorizeSession choice.ranged approval.job.requestedSessionID .runbooksExecute
        approval.job.hostID s.clock)
    checkApproval server approval.input approval.preview
    return (s, .executeAuthorized approval, .silent)
  | .executeAuthorized approval => do
    let unconfirmed : ApiError :=
      ⟨409, "host_key_required", "host key must remain confirmed"⟩
    let host ← (s.memory.getHost approval.job.hostID).mapError fun _ => unconfirmed
    let pin ← orError host.hostKey unconfirmed
    return (s, .executeHostRead approval host pin, .silent)
  | .executeHostRead approval host pin => do
    let missing : ApiError :=
      ⟨409, "credential_required", "SSH credential is no longer available"⟩
    let credential ← (s.memory.getCredential approval.job.hostID).mapError fun _ => missing
    ensure (credential.metadata.id ≠ "") missing
    return (s, .executeCredentialRead approval host pin credential, .silent)
  | .executeCredentialRead approval host pin credential => do
    let (running, memory) ←
      (s.memory.mutateJob approval.job.id (startJob s.clock)).mapError writeStoreError
    return ({ s with memory := memory },
      .executeRunning { approval with job := running } host pin credential, .silent)
  | .executeRunning approval _ pin credential =>
    match openCredential server choice.reachable credential approval.job.hostID with
    | .error _ => return (s, .executeFailing approval.job.id executionFailed, .silent)
    | .ok secret =>
      let request := Protocol.executeRunbook
        (executeRequest approval.job approval.preview approval.input pin secret s.clock)
      return (s, .executeDispatched approval.job.id approval.preview,
        .dispatched ⟨approval.principal, approval.input, s.memory.jobs.get approval.job.id,
          request⟩)
  | .executeDispatched jobID preview =>
    match acceptedExecution jobID preview choice.executeReply with
    | .ok execution => return (s, .executeAnswered jobID execution, .silent)
    | .error failure => return (s, .executeFailing jobID failure, .silent)
  | .executeAnswered jobID execution => do
    let (_, memory) ←
      (s.memory.mutateJob jobID (finishJob execution s.clock)).mapError writeStoreError
    return ({ s with memory := memory }, .finished, .silent)
  | .executeFailing jobID failure =>
    let memory := failedJob s.memory jobID "execution_failed" "Runbook execution failed" s.clock
    return ({ s with memory := memory }, .failed failure, .silent)
  -- cancelJob, which leaves the store to the canceled handler
  | .accepted _ principal (.cancelJob jobID) => do
    let job ← (s.memory.getJob jobID).mapError writeStoreError
    checkHostScope principal job.hostID
    ensure (job.state = .queued ∨ job.state = .running)
      ⟨409, "job_terminal", "job is already in a terminal state"⟩
    return (s, .cancelRead job.id, .silent)
  | .cancelRead jobID => do
    ensure (jobID ∈ s.jobCancels)
      ⟨409, "job_not_cancellable", "job can no longer be cancelled"⟩
    return (s, .finished, .silent)
  -- revokeCurrentSession
  | .accepted authorization _ .revokeCurrentSession => do
    let (active, sessions) := revoke server.sha256 s.sessions authorization
    ensure (active = true) ⟨401, "unauthorized", "session is no longer active"⟩
    return ({ s with sessions := sessions }, .finished, .silent)
  | .finished => return (s, .finished, .silent)
  | .failed error => return (s, .failed error, .silent)

/-- What a step that is not refused does: the facts it has established, the event
and the call after it. Every invariant of the control plane is derived from
this. -/
inductive Moves (server : Server) (choice : Choice) (s : State) :
    Call → Event → State → Call → Prop
  | unauthenticated {authorization : String} {request : Request} {sessions : Sessions}
      {error : ApiError} :
      Moves server choice s (.arrived authorization request) .silent
        { s with sessions := sessions } (.failed error)
  | accepted {authorization : String} {request : Request} {sessions : Sessions}
      {principal : Principal} :
      Moves server choice s (.arrived authorization request) .silent
        { s with sessions := sessions } (.accepted authorization principal request)
  | hostRead {authorization hostID : String} {principal : Principal} {edit : HostEdit}
      {host : Host} (found : s.memory.hosts.get hostID = some host) :
      Moves server choice s (.accepted authorization principal (.editHost edit hostID)) .silent s
        (.hostRead principal edit host)
  | hostPrepared {principal : Principal} {edit : HostEdit} {host written : Host}
      {expected : UInt64}
      (prepared : edit.prepare server principal host s.clock = .ok (written, expected)) :
      Moves server choice s (.hostRead principal edit host) .silent s
        (.hostPrepared principal edit s.clock written expected)
  | hostWritten {principal : Principal} {edit : HostEdit} {now : Int} {written stored : Host}
      {expected : UInt64} (found : s.memory.hosts.get written.id = some stored)
      (version : stored.version = expected) :
      Moves server choice s (.hostPrepared principal edit now written expected)
        (.hostWritten principal edit now (some stored) written)
        { s with memory := { s.memory with hosts := s.memory.hosts.put written } } .finished
  | credentialHostRead {authorization hostID : String} {principal : Principal}
      {body : Except String CredentialPayload} :
      Moves server choice s (.accepted authorization principal (.putCredential hostID body))
        .silent s (.credentialHostRead principal hostID body)
  | credentialSealed {principal : Principal} {hostID : String}
      {body : Except String CredentialPayload} {payload : CredentialPayload}
      {key : Ssh.PublicKey} {credential : StoredCredential}
      (read : readCredential server body = .ok (payload, key))
      (sealed : sealCredential server principal hostID payload key choice.raw choice.envelope
        s.clock = .ok credential) :
      Moves server choice s (.credentialHostRead principal hostID body) .silent s
        (.credentialSealed credential)
  | credentialStored {credential : StoredCredential} :
      Moves server choice s (.credentialSealed credential) .silent
        { s with memory :=
          { s.memory with credentials := s.memory.credentials.put credential } } .finished
  | previewHostRead {authorization hostID : String} {principal : Principal}
      {body : Except String PreviewRunbookRequest} {host : Host} {pin : HostKeyPin}
      (found : s.memory.hosts.get hostID = some host) (pinned : host.hostKey = some pin) :
      Moves server choice s (.accepted authorization principal (.previewRunbook hostID body))
        .silent s (.previewHostRead principal hostID body host pin)
  | previewCredentialRead {principal : Principal} {hostID : String}
      {body : Except String PreviewRunbookRequest} {host : Host} {pin : HostKeyPin}
      {credential : StoredCredential} :
      Moves server choice s (.previewHostRead principal hostID body host pin) .silent s
        (.previewCredentialRead principal hostID body host pin credential)
  | previewAccepted {principal : Principal} {hostID : String}
      {body : Except String PreviewRunbookRequest} {host : Host} {pin : HostKeyPin}
      {credential : StoredCredential} {job : Job} {binding : RunbookBinding}
      (ready : previewJob server principal host pin credential hostID body choice.raw s.clock =
        .ok (job, binding)) :
      Moves server choice s (.previewCredentialRead principal hostID body host pin credential)
        .silent s (.previewAccepted job binding)
  | previewCreated {job : Job} {binding : RunbookBinding}
      (fresh : s.memory.jobs.get job.id = none) :
      Moves server choice s (.previewAccepted job binding) (.jobCreated job)
        { s with memory := { s.memory with jobs := s.memory.jobs.put job } }
        (.previewCreated job.id binding)
  | previewRunning {jobID : String} {binding : RunbookBinding} {job running : Job}
      (found : s.memory.jobs.get jobID = some job)
      (started : (startJob s.clock).run job = .ok running) :
      Moves server choice s (.previewCreated jobID binding) .silent
        { s with memory := { s.memory with jobs := s.memory.jobs.put running } }
        (.previewRunning jobID binding)
  | previewAnswered {jobID : String} {binding : RunbookBinding} {preview : RunbookPreviewResult}
      (answered : acceptedPreview server jobID binding.hostID choice.previewReply =
        .ok preview) :
      Moves server choice s (.previewRunning jobID binding) .silent s
        (.previewAnswered jobID preview)
  | previewRejected {jobID : String} {binding : RunbookBinding} {failure : ApiError} :
      Moves server choice s (.previewRunning jobID binding) .silent s
        (.previewFailing jobID failure)
  | previewStored {jobID : String} {preview : RunbookPreviewResult} {job awaiting : Job}
      (found : s.memory.jobs.get jobID = some job)
      (stored : (storePreview preview s.clock).run job = .ok awaiting) :
      Moves server choice s (.previewAnswered jobID preview) (.previewStored jobID preview)
        { s with memory := { s.memory with jobs := s.memory.jobs.put awaiting } } .finished
  | previewFailed {jobID : String} {failure : ApiError} {memory : Memory}
      (failed : memory =
        failedJob s.memory jobID "preview_failed" "Runbook preview failed" s.clock) :
      Moves server choice s (.previewFailing jobID failure) .silent
        { s with memory := memory } (.failed failure)
  | executeJobRead {authorization jobID : String} {principal : Principal}
      {body : Except String ExecuteRunbookRequest} {input : ExecuteRunbookRequest} {job : Job}
      {preview : RunbookPreviewResult} (found : s.memory.jobs.get jobID = some job)
      (awaiting : job.state = .awaitingApproval) (previewed : job.runbookPreview = some preview) :
      Moves server choice s (.accepted authorization principal (.executeRunbook jobID body))
        .silent s (.executeJobRead ⟨principal, input, job, preview⟩)
  | executeAuthorized {approval : Approval}
      (session : approval.job.requestedSessionID = approval.principal.sessionID)
      (digest : approval.input.scopeDigest = approval.preview.scopeDigest) :
      Moves server choice s (.executeJobRead approval) .silent s (.executeAuthorized approval)
  | executeHostRead {approval : Approval} {host : Host} {pin : HostKeyPin}
      (found : s.memory.hosts.get approval.job.hostID = some host)
      (pinned : host.hostKey = some pin) :
      Moves server choice s (.executeAuthorized approval) .silent s
        (.executeHostRead approval host pin)
  | executeCredentialRead {approval : Approval} {host : Host} {pin : HostKeyPin}
      {credential : StoredCredential}
      (found : s.memory.credentials.get approval.job.hostID = some credential) :
      Moves server choice s (.executeHostRead approval host pin) .silent s
        (.executeCredentialRead approval host pin credential)
  | executeRunning {approval : Approval} {host : Host} {pin : HostKeyPin}
      {credential : StoredCredential} {job running : Job}
      (found : s.memory.jobs.get approval.job.id = some job)
      (started : (startJob s.clock).run job = .ok running) :
      Moves server choice s (.executeCredentialRead approval host pin credential) .silent
        { s with memory := { s.memory with jobs := s.memory.jobs.put running } }
        (.executeRunning { approval with job := running } host pin credential)
  | executeUnopened {approval : Approval} {host : Host} {pin : HostKeyPin}
      {credential : StoredCredential} :
      Moves server choice s (.executeRunning approval host pin credential) .silent s
        (.executeFailing approval.job.id executionFailed)
  | executeDispatched {approval : Approval} {host : Host} {pin : HostKeyPin}
      {credential : StoredCredential} {secret : Credential}
      (opened : openCredential server choice.reachable credential approval.job.hostID =
        .ok secret) :
      Moves server choice s (.executeRunning approval host pin credential)
        (.dispatched ⟨approval.principal, approval.input, s.memory.jobs.get approval.job.id,
          Protocol.executeRunbook
            (executeRequest approval.job approval.preview approval.input pin secret s.clock)⟩)
        s (.executeDispatched approval.job.id approval.preview)
  | executeAnswered {jobID : String} {preview : RunbookPreviewResult}
      {execution : RunbookExecutionResult} :
      Moves server choice s (.executeDispatched jobID preview) .silent s
        (.executeAnswered jobID execution)
  | executeRejected {jobID : String} {preview : RunbookPreviewResult} {failure : ApiError} :
      Moves server choice s (.executeDispatched jobID preview) .silent s
        (.executeFailing jobID failure)
  | executeFinished {jobID : String} {execution : RunbookExecutionResult} {job ended : Job}
      (found : s.memory.jobs.get jobID = some job)
      (stored : (finishJob execution s.clock).run job = .ok ended) :
      Moves server choice s (.executeAnswered jobID execution) .silent
        { s with memory := { s.memory with jobs := s.memory.jobs.put ended } } .finished
  | executeFailed {jobID : String} {failure : ApiError} {memory : Memory}
      (failed : memory =
        failedJob s.memory jobID "execution_failed" "Runbook execution failed" s.clock) :
      Moves server choice s (.executeFailing jobID failure) .silent
        { s with memory := memory } (.failed failure)
  | cancelRead {authorization jobID other : String} {principal : Principal} :
      Moves server choice s (.accepted authorization principal (.cancelJob jobID)) .silent s
        (.cancelRead other)
  | cancelled {jobID : String} : Moves server choice s (.cancelRead jobID) .silent s .finished
  | revoked {authorization : String} {principal : Principal} {sessions : Sessions} :
      Moves server choice s (.accepted authorization principal .revokeCurrentSession) .silent
        { s with sessions := sessions } .finished
  | finished : Moves server choice s .finished .silent s .finished
  | failed {error : ApiError} : Moves server choice s (.failed error) .silent s (.failed error)

variable {server : Server} {choice : Choice} {s after : State} {call next : Call} {event : Event}

theorem advance_moves (done : advance server choice s call = .ok (after, next, event)) :
    Moves server choice s call event after next := by
  cases call with
  | arrived authorization request =>
    simp only [advance] at done
    split at done
    · cases done
      exact .unauthenticated
    · simp only [bind_eq_ok, pure_eq_ok, Prod.mk.injEq] at done
      obtain ⟨_, -, rfl, rfl, rfl⟩ := done
      exact .accepted
  | accepted authorization principal request =>
    cases request with
    | editHost edit hostID =>
      simp only [advance, Memory.getHost, bind_eq_ok, mapError_eq_ok, orError_eq_ok,
        pure_eq_ok, Prod.mk.injEq] at done
      obtain ⟨_, -, host, found, rfl, rfl, rfl⟩ := done
      exact .hostRead found
    | putCredential hostID body =>
      simp only [advance, bind_eq_ok, pure_eq_ok, Prod.mk.injEq] at done
      obtain ⟨_, -, _, -, rfl, rfl, rfl⟩ := done
      exact .credentialHostRead
    | previewRunbook hostID body =>
      simp only [advance, Memory.getHost, previewPin, bind_eq_ok, mapError_eq_ok,
        orError_eq_ok, pure_eq_ok, Prod.mk.injEq] at done
      obtain ⟨_, -, _, -, host, found, pin, pinned, rfl, rfl, rfl⟩ := done
      exact .previewHostRead found pinned
    | executeRunbook jobID body =>
      simp only [advance, Memory.getJob, awaitingPreview, bind_eq_ok, mapError_eq_ok,
        orError_eq_ok, ensure_eq_ok, pure_eq_ok, Prod.mk.injEq] at done
      obtain ⟨input, -, job, found, _, -, preview, ⟨_, ⟨-, awaiting⟩, previewed⟩, rfl, rfl,
        rfl⟩ := done
      exact .executeJobRead found awaiting previewed
    | cancelJob jobID =>
      simp only [advance, bind_eq_ok, pure_eq_ok, Prod.mk.injEq] at done
      obtain ⟨_, -, _, -, _, -, rfl, rfl, rfl⟩ := done
      exact .cancelRead
    | revokeCurrentSession =>
      simp only [advance, bind_eq_ok, pure_eq_ok, Prod.mk.injEq] at done
      obtain ⟨_, -, rfl, rfl, rfl⟩ := done
      exact .revoked
  | hostRead principal edit host =>
    simp only [advance, bind_eq_ok, pure_eq_ok, Prod.mk.injEq] at done
    obtain ⟨⟨written, expected⟩, prepared, rfl, rfl, rfl⟩ := done
    exact .hostPrepared prepared
  | hostPrepared principal edit now written expected =>
    simp only [advance, bind_eq_ok, mapError_eq_ok, Memory.updateHost_eq_ok, pure_eq_ok,
      Prod.mk.injEq] at done
    obtain ⟨memory, ⟨⟨stored, found, version⟩, rfl⟩, rfl, rfl, rfl⟩ := done
    rw [found]
    exact .hostWritten found version
  | credentialHostRead principal hostID body =>
    simp only [advance, bind_eq_ok, pure_eq_ok, Prod.mk.injEq] at done
    obtain ⟨⟨payload, key⟩, read, credential, sealed, rfl, rfl, rfl⟩ := done
    exact .credentialSealed read sealed
  | credentialSealed credential =>
    simp only [advance, Memory.putCredential, bind_eq_ok, mapError_eq_ok, pure_eq_ok,
      Prod.mk.injEq] at done
    obtain ⟨memory, ⟨_, -, rfl⟩, rfl, rfl, rfl⟩ := done
    exact .credentialStored
  | previewHostRead principal hostID body host pin =>
    simp only [advance, bind_eq_ok, pure_eq_ok, Prod.mk.injEq] at done
    obtain ⟨credential, -, rfl, rfl, rfl⟩ := done
    exact .previewCredentialRead
  | previewCredentialRead principal hostID body host pin credential =>
    simp only [advance, bind_eq_ok, pure_eq_ok, Prod.mk.injEq] at done
    obtain ⟨⟨job, binding⟩, ready, rfl, rfl, rfl⟩ := done
    exact .previewAccepted ready
  | previewAccepted job binding =>
    simp only [advance, bind_eq_ok, mapError_eq_ok, Memory.createJob_eq_ok, pure_eq_ok,
      Prod.mk.injEq] at done
    obtain ⟨memory, ⟨fresh, rfl⟩, rfl, rfl, rfl⟩ := done
    exact .previewCreated fresh
  | previewCreated jobID binding =>
    simp only [advance, bind_eq_ok, mapError_eq_ok, pure_eq_ok, Prod.mk.injEq] at done
    obtain ⟨⟨running, memory⟩, mutated, rfl, rfl, rfl⟩ := done
    obtain ⟨⟨job, found, started⟩, rfl⟩ := Memory.mutateJob_eq_ok.mp mutated
    exact .previewRunning found started
  | previewRunning jobID binding =>
    simp only [advance] at done
    split at done
    · rename_i preview answered
      cases done
      exact .previewAnswered answered
    · cases done
      exact .previewRejected
  | previewAnswered jobID preview =>
    simp only [advance, bind_eq_ok, mapError_eq_ok, pure_eq_ok, Prod.mk.injEq] at done
    obtain ⟨⟨awaiting, memory⟩, mutated, rfl, rfl, rfl⟩ := done
    obtain ⟨⟨job, found, stored⟩, rfl⟩ := Memory.mutateJob_eq_ok.mp mutated
    exact .previewStored found stored
  | previewFailing jobID failure =>
    cases done
    exact .previewFailed rfl
  | executeJobRead approval =>
    simp only [advance, checkAuthorized, checkApproval, bind_eq_ok, orError_eq_ok, ensure_eq_ok,
      pure_eq_ok, Prod.mk.injEq] at done
    obtain ⟨_, ⟨authorized, found, session, -⟩, _, ⟨_, digest, -⟩, rfl, rfl, rfl⟩ := done
    have asked := authorizeSession_sessionID _ _ _ _ _ _ found
    exact .executeAuthorized (asked.symm.trans session) digest
  | executeAuthorized approval =>
    simp only [advance, Memory.getHost, bind_eq_ok, mapError_eq_ok, orError_eq_ok, pure_eq_ok,
      Prod.mk.injEq] at done
    obtain ⟨host, found, pin, pinned, rfl, rfl, rfl⟩ := done
    exact .executeHostRead found pinned
  | executeHostRead approval host pin =>
    simp only [advance, Memory.getCredential, bind_eq_ok, mapError_eq_ok, orError_eq_ok,
      pure_eq_ok, Prod.mk.injEq] at done
    obtain ⟨credential, found, _, -, rfl, rfl, rfl⟩ := done
    exact .executeCredentialRead found
  | executeCredentialRead approval host pin credential =>
    simp only [advance, bind_eq_ok, mapError_eq_ok, pure_eq_ok, Prod.mk.injEq] at done
    obtain ⟨⟨running, memory⟩, mutated, rfl, rfl, rfl⟩ := done
    obtain ⟨⟨job, found, started⟩, rfl⟩ := Memory.mutateJob_eq_ok.mp mutated
    exact .executeRunning found started
  | executeRunning approval host pin credential =>
    simp only [advance] at done
    split at done
    · cases done
      exact .executeUnopened
    · rename_i secret opened
      cases done
      exact .executeDispatched opened
  | executeDispatched jobID preview =>
    simp only [advance] at done
    split at done
    · cases done
      exact .executeAnswered
    · cases done
      exact .executeRejected
  | executeAnswered jobID execution =>
    simp only [advance, bind_eq_ok, mapError_eq_ok, pure_eq_ok, Prod.mk.injEq] at done
    obtain ⟨⟨ended, memory⟩, mutated, rfl, rfl, rfl⟩ := done
    obtain ⟨⟨job, found, stored⟩, rfl⟩ := Memory.mutateJob_eq_ok.mp mutated
    exact .executeFinished found stored
  | executeFailing jobID failure =>
    cases done
    exact .executeFailed rfl
  | cancelRead jobID =>
    simp only [advance, bind_eq_ok, pure_eq_ok, Prod.mk.injEq] at done
    obtain ⟨_, -, rfl, rfl, rfl⟩ := done
    exact .cancelled
  | finished =>
    cases done
    exact .finished
  | failed error =>
    cases done
    exact .failed

theorem Moves.hosts (moves : Moves server choice s call event after next) :
    after.memory.hosts = s.memory.hosts ∨
      ∃ principal edit now written expected stored,
        call = .hostPrepared principal edit now written expected ∧
        event = .hostWritten principal edit now (some stored) written ∧
        s.memory.hosts.get written.id = some stored ∧ stored.version = expected ∧
        after.memory.hosts = s.memory.hosts.put written := by
  cases moves with
  | hostWritten found version => exact .inr ⟨_, _, _, _, _, _, rfl, rfl, found, version, rfl⟩
  | previewFailed failed | executeFailed failed =>
    subst failed
    rcases failedJob_cases s.memory _ _ _ s.clock with same | ⟨_, _, -, -, same⟩
    · rw [same]
      exact .inl rfl
    · rw [same]
      exact .inl rfl
  | _ => exact .inl rfl

/-- The sessions are ranged over in any order. -/
def Possible (s : State) (choice : Choice) : Prop :=
  ∀ stored, stored ∈ choice.ranged ↔ s.sessions.get stored.tokenHash = some stored

inductive Step (server : Server) (s : State) (call : Call) : Event → State → Call → Prop
  | advanced {event : Event} {after : State} {next : Call} (choice : Choice)
      (possible : Possible s choice)
      (done : advance server choice s call = .ok (after, next, event)) :
      Step server s call event after next
  | refused {error : ApiError} (choice : Choice) (possible : Possible s choice)
      (ended : advance server choice s call = .error error) :
      Step server s call .silent s (.failed error)

inductive Outside : State → Event → State → Prop
  | tick {s : State} {later : Int} (forward : s.clock ≤ later) :
      Outside s .silent { s with clock := later }
  | issue {s : State} (session : StoredSession) :
      Outside s .silent { s with sessions := s.sessions.put session }

theorem Outside.quiet (outside : Outside s event after) :
    event = .silent ∧ after.memory = s.memory := by
  cases outside with
  | tick _ => exact ⟨rfl, rfl⟩
  | issue _ => exact ⟨rfl, rfl⟩

def plane (server : Server) : System State Call Event where
  begins call := ∃ authorization request, call = .arrived authorization request
  step s call event after next := Step server s call event after next
  outside := Outside

end VpsManager.Control
