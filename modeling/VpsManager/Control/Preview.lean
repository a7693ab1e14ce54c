import VpsManager.Control.HostKeys
import VpsManager.Control.Runbooks

namespace VpsManager.Control

open Go Checks Protocol
open Ssh (firstKey secondKey)

def previewPin (host : Host) : Except ApiError HostKeyPin :=
  orError host.hostKey
    ⟨409, "host_key_required", "host key must be confirmed before previewing a runbook"⟩

def previewCredential (m : Memory) (hostID : String) : Except ApiError StoredCredential :=
  (m.getCredential hostID).mapError fun _ =>
    ⟨409, "credential_required", "an SSH credential is required before previewing a runbook"⟩

def checkConnector (server : Server) : Except ApiError Unit :=
  ensure (server.runbooks = true)
    ⟨503, "connector_unavailable", "Runbook preview requires the external Connector"⟩

/-- The job of a preview and the binding it asks the Connector for. -/
def previewJob (server : Server) (principal : Principal) (host : Host) (pin : HostKeyPin)
    (credential : StoredCredential) (hostID : String) (body : Except String PreviewRunbookRequest)
    (raw : Option Bytes) (now : Int) : Except ApiError (Job × RunbookBinding) := do
  let input ← acceptPreview server body
  let raw ← orError raw ⟨500, "internal_error", "could not create runbook job"⟩
  let jobID := newID "job" raw
  return (newRunbookJob principal hostID jobID now,
    previewBinding host pin credential input hostID jobID)

/-- `previewRunbook` up to the point where it creates its job. -/
def preparePreview (server : Server) (m : Memory) (principal : Principal) (hostID : String)
    (body : Except String PreviewRunbookRequest) (raw : Option Bytes) (now : Int) :
    Except ApiError (Job × RunbookBinding) := do
  require principal .runbooksPreview
  checkConnector server
  checkHostScope principal hostID
  let host ← (m.getHost hostID).mapError writeStoreError
  let pin ← previewPin host
  let credential ← previewCredential m hostID
  previewJob server principal host pin credential hostID body raw now

/-- The clock when the job is created, started and finished. -/
structure PreviewTimes where
  created : Int
  started : Int
  finished : Int

/-- `failRunbookJob` as its callers use it: the store is left alone if the job
cannot fail. -/
def failedJob (m : Memory) (jobID code message : String) (now : Int) : Memory :=
  match m.mutateJob jobID (failRunbookJob code message now) with
  | .ok (_, after) => after
  | .error _ => m

theorem failedJob_cases (m : Memory) (jobID code message : String) (now : Int) :
    failedJob m jobID code message now = m ∨
      ∃ job failed, m.jobs.get jobID = some job ∧
        (failRunbookJob code message now).run job = .ok failed ∧
        failedJob m jobID code message now = { m with jobs := m.jobs.put failed } := by
  cases mutated : m.mutateJob jobID (failRunbookJob code message now) with
  | error _ =>
    left
    simp only [failedJob, mutated]
  | ok result =>
    obtain ⟨failed, after⟩ := result
    obtain ⟨⟨job, found, ran⟩, same⟩ := Memory.mutateJob_eq_ok.mp mutated
    right
    exact ⟨job, failed, found, ran, by simp only [failedJob, mutated, same]⟩

/-- The rest of `previewRunbook`, given the Connector. -/
def runPreview (server : Server) (m : Memory) (job : Job) (binding : RunbookBinding)
    (times : PreviewTimes)
    (connector : RunbookPreviewRequest → Except String RunbookPreviewResponse) :
    Except ApiError Job × Memory :=
  match m.createJob job with
  | .error failure => (.error (writeStoreError failure), m)
  | .ok created =>
    match created.mutateJob job.id (startJob times.started) with
    | .error failure => (.error (writeStoreError failure), created)
    | .ok (_, running) =>
      match acceptedPreview server job.id job.hostID
          (connector (Protocol.previewRunbook ⟨"", binding⟩)) with
      | .error failure =>
        (.error failure,
          failedJob running job.id "preview_failed" "Runbook preview failed" times.finished)
      | .ok preview =>
        match running.mutateJob job.id (storePreview preview times.finished) with
        | .error failure => (.error (writeStoreError failure), running)
        | .ok (awaiting, after) => (.ok awaiting, after)

def previewRunbook (server : Server) (m : Memory) (principal : Principal) (hostID : String)
    (body : Except String PreviewRunbookRequest) (raw : Option Bytes) (times : PreviewTimes)
    (connector : RunbookPreviewRequest → Except String RunbookPreviewResponse) :
    Except ApiError Job × Memory :=
  match preparePreview server m principal hostID body raw times.created with
  | .error failure => (.error failure, m)
  | .ok (job, binding) => runPreview server m job binding times connector

/-- The parts of a binding that `previewRunbook` does not compare. -/
def AgreesBeyondIDs (answered asked : RunbookBinding) : Prop :=
  answered.action = asked.action ∧ answered.target = asked.target ∧
    answered.pinnedHostKeySHA256 = asked.pinnedHostKeySHA256 ∧
    answered.credentialPublicKeySHA256 = asked.credentialPublicKeySHA256 ∧
    answered.parameters = asked.parameters

theorem AgreesBeyondIDs.eq {answered asked : RunbookBinding}
    (agrees : AgreesBeyondIDs answered asked) (jobID : answered.jobID = asked.jobID)
    (hostID : answered.hostID = asked.hostID) : answered = asked := by
  obtain ⟨action, target, pinned, credential, parameters⟩ := agrees
  cases answered
  cases asked
  simp only at action target pinned credential parameters jobID hostID
  subst action target pinned credential parameters jobID hostID
  rfl

theorem previewJob_ok {server : Server} {principal : Principal} {host : Host} {pin : HostKeyPin}
    {credential : StoredCredential} {hostID : String} {body : Except String PreviewRunbookRequest}
    {raw : Option Bytes} {now : Int} {job : Job} {binding : RunbookBinding}
    (ready : previewJob server principal host pin credential hostID body raw now =
      .ok (job, binding)) :
    job = newRunbookJob principal hostID job.id now ∧ binding.jobID = job.id ∧
      binding.hostID = hostID ∧ binding.target = host.target := by
  simp only [previewJob, bind_eq_ok, orError_eq_ok, pure_eq_ok, Prod.mk.injEq] at ready
  obtain ⟨input, -, raw, -, rfl, rfl⟩ := ready
  exact ⟨rfl, rfl, rfl, rfl⟩

/-- The job of a preview waits for its approval with the preview to store, or has
failed. -/
theorem runPreview_job (server : Server) (m : Memory) (job : Job) (binding : RunbookBinding)
    (times : PreviewTimes)
    (connector : RunbookPreviewRequest → Except String RunbookPreviewResponse)
    (queued : job.state = .queued) (fresh : m.jobs.get job.id = none) :
    ∃ stored, (runPreview server m job binding times connector).2.jobs.get job.id = some stored ∧
      match acceptedPreview server job.id job.hostID
          (connector (Protocol.previewRunbook ⟨"", binding⟩)) with
      | .ok preview => stored.state = .awaitingApproval ∧ stored.runbookPreview = some preview
      | .error _ => stored.state = .failed := by
  have created : m.createJob job = .ok { m with jobs := m.jobs.put job } :=
    Memory.createJob_eq_ok.mpr ⟨fresh, rfl⟩
  obtain ⟨running, started⟩ : ∃ running, (startJob times.started).run job = .ok running :=
    moveJob_possible _ _ _ _ (by rw [queued]; rfl)
  obtain ⟨during, mutated, found⟩ := Memory.mutateJob_of_run
    (m := { m with jobs := m.jobs.put job }) (Keyed.get_put_self m.jobs job) started
  have runningState : running.state = .running := (moveJob_ok started).1
  cases answer : acceptedPreview server job.id job.hostID
      (connector (Protocol.previewRunbook ⟨"", binding⟩)) with
  | error failure =>
    obtain ⟨failed, ran⟩ : ∃ failed, (failRunbookJob "preview_failed" "Runbook preview failed"
        times.finished).run running = .ok failed := by
      simp only [failRunbookJob, runningState, ne_eq, not_true_eq_false, ↓reduceIte]
      exact moveJob_possible _ _ _ _ (by rw [runningState]; rfl)
    obtain ⟨after, mutatedAgain, foundAgain⟩ := Memory.mutateJob_of_run found ran
    refine ⟨failed, ?_, (failRunbookJob_ok ran).1⟩
    simpa only [runPreview, created, mutated, answer, failedJob, mutatedAgain] using foundAgain
  | ok preview =>
    obtain ⟨awaiting, ran⟩ : ∃ awaiting,
        (storePreview preview times.finished).run running = .ok awaiting :=
      moveJob_possible _ _ _ _ (by rw [runningState]; rfl)
    obtain ⟨after, mutatedAgain, foundAgain⟩ := Memory.mutateJob_of_run found ran
    refine ⟨awaiting, ?_, moveJob_ok ran⟩
    simpa only [runPreview, created, mutated, answer, mutatedAgain] using foundAgain

/-- The binding that waits for approval is the one asked for exactly if an answer
that passes the comparisons of `previewRunbook` agrees in the rest. -/
theorem previewRunbook_binding_iff (server : Server) (m : Memory) (principal : Principal)
    (hostID : String) (body : Except String PreviewRunbookRequest) (raw : Option Bytes)
    (times : PreviewTimes) (job : Job) (binding : RunbookBinding)
    (accepted : preparePreview server m principal hostID body raw times.created =
      .ok (job, binding))
    (fresh : m.jobs.get job.id = none)
    (connector : RunbookPreviewRequest → Except String RunbookPreviewResponse) :
    (∀ stored, (previewRunbook server m principal hostID body raw times connector).2.jobs.get
        job.id = some stored → stored.state = .awaitingApproval →
      ∃ preview, stored.runbookPreview = some preview ∧ preview.binding = binding) ↔
    ∀ answer, connector (Protocol.previewRunbook ⟨"", binding⟩) = .ok answer →
      PreviewAccepted job.id hostID answer → AgreesBeyondIDs answer.binding binding := by
  have shape : job = newRunbookJob principal hostID job.id times.created ∧
      binding.jobID = job.id ∧ binding.hostID = hostID := by
    simp only [preparePreview, bind_eq_ok] at accepted
    obtain ⟨_, -, _, -, _, -, host, -, pin, -, credential, -, ready⟩ := accepted
    obtain ⟨same, jobID, host, -⟩ := previewJob_ok ready
    exact ⟨same, jobID, host⟩
  obtain ⟨same, sentJob, sentHost⟩ := shape
  have queued : job.state = .queued := by rw [same]; rfl
  have onHost : job.hostID = hostID := by rw [same]; rfl
  obtain ⟨stored, found, outcome⟩ :=
    runPreview_job server m job binding times connector queued fresh
  have served : previewRunbook server m principal hostID body raw times connector =
      runPreview server m job binding times connector := by
    simp only [previewRunbook, accepted]
  rw [served, found]
  rw [onHost] at outcome
  constructor
  · intro kept answer replied compared
    have passes : ∃ preview, acceptedPreview server job.id hostID
        (connector (Protocol.previewRunbook ⟨"", binding⟩)) = .ok preview := by
      simp only [acceptedPreview, replied, bind_eq_ok, mapError_eq_ok, ensure_eq_ok, pure_eq_ok]
      exact ⟨_, answer, rfl, (), compared, rfl⟩
    obtain ⟨preview, passed⟩ := passes
    rw [passed] at outcome
    obtain ⟨awaiting, held⟩ := outcome
    obtain ⟨last, final, equal⟩ := kept stored rfl awaiting
    obtain ⟨source, replied', -, copied, -⟩ := acceptedPreview_eq_ok passed
    obtain rfl : answer = source := Except.ok.inj (replied.symm.trans replied')
    obtain rfl : preview = last := Option.some.inj (held.symm.trans final)
    rw [← copied, equal]
    exact ⟨rfl, rfl, rfl, rfl, rfl⟩
  · intro agrees other sameJob awaiting
    obtain rfl := Option.some.inj sameJob
    split at outcome
    · rename_i preview passed
      obtain ⟨-, held⟩ := outcome
      refine ⟨preview, held, ?_⟩
      obtain ⟨source, replied, compared, copied, -⟩ := acceptedPreview_eq_ok passed
      rw [copied]
      exact (agrees source replied compared).eq (compared.2.1.trans sentJob.symm)
        (compared.2.2.trans sentHost.symm)
    · rw [outcome] at awaiting
      cases awaiting

def sampleCredential : StoredCredential where
  metadata := {
    id := "cred_1"
    hostID := "host_1"
    kind := "ssh_private_key"
    publicKeyFingerprint := secondKey.fingerprint
    keyID := "key_1"
    createdAt := 0
    createdBy := "olga" }
  envelope := ⟨"key_1", [], [], [], []⟩

def readyMemory : Memory := { sampleMemory with credentials := .single sampleCredential }

def capabilitiesRequest : PreviewRunbookRequest := ⟨"system_capabilities_v1", 1, .empty⟩

def sampleRaw : Bytes := List.replicate 16 0

def sampleJobID : String := "job_AAAAAAAAAAAAAAAAAAAAAA"

def sampleBinding : RunbookBinding :=
  previewBinding sampleHost (newPin (.ofKnown [firstKey, secondKey]) sampleOperator firstKey.key 0)
    sampleCredential capabilitiesRequest "host_1" sampleJobID

theorem samplePreview_accepted (sha256 : Bytes → Bytes) (now : Int) :
    preparePreview (sampleServer sha256) readyMemory sampleOperator "host_1"
      (.ok capabilitiesRequest) (some sampleRaw) now =
    .ok (newRunbookJob sampleOperator "host_1" sampleJobID now, sampleBinding) := by
  rfl

/-- A Connector's answer to a preview of the capabilities with the given
binding. -/
def capabilitiesAnswer (binding : RunbookBinding) : RunbookPreviewResponse where
  protocolVersion := protocolVersion
  requestID := "req_1"
  action := "runbook_preview_v1"
  catalogVersion := Runbook.catalogVersion
  binding := binding
  scopeDigest := "digest"
  title := "Inspect host capabilities"
  mutating := false
  emergency := false
  executionEnabled := true
  retryPolicy := "never"
  steps := []

def asUser (user : String) (binding : RunbookBinding) : RunbookBinding :=
  { binding with target := { binding.target with user := user } }

def sampleTimes : PreviewTimes := ⟨1, 2, 3⟩

/-- The answer puts another user into the target; the job waits for approval with
it. -/
theorem previewRunbook_other_user :
    ¬ ∃ sha256, ∀ stored,
      (previewRunbook (sampleServer sha256) readyMemory sampleOperator "host_1"
        (.ok capabilitiesRequest) (some sampleRaw) sampleTimes fun request =>
          .ok (capabilitiesAnswer (asUser "root" request.binding))).2.jobs.get sampleJobID =
        some stored →
      stored.state = .awaitingApproval →
      ∃ preview, stored.runbookPreview = some preview ∧ preview.binding = sampleBinding := by
  rintro ⟨sha256, kept⟩
  obtain ⟨preview, held, same⟩ := kept _ rfl rfl
  obtain rfl := Option.some.inj held
  have users : "root" = "deploy" := congrArg (fun binding => binding.target.user) same
  exact absurd users (by decide)

theorem previewRunbook_same_binding :
    ∃ stored,
      (previewRunbook (sampleServer id) readyMemory sampleOperator "host_1"
        (.ok capabilitiesRequest) (some sampleRaw) sampleTimes fun request =>
          .ok (capabilitiesAnswer request.binding)).2.jobs.get sampleJobID = some stored ∧
      stored.state = .awaitingApproval ∧
      ∃ preview, stored.runbookPreview = some preview ∧ preview.binding = sampleBinding := by
  have kept := (previewRunbook_binding_iff (sampleServer id) readyMemory sampleOperator "host_1"
    _ _ sampleTimes _ _ (samplePreview_accepted id 1) rfl
    (fun request => .ok (capabilitiesAnswer request.binding))).mpr (by
      intro answer replied _
      obtain rfl := Except.ok.inj replied
      exact ⟨rfl, rfl, rfl, rfl, rfl⟩)
  exact ⟨_, rfl, rfl, kept _ rfl rfl⟩

end VpsManager.Control
