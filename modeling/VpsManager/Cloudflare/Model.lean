import VpsManager.Control.Memory

namespace VpsManager.Cloudflare

open Go Control

structure Worker where
  id : String
  name : String
  accountID : String
  scriptName : String
  /-- Empty until a deployment is planned. -/
  desiredVersionID : String
  version : UInt64
  createdAt : Int
  updatedAt : Int
  deriving DecidableEq, Repr

structure TokenMetadata where
  id : String
  workerID : String
  kind : String
  keyID : String
  createdAt : Int
  createdBy : String
  deriving DecidableEq, Repr

structure StoredToken where
  metadata : TokenMetadata
  envelope : Envelope
  deriving DecidableEq, Repr

structure WorkerVersion where
  id : String
  workerID : String
  sha256 : String
  sizeBytes : Int
  contentType : String
  entrypoint : String
  state : String
  providerVersionID : String
  providerVersionNumber : Int
  providerUploadedAt : Option Int
  createdAt : Int
  createdBy : String
  deriving DecidableEq, Repr

structure StoredWorkerVersion where
  metadata : WorkerVersion
  module : Bytes
  deriving DecidableEq, Repr

def StoredToken.workerID (token : StoredToken) : String := token.metadata.workerID

def StoredWorkerVersion.id (version : StoredWorkerVersion) : String := version.metadata.id

inductive Kind
  | deploy
  | rollback
  | other (name : String)
  deriving DecidableEq, Repr

def Kind.name : Kind → String
  | .deploy => "deploy"
  | .rollback => "rollback"
  | .other name => name

inductive State
  | readyForProvider
  | running
  | succeeded
  | failed
  | other (name : String)
  deriving DecidableEq, Repr

def State.name : State → String
  | .readyForProvider => "ready_for_provider"
  | .running => "running"
  | .succeeded => "succeeded"
  | .failed => "failed"
  | .other name => name

structure Deployment where
  id : String
  workerID : String
  versionID : String
  previousDesiredVersionID : String
  kind : Kind
  state : State
  providerExecutionAllowed : Bool
  providerVersionID : String
  providerDeploymentID : String
  providerState : String
  errorCode : String
  startedAt : Option Int
  finishedAt : Option Int
  createdAt : Int
  createdBy : String
  deriving DecidableEq, Repr

/-- A deployment that is planned keeps what it was planned for. -/
structure Deployment.SamePlan (current updated : Deployment) : Prop where
  id : updated.id = current.id
  workerID : updated.workerID = current.workerID
  versionID : updated.versionID = current.versionID
  previousDesiredVersionID : updated.previousDesiredVersionID = current.previousDesiredVersionID
  kind : updated.kind = current.kind
  createdAt : updated.createdAt = current.createdAt
  createdBy : updated.createdBy = current.createdBy

def validFinishedDeployment (deployment : Deployment) : Bool :=
  match deployment.startedAt, deployment.finishedAt with
  | some started, some finished => deployment.createdAt ≤ started && started ≤ finished
  | _, _ => false

def samePlan (current updated : Deployment) : Bool :=
  updated.id == current.id && updated.workerID == current.workerID &&
    updated.versionID == current.versionID &&
    updated.previousDesiredVersionID == current.previousDesiredVersionID &&
    updated.kind == current.kind && updated.createdAt == current.createdAt &&
    updated.createdBy == current.createdBy

def validWorkerDeploymentTransition (current updated : Deployment) : Bool :=
  samePlan current updated && updated.providerExecutionAllowed &&
    match current.state, updated.state with
    | .readyForProvider, .running =>
      (match updated.startedAt with
        | some started => updated.createdAt ≤ started
        | none => false) &&
        updated.finishedAt.isNone && updated.errorCode == "" &&
        updated.providerDeploymentID == "" && updated.providerState == ""
    | .running, .succeeded =>
      validFinishedDeployment updated && updated.errorCode == "" &&
        updated.providerVersionID != "" && updated.providerDeploymentID != "" &&
        updated.providerState == "active"
    | .running, .failed =>
      validFinishedDeployment updated && updated.errorCode != "" && len updated.errorCode ≤ 128
    | _, _ => false

/-- What the guard asks of an update in each of its three cases. -/
inductive Transition (current updated : Deployment) : Prop
  | start (started : Int) (before : current.state = .readyForProvider)
      (after : updated.state = .running) (isStarted : updated.startedAt = some started)
      (forward : updated.createdAt ≤ started) (unfinished : updated.finishedAt = none)
      (code : updated.errorCode = "") (deployment : updated.providerDeploymentID = "")
      (state : updated.providerState = "")
  | succeed (started finished : Int) (before : current.state = .running)
      (after : updated.state = .succeeded) (isStarted : updated.startedAt = some started)
      (isFinished : updated.finishedAt = some finished) (forward : updated.createdAt ≤ started)
      (later : started ≤ finished) (code : updated.errorCode = "")
      (version : updated.providerVersionID ≠ "") (deployment : updated.providerDeploymentID ≠ "")
      (state : updated.providerState = "active")
  | fail (started finished : Int) (before : current.state = .running)
      (after : updated.state = .failed) (isStarted : updated.startedAt = some started)
      (isFinished : updated.finishedAt = some finished) (forward : updated.createdAt ≤ started)
      (later : started ≤ finished) (code : updated.errorCode ≠ "")
      (short : len updated.errorCode ≤ 128)

/-- The pairs of states a guarded update leads between. -/
inductive Move : State → State → Prop
  | start : Move .readyForProvider .running
  | succeed : Move .running .succeeded
  | fail : Move .running .failed

theorem samePlan_iff {current updated : Deployment} :
    samePlan current updated = true ↔ current.SamePlan updated := by
  simp only [samePlan, Bool.and_eq_true, beq_iff_eq]
  constructor
  · rintro ⟨⟨⟨⟨⟨⟨id, workerID⟩, versionID⟩, previous⟩, kind⟩, createdAt⟩, createdBy⟩
    exact ⟨id, workerID, versionID, previous, kind, createdAt, createdBy⟩
  · rintro ⟨id, workerID, versionID, previous, kind, createdAt, createdBy⟩
    exact ⟨⟨⟨⟨⟨⟨id, workerID⟩, versionID⟩, previous⟩, kind⟩, createdAt⟩, createdBy⟩

section Transition

variable {current updated : Deployment}

theorem samePlan_of_valid (valid : validWorkerDeploymentTransition current updated = true) :
    current.SamePlan updated := by
  simp only [validWorkerDeploymentTransition, Bool.and_eq_true] at valid
  exact samePlan_iff.mp valid.1.1

theorem validFinishedDeployment_iff {deployment : Deployment} :
    validFinishedDeployment deployment = true ↔
      ∃ started finished, deployment.startedAt = some started ∧
        deployment.finishedAt = some finished ∧ deployment.createdAt ≤ started ∧
        started ≤ finished := by
  unfold validFinishedDeployment
  split
  · rename_i started finished isStarted isFinished
    simp [isStarted, isFinished]
  · rename_i missing
    constructor
    · intro impossible
      cases impossible
    · rintro ⟨started, finished, isStarted, isFinished, -⟩
      exact absurd isFinished (missing started finished isStarted)

theorem transition_of_valid (valid : validWorkerDeploymentTransition current updated = true) :
    updated.providerExecutionAllowed = true ∧ Transition current updated := by
  simp only [validWorkerDeploymentTransition, Bool.and_eq_true] at valid
  obtain ⟨⟨-, allowed⟩, moved⟩ := valid
  refine ⟨allowed, ?_⟩
  split at moved
  · rename_i before after
    simp only [Bool.and_eq_true, beq_iff_eq, Option.isNone_iff_eq_none] at moved
    obtain ⟨⟨⟨⟨begun, unfinished⟩, code⟩, deployment⟩, state⟩ := moved
    split at begun
    · rename_i started isStarted
      exact .start started before after isStarted (by simpa using begun) unfinished code deployment
        state
    · cases begun
  · rename_i before after
    simp only [Bool.and_eq_true, beq_iff_eq, bne_iff_ne, validFinishedDeployment_iff] at moved
    obtain ⟨⟨⟨⟨⟨started, finished, isStarted, isFinished, forward, later⟩, code⟩, version⟩,
      deployment⟩, state⟩ := moved
    exact .succeed started finished before after isStarted isFinished forward later code version
      deployment state
  · rename_i before after
    simp only [Bool.and_eq_true, bne_iff_ne, validFinishedDeployment_iff, decide_eq_true_eq]
      at moved
    obtain ⟨⟨⟨started, finished, isStarted, isFinished, forward, later⟩, code⟩, short⟩ := moved
    exact .fail started finished before after isStarted isFinished forward later code short
  · cases moved

theorem move_of_valid (valid : validWorkerDeploymentTransition current updated = true) :
    Move current.state updated.state := by
  obtain ⟨-, transition⟩ := transition_of_valid valid
  cases transition with
  | start _ before after =>
    rw [before, after]
    exact .start
  | succeed _ _ before after =>
    rw [before, after]
    exact .succeed
  | fail _ _ before after =>
    rw [before, after]
    exact .fail

end Transition

end VpsManager.Cloudflare
