import VpsManager.Cloudflare.Handlers
import VpsManager.Cloudflare.Memory

/- Requests that plan and execute deployments, under concurrency. Every call of the
repository or of the provider is a step of its own. -/
namespace VpsManager.Cloudflare

open Go Control Interleaving

/-- The first step of an update: it has ended, or its write is still to be made. -/
inductive UpdateStep (σ : Type)
  | done (result : Except StoreError σ)
  | checked

structure Repository (σ : Type) where
  getWorker : σ → String → Except StoreError Worker
  getWorkerVersion : σ → String → String → Except StoreError StoredWorkerVersion
  getWorkerToken : σ → String → Except StoreError StoredToken
  getWorkerDeployment : σ → String → String → Except StoreError Deployment
  planWorkerDeployment : σ → Deployment → Worker → Except StoreError σ
  updateWorkerVersionProvider : σ → String → String → String → Int → Int → Except StoreError σ
  updateWorkerDeployment : σ → Deployment → State → UpdateStep σ
  /-- The write of an update that was only checked. -/
  writeDeployment : σ → Deployment → State → Except StoreError σ
  /-- What changes the store without one of the modelled requests. -/
  change : σ → σ → Prop

/-- The store in memory, whose updates take one step. -/
def memory : Repository Tables where
  getWorker := Tables.getWorker
  getWorkerVersion := Tables.getWorkerVersion
  getWorkerToken := Tables.getWorkerToken
  getWorkerDeployment := Tables.getWorkerDeployment
  planWorkerDeployment := Tables.planWorkerDeployment
  updateWorkerVersionProvider := Tables.updateWorkerVersionProvider
  updateWorkerDeployment m updated expected := .done (m.updateWorkerDeployment updated expected)
  writeDeployment _ _ _ := .error .conflict
  change := TablesChange

inductive Method
  | validateAccess
  | uploadVersion
  | deployVersion
  | rollback
  deriving DecidableEq, Repr

def Method.publishes : Method → Bool
  | .deployVersion | .rollback => true
  | _ => false

/-- What an execution works with once its deployment may run. -/
structure Execution where
  worker : Worker
  version : StoredWorkerVersion
  running : Deployment

def publishMethod (execution : Execution) : Method :=
  if execution.running.kind = .rollback then .rollback else .deployVersion

inductive Call
  | planArrived (principal : Principal) (workerID : String)
      (body : Except String CreateWorkerDeploymentRequest)
  | planAccepted (subject workerID : String) (input : CreateWorkerDeploymentRequest)
  | planWorker (subject workerID : String) (input : CreateWorkerDeploymentRequest)
      (worker : Worker)
  | planVersion (subject workerID : String) (input : CreateWorkerDeploymentRequest)
      (worker : Worker)
  | planReady (deployment : Deployment) (updated : Worker)
  | arrived (principal : Principal) (workerID deploymentID : String) (body : Except String Unit)
  | accepted (workerID deploymentID : String)
  | ready (workerID : String) (deployment : Deployment)
  | current (workerID : String) (worker : Worker) (deployment : Deployment)
  | versioned (workerID : String) (worker : Worker) (version : StoredWorkerVersion)
      (deployment : Deployment)
  | opened (execution : Execution)
  | starting (execution : Execution)
  | started (execution : Execution)
  | validated (execution : Execution)
  | uploaded (execution : Execution) (uploaded : UploadedVersion)
  | publishing (execution : Execution) (providerVersionID : String)
  | ending (final : Deployment) (answer : Except ApiError Deployment)
  | closing (final : Deployment) (answer : Except ApiError Deployment)
  /-- The deployment is that for which the provider was called, if it was. -/
  | answered (contacted : Option String) (answer : Except ApiError Deployment)

inductive Event
  | silent
  /-- A plan is accepted. -/
  | planned (deployment : Deployment)
  /-- A deployment is found to be the one that is desired. -/
  | checked (deployment : Deployment)
  /-- The provider is called for a deployment, while its Worker desires a version. -/
  | called (method : Method) (deployment : Deployment) (desired : Option String)

/-- What a step takes from outside: the time, random bytes, whether the token opens,
and the answers of the provider. -/
structure Choice where
  now : Int
  raw : Bytes
  opens : Except ApiError Unit
  access : Except ProviderError Unit
  upload : Except ProviderError UploadedVersion
  publish : Except ProviderError ProviderDeployment

def refuse (error : ApiError) : Call := .answered none (.error error)

def failWith (running : Deployment) (providerVersionID code : String) (status : Nat) (now : Int) :
    Call :=
  .ending (failedDeployment running providerVersionID code now)
    (.error (executionFailed code status))

/-- `failCloudflareDeployment`. -/
def fail (running : Deployment) (providerVersionID : String) (error : ProviderError) (now : Int) :
    Call :=
  failWith running providerVersionID (classifyCloudflareProviderError error).1
    (classifyCloudflareProviderError error).2 now

/-- The answer if the last update of an execution is refused. -/
def unsaved : Except ApiError Deployment := .error (executionFailed "persistence_failure" 500)

variable {σ : Type}

def Repository.desired (repo : Repository σ) (s : σ) (workerID : String) : Option String :=
  (repo.getWorker s workerID).toOption.map Worker.desiredVersionID

def Repository.called (repo : Repository σ) (s : σ) (method : Method) (execution : Execution) :
    Event :=
  .called method execution.running (repo.desired s execution.running.workerID)

def advance (repo : Repository σ) (boundary : Boundary) (choice : Choice) (s : σ) :
    Call → σ × Call × Event
  | .planArrived principal workerID body =>
    match acceptPlan principal body with
    | .error error => (s, refuse error, .silent)
    | .ok input => (s, .planAccepted principal.subject workerID input, .silent)
  | .planAccepted subject workerID input =>
    match repo.getWorker s workerID with
    | .error error => (s, refuse (writeStoreError error), .silent)
    | .ok worker => (s, .planWorker subject workerID input worker, .silent)
  | .planWorker subject workerID input worker =>
    match repo.getWorkerVersion s workerID input.versionID with
    | .error error => (s, refuse (writeStoreError error), .silent)
    | .ok _ => (s, .planVersion subject workerID input worker, .silent)
  | .planVersion subject workerID input worker =>
    match repo.getWorkerToken s workerID with
    | .error _ =>
      (s, refuse (tokenRequired
        "an encrypted Cloudflare token is required before planning a deployment"), .silent)
    | .ok _ =>
      (s, .planReady
        (plannedDeployment worker workerID input (newID "cfdep" choice.raw) subject choice.now)
        (plannedWorker worker input choice.now), .silent)
  | .planReady deployment updated =>
    match repo.planWorkerDeployment s deployment updated with
    | .error error => (s, refuse (planStoreError error), .silent)
    | .ok after => (after, .answered none (.ok deployment), .planned deployment)
  | .arrived principal workerID deploymentID body =>
    match acceptExecution boundary principal body with
    | .error error => (s, refuse error, .silent)
    | .ok _ => (s, .accepted workerID deploymentID, .silent)
  | .accepted workerID deploymentID =>
    match repo.getWorkerDeployment s workerID deploymentID with
    | .error error => (s, refuse (writeStoreError error), .silent)
    | .ok deployment =>
      match checkReady deployment with
      | .error error => (s, refuse error, .silent)
      | .ok _ => (s, .ready workerID deployment, .silent)
  | .ready workerID deployment =>
    match repo.getWorker s workerID with
    | .error error => (s, refuse (writeStoreError error), .silent)
    | .ok worker =>
      match checkNotSuperseded worker deployment with
      | .error error => (s, refuse error, .silent)
      | .ok _ => (s, .current workerID worker deployment, .checked deployment)
  | .current workerID worker deployment =>
    match repo.getWorkerVersion s workerID deployment.versionID with
    | .error error => (s, refuse (writeStoreError error), .silent)
    | .ok version =>
      match checkUploaded version deployment with
      | .error error => (s, refuse error, .silent)
      | .ok _ => (s, .versioned workerID worker version deployment, .silent)
  | .versioned workerID worker version deployment =>
    match repo.getWorkerToken s workerID with
    | .error error => (s, refuse (tokenStoreError error), .silent)
    | .ok _ =>
      match choice.opens with
      | .error error => (s, refuse error, .silent)
      | .ok _ =>
        (s, .opened ⟨worker, version, runningDeployment deployment version choice.now⟩,
          .silent)
  | .opened execution =>
    match repo.updateWorkerDeployment s execution.running .readyForProvider with
    | .done (.error error) => (s, refuse (startStoreError error), .silent)
    | .done (.ok after) => (after, .started execution, .silent)
    | .checked => (s, .starting execution, .silent)
  | .starting execution =>
    match repo.writeDeployment s execution.running .readyForProvider with
    | .error error => (s, refuse (startStoreError error), .silent)
    | .ok after => (after, .started execution, .silent)
  | .started execution =>
    (s, match choice.access with
      | .error error =>
        fail execution.running execution.running.providerVersionID error choice.now
      | .ok _ => .validated execution, repo.called s .validateAccess execution)
  | .validated execution =>
    if execution.running.kind = .deploy then
      (s, match choice.upload with
        | .error error =>
          fail execution.running execution.running.providerVersionID error choice.now
        | .ok uploaded =>
          if uploaded.matches execution.worker execution.version then
            .uploaded execution uploaded
          else
            fail execution.running execution.running.providerVersionID (some .provider)
              choice.now, repo.called s .uploadVersion execution)
    else (s, .publishing execution execution.running.providerVersionID, .silent)
  | .uploaded execution uploaded =>
    match repo.updateWorkerVersionProvider s execution.worker.id execution.version.metadata.id
        uploaded.id uploaded.number (uploaded.createdAt.getD choice.now) with
    | .error _ =>
      (s, failWith execution.running uploaded.id "persistence_failure" 500 choice.now, .silent)
    | .ok after => (after, .publishing execution uploaded.id, .silent)
  | .publishing execution providerVersionID =>
    (s, match choice.publish with
      | .error error => fail execution.running providerVersionID error choice.now
      | .ok answer =>
        if answer.isActive execution.worker then
          let final :=
            succeededDeployment execution.running providerVersionID answer choice.now
          .ending final (.ok final)
        else fail execution.running providerVersionID (some .provider) choice.now,
      repo.called s (publishMethod execution) execution)
  | .ending final answer =>
    match repo.updateWorkerDeployment s final .running with
    | .done (.error _) => (s, .answered (some final.id) unsaved, .silent)
    | .done (.ok after) => (after, .answered (some final.id) answer, .silent)
    | .checked => (s, .closing final answer, .silent)
  | .closing final answer =>
    match repo.writeDeployment s final .running with
    | .error _ => (s, .answered (some final.id) unsaved, .silent)
    | .ok after => (after, .answered (some final.id) answer, .silent)
  | .answered contacted answer => (s, .answered contacted answer, .silent)

inductive Call.Begins : Call → Prop
  | plan (principal : Principal) (workerID : String)
      (body : Except String CreateWorkerDeploymentRequest) :
      Call.Begins (.planArrived principal workerID body)
  | execute (principal : Principal) (workerID deploymentID : String) (body : Except String Unit) :
      Call.Begins (.arrived principal workerID deploymentID body)

inductive Change (repo : Repository σ) (s : σ) : Event → σ → Prop
  | changed {after : σ} (change : repo.change s after) : Change repo s .silent after

def plane (repo : Repository σ) (boundary : Boundary) : System σ Call Event where
  begins := Call.Begins
  step s call event after next :=
    ∃ choice, advance repo boundary choice s call = (after, next, event)
  outside := Change repo

/-- The deployment an execution found to be the desired one, as it has it now. -/
def Call.deployment? : Call → Option Deployment
  | .current _ _ deployment | .versioned _ _ _ deployment => some deployment
  | .opened execution | .starting execution | .started execution | .validated execution
  | .uploaded execution _ | .publishing execution _ => some execution.running
  | .ending final _ | .closing final _ => some final
  | _ => none

/-- The deployment a request has claimed for itself: it has set it to running. -/
def Call.claimed? : Call → Option String
  | .started execution | .validated execution | .uploaded execution _ | .publishing execution _ =>
    some execution.running.id
  | .ending final _ | .closing final _ => some final.id
  | .answered contacted _ => contacted
  | _ => none

/-- The deployment for which a request has called the provider. -/
def Call.contacted? : Call → Option String
  | .started _ => none
  | call => call.claimed?

/-- The states that the updates of an execution write. -/
def Call.Consistent : Call → Prop
  | .opened execution | .starting execution | .started execution | .validated execution
  | .uploaded execution _ | .publishing execution _ => execution.running.state = .running
  | .ending final _ | .closing final _ => Move .running final.state
  | _ => True

def Call.Early : Call → Prop
  | .planArrived .. | .planAccepted .. | .planWorker .. | .planVersion .. | .planReady ..
  | .arrived .. | .accepted .. => True
  | _ => False

def Repository.Writes (repo : Repository σ) (s : σ) (updated : Deployment) (expected : State)
    (after : σ) : Prop :=
  repo.updateWorkerDeployment s updated expected = .done (.ok after) ∨
    repo.writeDeployment s updated expected = .ok after

/-- The steps of a request by what they do to the store and to the deployment the
request deals with. -/
inductive Moves (repo : Repository σ) (s : σ) : Call → Event → σ → Call → Prop
  | early {call next : Call} (before : call.Early) (after : next.Early) :
      Moves repo s call .silent s next
  | answered (call : Call) (answer : Except ApiError Deployment) :
      Moves repo s call .silent s (.answered call.claimed? answer)
  | planned {deployment : Deployment} {updated : Worker} {after : σ}
      (done : repo.planWorkerDeployment s deployment updated = .ok after) :
      Moves repo s (.planReady deployment updated) (.planned deployment) after
        (.answered none (.ok deployment))
  | found {workerID deploymentID : String} {deployment : Deployment}
      (read : repo.getWorkerDeployment s workerID deploymentID = .ok deployment) :
      Moves repo s (.accepted workerID deploymentID) .silent s (.ready workerID deployment)
  | checked {workerID : String} {worker : Worker} {deployment : Deployment}
      (read : repo.getWorker s workerID = .ok worker)
      (desired : worker.desiredVersionID = deployment.versionID) :
      Moves repo s (.ready workerID deployment) (.checked deployment) s
        (.current workerID worker deployment)
  | carried {call next : Call} {before deployment : Deployment}
      (carries : call.deployment? = some before) (keeps : next.deployment? = some deployment)
      (samePlan : before.SamePlan deployment) (claimed : next.claimed? = call.claimed?)
      (contacted : next.contacted? = call.contacted?)
      (consistent : call.Consistent → next.Consistent) : Moves repo s call .silent s next
  | claimed {call : Call} {execution : Execution} {after : σ}
      (waiting : call = .opened execution ∨ call = .starting execution)
      (writes : repo.Writes s execution.running .readyForProvider after) :
      Moves repo s call .silent after (.started execution)
  | called {call next : Call} {execution : Execution} {deployment : Deployment} (method : Method)
      (carries : call.deployment? = some execution.running)
      (claimed : call.claimed? = some execution.running.id)
      (keeps : next.deployment? = some deployment)
      (samePlan : execution.running.SamePlan deployment)
      (contacted : next.contacted? = some execution.running.id)
      (consistent : call.Consistent → next.Consistent) :
      Moves repo s call (repo.called s method execution) s next
  | recorded {execution : Execution} {uploaded : UploadedVersion} {uploadedAt : Int} {after : σ}
      (done : repo.updateWorkerVersionProvider s execution.worker.id execution.version.metadata.id
        uploaded.id uploaded.number uploadedAt = .ok after) :
      Moves repo s (.uploaded execution uploaded) .silent after (.publishing execution uploaded.id)
  | ended {call : Call} {final : Deployment} {answer : Except ApiError Deployment} {after : σ}
      (waiting : call = .ending final answer ∨ call = .closing final answer)
      (writes : repo.Writes s final .running after) :
      Moves repo s call .silent after (.answered (some final.id) answer)

theorem Call.claimed_of_contacted {call : Call} {id : String}
    (contacted : call.contacted? = some id) : call.claimed? = some id := by
  cases call <;> first | exact contacted | cases contacted

theorem Call.Early.claimed? {call : Call} (early : call.Early) : call.claimed? = none := by
  cases call <;> first | rfl | exact early.elim

theorem Call.Early.deployment? {call : Call} (early : call.Early) : call.deployment? = none := by
  cases call <;> first | rfl | exact early.elim

theorem samePlan_refl (deployment : Deployment) : deployment.SamePlan deployment :=
  ⟨rfl, rfl, rfl, rfl, rfl, rfl, rfl⟩

theorem runningDeployment_samePlan (deployment : Deployment) (version : StoredWorkerVersion)
    (now : Int) : deployment.SamePlan (runningDeployment deployment version now) :=
  ⟨rfl, rfl, rfl, rfl, rfl, rfl, rfl⟩

theorem failedDeployment_samePlan (running : Deployment) (providerVersionID code : String)
    (now : Int) : running.SamePlan (failedDeployment running providerVersionID code now) :=
  ⟨rfl, rfl, rfl, rfl, rfl, rfl, rfl⟩

theorem succeededDeployment_samePlan (running : Deployment) (providerVersionID : String)
    (answer : ProviderDeployment) (now : Int) :
    running.SamePlan (succeededDeployment running providerVersionID answer now) :=
  ⟨rfl, rfl, rfl, rfl, rfl, rfl, rfl⟩

section Moves

variable {repo : Repository σ} {s : σ}

theorem called_fail {call : Call} {execution : Execution} (method : Method)
    (providerVersionID : String) (error : ProviderError) (now : Int)
    (carries : call.deployment? = some execution.running)
    (claimed : call.claimed? = some execution.running.id) :
    Moves repo s call (repo.called s method execution) s
      (fail execution.running providerVersionID error now) :=
  .called method carries claimed rfl (failedDeployment_samePlan ..) rfl fun _ => .fail

end Moves

theorem moves_of_advance {repo : Repository σ} {boundary : Boundary} {choice : Choice}
    {s after : σ} {call next : Call} {event : Event}
    (step : advance repo boundary choice s call = (after, next, event)) :
    Moves repo s call event after next := by
  cases call with
  | planArrived principal workerID body =>
    simp only [advance] at step
    split at step <;> cases step
    · exact .answered (.planArrived principal workerID body) _
    · exact .early trivial trivial
  | planAccepted subject workerID input =>
    simp only [advance] at step
    split at step <;> cases step
    · exact .answered (.planAccepted subject workerID input) _
    · exact .early trivial trivial
  | planWorker subject workerID input worker =>
    simp only [advance] at step
    split at step <;> cases step
    · exact .answered (.planWorker subject workerID input worker) _
    · exact .early trivial trivial
  | planVersion subject workerID input worker =>
    simp only [advance] at step
    split at step <;> cases step
    · exact .answered (.planVersion subject workerID input worker) _
    · exact .early trivial trivial
  | planReady deployment updated =>
    simp only [advance] at step
    split at step <;> cases step
    · exact .answered (.planReady deployment updated) _
    · rename_i done
      exact .planned done
  | arrived principal workerID deploymentID body =>
    simp only [advance] at step
    split at step <;> cases step
    · exact .answered (.arrived principal workerID deploymentID body) _
    · exact .early trivial trivial
  | accepted workerID deploymentID =>
    simp only [advance] at step
    split at step
    · cases step
      exact .answered (.accepted workerID deploymentID) _
    · rename_i read
      split at step <;> cases step
      · exact .answered (.accepted workerID deploymentID) _
      · exact .found read
  | ready workerID deployment =>
    simp only [advance] at step
    split at step
    · cases step
      exact .answered (.ready workerID deployment) _
    · rename_i read
      split at step <;> cases step
      · exact .answered (.ready workerID deployment) _
      · rename_i current
        exact .checked read (by simpa [checkNotSuperseded] using current)
  | current workerID worker deployment =>
    simp only [advance] at step
    split at step
    · cases step
      exact .answered (.current workerID worker deployment) _
    · split at step <;> cases step
      · exact .answered (.current workerID worker deployment) _
      · exact .carried rfl rfl (samePlan_refl _) rfl rfl id
  | versioned workerID worker version deployment =>
    simp only [advance] at step
    split at step
    · cases step
      exact .answered (.versioned workerID worker version deployment) _
    · split at step <;> cases step
      · exact .answered (.versioned workerID worker version deployment) _
      · exact .carried rfl rfl (runningDeployment_samePlan ..) rfl rfl fun _ => rfl
  | opened execution =>
    simp only [advance] at step
    split at step <;> cases step
    · exact .answered (.opened execution) _
    · rename_i done
      exact .claimed (.inl rfl) (.inl done)
    · exact .carried rfl rfl (samePlan_refl _) rfl rfl id
  | starting execution =>
    simp only [advance] at step
    split at step <;> cases step
    · exact .answered (.starting execution) _
    · rename_i done
      exact .claimed (.inr rfl) (.inr done)
  | started execution =>
    simp only [advance] at step
    cases step
    split
    · exact called_fail _ _ _ _ rfl rfl
    · exact .called _ rfl rfl rfl (samePlan_refl _) rfl id
  | validated execution =>
    simp only [advance] at step
    split at step <;> cases step
    · split
      · exact called_fail _ _ _ _ rfl rfl
      · split
        · exact .called _ rfl rfl rfl (samePlan_refl _) rfl id
        · exact called_fail _ _ _ _ rfl rfl
    · exact .carried rfl rfl (samePlan_refl _) rfl rfl id
  | uploaded execution uploaded =>
    simp only [advance] at step
    split at step <;> cases step
    · exact .carried rfl rfl (failedDeployment_samePlan ..) rfl rfl fun _ => .fail
    · rename_i done
      exact .recorded done
  | publishing execution providerVersionID =>
    simp only [advance] at step
    cases step
    split
    · exact called_fail _ _ _ _ rfl rfl
    · split
      · exact .called _ rfl rfl rfl (succeededDeployment_samePlan ..) rfl fun _ => .succeed
      · exact called_fail _ _ _ _ rfl rfl
  | ending final answer =>
    simp only [advance] at step
    split at step <;> cases step
    · exact .answered (.ending final answer) _
    · rename_i done
      exact .ended (.inl rfl) (.inl done)
    · exact .carried rfl rfl (samePlan_refl _) rfl rfl id
  | closing final answer =>
    simp only [advance] at step
    split at step <;> cases step
    · exact .answered (.closing final answer) _
    · rename_i done
      exact .ended (.inr rfl) (.inr done)
  | answered contacted answer =>
    cases step
    exact .answered (.answered contacted answer) answer

def samplePrincipal : Principal where
  subject := "olga"
  role := .operator
  allHosts := true
  hostIDs := []
  sessionID := "session_1"

def sampleVersion (id : String) : StoredWorkerVersion where
  metadata :=
    { id := id
      workerID := "worker_1"
      sha256 := "sha256:00"
      sizeBytes := 1
      contentType := "application/javascript"
      entrypoint := "index.js"
      state := "staged"
      providerVersionID := ""
      providerVersionNumber := 0
      providerUploadedAt := none
      createdAt := 0
      createdBy := "olga" }
  module := [0]

def sampleToken : StoredToken where
  metadata := ⟨"token_1", "worker_1", "api_token", "key_1", 0, "olga"⟩
  envelope := ⟨"key_1", [], [], [], []⟩

def sampleTables : Tables where
  workers := .single sampleWorker
  tokens := .single sampleToken
  versions := (Keyed.single (sampleVersion "wver_1")).put (sampleVersion "wver_2")
  deployments := .empty

def sampleBoundary : Boundary := ⟨true, true, true⟩

def sampleRaw (seed : UInt8) : Bytes := List.replicate 16 seed

def sampleChoice (seed : UInt8) : Choice where
  now := 0
  raw := sampleRaw seed
  opens := .ok ()
  access := .ok ()
  upload := .ok ⟨"version", 1, some 0, "edge", "00", 1⟩
  publish := .ok ⟨"deployment", "edge", "active"⟩

theorem sample_takes {repo : Repository σ} (seed : UInt8) (s : σ) (call : Call) :
    (plane repo sampleBoundary).step s call
      (advance repo sampleBoundary (sampleChoice seed) s call).2.2
      (advance repo sampleBoundary (sampleChoice seed) s call).1
      (advance repo sampleBoundary (sampleChoice seed) s call).2.1 :=
  ⟨sampleChoice seed, rfl⟩

end VpsManager.Cloudflare
