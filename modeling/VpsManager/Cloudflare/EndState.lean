import VpsManager.Cloudflare.Once

/- How an execution ends. All requests read one clock, which never goes back, and
share the store in memory; the provider may answer anything. -/
namespace VpsManager.Cloudflare

open Go Control Checks Interleaving

structure Clocked where
  now : Int
  tables : Tables

/-- What the provider has reported: the version it made of an upload for a deployment,
and the deployment it made. -/
inductive Report
  | silent
  | uploaded (deploymentID versionID : String) (version : UploadedVersion)
  | published (deploymentID : String) (answer : ProviderDeployment)

def report (choice : Choice) : Call → Report
  | .validated execution =>
    match execution.running.kind, choice.upload with
    | .deploy, .ok version =>
      .uploaded execution.running.id execution.version.metadata.id version
    | _, _ => .silent
  | .publishing execution _ =>
    match choice.publish with
    | .ok answer => .published execution.running.id answer
    | .error _ => .silent
  | _ => .silent

/-- A failure reads the clock once more for the time at which it is recorded. -/
def Call.reread (now : Int) : Call → Call
  | .ending final (.error failure) => .ending { final with finishedAt := some now } (.error failure)
  | call => call

/-- A step of a request, between two readings of the clock. -/
def ClockedStep (boundary : Boundary) (s : Clocked) (call : Call) (label : Report)
    (after : Clocked) (next : Call) : Prop :=
  ∃ choice moved event, s.now ≤ choice.now ∧ choice.now ≤ after.now ∧
    advance memory boundary choice s.tables call = (after.tables, moved, event) ∧
    next = moved.reread after.now ∧ label = report choice call

/-- What other requests do; a version that is created has not been uploaded. -/
inductive ClockedChange (s : Clocked) : Report → Clocked → Prop
  | changed {after : Clocked} (later : s.now ≤ after.now)
      (change : TablesChange s.tables after.tables)
      (bare : ∀ id version, after.tables.versions.get id = some version →
        s.tables.versions.get id = some version ∨ version.metadata.providerVersionID = "") :
      ClockedChange s .silent after

def clockedPlane (boundary : Boundary) : System Clocked Call Report where
  begins := Call.Begins
  step := ClockedStep boundary
  outside := ClockedChange

def emptyTables : Tables := ⟨.empty, .empty, .empty, .empty⟩

/-- The number of steps an execution still has to take. -/
def Call.remaining : Call → Nat
  | .started _ => 5
  | .validated _ => 4
  | .uploaded _ _ => 3
  | .publishing _ _ => 2
  | .ending _ _ => 1
  | _ => 0

/-- The provider has reported this version for the version of the deployment, for the
deployment itself if it is one that uploads. -/
def VersionReported (trace : List Report) (deployment : Deployment) (providerVersionID : String) :
    Prop :=
  ∃ deploymentID version, .uploaded deploymentID deployment.versionID version ∈ trace ∧
    version.id = providerVersionID ∧ (deployment.kind = .deploy → deploymentID = deployment.id)

/-- The record of an execution and what its request answers. -/
inductive Outcome (trace : List Report) (record : Deployment) : Except ApiError Deployment → Prop
  | succeeded (answer : ProviderDeployment) (state : record.state = .succeeded)
      (code : record.errorCode = "")
      (version : VersionReported trace record record.providerVersionID)
      (published : .published record.id answer ∈ trace)
      (deployment : record.providerDeploymentID = answer.id) : Outcome trace record (.ok record)
  | failed (status : Nat) (state : record.state = .failed) :
      Outcome trace record (.error (executionFailed record.errorCode status))

/-- An execution whose deployment may be set to running. -/
structure Prepared (now : Int) (trace : List Report) (execution : Execution) : Prop where
  started : ∃ at', execution.running.startedAt = some at' ∧ at' ≤ now
  state : execution.running.state = .running
  allowed : execution.running.providerExecutionAllowed = true
  version : execution.version.metadata.id = execution.running.versionID
  rollback : execution.running.kind = .rollback → execution.running.providerVersionID ≠ "" ∧
    VersionReported trace execution.running execution.running.providerVersionID

structure Underway (s : Clocked) (trace : List Report) (execution : Execution) : Prop where
  prepared : Prepared s.now trace execution
  stored : s.tables.deployments.get execution.running.id = some execution.running
  kind : execution.running.kind = .deploy ∨ execution.running.kind = .rollback
  created : ∀ at', execution.running.startedAt = some at' → execution.running.createdAt ≤ at'

def Good (s : Clocked) (trace : List Report) : Call → Prop
  | .versioned _ _ version deployment =>
    version.metadata.id = deployment.versionID ∧
      (deployment.kind = .rollback → version.metadata.providerVersionID ≠ "" ∧
        VersionReported trace deployment version.metadata.providerVersionID)
  | .opened execution => Prepared s.now trace execution
  | .started execution | .validated execution => Underway s trace execution
  | .uploaded execution uploaded =>
    Underway s trace execution ∧ execution.running.kind = .deploy ∧ uploaded.id ≠ "" ∧
      .uploaded execution.running.id execution.version.metadata.id uploaded ∈ trace
  | .publishing execution providerVersionID =>
    Underway s trace execution ∧ providerVersionID ≠ "" ∧
      VersionReported trace execution.running providerVersionID
  | .ending final answer =>
    (∃ running, s.tables.deployments.get final.id = some running ∧ running.state = .running ∧
      validWorkerDeploymentTransition running final = true) ∧ Outcome trace final answer
  | .answered (some id) answer =>
    ∃ record, s.tables.deployments.get id = some record ∧ Outcome trace record answer
  | .starting _ | .closing _ _ => False
  | _ => True

/-- Deployments are of the two kinds, and versions have the IDs that were reported. -/
structure Sound (s : Clocked) (trace : List Report) : Prop where
  kinds : ∀ id deployment, s.tables.deployments.get id = some deployment →
    deployment.kind = .deploy ∨ deployment.kind = .rollback
  versions : ∀ id version, s.tables.versions.get id = some version →
    version.metadata.providerVersionID ≠ "" →
      ∃ deploymentID uploaded, .uploaded deploymentID id uploaded ∈ trace ∧
        uploaded.id = version.metadata.providerVersionID

variable {id : String} {record : Deployment} {answer : Except ApiError Deployment}

section Frame

variable {s after : Clocked} {trace : List Report} {label : Report} {call : Call}

theorem VersionReported.mono {deployment : Deployment}
    (reported : VersionReported trace deployment id) :
    VersionReported (label :: trace) deployment id := by
  obtain ⟨deploymentID, version, member, same, own⟩ := reported
  exact ⟨deploymentID, version, List.mem_cons_of_mem _ member, same, own⟩

theorem Outcome.mono (outcome : Outcome trace record answer) :
    Outcome (label :: trace) record answer := by
  cases outcome with
  | succeeded answer state code version published deployment =>
    exact .succeeded answer state code version.mono (List.mem_cons_of_mem _ published) deployment
  | failed status state => exact .failed status state

theorem Prepared.mono {now later : Int} {execution : Execution} (forward : now ≤ later)
    (prepared : Prepared now trace execution) : Prepared later (label :: trace) execution := by
  obtain ⟨at', started, before⟩ := prepared.started
  exact { prepared with
    started := ⟨at', started, before.trans forward⟩
    rollback := fun kind => (prepared.rollback kind).imp_right VersionReported.mono }

theorem Outcome.ended (outcome : Outcome trace record answer) :
    record.state = .succeeded ∨ record.state = .failed := by
  cases outcome with
  | succeeded _ state => exact .inl state
  | failed _ state => exact .inr state

/-- The deployment a request has claimed is stored and has left its first state. -/
theorem Good.claimed (good : Good s trace call) (claimed : call.claimed? = some id) :
    ∃ record, s.tables.deployments.get id = some record ∧ record.state ≠ .readyForProvider := by
  have underway : ∀ execution, Underway s trace execution →
      ∃ record, s.tables.deployments.get execution.running.id = some record ∧
        record.state ≠ .readyForProvider := by
    intro execution underway
    refine ⟨execution.running, underway.stored, ?_⟩
    rw [underway.prepared.state]
    decide
  cases call with
  | started execution =>
    cases claimed
    exact underway execution good
  | validated execution =>
    cases claimed
    exact underway execution good
  | uploaded execution =>
    cases claimed
    exact underway execution good.1
  | publishing execution =>
    cases claimed
    exact underway execution good.1
  | ending final answer =>
    cases claimed
    obtain ⟨⟨running, stored, state, -⟩, -⟩ := good
    refine ⟨running, stored, ?_⟩
    rw [state]
    decide
  | answered contacted answer =>
    cases claimed
    obtain ⟨record, stored, outcome⟩ := good
    refine ⟨record, stored, ?_⟩
    rcases outcome.ended with state | state <;> rw [state] <;> decide
  | closing => exact good.elim
  | _ => cases claimed

/-- A request is not disturbed by what keeps the deployment it has claimed. -/
theorem Good.frame (good : Good s trace call) (forward : s.now ≤ after.now)
    (kept : ∀ id record, call.claimed? = some id → s.tables.deployments.get id = some record →
      record.state ≠ .readyForProvider → after.tables.deployments.get id = some record) :
    Good after (label :: trace) call := by
  have underway : ∀ execution, call.claimed? = some execution.running.id →
      Underway s trace execution → Underway after (label :: trace) execution := by
    intro execution claimed underway
    refine { underway with prepared := underway.prepared.mono forward, stored := ?_ }
    refine kept _ _ claimed underway.stored ?_
    rw [underway.prepared.state]
    decide
  cases call with
  | versioned workerID worker version deployment =>
    exact ⟨good.1, fun kind => (good.2 kind).imp_right VersionReported.mono⟩
  | opened execution => exact Prepared.mono forward good
  | started execution => exact underway execution rfl good
  | validated execution => exact underway execution rfl good
  | uploaded execution uploaded =>
    obtain ⟨running, kind, present, reported⟩ := good
    exact ⟨underway execution rfl running, kind, present, List.mem_cons_of_mem _ reported⟩
  | publishing execution providerVersionID =>
    obtain ⟨running, present, reported⟩ := good
    exact ⟨underway execution rfl running, present, reported.mono⟩
  | ending final answer =>
    obtain ⟨⟨running, stored, state, valid⟩, outcome⟩ := good
    refine ⟨⟨running, kept _ _ rfl stored ?_, state, valid⟩, outcome.mono⟩
    rw [state]
    decide
  | answered contacted answer =>
    cases contacted with
    | none => trivial
    | some id =>
      obtain ⟨record, stored, outcome⟩ := good
      refine ⟨record, kept _ _ rfl stored ?_, outcome.mono⟩
      rcases outcome.ended with state | state <;> rw [state] <;> decide
  | starting => exact good.elim
  | closing => exact good.elim
  | _ => trivial

end Frame

section Store

variable {m after : Tables} {call next : Call} {event : Event}

theorem writes_memory {updated : Deployment} {expected : State}
    (writes : memory.Writes m updated expected after) :
    ∃ current, m.deployments.get updated.id = some current ∧ current.state = expected ∧
      validWorkerDeploymentTransition current updated = true ∧
      after = { m with deployments := m.deployments.put updated } := by
  rcases writes with done | impossible
  · have done : m.updateWorkerDeployment updated expected = .ok after := by
      simpa [memory] using done
    obtain ⟨⟨current, found, state, valid⟩, left⟩ := Tables.updateWorkerDeployment_eq_ok.mp done
    exact ⟨current, found, state, valid, left⟩
  · cases impossible

/-- A step changes only the deployment its request has claimed, one that is ready, or
none. -/
theorem Moves.keeps_others (moves : Moves memory m call event after next)
    (other : call.claimed? ≠ some id) (found : m.deployments.get id = some record)
    (left : record.state ≠ .readyForProvider) : after.deployments.get id = some record := by
  cases moves with
  | planned done => exact memory_laws.planned _ _ _ _ done id record found
  | recorded done => exact memory_laws.recorded _ _ _ _ _ _ _ done id record found
  | @claimed call execution _ waiting writes =>
    obtain ⟨current, present, ready, -, rfl⟩ := writes_memory writes
    have differs : id ≠ execution.running.id := by
      rintro rfl
      rw [found] at present
      cases present
      exact left ready
    rwa [Keyed.get_put_of_ne _ _ differs]
  | @ended call final answer _ waiting writes =>
    obtain ⟨current, -, -, -, rfl⟩ := writes_memory writes
    have differs : id ≠ final.id := by
      rintro rfl
      rcases waiting with rfl | rfl <;> exact other rfl
    rwa [Keyed.get_put_of_ne _ _ differs]
  | early | answered | found | checked | carried | called => exact found

theorem Moves.kinds (moves : Moves memory m call event after next)
    (kinds : ∀ id deployment, m.deployments.get id = some deployment →
      deployment.kind = .deploy ∨ deployment.kind = .rollback) :
    ∀ id deployment, after.deployments.get id = some deployment →
      deployment.kind = .deploy ∨ deployment.kind = .rollback := by
  have written : ∀ updated expected, memory.Writes m updated expected after →
      ∀ id deployment, after.deployments.get id = some deployment →
        deployment.kind = .deploy ∨ deployment.kind = .rollback := by
    intro updated expected writes id deployment found
    obtain ⟨current, present, -, valid, rfl⟩ := writes_memory writes
    rw [Keyed.get_put] at found
    split at found
    · cases found
      rw [(samePlan_of_valid valid).kind]
      exact kinds _ _ present
    · exact kinds _ _ found
  cases moves with
  | planned done =>
    obtain ⟨worker, version, accepted⟩ := Tables.planWorkerDeployment_ok done
    intro id deployment found
    rw [accepted.after, Keyed.get_put] at found
    split at found
    · cases found
      exact accepted.kind
    · exact kinds _ _ found
  | recorded done =>
    rw [(Tables.updateWorkerVersionProvider_ok done).2.1]
    exact kinds
  | claimed _ writes => exact written _ _ writes
  | ended _ writes => exact written _ _ writes
  | early | answered | found | checked | carried | called => exact kinds

/-- Recording an upload writes the ID of the version that was reported. -/
theorem Tables.updateWorkerVersionProvider_versions
    {workerID versionID providerVersionID : String} {number uploadedAt : Int}
    (done : m.updateWorkerVersionProvider workerID versionID providerVersionID number uploadedAt =
      .ok after) {version : StoredWorkerVersion} (found : after.versions.get id = some version) :
    m.versions.get id = some version ∨
      id = versionID ∧ version.metadata.providerVersionID = providerVersionID := by
  simp only [Tables.updateWorkerVersionProvider, bind_eq_ok, ensure_eq_ok,
    Tables.getWorkerVersion_eq_ok, pure_eq_ok] at done
  obtain ⟨_, -, old, ⟨present, -⟩, rfl⟩ := done
  rw [Keyed.get_put] at found
  split at found
  · rename_i same
    have stored : old.id = versionID := Keyed.key_of_get present
    cases found
    exact .inr ⟨same.trans stored, rfl⟩
  · exact .inl found

theorem Moves.versions (moves : Moves memory m call event after next)
    {version : StoredWorkerVersion} (found : after.versions.get id = some version) :
    m.versions.get id = some version ∨
      ∃ execution uploaded, call = .uploaded execution uploaded ∧
        id = execution.version.metadata.id ∧
        version.metadata.providerVersionID = uploaded.id := by
  cases moves with
  | planned done =>
    obtain ⟨worker, _, accepted⟩ := Tables.planWorkerDeployment_ok done
    rw [accepted.after] at found
    exact .inl found
  | recorded done =>
    rcases Tables.updateWorkerVersionProvider_versions done found with kept | ⟨same, changed⟩
    · exact .inl kept
    · exact .inr ⟨_, _, rfl, same, changed⟩
  | claimed _ writes =>
    obtain ⟨_, -, -, -, rfl⟩ := writes_memory writes
    exact .inl found
  | ended _ writes =>
    obtain ⟨_, -, -, -, rfl⟩ := writes_memory writes
    exact .inl found
  | early | answered | found | checked | carried | called => exact .inl found

end Store

theorem classify_code (error : ProviderError) :
    (classifyCloudflareProviderError error).1 ≠ "" ∧
      len (classifyCloudflareProviderError error).1 ≤ 128 := by
  cases error with
  | none => decide
  | some kind => cases kind <;> decide

section Step

variable {s : Clocked} {trace : List Report} {execution : Execution} {now : Int}

theorem Underway.failWith (underway : Underway s trace execution) (forward : s.now ≤ now)
    (providerVersionID code : String) (status : Nat) (read : Int) (label : Report)
    (present : code ≠ "") (short : len code ≤ 128) :
    Good ⟨now, s.tables⟩ (label :: trace)
      ((failWith execution.running providerVersionID code status read).reread now) := by
  obtain ⟨at', started, before⟩ := underway.prepared.started
  have created := underway.created at' started
  refine ⟨⟨execution.running, underway.stored, underway.prepared.state, ?_⟩, ?_⟩
  · have later : at' ≤ now := before.trans forward
    simp [validWorkerDeploymentTransition, samePlan, failedDeployment, validFinishedDeployment,
      underway.prepared.state, underway.prepared.allowed, started, created, later, present, short]
  · exact .failed status rfl

theorem Underway.fail (underway : Underway s trace execution) (forward : s.now ≤ now)
    (providerVersionID : String) (error : ProviderError) (read : Int) (label : Report) :
    Good ⟨now, s.tables⟩ (label :: trace)
      ((fail execution.running providerVersionID error read).reread now) :=
  underway.failWith forward _ _ _ _ _ (classify_code error).1 (classify_code error).2

theorem Underway.mono (underway : Underway s trace execution) (forward : s.now ≤ now)
    (label : Report) : Underway ⟨now, s.tables⟩ (label :: trace) execution :=
  { underway with prepared := underway.prepared.mono forward, stored := underway.stored }

theorem Good.advanced {boundary : Boundary} {after : Clocked} {call next : Call} {label : Report}
    (sound : Sound s trace) (good : Good s trace call)
    (step : ClockedStep boundary s call label after next) : Good after (label :: trace) next := by
  obtain ⟨now, tables⟩ := after
  obtain ⟨choice, moved, event, before, later, advanced, rfl, rfl⟩ := step
  have forward : s.now ≤ now := before.trans later
  dsimp only at later advanced
  cases call with
  | planArrived principal workerID body =>
    simp only [advance] at advanced
    split at advanced <;> cases advanced <;> trivial
  | planAccepted subject workerID input =>
    simp only [advance] at advanced
    split at advanced <;> cases advanced <;> trivial
  | planWorker subject workerID input worker =>
    simp only [advance] at advanced
    split at advanced <;> cases advanced <;> trivial
  | planVersion subject workerID input worker =>
    simp only [advance] at advanced
    split at advanced <;> cases advanced <;> trivial
  | planReady deployment updated =>
    simp only [advance] at advanced
    split at advanced <;> cases advanced <;> trivial
  | arrived principal workerID deploymentID body =>
    simp only [advance] at advanced
    split at advanced <;> cases advanced <;> trivial
  | accepted workerID deploymentID =>
    simp only [advance] at advanced
    split at advanced
    · cases advanced
      trivial
    · split at advanced <;> cases advanced <;> trivial
  | ready workerID deployment =>
    simp only [advance] at advanced
    split at advanced
    · cases advanced
      trivial
    · split at advanced <;> cases advanced <;> trivial
  | current workerID worker deployment =>
    simp only [advance] at advanced
    split at advanced
    · cases advanced
      trivial
    · rename_i version read
      split at advanced <;> cases advanced
      · trivial
      · rename_i checked
        have found := (Tables.getWorkerVersion_eq_ok.mp read).1
        have key : version.id = deployment.versionID := Keyed.key_of_get found
        refine ⟨key, ?_⟩
        intro kind
        have present : version.metadata.providerVersionID ≠ "" := by
          simpa [checkUploaded, kind] using checked
        obtain ⟨deploymentID, uploaded, member, same⟩ := sound.versions _ _ found present
        refine ⟨present, deploymentID, uploaded, List.mem_cons_of_mem _ member, same, ?_⟩
        rw [kind]
        rintro ⟨⟩
  | versioned workerID worker version deployment =>
    simp only [advance] at advanced
    split at advanced
    · cases advanced
      trivial
    · split at advanced <;> cases advanced
      · trivial
      · refine ⟨⟨choice.now, rfl, later⟩, rfl, rfl, good.1, ?_⟩
        intro kind
        have kind : deployment.kind = .rollback := kind
        obtain ⟨present, reported⟩ := good.2 kind
        have same : (runningDeployment deployment version choice.now).providerVersionID =
            version.metadata.providerVersionID := if_pos kind
        rw [same]
        exact ⟨present, reported.mono⟩
  | opened execution =>
    simp only [advance] at advanced
    split at advanced <;> cases advanced
    · trivial
    · rename_i done
      obtain ⟨current, present, -, valid, rfl⟩ := writes_memory (.inl done)
      obtain ⟨-, transition⟩ := transition_of_valid valid
      refine ⟨Prepared.mono forward good, Keyed.get_put_self _ _, ?_, ?_⟩
      · rw [(samePlan_of_valid valid).kind]
        exact sound.kinds _ _ present
      · intro at' started
        cases transition with
        | start begun _ _ isStarted created =>
          rw [isStarted] at started
          cases started
          exact created
        | succeed _ _ _ state => exact absurd (good.state.symm.trans state) (by decide)
        | fail _ _ _ state => exact absurd (good.state.symm.trans state) (by decide)
    · rename_i impossible
      cases impossible
  | starting => exact good.elim
  | started execution =>
    simp only [advance] at advanced
    cases advanced
    split
    · exact Underway.fail good forward _ _ _ _
    · exact Underway.mono good forward _
  | validated execution =>
    simp only [advance] at advanced
    split at advanced <;> cases advanced
    · rename_i kind
      split
      · exact Underway.fail good forward _ _ _ _
      · rename_i uploaded answered
        split
        · rename_i fits
          refine ⟨Underway.mono good forward _, kind, ?_, ?_⟩
          · simp only [UploadedVersion.matches, Bool.and_eq_true, bne_iff_ne] at fits
            exact fits.1.1.1
          · simp [report, kind, answered]
        · exact Underway.fail good forward _ _ _ _
    · rename_i kind
      have rollback := good.kind.resolve_left kind
      obtain ⟨present, reported⟩ := good.prepared.rollback rollback
      exact ⟨Underway.mono good forward _, present, reported.mono⟩
  | uploaded execution uploaded =>
    obtain ⟨underway, kind, present, reported⟩ := good
    simp only [advance] at advanced
    split at advanced <;> cases advanced
    · exact underway.failWith forward _ _ _ _ _ (by decide) (by decide)
    · rename_i done
      have same := (Tables.updateWorkerVersionProvider_ok done).2.1
      refine ⟨⟨underway.prepared.mono forward, ?_, underway.kind, underway.created⟩, present,
        execution.running.id, uploaded, ?_, rfl, fun _ => rfl⟩
      · rw [same]
        exact underway.stored
      · rw [← underway.prepared.version]
        exact List.mem_cons_of_mem _ reported
  | publishing execution providerVersionID =>
    obtain ⟨underway, present, reported⟩ := good
    simp only [advance] at advanced
    cases advanced
    split
    · exact underway.fail forward _ _ _ _
    · rename_i answer answered
      split
      · rename_i active
        simp only [ProviderDeployment.isActive, Bool.and_eq_true, bne_iff_ne, beq_iff_eq]
          at active
        obtain ⟨⟨named, -⟩, state⟩ := active
        obtain ⟨at', started, begun⟩ := underway.prepared.started
        have created := underway.created at' started
        have ordered : at' ≤ choice.now := begun.trans before
        refine ⟨⟨execution.running, underway.stored, underway.prepared.state, ?_⟩, ?_⟩
        · simp [validWorkerDeploymentTransition, samePlan, succeededDeployment,
            validFinishedDeployment, underway.prepared.state, underway.prepared.allowed, started,
            created, ordered, present, named, state]
        · refine .succeeded answer rfl rfl reported.mono ?_ rfl
          simp [report, answered, succeededDeployment]
      · exact underway.fail forward _ _ _ _
  | ending final answer =>
    obtain ⟨⟨running, stored, state, valid⟩, outcome⟩ := good
    have accepted : s.tables.updateWorkerDeployment final .running =
        .ok { s.tables with deployments := s.tables.deployments.put final } :=
      Tables.updateWorkerDeployment_eq_ok.mpr ⟨⟨running, stored, state, valid⟩, rfl⟩
    simp only [advance, memory, accepted] at advanced
    cases advanced
    exact ⟨final, Keyed.get_put_self _ _, outcome.mono⟩
  | closing => exact good.elim
  | answered contacted answer =>
    cases advanced
    exact good.frame forward fun _ _ _ found _ => found

end Step

section Runs

variable {boundary : Boundary} {s after : Clocked} {trace : List Report} {label : Report}
  {call next : Call}

@[simp] theorem Call.claimed_reread (call : Call) (now : Int) :
    (call.reread now).claimed? = call.claimed? := by
  cases call with
  | ending final answer => cases answer <;> rfl
  | _ => rfl

theorem ClockedStep.moves (step : ClockedStep boundary s call label after next) :
    s.now ≤ after.now ∧ ∃ event moved, Moves memory s.tables call event after.tables moved ∧
      next.claimed? = moved.claimed? := by
  obtain ⟨choice, moved, event, before, later, advanced, rfl, -⟩ := step
  exact ⟨before.trans later, event, moved, moves_of_advance advanced, moved.claimed_reread _⟩

theorem Sound.advanced (sound : Sound s trace) (good : Good s trace call)
    (step : ClockedStep boundary s call label after next) : Sound after (label :: trace) := by
  obtain ⟨-, event, moved, moves, -⟩ := step.moves
  refine ⟨moves.kinds sound.kinds, ?_⟩
  intro id version found present
  rcases moves.versions found with kept | ⟨execution, uploaded, rfl, rfl, changed⟩
  · obtain ⟨deploymentID, uploaded, member, same⟩ := sound.versions _ _ kept present
    exact ⟨deploymentID, uploaded, List.mem_cons_of_mem _ member, same⟩
  · obtain ⟨-, -, -, reported⟩ := good
    exact ⟨execution.running.id, uploaded, List.mem_cons_of_mem _ reported, changed.symm⟩

/-- What one request knows is kept by the steps of the others, and a deployment has one
request at most. -/
theorem executions_inductive (boundary : Boundary) (now : Int) :
    Inductive (clockedPlane boundary) anyStep ⟨now, emptyTables⟩ Sound Good Call.Apart where
  symmetric one other apart id ours theirs := apart id theirs ours
  initial := by
    refine ⟨?_, ?_⟩ <;> intro id record found <;> rw [emptyTables, Keyed.get_empty] at found <;>
      cases found
  begun := by
    rintro s trace call - begins
    cases begins <;> exact ⟨trivial, fun _ _ => nofun⟩
  advanced := by
    rintro s trace call label after next sound good step -
    have step : ClockedStep boundary s call label after next := step
    obtain ⟨forward, event, moved, moves, same⟩ := step.moves
    refine ⟨sound.advanced good step, Good.advanced sound good step, ?_⟩
    intro other otherGood apart
    refine ⟨otherGood.frame forward ?_, ?_⟩
    · intro id record theirs found left
      exact moves.keeps_others (fun ours => apart id ours theirs) found left
    · intro id ours theirs
      rw [same] at ours
      rcases moves.claimed_or with kept | ⟨execution, -, rfl, writes⟩
      · exact apart id (kept ▸ ours) theirs
      · -- the deployment was still ready, so that nobody else had claimed it
        obtain rfl : execution.running.id = id := Option.some.inj ours
        obtain ⟨current, present, ready, -⟩ := writes_memory writes
        obtain ⟨record, found, left⟩ := otherGood.claimed theirs
        rw [found] at present
        cases present
        exact left ready
  disturbed := by
    rintro s trace label after sound ⟨later, change, bare⟩
    have kept := (TablesChange.kept change).deployments
    refine ⟨⟨?_, ?_⟩, ?_⟩
    · rw [kept]
      exact sound.kinds
    · intro id version found present
      have old := (bare id version found).resolve_right present
      obtain ⟨deploymentID, uploaded, member, same⟩ := sound.versions _ _ old present
      exact ⟨deploymentID, uploaded, List.mem_cons_of_mem _ member, same⟩
    · intro other good
      refine good.frame later ?_
      intro id record _ found _
      rw [kept]
      exact found

/-- Every step of an execution brings it closer to its end. -/
theorem remaining_decreases (step : ClockedStep boundary s call label after next)
    (good : Good s trace call) (claimed : call.claimed? = some id) :
    (∃ contacted answer, call = .answered contacted answer) ∨ next.remaining < call.remaining := by
  obtain ⟨now, tables⟩ := after
  obtain ⟨choice, moved, event, -, -, advanced, rfl, -⟩ := step
  have reread : (moved.reread now).remaining = moved.remaining := by
    cases moved with
    | ending final answer => cases answer <;> rfl
    | _ => rfl
  dsimp only at advanced ⊢
  rw [reread]
  cases call with
  | started execution =>
    simp only [advance] at advanced
    cases advanced
    right
    split <;> simp [Call.remaining, fail, failWith]
  | validated execution =>
    simp only [advance] at advanced
    right
    split at advanced <;> cases advanced
    · split
      · simp [Call.remaining, fail, failWith]
      · split <;> simp [Call.remaining, fail, failWith]
    · simp [Call.remaining]
  | uploaded execution uploaded =>
    simp only [advance] at advanced
    right
    split at advanced <;> cases advanced <;> simp [Call.remaining, failWith]
  | publishing execution providerVersionID =>
    simp only [advance] at advanced
    cases advanced
    right
    split
    · simp [Call.remaining, fail, failWith]
    · split <;> simp [Call.remaining, fail, failWith]
  | ending final answer =>
    simp only [advance] at advanced
    right
    split at advanced <;> cases advanced
    · exact Nat.one_pos
    · exact Nat.one_pos
    · rename_i impossible
      cases impossible
  | answered contacted answer => exact .inl ⟨contacted, answer, rfl⟩
  | closing => exact good.elim
  | _ => cases claimed

/-- The record an execution leaves, and what its request answers. -/
structure Ended (trace : List Report) (record : Deployment)
    (answer : Except ApiError Deployment) : Prop where
  state : record.state = .succeeded ∨ record.state = .failed
  returns : (∃ returned, answer = .ok returned) ↔ record.state = .succeeded
  returned : ∀ returned, answer = .ok returned → returned = record ∧ record.errorCode = "" ∧
    VersionReported trace record record.providerVersionID ∧
    ∃ published, .published record.id published ∈ trace ∧
      record.providerDeploymentID = published.id
  failure : ∀ failure, answer = .error failure → failure.code = record.errorCode

theorem Outcome.toEnded (outcome : Outcome trace record answer) : Ended trace record answer := by
  refine ⟨outcome.ended, ?_, ?_, ?_⟩
  · cases outcome with
    | succeeded _ state => exact ⟨fun _ => state, fun _ => ⟨record, rfl⟩⟩
    | failed _ state =>
      constructor
      · rintro ⟨returned, ⟨⟩⟩
      · intro other
        rw [state] at other
        cases other
  · rintro returned rfl
    cases outcome with
    | succeeded answer _ code version published deployment =>
      exact ⟨rfl, code, version, answer, published, deployment⟩
  · rintro failure rfl
    cases outcome with
    | failed => rfl

/-- A request that has set a deployment to running answers after at most five more
steps. When it has answered, the deployment has succeeded or failed; the answer is
the stored record exactly if it has succeeded, and the stored error otherwise. -/
theorem execution_ends (boundary : Boundary) (now : Int) (config : Config Clocked Call Report)
    (reached : Reachable (clockedPlane boundary) anyStep ⟨now, emptyTables⟩ config) (call : Call)
    (member : call ∈ config.calls) (id : String) (claimed : call.claimed? = some id) :
    (∀ contacted answer, call = .answered contacted answer →
      ∃ record, config.shared.tables.deployments.get id = some record ∧
        Ended config.trace record answer) ∧
    call.remaining ≤ 5 ∧
    ((∃ contacted answer, call = .answered contacted answer) ∨
      ∀ label after next, ClockedStep boundary config.shared call label after next →
        next.claimed? = some id ∧ next.remaining < call.remaining) ∧
    (call.remaining = 0 → ∃ contacted answer, call = .answered contacted answer) := by
  obtain ⟨sound, goods, -⟩ := (executions_inductive boundary now).holds reached
  have good := goods call member
  refine ⟨?_, ?_, ?_, ?_⟩
  · rintro contacted answer rfl
    cases claimed
    obtain ⟨record, stored, outcome⟩ := good
    exact ⟨record, stored, outcome.toEnded⟩
  · cases call <;> simp [Call.remaining]
  · by_cases answered : ∃ contacted answer, call = .answered contacted answer
    · exact .inl answered
    · right
      intro label after next step
      refine ⟨?_, (remaining_decreases step good claimed).resolve_left answered⟩
      obtain ⟨-, event, moved, moves, same⟩ := step.moves
      rw [same]
      rcases moves.claimed_or with kept | ⟨execution, waiting, -⟩
      · exact kept.trans claimed
      · rcases waiting with rfl | rfl <;> cases claimed
  · intro none
    cases call with
    | answered contacted answer => exact ⟨contacted, answer, rfl⟩
    | started | validated | uploaded | publishing | ending => cases none
    | closing => exact good.elim
    | _ => cases claimed

end Runs

/-- A step at the time it is, with a provider that takes everything. -/
def sampleAdvance (s : Clocked) (call : Call) : Clocked × Call × Report :=
  let choice := { sampleChoice 0 with now := s.now }
  let moved := advance memory sampleBoundary choice s.tables call
  (⟨s.now, moved.1⟩, moved.2.1.reread s.now, report choice call)

theorem sampleAdvance_takes (s : Clocked) (call : Call) :
    (clockedPlane sampleBoundary).step s call (sampleAdvance s call).2.2 (sampleAdvance s call).1
      (sampleAdvance s call).2.1 :=
  ⟨{ sampleChoice 0 with now := s.now }, _, _, Int.le_refl _, Int.le_refl _, rfl, rfl, rfl⟩

def workerTables : Tables := ⟨.single sampleWorker, .empty, .empty, .empty⟩
def tokenTables : Tables := ⟨.single sampleWorker, .single sampleToken, .empty, .empty⟩
def versionTables : Tables :=
  ⟨.single sampleWorker, .single sampleToken, .single (sampleVersion "wver_1"), .empty⟩

theorem versionTables_reached :
    Reachable (clockedPlane sampleBoundary) anyStep ⟨0, emptyTables⟩
      ⟨⟨0, versionTables⟩, [], [.silent, .silent, .silent]⟩ := by
  have s0 : Reachable (clockedPlane sampleBoundary) anyStep ⟨0, emptyTables⟩ _ := .start
  have worker : emptyTables.createWorker sampleWorker = .ok workerTables := rfl
  have token : workerTables.putWorkerToken sampleToken = .ok tokenTables := rfl
  have version : tokenTables.createWorkerVersion (sampleVersion "wver_1") = .ok versionTables := rfl
  have s1 : ClockedChange ⟨0, emptyTables⟩ .silent ⟨0, workerTables⟩ :=
    .changed (Int.le_refl _) (.createWorker _ rfl rfl worker) fun _ _ found => .inl found
  have s2 : ClockedChange ⟨0, workerTables⟩ .silent ⟨0, tokenTables⟩ :=
    .changed (Int.le_refl _) (.putWorkerToken _ token) fun _ _ found => .inl found
  have s3 : ClockedChange ⟨0, tokenTables⟩ .silent ⟨0, versionTables⟩ := by
    refine .changed (Int.le_refl _) (.createWorkerVersion _ version) ?_
    intro id other found
    right
    rw [Keyed.eq_of_get_single found]
    rfl
  exact ((s0.outside s1).outside s2).outside s3

/-- The version is planned, and the plan is executed. -/
def plannedRun : Clocked × Call × List Report :=
  ahead sampleAdvance 5 ⟨0, versionTables⟩
    (.planArrived samplePrincipal "worker_1" (.ok sampleInput)) [.silent, .silent, .silent]

def deployedRun : Clocked × Call × List Report :=
  ahead sampleAdvance 11 plannedRun.1 (.arrived samplePrincipal "worker_1" sampleID (.ok ()))
    plannedRun.2.2

theorem deployedRun_reached :
    Reachable (clockedPlane sampleBoundary) anyStep ⟨0, emptyTables⟩
      ⟨deployedRun.1, [plannedRun.2.1, deployedRun.2.1], deployedRun.2.2⟩ := by
  have s1 := versionTables_reached.call (.planArrived samplePrincipal "worker_1" (.ok sampleInput))
    (by exact .plan ..)
  have s2 := s1.ahead _ sampleAdvance_takes 5 0 rfl
  have s3 := s2.call (.arrived samplePrincipal "worker_1" sampleID (.ok ())) (by exact .execute ..)
  exact s3.ahead _ sampleAdvance_takes 11 1 rfl

theorem deployed_version_ends :
    ∃ record, deployedRun.1.tables.deployments.get sampleID = some record ∧
      record.state = .succeeded ∧ Ended deployedRun.2.2 record (.ok record) := by
  have claimed : deployedRun.2.1.claimed? = some sampleID := by decide +kernel
  have through : deployedRun.2.1.remaining = 0 := by decide +kernel
  have state : (deployedRun.1.tables.deployments.get sampleID).map Deployment.state =
      some .succeeded := by decide +kernel
  obtain ⟨ended, -, -, answers⟩ := execution_ends sampleBoundary 0 _ deployedRun_reached
    deployedRun.2.1 (by simp) sampleID claimed
  obtain ⟨contacted, answer, answered⟩ := answers through
  obtain ⟨record, stored, outcome⟩ := ended contacted answer answered
  rw [show deployedRun.1.tables.deployments.get sampleID = some record from stored,
    Option.map_some, Option.some_inj] at state
  obtain ⟨returned, rfl⟩ := outcome.returns.mpr state
  obtain ⟨rfl, -⟩ := outcome.returned returned rfl
  exact ⟨returned, stored, state, outcome⟩

end VpsManager.Cloudflare
