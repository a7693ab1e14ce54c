import VpsManager.Cloudflare.Handlers
import VpsManager.Persistence.Schema

namespace VpsManager.Cloudflare

open Go Control Persistence Sql

def Kind.ofName (name : String) : Kind :=
  if name = "deploy" then .deploy else if name = "rollback" then .rollback else .other name

def State.ofName (name : String) : State :=
  if name = "ready_for_provider" then .readyForProvider
  else if name = "running" then .running
  else if name = "succeeded" then .succeeded
  else if name = "failed" then .failed
  else .other name

/-- `COALESCE(column, '')`. -/
def coalesce (column : Option String) : String := column.getD ""

/-- An instant that a `timestamptz` is read as. -/
def ofTimestamptz (t : Int) : Int := t * 1000

@[simp] theorem timestamptz_ofTimestamptz (t : Int) : timestamptz (ofTimestamptz t) = t := by
  simp [timestamptz, ofTimestamptz]

def persistenceToWorkerDeployment (row : DeploymentRow) : Deployment where
  id := row.id
  workerID := row.workerID
  versionID := row.versionID
  previousDesiredVersionID := coalesce row.previousDesiredVersionID
  kind := .ofName row.kind
  state := .ofName row.state
  providerExecutionAllowed := row.providerExecutionAllowed
  providerVersionID := coalesce row.providerVersionID
  providerDeploymentID := coalesce row.providerDeploymentID
  providerState := coalesce row.providerState
  errorCode := coalesce row.errorCode
  startedAt := row.startedAt.map ofTimestamptz
  finishedAt := row.finishedAt.map ofTimestamptz
  createdAt := ofTimestamptz row.createdAt
  createdBy := row.createdBy

/-- A text that is sent as NULL if it is empty. -/
def nullText (text : String) : Option (Option String) :=
  if nulFree text then some (nullString text) else none

variable {text : String} {row : DeploymentRow}

theorem nullText_eq_some {column : Option String} :
    nullText text = some column ↔ nulFree text = true ∧ nullString text = column := by
  unfold nullText
  split <;> simp_all

/-- The row that the UPDATE of `UpdateWorkerDeployment` leaves. -/
def updatedRow (row : DeploymentRow) (updated : Deployment) : Option DeploymentRow := do
  let providerVersionID ← nullText updated.providerVersionID
  let providerDeploymentID ← nullText updated.providerDeploymentID
  let providerState ← nullText updated.providerState
  let errorCode ← nullText updated.errorCode
  return { row with
    state := updated.state.name
    providerExecutionAllowed := updated.providerExecutionAllowed
    providerVersionID := providerVersionID
    providerDeploymentID := providerDeploymentID
    providerState := providerState
    errorCode := errorCode
    startedAt := updated.startedAt.map timestamptz
    finishedAt := updated.finishedAt.map timestamptz }

def insertedRow (installationID : String) (deployment : Deployment) : DeploymentRow where
  installationID := installationID
  id := deployment.id
  workerID := deployment.workerID
  versionID := deployment.versionID
  previousDesiredVersionID := nullString deployment.previousDesiredVersionID
  kind := deployment.kind.name
  state := deployment.state.name
  providerExecutionAllowed := deployment.providerExecutionAllowed
  providerVersionID := none
  providerDeploymentID := none
  providerState := none
  errorCode := none
  startedAt := none
  finishedAt := none
  createdAt := timestamptz deployment.createdAt
  createdBy := deployment.createdBy

def Stored (row : DeploymentRow) (updated : Deployment) : Prop :=
  ∃ written, updatedRow row updated = some written ∧
    Satisfies cloudflareDeploymentsChecks written

/-- What the constraints ask of an update beyond the guard. -/
structure Fits (updated : Deployment) : Prop where
  providerVersionID : nulFree updated.providerVersionID = true ∧
    updated.providerVersionID.length ≤ 128
  providerDeploymentID : nulFree updated.providerDeploymentID = true ∧
    updated.providerDeploymentID.length ≤ 128
  providerState : updated.providerState ∈ ["", "pending", "active"]
  errorCode : ∀ c ∈ updated.errorCode.toList, isErrorCodeChar c = true

/-- The row an update leaves, if its texts can be sent. -/
def updatedColumns (row : DeploymentRow) (updated : Deployment) : DeploymentRow :=
  { row with
    state := updated.state.name
    providerExecutionAllowed := updated.providerExecutionAllowed
    providerVersionID := nullString updated.providerVersionID
    providerDeploymentID := nullString updated.providerDeploymentID
    providerState := nullString updated.providerState
    errorCode := nullString updated.errorCode
    startedAt := updated.startedAt.map timestamptz
    finishedAt := updated.finishedAt.map timestamptz }

theorem updatedRow_eq_some {written : DeploymentRow} {updated : Deployment} :
    updatedRow row updated = some written ↔
      (nulFree updated.providerVersionID = true ∧ nulFree updated.providerDeploymentID = true ∧
        nulFree updated.providerState = true ∧ nulFree updated.errorCode = true) ∧
      updatedColumns row updated = written := by
  simp only [updatedRow, bind, Option.bind_eq_some_iff, nullText_eq_some, pure, Option.some.injEq]
  constructor
  · rintro ⟨_, ⟨version, rfl⟩, _, ⟨deployment, rfl⟩, _, ⟨state, rfl⟩, _, ⟨code, rfl⟩, rfl⟩
    exact ⟨⟨version, deployment, state, code⟩, rfl⟩
  · rintro ⟨⟨version, deployment, state, code⟩, rfl⟩
    exact ⟨_, ⟨version, rfl⟩, _, ⟨deployment, rfl⟩, _, ⟨state, rfl⟩, _, ⟨code, rfl⟩, rfl⟩

theorem nullString_of_empty (empty : text = "") : nullString text = none :=
  if_pos empty

theorem nullString_of_ne (present : text ≠ "") : nullString text = some text :=
  if_neg present

theorem nullString_bounded_iff (text : String) :
    (nullString text = none ∨
        ∀ value, nullString text = some value → 1 ≤ value.length ∧ value.length ≤ 128) ↔
      text.length ≤ 128 := by
  by_cases empty : text = ""
  · rw [nullString_of_empty empty, empty]
    simp
  · have positive : text.length ≠ 0 := fun zero => empty (String.length_eq_zero_iff.mp zero)
    rw [nullString_of_ne empty]
    simp
    omega

theorem Move.name_known {before after : State} (move : Move before after) :
    after.name ∈ ["ready_for_provider", "running", "succeeded", "failed"] := by
  cases move <;> decide

section Guarded

variable {current updated : Deployment}

theorem lifecycle_of_valid (valid : validWorkerDeploymentTransition current updated = true) :
    passes (executionLifecycleCheck (updatedColumns row updated)) := by
  obtain ⟨allowed, transition⟩ := transition_of_valid valid
  simp only [executionLifecycleCheck, updatedColumns, passes_either, passes_both, passes_test,
    passes_isNull, passes_isNotNull, passes_test₁, allowed]
  cases transition with
  | start started _ after isStarted _ unfinished code =>
    right; left
    simp [after, State.name, isStarted, unfinished, nullString_of_empty code]
  | succeed started finished _ after isStarted isFinished _ _ code version deployment state =>
    right; right; left
    simp [after, State.name, isStarted, isFinished, nullString, code, version, deployment, state]
  | fail started finished _ after isStarted isFinished _ _ code =>
    right; right; right
    simp [after, State.name, isStarted, isFinished, nullString_of_ne code]

/-- An update starts no earlier than the plan and ends no earlier than it starts, to
the precision of the table. -/
theorem times_of_valid
    (valid : validWorkerDeploymentTransition (persistenceToWorkerDeployment row) updated = true) :
    passes (executionTimeCheck (updatedColumns row updated)) := by
  have createdAt : updated.createdAt = ofTimestamptz row.createdAt :=
    (samePlan_of_valid valid).createdAt
  have begins : ∀ started, updated.createdAt ≤ started → row.createdAt ≤ timestamptz started := by
    intro started forward
    rw [createdAt] at forward
    simpa using timestamptz_mono forward
  obtain ⟨-, transition⟩ := transition_of_valid valid
  simp only [executionTimeCheck, updatedColumns, passes_either, passes_both, passes_isNull,
    passes_isNotNull, passes_test₁, passes_test₂, decide_eq_true_eq]
  cases transition with
  | start started _ _ isStarted forward unfinished =>
    simp [isStarted, unfinished, begins started forward]
  | succeed started finished _ _ isStarted isFinished forward later =>
    simp [isStarted, isFinished, begins started forward, timestamptz_mono later]
  | fail started finished _ _ isStarted isFinished forward later =>
    simp [isStarted, isFinished, begins started forward, timestamptz_mono later]

/-- The alphabet is all that the guard leaves open of an error code. -/
theorem errorCode_iff (valid : validWorkerDeploymentTransition current updated = true) :
    (nullString updated.errorCode = none ∨
        ∀ code, nullString updated.errorCode = some code → errorCodePattern code = true) ↔
      ∀ c ∈ updated.errorCode.toList, isErrorCodeChar c = true := by
  by_cases empty : updated.errorCode = ""
  · rw [nullString_of_empty empty, empty]
    simp
  · have short : len updated.errorCode ≤ 128 := by
      obtain ⟨-, transition⟩ := transition_of_valid valid
      cases transition with
      | start _ _ _ _ _ _ code => exact absurd code empty
      | succeed _ _ _ _ _ _ _ _ code => exact absurd code empty
      | fail _ _ _ _ _ _ _ _ _ short => exact short
    have bounded := length_le_len updated.errorCode
    have positive : updated.errorCode.length ≠ 0 :=
      fun zero => empty (String.length_eq_zero_iff.mp zero)
    rw [nullString_of_ne empty]
    simp [errorCodePattern]
    omega

theorem providerState_iff (text : String) :
    (nullString text = none ∨
        ∀ state, nullString text = some state → ["pending", "active"].contains state = true) ↔
      text ∈ ["", "pending", "active"] := by
  by_cases empty : text = ""
  · rw [nullString_of_empty empty, empty]
    simp
  · rw [nullString_of_ne empty]
    simp [empty]

theorem identifiers_iff (valid : validWorkerDeploymentTransition current updated = true) :
    passes (providerIdentifiersCheck (updatedColumns row updated)) ↔
      updated.providerVersionID.length ≤ 128 ∧ updated.providerDeploymentID.length ≤ 128 ∧
      updated.providerState ∈ ["", "pending", "active"] ∧
      ∀ c ∈ updated.errorCode.toList, isErrorCodeChar c = true := by
  simp only [providerIdentifiersCheck, updatedColumns, passes_both, passes_either, passes_isNull,
    passes_test₁, lengthBetween_iff, nullString_bounded_iff, providerState_iff,
    errorCode_iff valid]

theorem isErrorCodeChar_pos {c : Char} (allowed : isErrorCodeChar c = true) : 0 < c.toNat := by
  refine Nat.pos_of_ne_zero ?_
  intro zero
  obtain rfl : c = '\x00' := Char.toNat_inj.mp zero
  exact absurd allowed (by decide)

/-- Of an update that passes the guard the database asks that its identifiers are
short, its provider state known and its error code of the right alphabet. -/
theorem stored_iff
    (satisfied : Satisfies cloudflareDeploymentsChecks row)
    (valid : validWorkerDeploymentTransition (persistenceToWorkerDeployment row) updated = true) :
    Stored row updated ↔ Fits updated := by
  have known := (move_of_valid valid).name_known
  simp only [cloudflareDeploymentsChecks, satisfies_cons, satisfies_nil, passes_test,
    and_true] at satisfied
  obtain ⟨kind, createdBy, -⟩ := satisfied
  simp only [Stored, updatedRow_eq_some]
  constructor
  · rintro ⟨_, ⟨⟨version, deployment, -, -⟩, rfl⟩, checked⟩
    simp only [cloudflareDeploymentsChecks, satisfies_cons] at checked
    obtain ⟨-, -, -, -, identifiers, -⟩ := checked
    obtain ⟨shortVersion, shortDeployment, state, code⟩ := (identifiers_iff valid).mp identifiers
    exact ⟨⟨version, shortVersion⟩, ⟨deployment, shortDeployment⟩, state, code⟩
  · intro fits
    have state : nulFree updated.providerState = true := by
      have listed := fits.providerState
      simp only [List.mem_cons, List.not_mem_nil, or_false] at listed
      rcases listed with same | same | same <;> rw [same] <;> decide
    have code : nulFree updated.errorCode = true :=
      nulFree_of_forall fun c member => isErrorCodeChar_pos (fits.errorCode c member)
    refine ⟨_, ⟨⟨fits.providerVersionID.1, fits.providerDeploymentID.1, state, code⟩, rfl⟩, ?_⟩
    simp only [cloudflareDeploymentsChecks, satisfies_cons, satisfies_nil, passes_test, and_true]
    exact ⟨kind, createdBy, known, lifecycle_of_valid valid, (identifiers_iff valid).mpr
      ⟨fits.providerVersionID.2, fits.providerDeploymentID.2, fits.providerState, fits.errorCode⟩,
      times_of_valid valid⟩

end Guarded

structure InTable (row : DeploymentRow) : Prop where
  checks : Satisfies cloudflareDeploymentsChecks row
  texts : ∀ column ∈ [row.providerVersionID, row.providerDeploymentID], nulFree (coalesce column)

/-- The rows that guarded updates which fit lead to. -/
inductive GuardedRun (start : DeploymentRow) : DeploymentRow → Prop
  | start : GuardedRun start start
  | update {row written : DeploymentRow} {updated : Deployment} (earlier : GuardedRun start row)
      (valid : validWorkerDeploymentTransition (persistenceToWorkerDeployment row) updated = true)
      (fits : Fits updated) (sent : updatedRow row updated = some written) :
      GuardedRun start written

theorem coalesce_nullString (text : String) : coalesce (nullString text) = text := by
  by_cases empty : text = ""
  · rw [nullString_of_empty empty, empty]
    rfl
  · rw [nullString_of_ne empty]
    rfl

theorem GuardedRun.inTable {start : DeploymentRow} (initial : InTable start)
    (run : GuardedRun start row) : InTable row := by
  induction run with
  | start => exact initial
  | @update row written updated earlier valid fits sent inTable =>
    obtain ⟨other, same, checked⟩ := (stored_iff inTable.checks valid).mpr fits
    rw [sent] at same
    cases same
    obtain ⟨⟨version, deployment, -⟩, rfl⟩ := updatedRow_eq_some.mp sent
    refine ⟨checked, ?_⟩
    intro column member
    simp only [updatedColumns, List.mem_cons, List.not_mem_nil, or_false] at member
    rcases member with rfl | rfl
    · rwa [coalesce_nullString]
    · rwa [coalesce_nullString]

theorem insertedRow_inTable (installationID : String) (worker : Worker) (workerID : String)
    (input : CreateWorkerDeploymentRequest) (id createdBy : String) (now : Int)
    (kind : input.kind = .deploy ∨ input.kind = .rollback)
    (creator : 1 ≤ createdBy.length ∧ createdBy.length ≤ 256) :
    InTable
      (insertedRow installationID (plannedDeployment worker workerID input id createdBy now)) := by
  have named : input.kind.name ∈ ["deploy", "rollback"] := by
    rcases kind with deploy | rollback
    · rw [deploy]
      decide
    · rw [rollback]
      decide
  constructor
  · simp [cloudflareDeploymentsChecks, insertedRow, plannedDeployment, executionLifecycleCheck,
      providerIdentifiersCheck, executionTimeCheck, State.name, creator]
    simpa using named
  · intro column member
    simp only [insertedRow, List.mem_cons, List.not_mem_nil, or_false, or_self] at member
    rw [member]
    decide

/-- What the constraints say of an execution that runs. -/
theorem running_columns (satisfied : Satisfies cloudflareDeploymentsChecks row)
    (running : row.state = "running") :
    ∃ started, row.startedAt = some started ∧ row.createdAt ≤ started ∧
      row.providerExecutionAllowed = true ∧ (coalesce row.providerVersionID).length ≤ 128 ∧
      (coalesce row.providerDeploymentID).length ≤ 128 ∧
      coalesce row.providerState ∈ ["", "pending", "active"] := by
  simp only [cloudflareDeploymentsChecks, satisfies_cons, satisfies_nil, and_true] at satisfied
  obtain ⟨-, -, -, lifecycle, identifiers, times⟩ := satisfied
  have isRunning : row.providerExecutionAllowed = true ∧ row.startedAt.isSome = true := by
    simp [executionLifecycleCheck, running] at lifecycle
    exact ⟨lifecycle.1, lifecycle.2.1⟩
  obtain ⟨allowed, begun⟩ := isRunning
  obtain ⟨started, isStarted⟩ := Option.isSome_iff_exists.mp begun
  have bounded : ∀ column : Option String,
      (column = none ∨ ∀ text, column = some text → 1 ≤ text.length ∧ text.length ≤ 128) →
        (coalesce column).length ≤ 128 := by
    intro column short
    cases column with
    | none => exact Nat.zero_le _
    | some text => simp_all [coalesce]
  have states : ∀ column : Option String,
      (column = none ∨
          ∀ text, column = some text → ["pending", "active"].contains text = true) →
        coalesce column ∈ ["", "pending", "active"] := by
    intro column known
    cases column with
    | none => decide
    | some text => simp_all [coalesce]
  simp only [executionTimeCheck, passes_both, passes_either, passes_isNull, passes_test₁,
    decide_eq_true_eq, isStarted, Option.some.injEq, reduceCtorEq, false_or] at times
  simp only [providerIdentifiersCheck, passes_both, passes_either, passes_isNull, passes_test₁,
    lengthBetween_iff] at identifiers
  obtain ⟨version, deployment, state, -⟩ := identifiers
  exact ⟨started, isStarted, times.1 started rfl, allowed, bounded _ version, bounded _ deployment,
    states _ state⟩

theorem failure_stored (inTable : InTable row) (running : row.state = "running") (code : String)
    (now : Int) (present : code ≠ "") (short : len code ≤ 128)
    (alphabet : ∀ c ∈ code.toList, isErrorCodeChar c = true)
    (later : ∀ started, row.startedAt = some started → ofTimestamptz started ≤ now) :
    validWorkerDeploymentTransition (persistenceToWorkerDeployment row)
        (failedDeployment (persistenceToWorkerDeployment row) (coalesce row.providerVersionID) code
          now) = true ∧
      Stored row (failedDeployment (persistenceToWorkerDeployment row)
        (coalesce row.providerVersionID) code now) := by
  obtain ⟨started, isStarted, forward, allowed, version, deployment, state⟩ :=
    running_columns inTable.checks running
  have isRunning : State.ofName row.state = .running := by
    rw [running]
    rfl
  have valid : validWorkerDeploymentTransition (persistenceToWorkerDeployment row)
      (failedDeployment (persistenceToWorkerDeployment row) (coalesce row.providerVersionID) code
        now) = true := by
    have ends := later started isStarted
    have created : ofTimestamptz row.createdAt ≤ ofTimestamptz started := by
      unfold ofTimestamptz
      omega
    simp [validWorkerDeploymentTransition, samePlan, failedDeployment,
      persistenceToWorkerDeployment, isRunning, allowed, validFinishedDeployment, isStarted,
      created, ends, present, short]
  refine ⟨valid, (stored_iff inTable.checks valid).mpr ?_⟩
  exact ⟨⟨inTable.texts _ (by simp), version⟩, ⟨inTable.texts _ (by simp), deployment⟩, state,
    alphabet⟩

/-- From any row the table can hold, updates that pass the guard and fit are all
stored, one that passes the guard is stored exactly if it fits, and an execution that
runs can be ended. -/
theorem guarded_updates_stored_iff (start row : DeploymentRow) (initial : InTable start)
    (run : GuardedRun start row) :
    InTable row ∧
      (∀ updated,
        validWorkerDeploymentTransition (persistenceToWorkerDeployment row) updated = true →
          (Stored row updated ↔ Fits updated)) ∧
      (row.state = "running" → ∀ code now, code ≠ "" → len code ≤ 128 →
        (∀ c ∈ code.toList, isErrorCodeChar c = true) →
        (∀ started, row.startedAt = some started → ofTimestamptz started ≤ now) →
        Stored row (failedDeployment (persistenceToWorkerDeployment row)
          (coalesce row.providerVersionID) code now)) := by
  have inTable := run.inTable initial
  refine ⟨inTable, fun updated valid => stored_iff inTable.checks valid, ?_⟩
  intro running code now present short alphabet later
  exact (failure_stored inTable running code now present short alphabet later).2

def sampleRow : DeploymentRow :=
  insertedRow "installation" (plannedDeployment sampleWorker "worker_1" sampleInput "cfdep_1"
    "olga" 0)

def runningRow : DeploymentRow :=
  { sampleRow with
    state := "running"
    providerExecutionAllowed := true
    startedAt := some 1 }

theorem runningRow_run : GuardedRun sampleRow runningRow := by
  have fits : Fits (runningDeployment (persistenceToWorkerDeployment sampleRow)
      ⟨⟨"wver_1", "worker_1", "", 0, "", "", "", "", 0, none, 0, ""⟩, []⟩ 1000) :=
    ⟨by decide, by decide, by decide, List.all_eq_true.mp (by decide)⟩
  exact .update .start (by decide +kernel) fits (by decide +kernel)

theorem sampleRow_inTable : InTable sampleRow :=
  insertedRow_inTable "installation" sampleWorker "worker_1" sampleInput "cfdep_1" "olga" 0
    (.inl rfl) (by decide)

/-- The record of a success for an upload whose identifier has `length` characters. -/
def publishedAs (length : Nat) : Deployment :=
  succeededDeployment (persistenceToWorkerDeployment runningRow)
    (String.ofList (List.replicate length 'a')) ⟨"d1", "edge", "active"⟩ 2000

theorem long_identifier_refused :
    ¬ ∀ (row : DeploymentRow) (updated : Deployment), InTable row →
        validWorkerDeploymentTransition (persistenceToWorkerDeployment row) updated = true →
        Stored row updated := by
  intro always
  have inTable := runningRow_run.inTable sampleRow_inTable
  have valid : validWorkerDeploymentTransition (persistenceToWorkerDeployment runningRow)
      (publishedAs 129) = true := by
    decide +kernel
  have fits := (stored_iff inTable.checks valid).mp (always runningRow _ inTable valid)
  exact absurd fits.providerVersionID.2 (by decide +kernel)

theorem short_identifier_stored :
    Stored runningRow (publishedAs 36) := by
  obtain ⟨-, decided, -⟩ := guarded_updates_stored_iff sampleRow runningRow sampleRow_inTable
    runningRow_run
  refine (decided (publishedAs 36) (by decide +kernel)).mpr ?_
  exact ⟨⟨by decide +kernel, by decide +kernel⟩, ⟨by decide, by decide⟩, by decide,
    List.all_eq_true.mp (by decide)⟩

end VpsManager.Cloudflare
