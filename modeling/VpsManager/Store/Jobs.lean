import VpsManager.Control.Lifecycle
import VpsManager.Persistence.Schema

namespace VpsManager.Store

open Go Control Persistence Sql

/-- `encoding/json` on the records within a job. It would fail only for floats that
are not finite, and what parses snapshots and inventories lets none through. -/
structure JobEncoding where
  command : CommandDescriptor → Json
  snapshot : RuntimeSnapshot → Json
  commandResult : CommandResult → Json
  anomalyScan : AnomalyScanResult → Json
  runbookPreview : RunbookPreviewResult → Json
  runbookExecution : RunbookExecutionResult → Json

/-- `persistedJobParameters`. -/
def JobEncoding.parameters (encoding : JobEncoding) (job : Control.Job) : Json :=
  .struct [Json.nonEmpty "requestedSessionId" job.requestedSessionID,
    Json.optional "command" encoding.command job.command]

/-- `persistedJobResult`. -/
def JobEncoding.result (encoding : JobEncoding) (job : Control.Job) : Json :=
  .struct [Json.optional "snapshot" encoding.snapshot job.snapshot,
    Json.optional "commandResult" encoding.commandResult job.commandResult,
    Json.optional "anomalyScan" encoding.anomalyScan job.anomalyScan,
    Json.optional "runbookPreview" encoding.runbookPreview job.runbookPreview,
    Json.optional "runbookExecution" encoding.runbookExecution job.runbookExecution]

/-- The time of the last transition that is recorded. -/
def updatedAt (job : Control.Job) : Int :=
  job.finishedAt.getD (job.startedAt.getD job.createdAt)

/-- The control plane gives no request ID and no idempotency key. -/
def modelToJob (encoding : JobEncoding) (installationID : String) (job : Control.Job) :
    Repository.Job where
  installationID := installationID
  id := job.id
  type := job.type
  assetID := job.hostID
  state := job.state.name
  requestedBy := job.requestedBy
  requestID := ""
  idempotencyKey := ""
  parameters := some (encoding.parameters job)
  result := some (encoding.result job)
  errorCode := (job.error.map JobError.code).getD ""
  errorMessage := (job.error.map JobError.message).getD ""
  version := job.version
  createdAt := job.createdAt
  startedAt := job.startedAt
  finishedAt := job.finishedAt
  updatedAt := updatedAt job

def insertedColumns (job : Repository.Job) (version : Int) : JobRow where
  installationID := job.installationID
  id := job.id
  type := job.type
  assetID := job.assetID
  state := job.state
  requestedBy := job.requestedBy
  requestID := nullString job.requestID
  idempotencyKey := nullString job.idempotencyKey
  parameters := normalizedJSON job.parameters
  result := normalizedJSON job.result
  errorCode := nullString job.errorCode
  errorMessage := nullString job.errorMessage
  version := version
  createdAt := timestamptz job.createdAt
  startedAt := job.startedAt.map timestamptz
  finishedAt := job.finishedAt.map timestamptz
  updatedAt := timestamptz job.updatedAt

def insertedRow (job : Repository.Job) : Option JobRow :=
  (bigint job.version).map (insertedColumns job)

/-- The columns `MutateJob` sets in the row it has read. -/
def updatedColumns (row : JobRow) (job : Repository.Job) (version : Int) : JobRow :=
  { row with
    state := job.state
    result := normalizedJSON job.result
    errorCode := nullString job.errorCode
    errorMessage := nullString job.errorMessage
    version := version
    startedAt := job.startedAt.map timestamptz
    finishedAt := job.finishedAt.map timestamptz
    updatedAt := timestamptz job.updatedAt }

def updatedRow (row : JobRow) (job : Repository.Job) : Option JobRow :=
  (bigint job.version).map (updatedColumns row job)

/-- A job as the handlers produce it, with the row written for it. -/
inductive Written (encoding : JobEncoding) (installationID : String) :
    Control.Job → Option JobRow → Prop
  | created {now : Int} {job : Control.Job} (created : Created now job) :
      Written encoding installationID job (insertedRow (modelToJob encoding installationID job))
  | moved {now : Int} {mutation : JobMutation} {job updated : Control.Job} {row : JobRow}
      (earlier : Written encoding installationID job (some row))
      (handler : HandlerMutation now mutation) (ran : mutation.run job = .ok updated)
      (forward : job.Before now)
      (once : updated.state = .awaitingApproval → job.runbookPreview = none) :
      Written encoding installationID updated
        (updatedRow row (modelToJob encoding installationID updated))

section Rows

variable {encoding : JobEncoding} {installationID : String} {job : Control.Job}

theorem Written.row_eq {row : Option JobRow} (written : Written encoding installationID job row) :
    row = insertedRow (modelToJob encoding installationID job) := by
  induction written with
  | created created => rfl
  | @moved now mutation job updated row earlier handler ran forward once same =>
    obtain ⟨version, -, rfl⟩ := Option.map_eq_some_iff.mp same.symm
    have moved := handler.moved ran
    have kept : encoding.parameters updated = encoding.parameters job := by
      simp only [JobEncoding.parameters, moved.command, moved.continues.requestedSessionID]
    rw [updatedRow, insertedRow]
    congr 1
    funext current
    simp only [updatedColumns, insertedColumns, modelToJob, kept, moved.requestedBy,
      moved.createdAt, moved.continues.id, moved.continues.type, moved.continues.hostID]

/-- A job the handlers produce can be written at any time. -/
theorem written_of_produced (produced : Produced job) :
    ∃ row, Written encoding installationID job (some row) := by
  have sent : ∀ job : Control.Job, job.Sound → ∃ version, bigint job.version = some version := by
    intro job sound
    have small := sound.version
    have bound := Job.Sound.stage_le job
    refine ⟨job.version.toNat, if_pos ?_⟩
    omega
  induction produced with
  | @created now job created =>
    obtain ⟨version, fits⟩ := sent job created.new.sound
    have inserted := @Written.created encoding installationID now job created
    rw [insertedRow, modelToJob, fits] at inserted
    exact ⟨_, inserted⟩
  | @moved now mutation job updated earlier handler ran forward once ih =>
    obtain ⟨row, written⟩ := ih
    obtain ⟨version, fits⟩ := sent updated (earlier.moved handler ran forward once).sound
    have changed := written.moved handler ran forward once
    rw [updatedRow, modelToJob, fits] at changed
    exact ⟨_, changed⟩

end Rows

/-- What the constraints ask beyond what is true of every job: a requester of 1 to
256 characters, and that no job ends before it has started. -/
structure Storable (job : Control.Job) : Prop where
  requester : 1 ≤ job.requestedBy.length ∧ job.requestedBy.length ≤ 256
  started : job.state = .cancelled → job.startedAt.isSome = true

theorem updatedAt_ge {job : Control.Job} (sound : job.Sound) : job.createdAt ≤ updatedAt job := by
  unfold updatedAt
  cases finished : job.finishedAt with
  | some t => exact (sound.ended t finished).1
  | none =>
    cases started : job.startedAt with
    | some t => exact sound.started t started
    | none => exact Int.le_refl _

theorem errorMessage_short {job : Control.Job} (sound : job.Sound) (message : String)
    (same : nullString ((job.error.map JobError.message).getD "") = some message) :
    message.length ≤ 4096 := by
  unfold nullString at same
  split at same
  · cases same
  · rw [← Option.some.inj same]
    cases failed : job.error with
    | none => decide
    | some error => exact sound.short error failed

/-- A job has ended without having started exactly if it was cancelled so. -/
theorem ended_started_iff {job : Control.Job} (sound : job.Sound) :
    (job.finishedAt = none ∨ job.startedAt.isSome = true) ↔
      (job.state = .cancelled → job.startedAt.isSome = true) := by
  constructor
  · rintro (running | started) cancelled
    · have ended := sound.finished.mpr (by rw [cancelled]; rfl)
      rw [running] at ended
      cases ended
    · exact started
  · intro whenCancelled
    by_cases cancelled : job.state = .cancelled
    · exact .inr (whenCancelled cancelled)
    · by_cases queued : job.state = .queued
      · left
        by_contra ended
        have terminal := sound.finished.mp (Option.isSome_iff_ne_none.mpr ended)
        rw [queued] at terminal
        cases terminal
      · exact .inr (sound.begun queued cancelled)

theorem satisfies_iff {encoding : JobEncoding} {installationID : String} {job : Control.Job}
    {row : JobRow} (sound : job.Sound)
    (sent : insertedRow (modelToJob encoding installationID job) = some row) :
    Satisfies jobsChecks row ↔ Storable job := by
  obtain ⟨version, fits, rfl⟩ := Option.map_eq_some_iff.mp sent
  have nonnegative : version ≥ 0 := by
    unfold bigint at fits
    split at fits
    · cases fits
      exact Int.natCast_nonneg _
    · cases fits
  have state : job.state.name ∈ jobStates := by cases job.state <;> decide
  have updated := timestamptz_mono (updatedAt_ge sound)
  have started : ∀ t, job.startedAt.map timestamptz = some t → timestamptz job.createdAt ≤ t := by
    intro t set
    obtain ⟨u, at', rfl⟩ := Option.map_eq_some_iff.mp set
    exact timestamptz_mono (sound.started u at')
  have message := errorMessage_short sound
  have presence := ended_started_iff sound
  simp only [jobsChecks, satisfies_cons, satisfies_nil, passes_test, passes_test₁, passes_either,
    passes_isNull, passes_isNotNull, insertedColumns, modelToJob, Option.map_eq_none_iff,
    Option.isSome_map, lengthBetween_iff, decide_eq_true_eq, and_true]
  constructor
  · rintro ⟨-, -, requester, -, -, -, -, -, -, ended⟩
    exact ⟨requester, presence.mp ended⟩
  · intro storable
    exact ⟨sound.type, state, storable.requester, .inr message, nonnegative, rfl, rfl, updated,
      .inr started, presence.mpr storable.started⟩

/-- Every job the handlers produce has a row, and that row passes the constraints
exactly if the requester fits and the job was not cancelled before it started. -/
theorem produced_storable_iff (encoding : JobEncoding) (installationID : String)
    (job : Control.Job) (produced : Produced job) :
    (∃ row, Written encoding installationID job (some row)) ∧
      ∀ row, Written encoding installationID job (some row) →
        (Satisfies jobsChecks row ↔ Storable job) := by
  refine ⟨written_of_produced produced, ?_⟩
  intro row written
  exact satisfies_iff produced.sound written.row_eq.symm

theorem cancelledSnapshot_produced : Produced cancelledSnapshot :=
  .moved (.created (.operation .snapshot sampleOperator "host_1" sampleJobID none))
    (.cancel .cancelled) rfl ⟨Int.le_refl 0, nofun⟩ nofun

def plainEncoding : JobEncoding :=
  ⟨fun _ => .null, fun _ => .null, fun _ => .null, fun _ => .null, fun _ => .null, fun _ => .null⟩

theorem cancelledSnapshot_refused :
    ¬ ∀ (encoding : JobEncoding) (installationID : String) (job : Control.Job) (row : JobRow),
      Written encoding installationID job (some row) →
        1 ≤ job.requestedBy.length ∧ job.requestedBy.length ≤ 256 → Satisfies jobsChecks row := by
  intro always
  obtain ⟨row, written⟩ := @written_of_produced plainEncoding "installation" _
    cancelledSnapshot_produced
  have satisfied := always _ _ _ row written (by decide)
  have storable := (satisfies_iff cancelledSnapshot_produced.sound written.row_eq.symm).mp satisfied
  exact absurd (storable.started rfl) (by decide)

/-- The snapshot job of the sample run once it has started. -/
def runningSnapshot : Control.Job :=
  { newOperationJob .snapshot sampleOperator "host_1" sampleJobID none 0 with
    state := .running
    version := 2
    startedAt := some 5 }

theorem runningSnapshot_stored :
    ∃ row, Written plainEncoding "installation" runningSnapshot (some row) ∧
      Satisfies jobsChecks row := by
  have produced : Produced runningSnapshot :=
    .moved (.created (.operation .snapshot sampleOperator "host_1" sampleJobID none)) .start rfl
      ⟨by decide, nofun⟩ nofun
  obtain ⟨⟨row, written⟩, decided⟩ := produced_storable_iff plainEncoding "installation" _ produced
  exact ⟨row, written, (decided row written).mpr ⟨by decide, nofun⟩⟩

end VpsManager.Store
