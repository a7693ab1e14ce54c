import Mathlib.Data.List.ReduceOption
import VpsManager.Lib.Critical
import VpsManager.Go.Unmarshal
import VpsManager.Cloudflare.Postgres
import VpsManager.Store.DeleteHost
import VpsManager.Store.Jobs

namespace VpsManager.Store

open Go Control Persistence Checks Sql Critical
open Cloudflare (ofTimestamptz)

/-- `encoding/json` on records of one type. -/
structure Codec (α : Type) where
  write : α → Json
  read : Json → Option α

/-- `encoding/json` on what a job may have as its result. -/
structure ResultCodecs where
  snapshot : Codec RuntimeSnapshot
  commandResult : Codec CommandResult
  anomalyScan : Codec AnomalyScanResult
  runbookPreview : Codec RunbookPreviewResult
  runbookExecution : Codec RunbookExecutionResult

structure Postgres where
  installation : InstallationID
  results : ResultCodecs

structure Tables where
  control : Database
  cloudflare : Cloudflare.Database

/-- `json.Marshal` of a command. -/
def commandJson (command : CommandDescriptor) : Json :=
  .struct [some ("id", .string command.id),
    Json.optional "parameters" Json.ofMap (command.parameters.filter fun entries => entries ≠ ∅)]

def readCommand (value : Json) : Option CommandDescriptor := do
  let members ← value.fields
  let id ← (Json.field "id" members).readString
  let parameters ← (Json.field "parameters" members).readMap
  return ⟨id, parameters⟩

def ResultCodecs.encoding (results : ResultCodecs) : JobEncoding where
  command := commandJson
  snapshot := results.snapshot.write
  commandResult := results.commandResult.write
  anomalyScan := results.anomalyScan.write
  runbookPreview := results.runbookPreview.write
  runbookExecution := results.runbookExecution.write

/-- The states of a job that have a name in the control plane. -/
def jobStateNames : List JobState :=
  [.queued, .running, .awaitingApproval, .succeeded, .failed, .timedOut, .cancelled]

def JobState.ofName (name : String) : Option JobState :=
  jobStateNames.find? fun state => state.name = name

/-- A row as `getJobForUpdate` and `GetJob` scan it, `assignOptionalStrings` included. -/
def scanJob (row : JobRow) : Except StoreError Repository.Job := do
  let version ← orError (ofBigint row.version) operationFailed
  return {
    installationID := row.installationID
    id := row.id
    type := row.type
    assetID := row.assetID
    state := row.state
    requestedBy := row.requestedBy
    requestID := row.requestID.getD ""
    idempotencyKey := row.idempotencyKey.getD ""
    parameters := some row.parameters
    result := some row.result
    errorCode := row.errorCode.getD ""
    errorMessage := row.errorMessage.getD ""
    version := version
    createdAt := ofTimestamptz row.createdAt
    startedAt := row.startedAt.map ofTimestamptz
    finishedAt := row.finishedAt.map ofTimestamptz
    updatedAt := ofTimestamptz row.updatedAt }

/-- `persistedJobParameters`, decoded. -/
def readParameters (value : Json) : Option (String × Option CommandDescriptor) := do
  let members ← value.fields
  let session ← (Json.field "requestedSessionId" members).readString
  let command ← (Json.field "command" members).readOptional readCommand
  return (session, command)

/-- `persistedJobResult`, decoded. -/
def readResults (results : ResultCodecs) (value : Json) :
    Option (Option RuntimeSnapshot × Option CommandResult × Option AnomalyScanResult ×
      Option RunbookPreviewResult × Option RunbookExecutionResult) := do
  let members ← value.fields
  let snapshot ← (Json.field "snapshot" members).readOptional results.snapshot.read
  let command ← (Json.field "commandResult" members).readOptional results.commandResult.read
  let scan ← (Json.field "anomalyScan" members).readOptional results.anomalyScan.read
  let preview ← (Json.field "runbookPreview" members).readOptional results.runbookPreview.read
  let execution ←
    (Json.field "runbookExecution" members).readOptional results.runbookExecution.read
  return (snapshot, command, scan, preview, execution)

/-- The control plane writes no state but its own, so that a job in another one is not
read here. -/
def jobToModel (results : ResultCodecs) (job : Repository.Job) : Except StoreError Job := do
  let state ← orError (JobState.ofName job.state) operationFailed
  let parameters ← orError (job.parameters.bind readParameters)
    (.other "stored job parameters are invalid")
  let result ← orError (job.result.bind (readResults results))
    (.other "stored job result is invalid")
  return {
    id := job.id
    type := job.type
    hostID := job.assetID
    state := state
    requestedBy := job.requestedBy
    requestedSessionID := parameters.1
    createdAt := job.createdAt
    startedAt := job.startedAt
    finishedAt := job.finishedAt
    snapshot := result.1
    command := parameters.2
    commandResult := result.2.1
    anomalyScan := result.2.2.1
    runbookPreview := result.2.2.2.1
    runbookExecution := result.2.2.2.2
    error := if job.errorCode ≠ "" then some ⟨job.errorCode, job.errorMessage⟩ else none
    version := job.version }

namespace Postgres

variable (p : Postgres)

/-- A method, whose statements are made one after the other. -/
abbrev Method (α : Type) := Critical Tables StoreError α

def getJob (tables : Tables) (id : String) : Except StoreError Job := do
  sendTexts [id]
  let row ← orError (tables.control.jobs.find? fun row => row.id = id) .notFound
  let job ← scanJob row
  jobToModel p.results job

/-- The transaction of `MutateJob`: the row it reads is the one it updates. -/
def mutateRow (db : Database) (id : String) (mutate : Job → Except StoreError Job) :
    Except StoreError (Repository.Job × Database) := do
  sendTexts [id]
  let row ← orError (db.jobs.find? fun row => row.id = id) .notFound
  let current ← scanJob row
  let modelCurrent ← jobToModel p.results current
  let modelUpdated ← mutate modelCurrent
  let updated := modelToJob p.results.encoding p.installation.val modelUpdated
  ensure (updated.installationID = current.installationID ∧ updated.id = current.id ∧
    updated.version = current.version + 1) .conflict
  (Repository.validateJob updated).mapError .other
  sendTexts [updated.state, updated.errorCode, updated.errorMessage]
  let _ ← orError (jsonb (normalizedJSON updated.result)) operationFailed
  let changed ← orError (updatedRow row updated) operationFailed
  ensure (Satisfies jobsChecks changed) operationFailed
  return (updated,
    { db with jobs := db.jobs.map fun other => if other.id = id then changed else other })

/-- The job is returned as it was sent, not as it is stored. -/
def mutateJob (id : String) (mutate : Job → Except StoreError Job) : Method Job := do
  let tables ← get
  let (updated, control) ← liftM (p.mutateRow tables.control id mutate)
  set { tables with control := control }
  liftM (jobToModel p.results updated)

end Postgres

def WholeMicroseconds (t : Int) : Prop := t % 1000 = 0

theorem ofTimestamptz_timestamptz {t : Int} (whole : WholeMicroseconds t) :
    ofTimestamptz (timestamptz t) = t :=
  Int.ediv_mul_cancel (Int.dvd_of_emod_eq_zero whole)

section Command

variable {command : CommandDescriptor}

theorem commandJson_ne_null : commandJson command ≠ .null := by
  intro null
  cases null

end Command

section Job

variable {results : ResultCodecs} {job : Job}

def parameterMembers (results : ResultCodecs) (job : Job) : List (String × Json) :=
  [Json.nonEmpty "requestedSessionId" job.requestedSessionID,
    Json.optional "command" results.encoding.command job.command].reduceOption

theorem parameters_eq (results : ResultCodecs) (job : Job) :
    results.encoding.parameters job = .object (parameterMembers results job) := rfl

theorem field_session (results : ResultCodecs) (job : Job) :
    (Json.field "requestedSessionId" (parameterMembers results job)).readString =
      some job.requestedSessionID := by
  unfold parameterMembers Json.nonEmpty
  split
  · rename_i empty
    cases job.command <;>
      simp [empty, Json.optional, List.reduceOption, Json.readString]
  · cases job.command <;>
      simp [Json.optional, List.reduceOption, Json.field, Json.readString]

theorem field_command (decodes : ∀ command, job.command = some command →
      readCommand (commandJson command) = some command) :
    (Json.field "command" (parameterMembers results job)).readOptional readCommand =
      some job.command := by
  have found : Json.field "command" (parameterMembers results job) =
      (job.command.map commandJson).getD .null := by
    unfold parameterMembers Json.nonEmpty
    split <;> cases job.command <;>
      simp [Json.optional, List.reduceOption, ResultCodecs.encoding]
  rw [found]
  cases stored : job.command with
  | none => rfl
  | some command =>
    rw [Option.map_some, Option.getD_some, Json.readOptional_of_ne_null commandJson_ne_null,
      decodes command stored, Option.map_some]

end Job

end VpsManager.Store
