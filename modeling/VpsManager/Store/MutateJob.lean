import VpsManager.Store.Memory
import VpsManager.Store.Postgres

namespace VpsManager.Store

open Go Control Persistence Checks Sql Critical
open Cloudflare (ofTimestamptz)

section Read

variable {results : ResultCodecs} {row : JobRow}

/-- The columns that an update leaves as they are, in a job that is read back. -/
def withFixed (job current : Job) : Job :=
  { job with
    type := current.type
    hostID := current.hostID
    requestedBy := current.requestedBy
    requestedSessionID := current.requestedSessionID
    createdAt := current.createdAt
    command := current.command }

/-- What is read of an updated row is the job that was sent, but for the columns that the
update leaves. -/
theorem jobToModel_updatedRow {current job : Job} {read updated : Repository.Job} {changed : JobRow}
    (scanned : scanJob row = .ok read) (before : jobToModel results read = .ok current)
    (sameID : updated.id = read.id) (sent : updatedRow row updated = some changed)
    (started : ∀ t, updated.startedAt = some t → WholeMicroseconds t)
    (finished : ∀ t, updated.finishedAt = some t → WholeMicroseconds t)
    (returned : jobToModel results updated = .ok job) :
    ∃ stored, scanJob changed = .ok stored ∧
      jobToModel results stored = .ok (withFixed job current) := by
  simp only [scanJob, bind_eq_ok, orError_eq_ok, pure_eq_ok] at scanned
  obtain ⟨version, -, rfl⟩ := scanned
  simp only [jobToModel, bind_eq_ok, orError_eq_ok, pure_eq_ok] at before returned
  obtain ⟨_, -, parameters, decoded, _, -, rfl⟩ := before
  obtain ⟨state, named, _, -, result, read, rfl⟩ := returned
  obtain ⟨value, sentResult, read⟩ := Option.bind_eq_some_iff.mp read
  obtain ⟨sentVersion, fits, rfl⟩ := Option.map_eq_some_iff.mp sent
  obtain ⟨-, rfl⟩ := bigint_eq_some.mp fits
  have kept : ∀ {time : Option Int}, (∀ t, time = some t → WholeMicroseconds t) →
      (time.map timestamptz).map ofTimestamptz = time := by
    intro time whole
    cases time with
    | none => rfl
    | some t => exact congrArg some (ofTimestamptz_timestamptz (whole t rfl))
  have text : ∀ text : String, (nullString text).getD "" = text := by
    intro text
    unfold nullString
    split
    · rename_i empty
      exact empty.symm
    · rfl
  simp only [scanJob, jobToModel, updatedColumns, ofBigint_toNat, bind_eq_ok, orError_eq_ok,
    pure_eq_ok, text, kept started, kept finished, sentResult, normalizedJSON, Option.getD_some]
  exact ⟨_, ⟨_, rfl, rfl⟩, state, named, parameters, decoded, result, read, by
    simp only [withFixed, sameID]⟩

/-- What is assumed of a job that is stored: its command is decoded as it was encoded, and its
times are kept. -/
structure KeptExactly (job : Job) : Prop where
  command : ∀ command, job.command = some command →
    readCommand (commandJson command) = some command
  started : ∀ t, job.startedAt = some t → WholeMicroseconds t
  finished : ∀ t, job.finishedAt = some t → WholeMicroseconds t

theorem readParameters_parameters {job : Job} (exact : KeptExactly job) :
    readParameters (results.encoding.parameters job) =
      some (job.requestedSessionID, job.command) := by
  have command := @field_command results job exact.command
  simp only [readParameters, parameters_eq, Json.fields, field_session, command, bind, Option.bind,
    pure]

/-- The job that is returned has what the mutation gave it in the columns that stay. -/
theorem fixed_of_returned {installation : String} {updated job : Job} (exact : KeptExactly updated)
    (returned : jobToModel results (modelToJob results.encoding installation updated) =
      .ok job) : withFixed job updated = job := by
  simp only [jobToModel, modelToJob, Option.bind_some, readParameters_parameters exact, bind_eq_ok,
    orError_eq_ok, pure_eq_ok] at returned
  obtain ⟨_, -, _, decoded, _, -, rfl⟩ := returned
  obtain rfl := Option.some.inj decoded
  rfl

structure KeepsFixed (current updated : Job) : Prop where
  type : updated.type = current.type
  hostID : updated.hostID = current.hostID
  requestedBy : updated.requestedBy = current.requestedBy
  requestedSessionID : updated.requestedSessionID = current.requestedSessionID
  createdAt : updated.createdAt = current.createdAt
  command : updated.command = current.command

theorem withFixed_eq_iff {job current updated : Job} (same : withFixed job updated = job) :
    withFixed job current = job ↔ KeepsFixed current updated := by
  constructor
  · intro read
    have equal := same.trans read.symm
    simp only [withFixed, Job.mk.injEq, true_and, and_true] at equal
    obtain ⟨type, hostID, requestedBy, requestedSessionID, createdAt, command⟩ := equal
    exact ⟨type, hostID, requestedBy, requestedSessionID, createdAt, command⟩
  · rintro ⟨type, hostID, requestedBy, requestedSessionID, createdAt, command⟩
    rw [← same]
    simp only [withFixed, type, hostID, requestedBy, requestedSessionID, createdAt, command]

end Read

section Run

variable {p : Postgres} {db control : Database} {tables after : Tables} {id : String}
  {mutate : Job → Except StoreError Job} {job : Job} {updated : Repository.Job}

/-- The transaction has found, changed and written one row. -/
structure MutatedRow (p : Postgres) (db : Database) (id : String)
    (mutate : Job → Except StoreError Job) (row changed : JobRow) (read : Repository.Job)
    (current modelUpdated : Job) : Prop where
  text : sendTexts [id] = .ok ()
  found : db.jobs.find? (fun row => row.id = id) = some row
  scanned : scanJob row = .ok read
  before : jobToModel p.results read = .ok current
  ran : mutate current = .ok modelUpdated
  id : modelUpdated.id = read.id
  sent : updatedRow row (modelToJob p.results.encoding p.installation.val modelUpdated) =
    some changed

theorem mutateRow_ok (done : p.mutateRow db id mutate = .ok (updated, control)) :
    ∃ row changed read current modelUpdated,
      MutatedRow p db id mutate row changed read current modelUpdated ∧
      updated = modelToJob p.results.encoding p.installation.val modelUpdated ∧
      control = { db with
        jobs := db.jobs.map fun other => if other.id = id then changed else other } := by
  simp only [Postgres.mutateRow, bind_eq_ok, orError_eq_ok, mapError_eq_ok, ensure_eq_ok,
    pure_eq_ok] at done
  obtain ⟨_, text, row, found, read, scanned, current, before, modelUpdated, ran, _, ⟨_, id, _⟩, _,
    _, _, _, _, _, changed, sent, _, _, same⟩ := done
  cases same
  exact ⟨row, changed, read, current, modelUpdated, ⟨text, found, scanned, before, ran, id, sent⟩,
    rfl, rfl⟩

variable {row changed : JobRow} {read : Repository.Job} {current modelUpdated : Job}

theorem MutatedRow.getJob_before (mutated : MutatedRow p tables.control id mutate row changed read
    current modelUpdated) : p.getJob tables id = .ok current := by
  simp only [Postgres.getJob, bind_eq_ok, orError_eq_ok]
  exact ⟨(), mutated.text, row, mutated.found, read, mutated.scanned, mutated.before⟩

theorem MutatedRow.find_after (mutated : MutatedRow p db id mutate row changed read current
    modelUpdated) :
    (db.jobs.map fun other => if other.id = id then changed else other).find?
      (fun row => row.id = id) = some changed := by
  have rowID : row.id = id := by simpa using List.find?_some mutated.found
  have changedID : changed.id = id := by
    obtain ⟨_, -, rfl⟩ := Option.map_eq_some_iff.mp mutated.sent
    exact rowID
  have same : ((fun row : JobRow => decide (row.id = id)) ∘
      fun other => if other.id = id then changed else other) = fun row => decide (row.id = id) := by
    funext other
    rw [Function.comp_apply]
    split
    · rename_i here
      rw [changedID, here]
    · rfl
  rw [List.find?_map, same, mutated.found, Option.map_some, if_pos rowID]

theorem getJob_after (exact : ∀ current updated, p.getJob tables id = .ok current →
      mutate current = .ok updated → KeptExactly updated)
    (done : outcome (p.mutateJob id mutate) tables = (.ok job, after)) :
    ∃ current updated, p.getJob tables id = .ok current ∧ mutate current = .ok updated ∧
      withFixed job updated = job ∧ p.getJob after id = .ok (withFixed job current) := by
  simp only [Postgres.mutateJob, outcome_get_bind, outcome_check_ok, outcome_set_bind,
    outcome_check, Prod.mk.injEq] at done
  obtain ⟨⟨updated, control⟩, ran, returned, rfl⟩ := done
  obtain ⟨row, changed, read, current, modelUpdated, mutated, rfl, rfl⟩ := mutateRow_ok ran
  have before := mutated.getJob_before
  have kept := exact current modelUpdated before mutated.ran
  refine ⟨current, modelUpdated, before, mutated.ran, fixed_of_returned kept returned, ?_⟩
  simp only [Postgres.getJob, bind_eq_ok, orError_eq_ok]
  refine ⟨(), mutated.text, changed, mutated.find_after, ?_⟩
  exact jobToModel_updatedRow mutated.scanned mutated.before mutated.id mutated.sent kept.started
    kept.finished returned

end Run

/-- In memory the job that is returned is the one that is stored. In the database it is so
exactly if the mutation leaves the type, the host, the requester, the session, the command and
the time of creation. -/
theorem mutateJob_stored_iff (id : String) (mutate : Job → Except StoreError Job) :
    (∀ (m after : Memory) (job : Job),
      outcome (Memory.mutateJob id mutate) m = (.ok job, after) →
      outcome (Memory.getJob id) after = (.ok job, after)) ∧
    (∀ (p : Postgres) (tables after : Tables) (job : Job),
      (∀ current updated, p.getJob tables id = .ok current → mutate current = .ok updated →
        KeptExactly updated) →
      outcome (p.mutateJob id mutate) tables = (.ok job, after) →
      (p.getJob after id = .ok job ↔
        ∀ current updated, p.getJob tables id = .ok current → mutate current = .ok updated →
          KeepsFixed current updated)) := by
  constructor
  · intro m after job done
    obtain ⟨-, rfl⟩ := Memory.mutateJob_ok.mp done
    simp only [Memory.getJob, outcome_get_bind, outcome_check]
    rw [Finmap.lookup_insert]
    rfl
  · intro p tables after job exact done
    obtain ⟨current, updated, before, ran, returned, read⟩ := getJob_after exact done
    rw [read, Except.ok.injEq, withFixed_eq_iff returned]
    constructor
    · intro keeps other changed found changes
      cases before.symm.trans found
      cases ran.symm.trans changes
      exact keeps
    · intro keeps
      exact keeps current updated before ran

def sampleCodec {α : Type} : Codec α := ⟨fun _ => .null, fun _ => none⟩

def samplePostgres : Postgres where
  installation := sampleInstallation
  results := ⟨sampleCodec, sampleCodec, sampleCodec, sampleCodec, sampleCodec⟩

def snapshotTables : Tables := ⟨sampleRows [sampleJob], ⟨.empty, .empty, .empty, .empty⟩⟩

def snapshotJob : Job where
  id := "job_1"
  type := "runtime_snapshot"
  hostID := "host_1"
  state := .succeeded
  requestedBy := "olga"
  requestedSessionID := ""
  createdAt := 0
  startedAt := some 0
  finishedAt := some 0
  snapshot := none
  command := none
  commandResult := none
  anomalyScan := none
  runbookPreview := none
  runbookExecution := none
  error := none
  version := 3

def fail (job : Job) : Except StoreError Job :=
  .ok { job with
    state := .failed, error := some ⟨"lost", "result lost"⟩, version := job.version + 1 }

def rehost (job : Job) : Except StoreError Job :=
  .ok { job with hostID := "host_2", version := job.version + 1 }

theorem snapshot_read : samplePostgres.getJob snapshotTables "job_1" = .ok snapshotJob := by
  decide +kernel

theorem failed_job_stored :
    ∃ after, outcome (samplePostgres.mutateJob "job_1" fail) snapshotTables =
        (.ok { snapshotJob with
          state := .failed, error := some ⟨"lost", "result lost"⟩, version := 4 }, after) ∧
      samplePostgres.getJob after "job_1" =
        .ok { snapshotJob with
          state := .failed, error := some ⟨"lost", "result lost"⟩, version := 4 } := by
  have done : outcome (samplePostgres.mutateJob "job_1" fail) snapshotTables =
      (.ok { snapshotJob with
        state := .failed, error := some ⟨"lost", "result lost"⟩, version := 4 },
        (outcome (samplePostgres.mutateJob "job_1" fail) snapshotTables).2) :=
    Prod.ext (by decide +kernel) rfl
  refine ⟨_, done, ((mutateJob_stored_iff _ _).2 _ _ _ _ ?_ done).mpr ?_⟩
  · intro current updated read ran
    cases snapshot_read.symm.trans read
    cases ran
    refine ⟨nofun, ?_, ?_⟩
    · rintro t ⟨⟩
      rfl
    · rintro t ⟨⟩
      rfl
  · intro current updated read ran
    cases ran
    exact ⟨rfl, rfl, rfl, rfl, rfl, rfl⟩

/-- The job that is returned is one of the other host, the job that is stored is not. -/
theorem rehosted_job_not_stored :
    ∃ after, outcome (samplePostgres.mutateJob "job_1" rehost) snapshotTables =
        (.ok { snapshotJob with hostID := "host_2", version := 4 }, after) ∧
      samplePostgres.getJob after "job_1" = .ok { snapshotJob with version := 4 } := by
  refine ⟨(outcome (samplePostgres.mutateJob "job_1" rehost) snapshotTables).2, ?_, ?_⟩
  · exact Prod.ext (by decide +kernel) rfl
  · decide +kernel

end VpsManager.Store
