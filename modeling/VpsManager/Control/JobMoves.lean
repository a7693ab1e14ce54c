import VpsManager.Control.Operations

namespace VpsManager.Control

open Go Checks

namespace JobState

def terminal : JobState → Bool
  | .succeeded | .failed | .timedOut | .cancelled => true
  | _ => false

/-- The states in which a job has an error. -/
def unsuccessful : JobState → Bool
  | .failed | .timedOut | .cancelled => true
  | _ => false

end JobState

abbrev JobError.short (error : JobError) : Prop := error.message.length ≤ 4096

namespace Job

/-- The results that only a job of its kind gets. -/
def hasResult (job : Job) : Bool :=
  job.snapshot.isSome || job.commandResult.isSome || job.anomalyScan.isSome

structure New (now : Int) (job : Job) : Prop where
  type : 1 ≤ job.type.length ∧ job.type.length ≤ 128
  state : job.state = .queued
  version : job.version = 1
  createdAt : job.createdAt = now
  startedAt : job.startedAt = none
  finishedAt : job.finishedAt = none
  result : job.hasResult = false
  preview : job.runbookPreview = none
  execution : job.runbookExecution = none
  error : job.error = none

/-- What one transition made at `now` leaves of a job and what it writes. -/
structure Moved (now : Int) (job updated : Job) : Prop where
  continues : job.Continues updated
  requestedBy : updated.requestedBy = job.requestedBy
  command : updated.command = job.command
  createdAt : updated.createdAt = job.createdAt
  version : updated.version = job.version + 1
  startedAt : updated.startedAt = if updated.state = .running then some now else job.startedAt
  finishedAt : updated.finishedAt =
    if updated.state.terminal = true then some now else job.finishedAt
  result : updated.hasResult = true → updated.state = .succeeded ∨ job.hasResult = true
  preview : updated.runbookPreview.isSome = true ↔
    updated.state = .awaitingApproval ∨ job.runbookPreview.isSome = true
  execution : updated.runbookExecution.isSome = true →
    (updated.state = .succeeded ∨ updated.state = .failed) ∨ job.runbookExecution.isSome = true
  error : updated.error.isSome = true ↔
    updated.state.unsuccessful = true ∨ job.error.isSome = true
  short : ∀ error, updated.error = some error → error.short ∨ job.error = some error

end Job

inductive Created (now : Int) : Job → Prop
  | runbook (principal : Principal) (hostID jobID : String) :
      Created now (newRunbookJob principal hostID jobID now)
  | operation (operation : Operation) (principal : Principal) (hostID jobID : String)
      (command : Option CommandDescriptor) :
      Created now (newOperationJob operation principal hostID jobID command now)

/-- The functions the handlers and goroutines pass to `MutateJob` with the time
`now`. -/
inductive HandlerMutation (now : Int) : JobMutation → Prop
  | start : HandlerMutation now (startJob now)
  | storePreview (preview : RunbookPreviewResult) : HandlerMutation now (storePreview preview now)
  | finish (execution : RunbookExecutionResult) : HandlerMutation now (finishJob execution now)
  | previewFailed :
      HandlerMutation now (failRunbookJob "preview_failed" "Runbook preview failed" now)
  | executionFailed :
      HandlerMutation now (failRunbookJob "execution_failed" "Runbook execution failed" now)
  | cancel (reason : Cancellation) : HandlerMutation now (reason.mutation now)
  | finishOperation (operation : Operation) (result : OperationEnd) :
      HandlerMutation now (result.mutation operation now)

variable {now : Int}

theorem Created.new {job : Job} (created : Created now job) : job.New now := by
  cases created with
  | runbook principal hostID jobID =>
    have type : 1 ≤ "runbook".length ∧ "runbook".length ≤ 128 := by decide
    exact ⟨type, rfl, rfl, rfl, rfl, rfl, rfl, rfl, rfl, rfl⟩
  | operation operation principal hostID jobID command =>
    have type : 1 ≤ operation.jobType.length ∧ operation.jobType.length ≤ 128 := by
      cases operation <;> decide
    exact ⟨type, rfl, rfl, rfl, rfl, rfl, rfl, rfl, rfl, rfl⟩

theorem transitionJob_eq_ok {job moved : Job} {target : JobState} :
    transitionJob job target now = .ok moved ↔
      canTransition job.state target = true ∧
        moved = { job with
          state := target
          version := job.version + 1
          startedAt := if target = .running then some now else job.startedAt
          finishedAt := if target.terminal = true then some now else job.finishedAt } := by
  have ends : (target = .succeeded ∨ target = .failed ∨ target = .timedOut ∨
      target = .cancelled) ↔ target.terminal = true := by
    cases target <;> simp [JobState.terminal]
  simp only [transitionJob, bind_eq_ok, ensure_eq_ok, pure_eq_ok, ends]
  constructor
  · rintro ⟨_, possible, rfl⟩
    exact ⟨possible, rfl⟩
  · rintro ⟨possible, rfl⟩
    exact ⟨(), possible, rfl⟩

theorem moveJob_moved {target : JobState} {preview : Option RunbookPreviewResult}
    {execution : Option RunbookExecutionResult} {error : Option JobError} {job updated : Job}
    (previews : preview.isSome = true ↔ target = .awaitingApproval)
    (executes : execution.isSome = true → target = .succeeded ∨ target = .failed)
    (fails : error.isSome = true ↔ target.unsuccessful = true)
    (short : ∀ written, error = some written → written.short)
    (ran : (moveJob target now preview execution error).run job = .ok updated) :
    job.Moved now updated := by
  have continues := (moveJob target now preview execution error).continues job updated ran
  simp only [moveJob, bind_eq_ok, mapError_eq_ok, transitionJob_eq_ok, pure_eq_ok] at ran
  obtain ⟨_, ⟨-, rfl⟩, rfl⟩ := ran
  refine ⟨continues, rfl, rfl, rfl, rfl, rfl, rfl, .inr, ?_, ?_, ?_, ?_⟩
  · simp only [Option.isSome_or, Bool.or_eq_true, previews]
  · simp only [Option.isSome_or, Bool.or_eq_true]
    rintro (written | old)
    · exact .inl (executes written)
    · exact .inr old
  · simp only [Option.isSome_or, Bool.or_eq_true, fails]
  · intro found same
    cases error with
    | none => exact .inr same
    | some written => exact .inl (short found same)

theorem finishJob_moved {execution : RunbookExecutionResult} {job updated : Job}
    (ran : (finishJob execution now).run job = .ok updated) : job.Moved now updated := by
  have ended : executedState execution = .succeeded ∨ executedState execution = .failed := by
    unfold executedState
    split
    · exact .inr rfl
    · exact .inl rfl
  refine moveJob_moved ?_ (fun _ => ended) ?_ ?_ ran
  · rcases ended with same | same <;> simp [same]
  · rcases ended with same | same <;> simp [same, JobState.unsuccessful]
  · intro written same
    split at same
    · cases same
      decide
    · cases same

theorem failRunbookJob_moved {code message : String} {job updated : Job}
    (short : message.length ≤ 4096)
    (ran : (failRunbookJob code message now).run job = .ok updated) : job.Moved now updated := by
  simp only [failRunbookJob] at ran
  split at ran
  · cases ran
  · refine moveJob_moved (by simp) (by simp) (by simp [JobState.unsuccessful]) ?_ ran
    rintro _ ⟨⟩
    exact short

theorem Cancellation.mutation_eq (reason : Cancellation) (now : Int) :
    ∃ error : JobError, error.short ∧
      reason.mutation now = moveJob .cancelled now none none (some error) := by
  cases reason with
  | authorizationExpired => exact ⟨_, by decide, rfl⟩
  | cancelled => exact ⟨_, by decide, rfl⟩

namespace OperationEnd

def state : OperationEnd → JobState
  | .failed failure => failure.state
  | _ => .succeeded

def error : OperationEnd → Option JobError
  | .failed failure => some ⟨failure.code, failure.message⟩
  | _ => none

theorem state_cases (result : OperationEnd) :
    (result.state = .succeeded ∧ result.error = none) ∨
      (result.state.unsuccessful = true ∧ result.error.isSome = true) := by
  cases result with
  | failed failure =>
    right
    refine ⟨?_, rfl⟩
    rcases failure.unsuccessful with same | same | same <;>
    · simp only [state, same]
      rfl
  | _ => exact .inl ⟨rfl, rfl⟩

variable {result : OperationEnd} {operation : Operation}

theorem error_short {written : JobError} (same : result.error = some written) : written.short := by
  cases result with
  | failed failure =>
    obtain rfl := Option.some.inj same
    exact failure.proper.2
  | _ => cases same

/-- A goroutine that ends its job writes the result of its kind, or the error. -/
theorem mutation_run {job updated : Job}
    (ran : (result.mutation operation now).run job = .ok updated) :
    ∃ moved, transitionJob job result.state now = .ok moved ∧
      updated = { moved with
        snapshot := updated.snapshot
        commandResult := updated.commandResult
        anomalyScan := updated.anomalyScan
        error := result.error.or moved.error } ∧
      (updated.hasResult = true → result.state = .succeeded ∨ job.hasResult = true) := by
  cases result with
  | failed failure =>
    cases operation <;>
    · simp only [mutation, finishSnapshotJob, finishOperationJob, bind_eq_ok, mapError_eq_ok,
        pure_eq_ok] at ran
      obtain ⟨moved, possible, rfl⟩ := ran
      refine ⟨moved, possible, ?_, ?_⟩
      · simp [error, failure.proper.1]
      · obtain ⟨-, rfl⟩ := transitionJob_eq_ok.mp possible
        simp only [Job.hasResult, Option.isSome_none, Bool.or_eq_true]
        grind
  | collected snapshot | executed command | scanned scan =>
    cases operation <;>
    · simp only [mutation, finishSnapshotJob, finishOperationJob, bind_eq_ok, mapError_eq_ok,
        pure_eq_ok] at ran
      obtain ⟨moved, possible, rfl⟩ := ran
      exact ⟨moved, possible, rfl, fun _ => .inl rfl⟩

theorem mutation_state {job updated : Job}
    (ran : (result.mutation operation now).run job = .ok updated) :
    updated.state = result.state := by
  obtain ⟨moved, possible, same, -⟩ := mutation_run ran
  obtain ⟨-, rfl⟩ := transitionJob_eq_ok.mp possible
  rw [same]

theorem mutation_moved {job updated : Job}
    (ran : (result.mutation operation now).run job = .ok updated) : job.Moved now updated := by
  have continues := (result.mutation operation now).continues job updated ran
  obtain ⟨moved, possible, same, results⟩ := mutation_run ran
  obtain ⟨-, rfl⟩ := transitionJob_eq_ok.mp possible
  have state : updated.state = result.state := by rw [same]
  refine ⟨continues, ?_, ?_, ?_, ?_, ?_, ?_, ?_, ?_, ?_, ?_, ?_⟩
  · rw [same]
  · rw [same]
  · rw [same]
  · rw [same]
  · rw [same]
  · rw [same]
  · rw [state]
    exact results
  · rw [same]
    rcases result.state_cases with ⟨ended, -⟩ | ⟨ended, -⟩
    · simp [ended]
    · have notAwaiting : result.state ≠ .awaitingApproval := by
        intro awaiting
        rw [awaiting] at ended
        cases ended
      simp [notAwaiting]
  · rw [same]
    exact .inr
  · rw [same]
    rcases result.state_cases with ⟨ended, none⟩ | ⟨ended, some⟩
    · simp [ended, none, JobState.unsuccessful]
    · simp [ended, some]
  · intro written found
    rw [same] at found
    cases set : result.error with
    | none =>
      rw [set] at found
      exact .inr found
    | some own =>
      rw [set] at found
      obtain rfl := Option.some.inj found
      exact .inl (error_short set)

end OperationEnd

/-- Whatever a handler does to a job is one transition. -/
theorem HandlerMutation.moved {mutation : JobMutation} {job updated : Job}
    (handler : HandlerMutation now mutation) (ran : mutation.run job = .ok updated) :
    job.Moved now updated := by
  cases handler with
  | start | storePreview _ =>
    exact moveJob_moved (by simp) (by simp) (by simp [JobState.unsuccessful]) (by simp) ran
  | finish _ => exact finishJob_moved ran
  | previewFailed | executionFailed => exact failRunbookJob_moved (by decide) ran
  | cancel reason =>
    obtain ⟨error, short, same⟩ := reason.mutation_eq now
    rw [same] at ran
    refine moveJob_moved (by simp) (by simp) (by simp [JobState.unsuccessful]) ?_ ran
    rintro _ ⟨⟩
    exact short
  | finishOperation _ _ => exact OperationEnd.mutation_moved ran

/-- The job was created and started no later than `now`. -/
def Job.Before (now : Int) (job : Job) : Prop :=
  job.createdAt ≤ now ∧ ∀ t, job.startedAt = some t → t ≤ now

/-- The jobs that come from a created one by what the handlers do, with a clock
that does not go back. Only the request that has created a job stores its preview,
so it does so once. -/
inductive Produced : Job → Prop
  | created {now : Int} {job : Job} (created : Created now job) : Produced job
  | moved {now : Int} {mutation : JobMutation} {job updated : Job} (earlier : Produced job)
      (handler : HandlerMutation now mutation) (ran : mutation.run job = .ok updated)
      (forward : job.Before now)
      (once : updated.state = .awaitingApproval → job.runbookPreview = none) : Produced updated

/-- The version of a job never exceeds the number of its stage. A job runs at most
twice: for its preview, and with the preview stored for its execution. -/
def Job.stage (job : Job) : Nat :=
  match job.state with
  | .queued => 1
  | .running => if job.runbookPreview.isSome then 4 else 2
  | .awaitingApproval => 3
  | _ => 5

structure Job.Sound (job : Job) : Prop where
  type : 1 ≤ job.type.length ∧ job.type.length ≤ 128
  started : ∀ t, job.startedAt = some t → job.createdAt ≤ t
  ended : ∀ t, job.finishedAt = some t →
    job.createdAt ≤ t ∧ ∀ u, job.startedAt = some u → u ≤ t
  begun : job.state ≠ .queued → job.state ≠ .cancelled → job.startedAt.isSome = true
  finished : job.finishedAt.isSome = true ↔ job.state.terminal = true
  result : job.hasResult = true → job.state = .succeeded
  execution : job.runbookExecution.isSome = true → job.state = .succeeded ∨ job.state = .failed
  error : job.error.isSome = true ↔ job.state.unsuccessful = true
  short : ∀ error, job.error = some error → error.short
  queued : job.state = .queued → job.runbookPreview = none
  awaiting : job.state = .awaitingApproval → job.runbookPreview.isSome = true
  version : job.version.toNat ≤ job.stage

theorem Job.New.sound {job : Job} (new : job.New now) : job.Sound where
  type := new.type
  started t started := by rw [new.startedAt] at started; cases started
  ended t ended := by rw [new.finishedAt] at ended; cases ended
  begun notQueued := absurd new.state notQueued
  finished := by simp [new.finishedAt, new.state, JobState.terminal]
  result result := by rw [new.result] at result; cases result
  execution execution := by rw [new.execution] at execution; cases execution
  error := by simp [new.error, new.state, JobState.unsuccessful]
  short error failed := by rw [new.error] at failed; cases failed
  queued _ := new.preview
  awaiting awaiting := by rw [new.state] at awaiting; cases awaiting
  version := by simp [new.version, Job.stage, new.state]

theorem Job.Continues.not_terminal {job updated : Job} (continues : job.Continues updated) :
    job.state.terminal = false := by
  have possible := continues.transition
  cases state : job.state <;> simp_all [canTransition, JobState.terminal]

theorem Job.Continues.state_ne {job updated : Job} (continues : job.Continues updated) :
    job.state ≠ updated.state := by
  intro same
  have possible := continues.transition
  rw [← same] at possible
  revert possible
  cases job.state <;> decide

/-- Only a job that has started goes anywhere but to running or cancelled. -/
theorem Job.Continues.from_started {job updated : Job} (continues : job.Continues updated)
    (notRunning : updated.state ≠ .running) (notCancelled : updated.state ≠ .cancelled) :
    job.state = .running := by
  have possible := continues.transition
  cases before : job.state <;> cases after : updated.state <;> simp_all [canTransition]

namespace Job.Sound

variable {job : Job}

/-- A job that has not ended has neither results nor an error. -/
theorem pending (sound : job.Sound) (open' : job.state.terminal = false) :
    job.hasResult = false ∧ job.runbookExecution.isSome = false ∧ job.error.isSome = false ∧
      job.finishedAt = none := by
  refine ⟨?_, ?_, ?_, ?_⟩
  · by_contra set
    have ended := sound.result (by simpa using set)
    rw [ended] at open'
    cases open'
  · by_contra set
    rcases sound.execution (by simpa [Option.isSome_iff_ne_none] using set) with ended | ended <;>
    · rw [ended] at open'
      cases open'
  · by_contra set
    have ended := sound.error.mp (by simpa [Option.isSome_iff_ne_none] using set)
    revert ended open'
    cases job.state <;> decide
  · by_contra set
    have ended := sound.finished.mp (Option.isSome_iff_ne_none.mpr set)
    rw [ended] at open'
    cases open'

/-- A transition moves the version by one, and the stage by at least that. -/
theorem stage_moved {updated : Job} (sound : job.Sound) (moved : job.Moved now updated)
    (once : updated.state = .awaitingApproval → job.runbookPreview = none) :
    job.stage < updated.stage := by
  have possible := moved.continues.transition
  have preview := moved.preview
  have queued := sound.queued
  have awaiting := sound.awaiting
  unfold Job.stage
  cases before : job.state <;> cases after : updated.state <;>
    simp_all [canTransition] <;> split <;> simp_all

theorem stage_le (job : Job) : job.stage ≤ 5 := by
  unfold Job.stage
  cases job.state <;> grind

theorem version_moved {updated : Job} (sound : job.Sound) (moved : job.Moved now updated) :
    updated.version.toNat = job.version.toNat + 1 := by
  have bound := stage_le job
  have small := sound.version
  rw [moved.version, UInt64.toNat_add]
  have one : (1 : UInt64).toNat = 1 := rfl
  omega

theorem moved {updated : Job} (sound : job.Sound) (moved : job.Moved now updated)
    (forward : job.Before now)
    (once : updated.state = .awaitingApproval → job.runbookPreview = none) : updated.Sound := by
  obtain ⟨noResult, noExecution, noError, notFinished⟩ :=
    sound.pending moved.continues.not_terminal
  have startedAt : ∀ t, updated.startedAt = some t → job.createdAt ≤ t ∧ t ≤ now := by
    intro t set
    rw [moved.startedAt] at set
    split at set
    · cases set
      exact ⟨forward.1, Int.le_refl _⟩
    · exact ⟨sound.started t set, forward.2 t set⟩
  have finishedAt : updated.finishedAt =
      if updated.state.terminal = true then some now else none := by
    rw [moved.finishedAt, notFinished]
  constructor
  case type =>
    rw [moved.continues.type]
    exact sound.type
  case started =>
    intro t set
    rw [moved.createdAt]
    exact (startedAt t set).1
  case ended =>
    intro t set
    rw [finishedAt] at set
    split at set
    · cases set
      rw [moved.createdAt]
      exact ⟨forward.1, fun u ran => (startedAt u ran).2⟩
    · cases set
  case begun =>
    intro _ notCancelled
    rw [moved.startedAt]
    split
    · rfl
    · rename_i notRunning
      have running := moved.continues.from_started notRunning notCancelled
      exact sound.begun (by rw [running]; decide) (by rw [running]; decide)
  case finished =>
    rw [finishedAt]
    split <;> simp_all
  case result =>
    intro set
    rcases moved.result set with ended | old
    · exact ended
    · rw [noResult] at old
      cases old
  case execution =>
    intro set
    rcases moved.execution set with ended | old
    · exact ended
    · rw [noExecution] at old
      cases old
  case error =>
    rw [moved.error, noError]
    simp
  case short =>
    intro error found
    rcases moved.short error found with isShort | old
    · exact isShort
    · exact sound.short error old
  case queued =>
    intro queued
    exact absurd queued moved.continues.state_ne_queued
  case awaiting =>
    intro awaiting
    exact moved.preview.mpr (.inl awaiting)
  case version =>
    have version := sound.version_moved moved
    have stage := sound.stage_moved moved once
    have before := sound.version
    omega

end Job.Sound

theorem Produced.sound {job : Job} (produced : Produced job) : job.Sound := by
  induction produced with
  | created created => exact created.new.sound
  | moved _ handler ran forward once sound =>
    exact sound.moved (handler.moved ran) forward once

theorem Job.Before.moved {job updated : Job} (forward : job.Before now)
    (moved : job.Moved now updated) : updated.Before now := by
  refine ⟨by rw [moved.createdAt]; exact forward.1, ?_⟩
  intro t set
  rw [moved.startedAt] at set
  split at set
  · cases set
    exact Int.le_refl _
  · exact forward.2 t set

theorem Job.Before.later {later : Int} {job : Job} (before : job.Before now)
    (forward : now ≤ later) : job.Before later :=
  ⟨Int.le_trans before.1 forward, fun t set => Int.le_trans (before.2 t set) forward⟩

theorem Created.before {job : Job} (created : Created now job) : job.Before now := by
  have new := created.new
  refine ⟨by rw [new.createdAt], ?_⟩
  intro t set
  rw [new.startedAt] at set
  cases set

end VpsManager.Control
