import VpsManager.Runbook.Catalog

namespace VpsManager.Runbook

open Go Checks Shell

inductive RunError
  | deadlineExceeded
  | canceled
  | outputLimit
  | other (message : String)
  deriving DecidableEq, Repr

structure CommandResult where
  stdout : Bytes
  stderr : Bytes
  exitCode : Int
  duration : Int
  deriving DecidableEq, Repr

inductive StepState
  | succeeded
  | failed
  | canceled
  deriving DecidableEq, Repr

def StepState.name : StepState → String
  | .succeeded => "succeeded"
  | .failed => "failed"
  | .canceled => "canceled"

structure StepResult where
  id : String
  phase : Phase
  state : StepState
  stdout : Bytes
  stderr : Bytes
  exitCode : Int
  duration : Int
  errorCode : String
  deriving DecidableEq, Repr

inductive Status
  | succeeded
  | failed
  deriving DecidableEq, Repr

def Status.name : Status → String
  | .succeeded => "succeeded"
  | .failed => "failed"

structure Execution where
  status : Status
  steps : List StepResult
  stopped : Bool
  deriving DecidableEq, Repr

/-- What one call of the runner gives back and how long the executor saw it
take. -/
structure RunOutcome where
  result : CommandResult
  error : Option RunError
  elapsed : Int
  deriving DecidableEq, Repr

/-- A runner over the state of the outside world, and whether the context of the
whole execution is canceled in that state. -/
structure Runner (σ : Type) where
  runRunbookStep : σ → Step → σ × RunOutcome
  canceled : σ → Bool

def classifyError (error : Option RunError) (exitCode : Int) : String :=
  match error with
  | some .deadlineExceeded => "step_timeout"
  | some .canceled => "step_canceled"
  | some .outputLimit => "output_limit"
  | some (.other _) => if exitCode ≠ 0 then "nonzero_exit" else "execution_error"
  | none => if exitCode ≠ 0 then "nonzero_exit" else "exit_" ++ toString exitCode

def RunOutcome.passed (outcome : RunOutcome) : Bool :=
  outcome.error.isNone && outcome.result.exitCode == 0

def stepResult (canceled : Bool) (step : Step) (outcome : RunOutcome) : StepResult where
  id := step.id
  phase := step.phase
  state :=
    if outcome.passed then .succeeded
    else if outcome.error = some .canceled ∨ outcome.error = some .deadlineExceeded ∨
        canceled = true then .canceled
    else .failed
  stdout := outcome.result.stdout
  stderr := outcome.result.stderr
  exitCode := outcome.result.exitCode
  duration := if outcome.result.duration ≤ 0 then outcome.elapsed else outcome.result.duration
  errorCode :=
    if outcome.passed then "" else classifyError outcome.error outcome.result.exitCode

section Loop

variable {σ : Type} (runner : Runner σ)

/-- The loop over the steps: the state it leaves, the results and whether it
stopped early. -/
def executeSteps : List Step → σ → σ × List StepResult × Bool
  | [], state => (state, [], false)
  | step :: rest, state =>
    let (after, outcome) := runner.runRunbookStep state step
    let result := stepResult (runner.canceled after) step outcome
    if outcome.passed then
      let (final, results, stopped) := executeSteps rest after
      (final, result :: results, stopped)
    else (after, [result], true)

@[simp] theorem executeSteps_nil (state : σ) :
    executeSteps runner [] state = (state, [], false) := rfl

/-- `Execute`: the plan must be non-empty and sealed by the catalog. -/
def execute (sha256 : Bytes → Bytes) (plan : Plan) (state : σ) : Except String (σ × Execution) := do
  ensure (plan.steps ≠ []) errInvalidPlan
  ensure (∀ step ∈ plan.steps, isReviewedCatalogStep sha256 step = true) errInvalidPlan
  let (after, results, stopped) := executeSteps runner plan.steps state
  return (after, ⟨if stopped then .failed else .succeeded, results, stopped⟩)

end Loop

theorem execute_of_build {σ : Type} (runner : Runner σ) (sha256 : Bytes → Bytes) (action : String)
    (version : Int) (parameters : Parameters) (plan : Plan) (state : σ)
    (built : build sha256 action version parameters = .ok plan) :
    execute runner sha256 plan state =
      .ok ((executeSteps runner plan.steps state).1,
        ⟨if (executeSteps runner plan.steps state).2.2 then .failed else .succeeded,
          (executeSteps runner plan.steps state).2.1,
          (executeSteps runner plan.steps state).2.2⟩) := by
  obtain ⟨nonempty, reviewed, -⟩ := build_steps sha256 action version parameters plan built
  have accepted : ensure (∀ step ∈ plan.steps, isReviewedCatalogStep sha256 step = true)
      errInvalidPlan = .ok () := (ensure_eq_ok _ _ _).mpr reviewed
  have present : ensure (plan.steps ≠ []) errInvalidPlan = .ok () :=
    (ensure_eq_ok _ _ _).mpr nonempty
  rw [execute, present, accepted]
  rfl

/-- When the outcome of a step does not depend on the state, the loop reaches its
end exactly if every step passes. -/
theorem executeSteps_stopped {σ : Type} (runner : Runner σ) (outcome : Step → RunOutcome)
    (fixed : ∀ state step, (runner.runRunbookStep state step).2 = outcome step)
    (steps : List Step) (state : σ) :
    (executeSteps runner steps state).2.2 = false ↔
      ∀ step ∈ steps, (outcome step).passed = true := by
  induction steps generalizing state with
  | nil => simp [executeSteps]
  | cons step rest ih =>
    simp only [executeSteps, fixed, List.forall_mem_cons]
    by_cases passed : (outcome step).passed = true
    · simp only [passed, ↓reduceIte, true_and]
      exact ih _
    · simp [passed]

structure StepResult.Passed (step : Step) (result : StepResult) : Prop where
  id : result.id = step.id
  phase : result.phase = step.phase
  state : result.state = .succeeded
  exitCode : result.exitCode = 0
  errorCode : result.errorCode = ""

theorem stepResult_passed (canceled : Bool) (step : Step) (outcome : RunOutcome)
    (passed : outcome.passed = true) :
    StepResult.Passed step (stepResult canceled step outcome) where
  id := rfl
  phase := rfl
  state := by simp [stepResult, passed]
  exitCode := by
    simp only [RunOutcome.passed, Bool.and_eq_true, beq_iff_eq] at passed
    exact passed.2
  errorCode := by simp [stepResult, passed]

theorem executeSteps_passed {σ : Type} (runner : Runner σ) (steps : List Step) (state : σ)
    (finished : (executeSteps runner steps state).2.2 = false) :
    List.Forall₂ StepResult.Passed steps (executeSteps runner steps state).2.1 := by
  induction steps generalizing state with
  | nil => exact .nil
  | cons step rest ih =>
    simp only [executeSteps] at finished ⊢
    by_cases passed : (runner.runRunbookStep state step).2.passed = true
    · simp only [passed, ↓reduceIte] at finished ⊢
      exact .cons (stepResult_passed _ step _ passed) (ih _ finished)
    · simp [passed] at finished

/-- The SSH session of a step: what it reports in place of the script's status
when the connection, the output limit or a deadline fails. -/
structure Session where
  failure : Option (Int × RunError)
  stdout : Bytes
  stderr : Bytes
  duration : Int
  deriving DecidableEq, Repr

def runSession (session : Session) (status : Nat) : RunOutcome :=
  match session.failure with
  | some (exitCode, error) =>
    ⟨⟨session.stdout, session.stderr, exitCode, session.duration⟩, some error, session.duration⟩
  | none =>
    ⟨⟨session.stdout, session.stderr, status, session.duration⟩,
      if status = 0 then none
      else some (.other ("remote command exited with status " ++ toString status)),
      session.duration⟩

theorem runSession_passed (session : Session) (status : Nat) :
    (runSession session status).passed = true ↔ session.failure = none ∧ status = 0 := by
  cases failed : session.failure with
  | some reported => simp [runSession, RunOutcome.passed, failed]
  | none =>
    by_cases zero : status = 0 <;> simp [runSession, RunOutcome.passed, failed, zero]

end VpsManager.Runbook
