import VpsManager.Runbook.Executor

namespace VpsManager.Runbook

open Go Checks

structure StepCall where
  step : Step
  outcome : RunOutcome

section Calls

variable {σ : Type} (runner : Runner σ)

/-- The same runner, with its calls written down. -/
def logged : Runner (σ × List StepCall) where
  runRunbookStep state step :=
    let (after, outcome) := runner.runRunbookStep state.1 step
    ((after, state.2 ++ [⟨step, outcome⟩]), outcome)
  canceled state := runner.canceled state.1

theorem logged_run (state : σ) (log : List StepCall) (step : Step) :
    (logged runner).runRunbookStep (state, log) step =
      (((runner.runRunbookStep state step).1,
          log ++ [⟨step, (runner.runRunbookStep state step).2⟩]),
        (runner.runRunbookStep state step).2) := rfl

theorem logged_canceled (state : σ) (log : List StepCall) :
    (logged runner).canceled (state, log) = runner.canceled state := rfl

def stepCalls : List Step → σ → List StepCall
  | [], _ => []
  | step :: rest, state =>
    let (after, outcome) := runner.runRunbookStep state step
    ⟨step, outcome⟩ :: if outcome.passed then stepCalls rest after else []

/-- Writing the calls down changes nothing else. -/
theorem executeSteps_logged (steps : List Step) (state : σ) (log : List StepCall) :
    executeSteps (logged runner) steps (state, log) =
      (((executeSteps runner steps state).1, log ++ stepCalls runner steps state),
        (executeSteps runner steps state).2) := by
  induction steps generalizing state log with
  | nil => simp [executeSteps, stepCalls]
  | cons step rest ih =>
    by_cases passed : (runner.runRunbookStep state step).2.passed = true
    · simp only [executeSteps, stepCalls, logged_run, logged_canceled, passed, ↓reduceIte, ih,
        List.append_assoc, List.singleton_append]
    · simp only [executeSteps, stepCalls, logged_run, logged_canceled, passed,
        Bool.false_eq_true, ↓reduceIte]

structure Reports (call : StepCall) (result : StepResult) : Prop where
  id : result.id = call.step.id
  phase : result.phase = call.step.phase
  state : result.state = .succeeded ↔ call.outcome.passed = true
  exitCode : result.exitCode = call.outcome.result.exitCode

theorem reports_stepResult (canceled : Bool) (step : Step) (outcome : RunOutcome) :
    Reports ⟨step, outcome⟩ (stepResult canceled step outcome) where
  id := rfl
  phase := rfl
  state := by
    unfold stepResult
    dsimp only
    split
    · simp [*]
    · split <;> simp [*]
  exitCode := rfl

theorem executeSteps_reports (steps : List Step) (state : σ) :
    List.Forall₂ Reports (stepCalls runner steps state)
      (executeSteps runner steps state).2.1 := by
  induction steps generalizing state with
  | nil => exact .nil
  | cons step rest ih =>
    by_cases passed : (runner.runRunbookStep state step).2.passed = true
    · simp only [executeSteps, stepCalls, passed, ↓reduceIte]
      exact .cons (reports_stepResult _ _ _) (ih _)
    · simp only [executeSteps, stepCalls, passed, Bool.false_eq_true, ↓reduceIte]
      exact .cons (reports_stepResult _ _ _) .nil

theorem stepCalls_prefix (steps : List Step) (state : σ) :
    (stepCalls runner steps state).map StepCall.step <+: steps := by
  induction steps generalizing state with
  | nil => exact List.nil_prefix
  | cons step rest ih =>
    rw [stepCalls]
    dsimp only
    split
    · exact (List.prefix_cons_inj step).mpr (ih _)
    · exact (List.prefix_cons_inj step).mpr List.nil_prefix

theorem stepCalls_passed (steps : List Step) (state : σ) :
    ∀ call ∈ (stepCalls runner steps state).dropLast, call.outcome.passed = true := by
  induction steps generalizing state with
  | nil => exact List.forall_mem_nil _
  | cons step rest ih =>
    rw [stepCalls]
    dsimp only
    split
    · rename_i passed
      by_cases last : stepCalls runner rest (runner.runRunbookStep state step).1 = []
      · rw [last]
        exact List.forall_mem_nil _
      · rw [List.dropLast_cons_of_ne_nil last, List.forall_mem_cons]
        exact ⟨passed, ih _⟩
    · exact List.forall_mem_nil _

/-- Every step of the plan ran, with exit code zero and without an error. -/
def AllPassed (steps : List Step) (calls : List StepCall) : Prop :=
  calls.map StepCall.step = steps ∧
    ∀ call ∈ calls, call.outcome.error = none ∧ call.outcome.result.exitCode = 0

theorem passed_iff (outcome : RunOutcome) :
    outcome.passed = true ↔ outcome.error = none ∧ outcome.result.exitCode = 0 := by
  simp [RunOutcome.passed]

theorem executeSteps_stopped_iff (steps : List Step) (state : σ) :
    (executeSteps runner steps state).2.2 = false ↔
      AllPassed steps (stepCalls runner steps state) := by
  induction steps generalizing state with
  | nil => simp [executeSteps, stepCalls, AllPassed]
  | cons step rest ih =>
    by_cases passed : (runner.runRunbookStep state step).2.passed = true
    · have clean := (passed_iff _).mp passed
      simp only [executeSteps, stepCalls, passed, ↓reduceIte, ih, AllPassed, List.map_cons,
        List.cons.injEq, true_and, List.forall_mem_cons, clean, and_self]
    · simp only [executeSteps, stepCalls, passed, Bool.false_eq_true, ↓reduceIte, AllPassed,
        List.forall_mem_cons, ← passed_iff, false_and, and_false, Bool.true_eq_false]

theorem stepCalls_ne_nil {steps : List Step} (some : steps ≠ []) (state : σ) :
    stepCalls runner steps state ≠ [] := by
  obtain ⟨step, rest, rfl⟩ := List.exists_cons_of_ne_nil some
  exact List.cons_ne_nil _ _

theorem succeeded_of_reports {calls : List StepCall} {results : List StepResult}
    (reported : List.Forall₂ Reports calls results)
    (passed : ∀ call ∈ calls, call.outcome.passed = true) :
    ∀ result ∈ results, result.state = .succeeded := by
  induction reported with
  | nil => exact List.forall_mem_nil _
  | cons first _ ih =>
    rw [List.forall_mem_cons] at passed ⊢
    exact ⟨first.state.mpr passed.1, ih passed.2⟩

/-- A report of a plan: what it says of the calls that were made, of which only the last may
have failed. -/
structure StopsAtFailure (plan : Plan) (calls : List StepCall) (execution : Execution) :
    Prop where
  nonempty : execution.steps ≠ []
  ran : calls.map StepCall.step <+: plan.steps
  reported : List.Forall₂ Reports calls execution.steps
  earlier : ∀ result ∈ execution.steps.dropLast, result.state = .succeeded
  status : execution.status = .succeeded ↔ AllPassed plan.steps calls
  stopped : execution.stopped = true ↔ ¬ AllPassed plan.steps calls
  applied : ∀ before call after, calls = before ++ call :: after → call.step.phase = .apply →
    ∀ other ∈ before, other.step.phase = .preflight ∨ other.step.phase = .evidence →
      other.outcome.error = none ∧ other.outcome.result.exitCode = 0

variable {runner}

theorem executeSteps_stopsAtFailure {plan : Plan} (some : plan.steps ≠ []) (state : σ) :
    StopsAtFailure plan (stepCalls runner plan.steps state)
      ⟨if (executeSteps runner plan.steps state).2.2 then .failed else .succeeded,
        (executeSteps runner plan.steps state).2.1,
        (executeSteps runner plan.steps state).2.2⟩ := by
  have reported := executeSteps_reports runner plan.steps state
  have passed := stepCalls_passed runner plan.steps state
  have finished := executeSteps_stopped_iff runner plan.steps state
  constructor
  case nonempty =>
    intro none
    rw [show (executeSteps runner plan.steps state).2.1 = [] from none] at reported
    exact stepCalls_ne_nil runner some state (List.forall₂_nil_right_iff.mp reported)
  case ran => exact stepCalls_prefix runner plan.steps state
  case reported => exact reported
  case earlier =>
    apply succeeded_of_reports _ passed
    rw [List.dropLast_eq_take, List.dropLast_eq_take, reported.length_eq]
    exact List.forall₂_take _ reported
  case status =>
    rw [← finished]
    cases (executeSteps runner plan.steps state).2.2 <;> simp
  case stopped =>
    rw [← finished]
    exact (Bool.not_eq_false _).symm.to_iff
  case applied =>
    intro before call after split _ other inside _
    refine (passed_iff _).mp (passed other ?_)
    rw [split, List.dropLast_append_of_ne_nil (List.cons_ne_nil _ _)]
    exact List.mem_append_left _ inside

end Calls

end VpsManager.Runbook
