import VpsManager.Runbook.Executor

namespace VpsManager.Runbook

open Go Shell

/-- How a step meets the host: its session and the status of each command its
script comes to run, in order. -/
structure Encounter where
  session : Session
  statuses : Nat → Nat

/-- The commands a step runs, each with its status, and the script's status. -/
def stepLog (encounter : Encounter) (step : Step) : List (Command × Nat) :=
  (eval (tally encounter.statuses) step.command 0 []).state

def stepStatus (encounter : Encounter) (step : Step) : Nat :=
  (eval (tally encounter.statuses) step.command 0 []).status

/-- The runner over fixed encounters, one for each step ID. -/
def statusRunner (encounters : String → Encounter) (canceled : Bool) : Runner Unit where
  runRunbookStep state step :=
    (state, runSession (encounters step.id).session (stepStatus (encounters step.id) step))
  canceled _ := canceled

/-- An assignment checks nothing. -/
def Command.isCheck : Command → Bool
  | .assign _ _ => false
  | .captureTicks _ _ => false
  | _ => true

def Step.checks (step : Step) : Prop := step.phase = .preflight ∨ step.phase = .verify

/-- Every checking command of the preflight and verify steps exited 0. -/
def ChecksPassed (encounters : String → Encounter) (plan : Plan) : Prop :=
  ∀ step ∈ plan.steps, step.checks → ∀ entry ∈ stepLog (encounters step.id) step,
    entry.1.isCheck = true → entry.2 = 0

/-- So did those that another command of the same script follows. -/
def FollowedChecksPassed (encounters : String → Encounter) (plan : Plan) : Prop :=
  ∀ step ∈ plan.steps, step.checks → ∀ entry ∈ (stepLog (encounters step.id) step).dropLast,
    entry.1.isCheck = true → entry.2 = 0

/-- Every session reports its script's status and that status is 0. -/
def ScriptsExitZero (encounters : String → Encounter) (plan : Plan) : Prop :=
  ∀ step ∈ plan.steps,
    (encounters step.id).session.failure = none ∧ stepStatus (encounters step.id) step = 0

theorem stepLog_chain (encounter : Encounter) (step : Step) (chained : IsChain step.command) :
    ∃ command, stepLog encounter step =
      (stepLog encounter step).dropLast ++ [(command, stepStatus encounter step)] := by
  obtain ⟨separator, command, rest, same⟩ := chained
  obtain ⟨front, final, last⟩ := logged_last encounter.statuses 0 command rest
  have log : stepLog encounter step = front ++ [(final, stepStatus encounter step)] := by
    simp [stepLog, stepStatus, same, eval_chain, execAll_tally, last]
  exact ⟨final, by rw [log, List.dropLast_concat]⟩

theorem execute_succeeded (sha256 : Bytes → Bytes) (action : String) (version : Int)
    (parameters : Parameters) (plan : Plan) (encounters : String → Encounter) (canceled : Bool)
    (built : build sha256 action version parameters = .ok plan) :
    (∃ execution, execute (statusRunner encounters canceled) sha256 plan () = .ok ((), execution) ∧
      execution.status = .succeeded) ↔ ScriptsExitZero encounters plan := by
  rw [execute_of_build _ sha256 action version parameters plan () built]
  have loop := executeSteps_stopped (statusRunner encounters canceled)
    (fun step => runSession (encounters step.id).session (stepStatus (encounters step.id) step))
    (fun _ _ => rfl) plan.steps ()
  simp only [runSession_passed] at loop
  unfold ScriptsExitZero
  rw [← loop]
  cases (executeSteps (statusRunner encounters canceled) plan.steps ()).2.2 <;> simp

/-- A succeeded execution has passed all its checks exactly if the statuses are
such that, when all scripts exit 0, the checks followed by another command do
too. -/
theorem succeeded_checksPassed_iff (sha256 : Bytes → Bytes) (action : String) (version : Int)
    (parameters : Parameters) (plan : Plan) (encounters : String → Encounter) (canceled : Bool)
    (built : build sha256 action version parameters = .ok plan) :
    (∀ execution, execute (statusRunner encounters canceled) sha256 plan () = .ok ((), execution) →
      execution.status = .succeeded → ChecksPassed encounters plan) ↔
    (ScriptsExitZero encounters plan → FollowedChecksPassed encounters plan) := by
  have success := execute_succeeded sha256 action version parameters plan encounters canceled built
  have chains := (build_steps sha256 action version parameters plan built).2.2
  constructor
  · intro passed zero step member checks entry inside
    obtain ⟨execution, ran, status⟩ := success.mpr zero
    exact passed execution ran status step member checks entry (List.mem_of_mem_dropLast inside)
  · intro followed execution ran status step member checks entry inside isCheck
    have zero := success.mp ⟨execution, ran, status⟩
    obtain ⟨final, log⟩ := stepLog_chain (encounters step.id) step (chains step member checks)
    rw [log] at inside
    rcases List.mem_append.mp inside with front | last
    · exact followed zero step member checks entry front isCheck
    · rw [List.mem_singleton.mp last]
      exact (zero step member).2

section Restart

def nginxRestart (sha256 : Bytes → Bytes) : Plan where
  definition := definitionOf .serviceRestart
  parameters := ⟨"nginx", "", 0, 0⟩
  steps := sealSteps sha256 (mutatingSteps "service-restart" (serviceStatusCommand .nginx)
    (serviceRestartApply .nginx) (serviceRestartVerify .nginx))

theorem nginxRestart_built (sha256 : Bytes → Bytes) :
    build sha256 "service_restart_v1" 1 ⟨"nginx", "", 0, 0⟩ = .ok (nginxRestart sha256) := by
  rfl

/-- Every command exits 0 but `systemctl is-active`, which reports an inactive
service by 3. -/
def inactiveService (stepID : String) : Encounter where
  session := ⟨none, [], [], second⟩
  statuses index := if stepID = "service-restart-verify" ∧ index = 0 then 3 else 0

/-- A restart is reported as succeeded although the service is not active. -/
theorem restart_succeeded_inactive :
    ¬ ∃ sha256, ∀ execution,
      execute (statusRunner inactiveService false) sha256 (nginxRestart sha256) () =
        .ok ((), execution) → execution.status = .succeeded →
      ChecksPassed inactiveService (nginxRestart sha256) := by
  rintro ⟨sha256, checked⟩
  have exits : ScriptsExitZero inactiveService (nginxRestart sha256) := by
    intro step member
    simp only [nginxRestart, sealSteps, mutatingSteps, newStep, List.map_cons, List.map_nil,
      List.mem_cons, List.not_mem_nil, or_false] at member
    rcases member with rfl | rfl | rfl | rfl <;> exact ⟨rfl, rfl⟩
  obtain ⟨execution, ran, success⟩ := (execute_succeeded sha256 _ _ _ _ inactiveService false
    (nginxRestart_built sha256)).mpr exits
  have verified := checked execution ran success _
    (List.mem_of_getElem? (rfl : (nginxRestart sha256).steps[3]? = some _))
    (.inr rfl) (.external "LC_ALL=C systemctl is-active --quiet nginx.service", 3)
    (List.mem_cons_self : _ ∈ _ :: [_]) rfl
  cases verified

def healthyService (_ : String) : Encounter := ⟨⟨none, [], [], second⟩, fun _ => 0⟩

theorem healthyService_followed (sha256 : Bytes → Bytes) :
    FollowedChecksPassed healthyService (nginxRestart sha256) := by
  intro step member checks entry inside _
  simp only [nginxRestart, sealSteps, mutatingSteps, newStep, List.map_cons, List.map_nil,
    List.mem_cons, List.not_mem_nil, or_false] at member
  rcases member with rfl | rfl | rfl | rfl
  all_goals
    simp [stepLog, privilegePreflight, serviceStatusCommand, serviceRestartApply,
      serviceRestartVerify, external, chain, eval, tally, healthyService] at inside
  · rcases inside with rfl | rfl <;> rfl
  · rw [inside]

/-- With every command exiting 0 the restart succeeds and has passed its
checks. -/
theorem restart_succeeded_checked :
    (∃ execution,
      execute (statusRunner healthyService false) id (nginxRestart id) () = .ok ((), execution) ∧
        execution.status = .succeeded) ∧
      ChecksPassed healthyService (nginxRestart id) := by
  have success := (execute_succeeded id _ _ _ _ healthyService false
    (nginxRestart_built id)).mpr (by
    intro step member
    simp only [nginxRestart, sealSteps, mutatingSteps, newStep, List.map_cons, List.map_nil,
      List.mem_cons, List.not_mem_nil, or_false] at member
    rcases member with rfl | rfl | rfl | rfl <;> exact ⟨rfl, rfl⟩)
  obtain ⟨execution, ran, status⟩ := success
  exact ⟨⟨execution, ran, status⟩,
    (succeeded_checksPassed_iff id _ _ _ _ healthyService false (nginxRestart_built id)).mpr
      (fun _ => healthyService_followed id) execution ran status⟩

end Restart

end VpsManager.Runbook
