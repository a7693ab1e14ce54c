import VpsManager.Connector.Response
import VpsManager.Control.Runbooks
import VpsManager.Runbook.FirstFailure

namespace VpsManager.Control

open Go Checks Protocol Connector
open Runbook (AllPassed StopsAtFailure logged)

theorem status_name_iff (status : Runbook.Status) :
    status.name = "succeeded" ↔ status = .succeeded := by
  cases status <;> decide

theorem executedState_iff (requestID : String) (accepted : Accepted)
    (execution : Runbook.Execution) :
    executedState (runbookExecutionModel (executeResponse requestID accepted (.ok execution))) =
        .succeeded ↔
      (executeResponse requestID accepted (.ok execution)).status = "succeeded" := by
  simp only [executedState, runbookExecutionModel]
  by_cases same : (executeResponse requestID accepted (.ok execution)).status = "succeeded"
  · simp [same]
  · simp [same]

/-- A response of the Connector to the request of a job passes the checks of the control
plane. -/
theorem acceptedExecution_of_response {handler : Handler} {job : Job}
    {preview : RunbookPreviewResult} {input : ExecuteRunbookRequest} {pin : HostKeyPin}
    {secret : Credential} {sent now : Int} {accepted : Accepted}
    (taken : Connector.acceptExecute handler
      (.ok (Protocol.executeRunbook (executeRequest job preview input pin secret sent))) now =
        .ok accepted) (requestID : String) (execution : Runbook.Execution) :
    acceptedExecution job.id preview (.ok (executeResponse requestID accepted (.ok execution))) =
      .ok (runbookExecutionModel (executeResponse requestID accepted (.ok execution))) := by
  have checked := taken
  simp only [Connector.acceptExecute, validateApproval, bind_eq_ok, mapError_eq_ok, ensure_eq_ok,
    pure_eq_ok] at checked
  obtain ⟨_, same, ⟨plan, digest⟩, -, _, -, _, ⟨_, ⟨-, -, -, jobID, approved⟩, -⟩, _, -, rfl⟩ :=
    checked
  cases same
  simp only [acceptedExecution, bind_eq_ok, mapError_eq_ok, ensure_eq_ok, pure_eq_ok]
  exact ⟨_, rfl, (), ⟨approved.symm, jobID.symm⟩, rfl⟩

/-- Execution stops at the first failure, and the report, the response and the job say that
it succeeded exactly if there is none. -/
theorem executed_stops {σ : Type} (runner : Runbook.Runner σ) (state : σ)
    {sha256 : Bytes → Bytes} {action : String} {version : Int} {parameters : Runbook.Parameters}
    {plan : Runbook.Plan} (built : Runbook.build sha256 action version parameters = .ok plan) :
    ∃ after calls execution,
      Runbook.execute runner sha256 plan state = .ok (after, execution) ∧
      Runbook.execute (logged runner) sha256 plan (state, []) = .ok ((after, calls), execution) ∧
      StopsAtFailure plan calls execution ∧
      ∀ requestID accepted, accepted.plan = plan →
        ((executeResponse requestID accepted (.ok execution)).status = "succeeded" ↔
          AllPassed plan.steps calls) ∧
        ∀ handler job preview input pin secret sent now,
          Connector.acceptExecute handler
            (.ok (Protocol.executeRunbook (executeRequest job preview input pin secret sent)))
              now = .ok accepted →
          ∃ stored, acceptedExecution job.id preview
              (.ok (executeResponse requestID accepted (.ok execution))) = .ok stored ∧
            (executedState stored = .succeeded ↔ AllPassed plan.steps calls) ∧
            ∀ (later : Int) (before updated : Job),
              (finishJob stored later).run before = .ok updated →
                (updated.state = .succeeded ↔ AllPassed plan.steps calls) := by
  obtain ⟨nonempty, -, -⟩ := Runbook.build_steps sha256 action version parameters plan built
  have ran := Runbook.execute_of_build runner sha256 action version parameters plan state built
  have recorded : Runbook.execute (logged runner) sha256 plan (state, []) = .ok _ :=
    Runbook.execute_of_build (logged runner) sha256 action version parameters plan _ built
  rw [Runbook.executeSteps_logged, List.nil_append] at recorded
  have stops := @Runbook.executeSteps_stopsAtFailure _ runner plan nonempty state
  refine ⟨_, _, _, ran, recorded, stops, ?_⟩
  intro requestID accepted _
  have response := (status_name_iff _).trans stops.status
  refine ⟨response, ?_⟩
  intro handler job preview input pin secret sent now taken
  have derived := (executedState_iff requestID accepted _).trans response
  refine ⟨_, acceptedExecution_of_response taken requestID _, derived, ?_⟩
  intro later before updated finished
  rw [(moveJob_ok finished).1]
  exact derived

/-- The second step exits 1. -/
def failingRunner : Runbook.Runner Nat where
  runRunbookStep ran _ := (ran + 1, ⟨⟨[], [], if ran = 1 then 1 else 0, second⟩, none, second⟩)
  canceled _ := false

def rebootJob : Job :=
  { newRunbookJob ⟨"operator@example.com", .operator, true, [], "session_1"⟩ "host_1" "job_1" 0 with
    state := .running }

def rebootPreview (sha256 : Bytes → Bytes) : RunbookPreviewResult where
  protocolVersion := protocolVersion
  requestID := "req_1"
  action := Runbook.ActionID.hostRebootPlan.name
  catalogVersion := Runbook.catalogVersion
  binding := Connector.sampleBinding .hostRebootPlan
  scopeDigest := boundDigest sha256 (Connector.sampleBinding .hostRebootPlan)
  title := (Runbook.definitionOf .hostRebootPlan).title
  mutating := (Runbook.definitionOf .hostRebootPlan).mutating
  emergency := (Runbook.definitionOf .hostRebootPlan).emergency
  executionEnabled := true
  retryPolicy := "none"
  steps := []

/-- A reboot is approved, accepted and fails in its second step: two of the four steps
are called, and the job has failed. -/
theorem reboot_stops : ∃ accepted calls execution stored updated,
    Connector.acceptExecute (defaultHandler fun _ => List.replicate 32 0)
      (.ok (Protocol.executeRunbook (executeRequest rebootJob
        (rebootPreview fun _ => List.replicate 32 0) ⟨"", "routine inspection", "incident_1"⟩
        ⟨"", "", Ssh.firstKey.authorizedKey, 0, ""⟩ ⟨bytes Ssh.secondKey.privateKeyPEM, []⟩ 0))) 0 =
      .ok accepted ∧
    Runbook.execute failingRunner (fun _ => List.replicate 32 0) accepted.plan 0 =
      .ok (2, execution) ∧
    StopsAtFailure accepted.plan calls execution ∧ ¬ AllPassed accepted.plan.steps calls ∧
    acceptedExecution "job_1" (rebootPreview fun _ => List.replicate 32 0)
      (.ok (executeResponse "req_2" accepted (.ok execution))) = .ok stored ∧
    (finishJob stored 0).run rebootJob = .ok updated ∧ updated.state = .failed := by
  obtain ⟨accepted, accepts, built, -, -⟩ := reboot_accepted
  have loop : ∃ plan, Runbook.build (fun _ => List.replicate 32 0)
      Runbook.ActionID.hostRebootPlan.name 1 .empty = .ok plan ∧
      (Runbook.executeSteps failingRunner plan.steps 0).1 = 2 ∧
      (Runbook.executeSteps failingRunner plan.steps 0).2.2 = true := ⟨_, rfl, rfl, rfl⟩
  obtain ⟨plan, planned, second, stopped⟩ := loop
  cases Except.ok.inj (built.symm.trans planned)
  obtain ⟨after, calls, execution, ran, -, stops, told⟩ := executed_stops failingRunner 0 built
  have report := ran.symm.trans
    (Runbook.execute_of_build failingRunner _ _ _ _ _ 0 built)
  rw [second, stopped] at report
  cases report
  have failed : ¬ AllPassed accepted.plan.steps calls := stops.stopped.mp rfl
  obtain ⟨-, ends⟩ := told "req_2" accepted rfl
  obtain ⟨stored, kept, derived, -⟩ := ends (defaultHandler fun _ => List.replicate 32 0) rebootJob
    (rebootPreview fun _ => List.replicate 32 0) ⟨"", "routine inspection", "incident_1"⟩
    ⟨"", "", Ssh.firstKey.authorizedKey, 0, ""⟩ ⟨bytes Ssh.secondKey.privateKeyPEM, []⟩ 0 0 accepts
  have state : executedState stored = .failed := by
    by_cases good : stored.status = "succeeded"
    · exact absurd (derived.mp (if_neg (not_not_intro good))) failed
    · exact if_pos good
  have finished : ∃ updated, (finishJob stored 0).run rebootJob = .ok updated ∧
      updated.state = .failed := by
    rw [finishJob, state]
    exact ⟨_, rfl, rfl⟩
  obtain ⟨updated, finished, ended⟩ := finished
  exact ⟨accepted, calls, _, stored, updated, accepts, ran, stops, failed, kept, finished, ended⟩

end VpsManager.Control
