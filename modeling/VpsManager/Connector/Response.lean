import Mathlib.Algebra.Order.BigOperators.Group.List
import VpsManager.Connector.Ledger
import VpsManager.Protocol.WebSsh

namespace VpsManager.Protocol

open Go

def parametersJson (parameters : Runbook.Parameters) : Json :=
  .struct [
    if parameters.service = "" then none else some ("service", .string parameters.service),
    if parameters.timezone = "" then none else some ("timezone", .string parameters.timezone),
    if parameters.pid = 0 then none else some ("pid", .ofInt parameters.pid),
    Json.nonZero "processStartTicks" parameters.processStartTicks.toNat]

def RunbookBinding.json (binding : RunbookBinding) : Json :=
  .object [
    ("action", .object [("id", .string binding.action.id),
      ("version", .ofInt binding.action.version)]),
    ("hostId", .string binding.hostID), ("jobId", .string binding.jobID),
    ("target", targetJson binding.target),
    ("pinnedHostKeySha256", .string binding.pinnedHostKeySHA256),
    ("credentialPublicKeySha256", .string binding.credentialPublicKeySHA256),
    ("parameters", parametersJson binding.parameters)]

def RunbookStepResult.json (step : RunbookStepResult) : Json :=
  .struct [some ("id", .string step.id), some ("phase", .string step.phase),
    some ("state", .string step.state), some ("stdout", .ofBytes step.stdout),
    some ("stderr", .ofBytes step.stderr), some ("exitCode", .ofInt step.exitCode),
    some ("durationMillis", .ofInt step.durationMillis),
    if step.errorCode = "" then none else some ("errorCode", .string step.errorCode)]

def RunbookExecuteResponse.json (response : RunbookExecuteResponse) : Json :=
  .object [("protocolVersion", .string response.protocolVersion),
    ("requestId", .string response.requestID), ("action", .string response.action),
    ("catalogVersion", .string response.catalogVersion), ("binding", response.binding.json),
    ("scopeDigest", .string response.scopeDigest), ("status", .string response.status),
    ("stopped", .bool response.stopped), ("retryable", .bool response.retryable),
    ("idempotentReplay", .bool response.idempotentReplay),
    ("steps", .array (response.steps.map RunbookStepResult.json))]

/-- `Client.MaxResponseBytes` where the configuration leaves it out. -/
def defaultMaxResponseBytes : Nat := 3 * 2 ^ 20

/-- The bytes an output adds to the `null` it has when it is empty. -/
def outputExtra (raw : Bytes) : Nat := base64Len raw.length - 2

/-- The parameters that are neither empty nor zero, each with its name and a comma. -/
def parametersLen (parameters : Runbook.Parameters) : Nat :=
  ((if parameters.service = "" then 0 else Json.escapedLen parameters.service + 13) +
    (if parameters.timezone = "" then 0 else Json.escapedLen parameters.timezone + 14) +
    (if parameters.pid = 0 then 0 else len (toString parameters.pid) + 7) +
    (if parameters.processStartTicks = 0 then 0
      else len (toString parameters.processStartTicks.toNat) + 21)) - 1 + 2

def bindingLen (binding : RunbookBinding) : Nat :=
  Json.escapedLen binding.action.id + len (toString binding.action.version) +
    Json.escapedLen binding.hostID + Json.escapedLen binding.jobID +
    Json.escapedLen binding.target.address + len (toString binding.target.port) +
    Json.escapedLen binding.target.user + Json.escapedLen binding.pinnedHostKeySHA256 +
    Json.escapedLen binding.credentialPublicKeySHA256 + parametersLen binding.parameters + 166

theorem size_parametersJson (parameters : Runbook.Parameters) :
    (parametersJson parameters).size = parametersLen parameters := by
  have service : Json.escapedLen "service" = 7 := rfl
  have timezone : Json.escapedLen "timezone" = 8 := rfl
  have pid : Json.escapedLen "pid" = 3 := rfl
  have ticks : Json.escapedLen "processStartTicks" = 17 := rfl
  have zero : parameters.processStartTicks.toNat = 0 ↔ parameters.processStartTicks = 0 :=
    UInt64.toNat_inj (b := 0)
  rw [parametersJson, Json.size_struct, parametersLen]
  simp only [Json.nonZero, zero, List.map_cons, List.map_nil, List.sum_cons, List.sum_nil]
  split_ifs <;>
    simp only [Json.memberLen, Json.size, Json.ofInt, Json.ofNat, service, timezone, pid, ticks] <;>
    omega

theorem RunbookBinding.size_json (binding : RunbookBinding) :
    binding.json.size = bindingLen binding := by
  rw [bindingLen, ← size_parametersJson]
  change 6 + 3 + (2 + 3 + (Json.escapedLen binding.action.id + 2) + 1 +
      (7 + 3 + len (toString binding.action.version)) + 2) + 1 +
    (6 + 3 + (Json.escapedLen binding.hostID + 2) + 1 +
    (5 + 3 + (Json.escapedLen binding.jobID + 2) + 1 +
    (6 + 3 + (7 + 3 + (Json.escapedLen binding.target.address + 2) + 1 +
      (4 + 3 + len (toString binding.target.port) + 1 +
      (4 + 3 + (Json.escapedLen binding.target.user + 2))) + 2) + 1 +
    (19 + 3 + (Json.escapedLen binding.pinnedHostKeySHA256 + 2) + 1 +
    (25 + 3 + (Json.escapedLen binding.credentialPublicKeySHA256 + 2) + 1 +
    (10 + 3 + (parametersJson binding.parameters).size)))))) + 2 = _
  omega

theorem RunbookStepResult.size_json (step : RunbookStepResult) (clean : step.errorCode = "") :
    step.json.size = Json.escapedLen step.id + Json.escapedLen step.phase +
      Json.escapedLen step.state + len (toString step.exitCode) +
      len (toString step.durationMillis) + outputExtra step.stdout + outputExtra step.stderr +
      89 := by
  simp only [json, clean, ↓reduceIte]
  change 2 + 3 + (Json.escapedLen step.id + 2) + 1 +
    (5 + 3 + (Json.escapedLen step.phase + 2) + 1 +
    (5 + 3 + (Json.escapedLen step.state + 2) + 1 + (6 + 3 + (Json.ofBytes step.stdout).size + 1 +
    (6 + 3 + (Json.ofBytes step.stderr).size + 1 + (8 + 3 + len (toString step.exitCode) + 1 +
    (14 + 3 + len (toString step.durationMillis))))))) + 2 = _
  rw [Json.size_ofBytes, Json.size_ofBytes, outputExtra, outputExtra]
  omega

theorem RunbookExecuteResponse.size_json (response : RunbookExecuteResponse) :
    response.json.size = Json.escapedLen response.protocolVersion +
      Json.escapedLen response.requestID + Json.escapedLen response.action +
      Json.escapedLen response.catalogVersion + bindingLen response.binding +
      Json.escapedLen response.scopeDigest + Json.escapedLen response.status +
      (Json.bool response.stopped).size + (Json.bool response.retryable).size +
      (Json.bool response.idempotentReplay).size +
      Json.sizeItems (response.steps.map RunbookStepResult.json) + 164 := by
  rw [← response.binding.size_json]
  change 15 + 3 + (Json.escapedLen response.protocolVersion + 2) + 1 +
    (9 + 3 + (Json.escapedLen response.requestID + 2) + 1 +
    (6 + 3 + (Json.escapedLen response.action + 2) + 1 +
    (14 + 3 + (Json.escapedLen response.catalogVersion + 2) + 1 +
    (7 + 3 + response.binding.json.size + 1 +
    (11 + 3 + (Json.escapedLen response.scopeDigest + 2) + 1 +
    (6 + 3 + (Json.escapedLen response.status + 2) + 1 +
    (7 + 3 + (Json.bool response.stopped).size + 1 +
    (9 + 3 + (Json.bool response.retryable).size + 1 +
    (16 + 3 + (Json.bool response.idempotentReplay).size + 1 +
    (5 + 3 + (Json.sizeItems (response.steps.map RunbookStepResult.json) + 2))))))))))) + 2 = _
  omega

end VpsManager.Protocol

namespace VpsManager.Connector

open Go Checks Protocol

def defaultOutputLimit : Int := 2 ^ 20

def newRequestID (random : Option Bytes) : String := random.elim "request-id-unavailable" hex

/-- `writeJSON` ends the text with a line break. -/
def writeJSON (response : RunbookExecuteResponse) : String := response.json.encode ++ "\n"

/-- `Client.do` does not refuse the response for its length. -/
def Readable (response : RunbookExecuteResponse) : Prop :=
  len (writeJSON response) ≤ defaultMaxResponseBytes

theorem len_writeJSON (response : RunbookExecuteResponse) :
    len (writeJSON response) = response.json.size + 1 := by
  rw [writeJSON, len_append, Json.len_encode]
  rfl

/-- The executor ran the plan to its end, each step with its output within the
limit. Durations are 64-bit. -/
structure Completed (handler : Handler) (accepted : Accepted) (execution : Runbook.Execution) :
    Prop where
  ran : ∃ (σ : Type) (runner : Runbook.Runner σ) (state after : σ),
    Runbook.execute runner handler.sha256 accepted.plan state = .ok (after, execution)
  succeeded : execution.status = .succeeded
  outputs : ∀ result ∈ execution.steps,
    ((result.stdout.length + result.stderr.length : Nat) : Int) ≤ handler.outputLimit
  durations : ∀ result ∈ execution.steps, result.duration.natAbs ≤ 2 ^ 63

variable {handler : Handler} {accepted : Accepted} {execution : Runbook.Execution}
  {sha256 : Bytes → Bytes} {result : Runbook.StepResult} {random : Option Bytes}

theorem Completed.passed (completed : Completed handler accepted execution) :
    execution.stopped = false ∧
      List.Forall₂ Runbook.StepResult.Passed accepted.plan.steps execution.steps := by
  obtain ⟨σ, runner, state, after, ran⟩ := completed.ran
  simp only [Runbook.execute, bind_eq_ok, ensure_eq_ok, pure_eq_ok, Prod.mk.injEq] at ran
  obtain ⟨_, -, _, -, rfl, rfl⟩ := ran
  have finished := completed.succeeded
  have ended : (Runbook.executeSteps runner accepted.plan.steps state).2.2 = false := by
    by_contra stopped
    rw [Bool.not_eq_false] at stopped
    simp [stopped] at finished
  exact ⟨ended, Runbook.executeSteps_passed runner _ state ended⟩

def stepMessage (step : Runbook.StepResult) : RunbookStepResult where
  id := step.id
  phase := step.phase.name
  state := step.state.name
  stdout := step.stdout
  stderr := step.stderr
  exitCode := step.exitCode
  durationMillis := step.duration.tdiv 1000000
  errorCode := step.errorCode

/-- The steps of an action without what an execution adds: their IDs and phases, and 100
bytes for the rest of each. -/
def stepFrames : Runbook.ActionID → Nat
  | .capabilities => 260
  | .updateCheck => 250
  | .serviceStatus => 264
  | .serviceRestart => 520
  | .timezoneSet => 492
  | .processSIGTERM => 488
  | .hostRebootPlan => 484

/-- What the execution of a step adds. -/
def resultLen (result : Runbook.StepResult) : Nat :=
  len (toString (result.duration.tdiv 1000000)) + outputExtra result.stdout +
    outputExtra result.stderr

/-- The length of the response to a runbook whose steps all passed. -/
def responseLen (requestID : String) (action : Runbook.ActionID) (binding : RunbookBinding)
    (results : List Runbook.StepResult) : Nat :=
  len requestID + bindingLen binding + stepFrames action + (results.map resultLen).sum + 284

def frameLen (step : Runbook.Step) : Nat :=
  Json.escapedLen step.id + Json.escapedLen step.phase.name + 100

theorem stepFrames_of_buildSteps {action : Runbook.ActionID} {p normalized : Runbook.Parameters}
    {steps : List Runbook.Step} (built : Runbook.buildSteps action p = .ok (steps, normalized)) :
    (steps.map frameLen).sum = stepFrames action := by
  cases action with
  | capabilities | updateCheck | hostRebootPlan =>
    simp only [Runbook.buildSteps, bind_eq_ok, ensure_eq_ok, pure_eq_ok, Prod.mk.injEq] at built
    obtain ⟨_, _, rfl, rfl⟩ := built
    rfl
  | processSIGTERM =>
    simp only [Runbook.buildSteps, bind_eq_ok, ensure_eq_ok, pure_eq_ok, Prod.mk.injEq] at built
    obtain ⟨_, _, rfl, rfl⟩ := built
    simp only [Runbook.sigtermSteps, Runbook.newStep, List.map_cons, List.map_nil, frameLen]
    rfl
  | serviceStatus | serviceRestart | timezoneSet =>
    simp only [Runbook.buildSteps, bind_eq_ok, ensure_eq_ok, orError_eq_ok, pure_eq_ok,
      Prod.mk.injEq] at built
    obtain ⟨_, _, _, _, rfl, rfl⟩ := built
    simp only [Runbook.readOnlySteps, Runbook.mutatingSteps, Runbook.newStep, List.map_cons,
      List.map_nil, frameLen]
    rfl

theorem stepMessage_size {step : Runbook.Step} (passed : Runbook.StepResult.Passed step result) :
    (stepMessage result).json.size + 1 = frameLen step + resultLen result := by
  have state : Json.escapedLen Runbook.StepState.succeeded.name = 9 := by decide
  have exit : len (toString (0 : Int)) = 1 := rfl
  rw [RunbookStepResult.size_json _ passed.errorCode]
  simp only [stepMessage, passed.id, passed.phase, passed.state, passed.exitCode, frameLen,
    resultLen]
  omega

theorem stepMessages_size {steps : List Runbook.Step} {results : List Runbook.StepResult}
    (passed : List.Forall₂ Runbook.StepResult.Passed steps results) :
    (results.map fun result => (stepMessage result).json.size + 1).sum =
      (steps.map frameLen).sum + (results.map resultLen).sum := by
  induction passed with
  | nil => rfl
  | cons one _ ih =>
    simp only [List.map_cons, List.sum_cons, ih, stepMessage_size one]
    omega

theorem escapedLen_newRequestID (random : Option Bytes) :
    Json.escapedLen (newRequestID random) = len (newRequestID random) := by
  cases random with
  | none => rfl
  | some value => rw [newRequestID, Option.elim, Json.escapedLen_hex, len_hex]

theorem len_response {payload : RunbookExecuteRequest} {now : Int}
    (digests : ∀ data, (handler.sha256 data).length = 32)
    (accepts : acceptExecute handler (.ok payload) now = .ok accepted)
    (completed : Completed handler accepted execution) :
    len (writeJSON (executeResponse (newRequestID random) accepted (.ok execution))) =
      responseLen (newRequestID random) accepted.plan.definition.id accepted.binding
        execution.steps := by
  obtain ⟨-, -, -, planned, canonical, digest⟩ := buildBoundPlan_ok (acceptExecute_planned accepts)
  obtain ⟨definition, steps, known, -, success, same, sealed⟩ :=
    Runbook.build_inversion _ _ _ _ _ planned
  obtain ⟨stopped, passed⟩ := completed.passed
  have frames : (accepted.plan.steps.map frameLen).sum = stepFrames definition.id := by
    rw [sealed, Runbook.sealSteps, List.map_map, ← stepFrames_of_buildSteps success]
    rfl
  have messages : ((executeResponse (newRequestID random) accepted (.ok execution)).steps.map
      RunbookStepResult.json) = execution.steps.map fun step => (stepMessage step).json :=
    List.map_map
  have sum := stepMessages_size passed
  have items := Json.sizeItems_eq (execution.steps.map fun step => (stepMessage step).json)
  rw [List.map_map] at items
  simp only [Function.comp_def] at items
  have version : Json.escapedLen protocolVersion = 2 := rfl
  have action : Json.escapedLen "runbook_execute_v1" = 18 := rfl
  have catalog : Json.escapedLen Runbook.catalogVersion = 12 := rfl
  have negative : (Json.bool false).size = 5 := rfl
  have status : Json.escapedLen execution.status.name = 9 := by
    rw [completed.succeeded]
    rfl
  have digestLen : Json.escapedLen accepted.digest = 64 := by
    rw [digest, Json.escapedLen_hex, digests]
  have some : 100 ≤ stepFrames definition.id := by cases definition.id <;> decide
  rw [len_writeJSON, RunbookExecuteResponse.size_json, messages, responseLen, same]
  change Json.escapedLen protocolVersion + Json.escapedLen (newRequestID random) +
    Json.escapedLen "runbook_execute_v1" + Json.escapedLen Runbook.catalogVersion +
    bindingLen accepted.binding + Json.escapedLen accepted.digest +
    Json.escapedLen execution.status.name + (Json.bool execution.stopped).size +
    (Json.bool false).size + (Json.bool false).size + _ + 164 + 1 = _
  rw [stopped, escapedLen_newRequestID]
  omega

theorem parametersLen_le {p : Runbook.Parameters} (service : len p.service ≤ 8)
    (timezone : p.timezone = "") (pid : p.pid = 0) (ticks : p.processStartTicks = 0) :
    parametersLen p ≤ 62 := by
  have escaped := Json.escapedLen_le p.service
  rw [parametersLen, if_pos timezone, if_pos pid, if_pos ticks]
  split_ifs <;> omega

theorem bindingLen_le {version digest : String} {binding : RunbookBinding} {plan : Runbook.Plan}
    (built : buildBoundPlan sha256 version binding = .ok (plan, digest))
    (readOnly : plan.definition.mutating = false) :
    bindingLen binding ≤ 6000 ∧ plan.steps.length = 2 := by
  obtain ⟨host, job, target, planned, -⟩ := buildBoundPlan_ok built
  obtain ⟨definition, steps, known, sameVersion, success, same, sealed⟩ :=
    Runbook.build_inversion _ _ _ _ _ planned
  obtain ⟨catalogued, name⟩ := Runbook.name_of_definition? known
  rw [same, catalogued] at readOnly
  obtain ⟨two, service, timezone, pid, ticks⟩ :=
    Runbook.buildSteps_readOnly _ _ _ _ success readOnly
  have parameters := parametersLen_le service timezone pid ticks
  have actionLen : len binding.action.id ≤ 32 := by
    rw [← name]
    cases definition.id <;> decide
  have versionLen : len (toString binding.action.version) = 1 := by
    rw [sameVersion, catalogued]
    cases definition.id <;> rfl
  simp only [validIdentifier, Bool.and_eq_true, decide_eq_true_eq] at host job
  simp only [validateBoundTarget, validSSHFingerprint, bind_eq_ok, ensure_eq_ok, Bool.and_eq_true,
    decide_eq_true_eq] at target
  obtain ⟨_, ⟨-, -, address, low, high, -, -, user, pinned, credential⟩, -⟩ := target
  have portLen := Json.len_toString_int_le binding.target.port 5 (by decide) (by omega)
  have action := Json.escapedLen_le binding.action.id
  have hostID := Json.escapedLen_le binding.hostID
  have jobID := Json.escapedLen_le binding.jobID
  have addressText := Json.escapedLen_le binding.target.address
  have userText := Json.escapedLen_le binding.target.user
  have pinnedText := Json.escapedLen_le binding.pinnedHostKeySHA256
  have credentialText := Json.escapedLen_le binding.credentialPublicKeySHA256
  constructor
  · rw [bindingLen]
    omega
  · rw [sealed, Runbook.sealSteps, List.length_map, two]

theorem resultLen_le (within : result.stdout.length + result.stderr.length ≤ 2 ^ 20)
    (duration : result.duration.natAbs ≤ 2 ^ 63) : resultLen result ≤ 1398121 := by
  have millis : len (toString (result.duration.tdiv 1000000)) ≤ 14 := by
    apply Json.len_toString_int_le _ 13 (by decide)
    rw [Int.natAbs_tdiv]
    have bound : result.duration.natAbs / 1000000 ≤ 2 ^ 63 / 1000000 :=
      Nat.div_le_div_right duration
    exact lt_of_le_of_lt bound (by decide)
  simp only [resultLen, outputExtra, base64Len]
  omega

theorem newRequestID_len (sixteen : ∀ value ∈ random, value.length = 16) :
    len (newRequestID random) ≤ 32 := by
  cases random with
  | none => decide
  | some value =>
    rw [newRequestID, Option.elim, len_hex, sixteen value rfl]

/-- Two steps at the limit leave room for all the rest. -/
theorem responseLen_of_readOnly {payload : RunbookExecuteRequest} {now : Int}
    (defaults : handler.outputLimit = defaultOutputLimit)
    (sixteen : ∀ value ∈ random, value.length = 16)
    (accepts : acceptExecute handler (.ok payload) now = .ok accepted)
    (completed : Completed handler accepted execution)
    (readOnly : accepted.plan.definition.mutating = false) :
    responseLen (newRequestID random) accepted.plan.definition.id accepted.binding
      execution.steps ≤ defaultMaxResponseBytes := by
  obtain ⟨binding, two⟩ := bindingLen_le (acceptExecute_planned accepts) readOnly
  have length := completed.passed.2.length_eq
  rw [two] at length
  have results : (execution.steps.map resultLen).sum ≤ 2 * 1398121 := by
    refine (List.sum_le_card_nsmul _ 1398121 ?_).trans_eq (by simp [← length])
    rw [List.forall_mem_map]
    intro result member
    have within := completed.outputs result member
    rw [defaults, defaultOutputLimit] at within
    exact resultLen_le (by exact_mod_cast within) (completed.durations result member)
  have requestID := newRequestID_len sixteen
  have frames : stepFrames accepted.plan.definition.id ≤ 520 := by
    cases accepted.plan.definition.id <;> decide
  rw [responseLen, defaultMaxResponseBytes]
  omega

/-- The client reads the response to a completed runbook as long as the fields of the
request, the durations and the base64 of the outputs leave it within the limit. For an
action that changes nothing on the host they always do. -/
theorem completed_readable_iff {handler : Handler} {payload : RunbookExecuteRequest} {now : Int}
    {accepted : Accepted} {execution : Runbook.Execution} {random : Option Bytes}
    (defaults : handler.outputLimit = defaultOutputLimit)
    (digests : ∀ data, (handler.sha256 data).length = 32)
    (sixteen : ∀ value ∈ random, value.length = 16)
    (accepts : acceptExecute handler (.ok payload) now = .ok accepted)
    (completed : Completed handler accepted execution) :
    (Readable (executeResponse (newRequestID random) accepted (.ok execution)) ↔
      responseLen (newRequestID random) accepted.plan.definition.id payload.binding
        execution.steps ≤ defaultMaxResponseBytes) ∧
    (accepted.plan.definition.mutating = false →
      Readable (executeResponse (newRequestID random) accepted (.ok execution))) := by
  have length := @len_response _ _ _ random _ _ digests accepts completed
  constructor
  · rw [Readable, length, acceptExecute_binding accepts]
  · intro readOnly
    rw [Readable, length]
    exact responseLen_of_readOnly defaults sixteen accepts completed readOnly

def defaultHandler (sha256 : Bytes → Bytes) : Handler :=
  { smallHandler sha256 with mutationsEnabled := true, outputLimit := defaultOutputLimit }

def sampleBinding (action : Runbook.ActionID) : RunbookBinding :=
  { capabilitiesBinding "job_1" with action := ⟨action.name, 1⟩ }

/-- A request for an action without parameters, approved at the epoch for five
minutes. -/
def sampleRequest (sha256 : Bytes → Bytes) (action : Runbook.ActionID) : RunbookExecuteRequest :=
  { approvedRequest sha256 "job_1" with
    binding := sampleBinding action
    approval := {
      (approvedRequest sha256 "job_1").approval with
      action := ⟨action.name, 1⟩
      scopeDigest := boundDigest sha256 (sampleBinding action) }
    emergency :=
      if (Runbook.definitionOf action).emergency then ⟨"incident_1", 5 * minute⟩
      else noEmergencyGrant }

theorem sampleRequest_accepted (sha256 : Bytes → Bytes) (action : Runbook.ActionID)
    (plan : Runbook.Plan) (built : Runbook.build sha256 action.name 1 .empty = .ok plan)
    (definition : plan.definition = Runbook.definitionOf action) :
    ∃ accepted, acceptExecute (defaultHandler sha256) (.ok (sampleRequest sha256 action)) 0 =
      .ok accepted ∧ accepted.plan = plan := by
  obtain ⟨nonempty, -, -⟩ := Runbook.build_steps _ _ _ _ _ built
  have ids : validIdentifier "host_1" 128 = true ∧ validIdentifier "job_1" 128 = true ∧
      validIdentifier "incident_1" 128 = true := by decide +kernel
  obtain ⟨base, digested⟩ : ∃ base,
      Runbook.scopeDigest sha256 "host_1" "job_1" plan = .ok base := by
    simp only [Runbook.scopeDigest, bind_eq_ok, ensure_eq_ok, pure_eq_ok]
    exact ⟨_, (), nonempty, rfl⟩
  obtain ⟨digest, bound⟩ : ∃ digest, buildBoundPlan sha256 protocolVersion
      (sampleBinding action) = .ok (plan, digest) := by
    simp only [buildBoundPlan, bind_eq_ok, ensure_eq_ok, pure_eq_ok]
    exact ⟨_, (), ⟨trivial, ids.1, ids.2.1⟩, (), capabilities_target "job_1", plan, built, base,
      digested, rfl⟩
  have sameDigest : boundDigest sha256 (sampleBinding action) = digest := by
    rw [boundDigest, bound]
    rfl
  have times : (0 : Int) ≠ zeroTime ∧ 5 * minute ≠ zeroTime ∧ (0 : Int) ≤ 0 + 30 * second ∧
      0 - maxApprovalLifetime ≤ 0 ∧ 0 < 5 * minute ∧ 5 * minute ≤ 0 + maxApprovalLifetime ∧
      5 * minute ≤ 0 + maxEmergencyLifetime := by decide +kernel
  obtain ⟨present, ends, fresh, recent, open', short, emergency⟩ := times
  have reason : validReason "routine inspection" = true := by decide +kernel
  have grant : validateEmergency (sampleRequest sha256 action).emergency
      (Runbook.definitionOf action).emergency 0 = .ok () := by
    cases urgent : (Runbook.definitionOf action).emergency with
    | false =>
      simp only [sampleRequest, urgent]
      rfl
    | true =>
      simp only [sampleRequest, urgent, validateEmergency, ↓reduceIte, ensure_eq_ok]
      exact ⟨ids.2.2, ends, open', emergency⟩
  have approved : validateApproval (sampleRequest sha256 action) plan.definition digest 0 =
      .ok () := by
    rw [definition]
    simp only [validateApproval, bind_eq_ok, ensure_eq_ok]
    refine ⟨(), ⟨rfl, rfl, rfl, rfl, ?_⟩, (), ⟨present, ends, fresh, recent, open', short⟩, (),
      reason, grant⟩
    simp only [sampleRequest]
    exact sameDigest
  have material : validateRunbookSSHMaterial (defaultHandler sha256).library
      (sampleRequest sha256 action) = .ok (Ssh.firstKey.key, Ssh.secondKey.key) :=
    sampleMaterial_valid sha256 "job_1"
  obtain ⟨accepted, done, same, -⟩ := @acceptExecute_of (defaultHandler sha256)
    (sampleRequest sha256 action) 0 plan digest _ _ bound (.inr rfl) approved material
  refine ⟨accepted, done, ?_⟩
  have planned := acceptExecute_planned done
  rw [same] at planned
  exact congrArg Prod.fst (Except.ok.inj (planned.symm.trans bound))

def steadyRunner (stdout : Bytes) : Runbook.Runner Unit where
  runRunbookStep state _ := (state, ⟨⟨stdout, [], 0, second⟩, none, second⟩)
  canceled _ := false

def steadyResult (stdout : Bytes) (step : Runbook.Step) : Runbook.StepResult :=
  ⟨step.id, step.phase, .succeeded, stdout, [], 0, second, ""⟩

theorem executeSteps_steady (stdout : Bytes) (steps : List Runbook.Step) :
    Runbook.executeSteps (steadyRunner stdout) steps () =
      ((), steps.map (steadyResult stdout), false) := by
  induction steps with
  | nil => rfl
  | cons step rest ih =>
    rw [Runbook.executeSteps]
    simp only [steadyRunner] at ih ⊢
    rw [ih]
    rfl

theorem resultLen_steady (stdout : Bytes) (steps : List Runbook.Step) :
    ((steps.map (steadyResult stdout)).map resultLen).sum =
      steps.length * (4 + outputExtra stdout) := by
  have millis : len (toString (second.tdiv 1000000)) = 4 := by decide +kernel
  have one (step : Runbook.Step) :
      resultLen (steadyResult stdout step) = 4 + outputExtra stdout := by
    have silent : outputExtra [] = 0 := rfl
    rw [resultLen, steadyResult, millis, silent, Nat.add_zero]
  simp only [List.map_map, Function.comp_def, one, List.map_const', List.sum_replicate_nat]

theorem steady_completed (stdout : Bytes) {action : Runbook.ActionID}
    (built : Runbook.build sha256 action.name 1 .empty = .ok accepted.plan)
    (within : stdout.length ≤ 2 ^ 20) :
    Completed (defaultHandler sha256) accepted
      ⟨.succeeded, accepted.plan.steps.map (steadyResult stdout), false⟩ where
  ran := by
    refine ⟨Unit, steadyRunner stdout, (), (), ?_⟩
    have ran := Runbook.execute_of_build (steadyRunner stdout) sha256 _ _ _ _ () built
    rwa [executeSteps_steady] at ran
  succeeded := rfl
  outputs := by
    rw [List.forall_mem_map]
    intro step _
    exact Int.ofNat_le.mpr within
  durations := by
    rw [List.forall_mem_map]
    intro step _
    change second.natAbs ≤ 2 ^ 63
    decide

theorem reboot_accepted : ∃ accepted,
    acceptExecute (defaultHandler fun _ => List.replicate 32 0)
      (.ok (sampleRequest (fun _ => List.replicate 32 0) .hostRebootPlan)) 0 = .ok accepted ∧
    Runbook.build (fun _ => List.replicate 32 0) Runbook.ActionID.hostRebootPlan.name 1 .empty =
      .ok accepted.plan ∧ accepted.plan.definition = Runbook.definitionOf .hostRebootPlan ∧
    accepted.plan.steps.length = 4 := by
  obtain ⟨plan, built, definition, four⟩ : ∃ plan,
      Runbook.build (fun _ => List.replicate 32 0) Runbook.ActionID.hostRebootPlan.name 1 .empty =
        .ok plan ∧ plan.definition = Runbook.definitionOf .hostRebootPlan ∧
        plan.steps.length = 4 := ⟨_, rfl, rfl, rfl⟩
  obtain ⟨accepted, accepts, rfl⟩ := sampleRequest_accepted _ .hostRebootPlan plan built definition
  exact ⟨accepted, accepts, built, definition, four⟩

/-- A host that fills the limit in both steps is read when its capabilities are asked
for, and one that writes half as much in each step when it is rebooted. -/
theorem half_reboot_readable :
    (∃ accepted execution,
      acceptExecute (defaultHandler fun _ => List.replicate 32 0)
        (.ok (sampleRequest (fun _ => List.replicate 32 0) .capabilities)) 0 = .ok accepted ∧
      (∀ step ∈ execution.steps, step.stdout.length = 2 ^ 20) ∧
      Readable (executeResponse (newRequestID none) accepted (.ok execution))) ∧
    ∃ accepted execution,
      acceptExecute (defaultHandler fun _ => List.replicate 32 0)
        (.ok (sampleRequest (fun _ => List.replicate 32 0) .hostRebootPlan)) 0 = .ok accepted ∧
      (∀ step ∈ execution.steps, step.stdout.length = 2 ^ 19) ∧
      Readable (executeResponse (newRequestID none) accepted (.ok execution)) := by
  constructor
  · obtain ⟨plan, built, definition⟩ : ∃ plan,
        Runbook.build (fun _ => List.replicate 32 0) Runbook.ActionID.capabilities.name 1 .empty =
          .ok plan ∧ plan.definition = Runbook.definitionOf .capabilities := ⟨_, rfl, rfl⟩
    obtain ⟨accepted, accepts, rfl⟩ := sampleRequest_accepted _ .capabilities plan built definition
    have full : (List.replicate (2 ^ 20) (0 : UInt8)).length = 2 ^ 20 := List.length_replicate
    have completed := steady_completed (List.replicate (2 ^ 20) 0) built full.le
    refine ⟨accepted, _, accepts, ?_, (completed_readable_iff rfl (fun _ => List.length_replicate)
      (by simp) accepts completed).2 ?_⟩
    · rw [List.forall_mem_map]
      exact fun _ _ => full
    · rw [definition]
      rfl
  · obtain ⟨accepted, accepts, built, definition, four⟩ := reboot_accepted
    have half : (List.replicate (2 ^ 19) (0 : UInt8)).length = 2 ^ 19 := List.length_replicate
    have completed := steady_completed (List.replicate (2 ^ 19) 0) built (half.trans_le (by decide))
    refine ⟨accepted, _, accepts, ?_, (completed_readable_iff rfl (fun _ => List.length_replicate)
      (by simp) accepts completed).1.mpr ?_⟩
    · rw [List.forall_mem_map]
      exact fun _ _ => half
    · have fields : bindingLen (sampleBinding .hostRebootPlan) ≤ 400 := by decide +kernel
      have requestID : len (newRequestID none) = 22 := rfl
      have frames : stepFrames accepted.plan.definition.id = 484 := by rw [definition]; rfl
      have same : (sampleRequest (fun _ => List.replicate 32 0) .hostRebootPlan).binding =
        sampleBinding .hostRebootPlan := rfl
      rw [responseLen, resultLen_steady, four, outputExtra, half, base64Len, requestID, frames,
        same, defaultMaxResponseBytes]
      generalize bindingLen (sampleBinding .hostRebootPlan) = binding at fields ⊢
      omega

/-- A reboot of a host that fills the limit is not, although each of its steps passed. -/
theorem reboot_unreadable :
    ∃ accepted execution,
      acceptExecute (defaultHandler fun _ => List.replicate 32 0)
        (.ok (sampleRequest (fun _ => List.replicate 32 0) .hostRebootPlan)) 0 = .ok accepted ∧
      Completed (defaultHandler fun _ => List.replicate 32 0) accepted execution ∧
      (∀ step ∈ execution.steps, step.stdout.length = 2 ^ 20) ∧
      ¬ Readable (executeResponse (newRequestID none) accepted (.ok execution)) := by
  obtain ⟨accepted, accepts, built, -, four⟩ := reboot_accepted
  have full : (List.replicate (2 ^ 20) (0 : UInt8)).length = 2 ^ 20 := List.length_replicate
  have completed := steady_completed (List.replicate (2 ^ 20) 0) built full.le
  refine ⟨accepted, _, accepts, completed, ?_, ?_⟩
  · rw [List.forall_mem_map]
    exact fun _ _ => full
  · rw [Readable, len_response (fun _ => List.length_replicate) accepts completed, responseLen,
      resultLen_steady, four, outputExtra, full, base64Len, defaultMaxResponseBytes]
    omega

end VpsManager.Connector
