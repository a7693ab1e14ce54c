import VpsManager.Go.Text
import VpsManager.Lib.Checks
import VpsManager.Lib.Shell

namespace VpsManager.Runbook

open Go Checks Shell

def catalogVersion : String := "2026-08-29.1"

inductive ActionID
  | capabilities
  | updateCheck
  | serviceStatus
  | serviceRestart
  | timezoneSet
  | processSIGTERM
  | hostRebootPlan
  deriving DecidableEq, Repr

def ActionID.name : ActionID → String
  | .capabilities => "system_capabilities_v1"
  | .updateCheck => "package_update_check_v1"
  | .serviceStatus => "service_status_v1"
  | .serviceRestart => "service_restart_v1"
  | .timezoneSet => "timezone_set_v1"
  | .processSIGTERM => "process_sigterm_v1"
  | .hostRebootPlan => "host_reboot_plan_v1"

inductive Service
  | nginx
  | ssh
  | docker
  | cron
  deriving DecidableEq, Repr

def Service.name : Service → String
  | .nginx => "nginx"
  | .ssh => "ssh"
  | .docker => "docker"
  | .cron => "cron"

inductive Timezone
  | utc
  | shanghai
  | newYork
  | london
  deriving DecidableEq, Repr

def Timezone.name : Timezone → String
  | .utc => "UTC"
  | .shanghai => "Asia/Shanghai"
  | .newYork => "America/New_York"
  | .london => "Europe/London"

def service? (name : String) : Option Service :=
  [Service.nginx, .ssh, .docker, .cron].find? fun service => service.name = name

def timezone? (name : String) : Option Timezone :=
  [Timezone.utc, .shanghai, .newYork, .london].find? fun timezone => timezone.name = name

/-- The parameters as a request carries them; the start ticks bind a signal to
one instance of a process. -/
structure Parameters where
  service : String
  timezone : String
  pid : Int
  processStartTicks : UInt64
  deriving DecidableEq, Repr

def Parameters.empty : Parameters := ⟨"", "", 0, 0⟩

inductive Phase
  | preflight
  | evidence
  | apply
  | verify
  deriving DecidableEq, Repr

def Phase.name : Phase → String
  | .preflight => "preflight"
  | .evidence => "evidence"
  | .apply => "apply"
  | .verify => "verify"

structure Definition where
  id : ActionID
  version : Int
  title : String
  mutating : Bool
  emergency : Bool
  retryPolicy : String
  deriving DecidableEq, Repr

def definitionOf : ActionID → Definition
  | .capabilities => ⟨.capabilities, 1, "Inspect host capabilities", false, false, "never"⟩
  | .updateCheck => ⟨.updateCheck, 1, "Inspect cached package updates", false, false, "never"⟩
  | .serviceStatus => ⟨.serviceStatus, 1, "Inspect service status", false, false, "never"⟩
  | .serviceRestart => ⟨.serviceRestart, 1, "Restart an approved service", true, true, "never"⟩
  | .timezoneSet => ⟨.timezoneSet, 1, "Set an approved timezone", true, true, "never"⟩
  | .processSIGTERM => ⟨.processSIGTERM, 1, "Send SIGTERM to a bound process", true, true, "never"⟩
  | .hostRebootPlan =>
    ⟨.hostRebootPlan, 1, "Schedule a host reboot in one minute", true, true, "never"⟩

/-- `definitions[action]`. -/
def definition? (action : String) : Option Definition :=
  ([ActionID.capabilities, .updateCheck, .serviceStatus, .serviceRestart, .timezoneSet,
    .processSIGTERM, .hostRebootPlan].find? fun id => id.name = action).map definitionOf

/-- What `test` compares. The start ticks are field 22 of the process's stat
file, as `awk` prints it. -/
inductive Operand
  | number (value : Int)
  | quoted (text : String)
  | shellPID
  | parentPID
  | lastStatus
  | variable (name : String)
  | startTicks (pid : Int) (quiet : Bool)
  deriving DecidableEq, Repr

inductive Comparison
  | numbersDiffer
  | numbersEqual
  | textsEqual
  | textsDiffer
  deriving DecidableEq, Repr

/-- The simple commands of the catalog. `external` is any program whose status
is all the script uses of it. -/
inductive Command
  | assign (name value : String)
  | captureTicks (name : String) (pid : Int)
  | test (left : Operand) (comparison : Comparison) (right : Operand)
  | testExecutable (pid : Int)
  | terminate (pid : Int)
  | external (text : String)
  deriving DecidableEq, Repr

def Operand.text : Operand → String
  | .number value => toString value
  | .quoted text => "\"" ++ text ++ "\""
  | .shellPID => "\"$$\""
  | .parentPID => "\"$PPID\""
  | .lastStatus => "\"$?\""
  | .variable name => "\"$" ++ name ++ "\""
  | .startTicks pid quiet => "\"$(awk '\x7bprint $22\x7d' /proc/" ++ toString pid ++ "/stat" ++
      (if quiet then " 2>/dev/null" else "") ++ ")\""

def Comparison.text : Comparison → String
  | .numbersDiffer => "-ne"
  | .numbersEqual => "-eq"
  | .textsEqual => "="
  | .textsDiffer => "!="

def Command.text : Command → String
  | .assign name value => name ++ "=" ++ value
  | .captureTicks name pid => name ++ "=$(awk '\x7bprint $22\x7d' /proc/" ++ toString pid ++
      "/stat 2>/dev/null || true)"
  | .test left comparison right =>
    "test " ++ left.text ++ " " ++ comparison.text ++ " " ++ right.text
  | .testExecutable pid => "test -e /proc/" ++ toString pid ++ "/exe"
  | .terminate pid => "sudo -n kill -TERM -- " ++ toString pid
  | .external text => text

def scriptText (script : Script Command) : String := render Command.text false script

structure Step where
  id : String
  phase : Phase
  description : String
  command : Script Command
  timeout : Int
  sealed : Bytes

def Step.commandText (step : Step) : String := scriptText step.command

structure Plan where
  definition : Definition
  parameters : Parameters
  steps : List Step

def newStep (id : String) (phase : Phase) (description : String) (command : Script Command)
    (timeout : Int) : Step :=
  ⟨id, phase, description, command, timeout, []⟩

def sealStep (sha256 : Bytes → Bytes) (step : Step) : Bytes :=
  sha256 (bytes ("\x00".intercalate
    [step.id, step.phase.name, step.description, step.commandText, durationString step.timeout]))

def isReviewedCatalogStep (sha256 : Bytes → Bytes) (step : Step) : Bool :=
  step.sealed = sealStep sha256 step

def external (text : String) : Script Command := .run (.external text)

def privilegePreflight (tool : String) : Script Command :=
  chain "; " (.external ("LC_ALL=C command -v " ++ tool ++ " >/dev/null"))
    [.external "command -v sudo >/dev/null", .external "sudo -n true"]

def readOnlySteps (lead description : String) (evidence : Script Command) : List Step :=
  [newStep (lead ++ "-preflight") .preflight "check basic POSIX host capability"
    (chain "; " (.external "LC_ALL=C id -u") [.external "uname -sr"]) (10 * second),
   newStep (lead ++ "-evidence") .evidence description evidence (60 * second)]

def mutatingSteps (lead : String) (evidence apply verify : Script Command) : List Step :=
  [newStep (lead ++ "-preflight") .preflight "check systemctl and non-interactive sudo"
    (privilegePreflight "systemctl") (10 * second),
   newStep (lead ++ "-evidence") .evidence "record the current approved service state" evidence
    (10 * second),
   newStep (lead ++ "-apply") .apply "apply the approved service restart once" apply (20 * second),
   newStep (lead ++ "-verify") .verify "verify the approved service is active" verify (15 * second)]

def capabilitiesCommand : Script Command :=
  .seq (.run (.assign "LC_ALL" "C")) "\n" <|
  .seq (external "printf 'init\\t'") "; " <|
  .seq (.branch (external "command -v systemctl >/dev/null") (external "printf 'systemd\\n'") "; "
    (external "printf 'unknown\\n'")) "\n" <|
  .seq (.each "tool"
    ["sudo", "systemctl", "timedatectl", "shutdown", "apt", "apt-get", "dnf", "yum", "apk"]
    (.when (external "command -v \"$tool\" >/dev/null")
      (external "printf 'tool\\t%s\\n' \"$tool\""))) "\n" <|
  .seq (external "printf 'timezone\\t'") "; " <|
  .subshell (.orElse (external "timedatectl show --property=Timezone --value 2>/dev/null")
    (external "date +%Z"))

example : scriptText capabilitiesCommand =
    "LC_ALL=C\nprintf 'init\\t'; if command -v systemctl >/dev/null; then " ++
    "printf 'systemd\\n'; else printf 'unknown\\n'; fi\nfor tool in sudo systemctl timedatectl " ++
    "shutdown apt apt-get dnf yum apk; do if command -v \"$tool\" >/dev/null; then " ++
    "printf 'tool\\t%s\\n' \"$tool\"; fi; done\nprintf 'timezone\\t'; (timedatectl show " ++
    "--property=Timezone --value 2>/dev/null || date +%Z)" := by
  decide +kernel

def checkUpdate (manager : String) : Script Command :=
  .orElse (external (manager ++ " --cacheonly --quiet check-update 2>/dev/null"))
    (.run (.test .lastStatus .numbersEqual (.number 100)))

def updateCheckCommand : Script Command :=
  .seq (.run (.assign "LC_ALL" "C")) "\n" <|
  .branch (external "command -v apt >/dev/null")
    (.orElse (external "apt list --upgradable 2>/dev/null") (external "true")) "\n" <|
  .branch (external "command -v dnf >/dev/null") (checkUpdate "dnf") "\n" <|
  .branch (external "command -v yum >/dev/null") (checkUpdate "yum") "\n" <|
  .branch (external "command -v apk >/dev/null") (external "apk version -l '<' 2>/dev/null") "\n" <|
  .seq (external "printf 'unsupported package manager\\n'") "; " (.exit 3)

example : scriptText updateCheckCommand =
    "LC_ALL=C\nif command -v apt >/dev/null; then apt list --upgradable 2>/dev/null || true\n" ++
    "elif command -v dnf >/dev/null; then dnf --cacheonly --quiet check-update 2>/dev/null || " ++
    "test \"$?\" -eq 100\nelif command -v yum >/dev/null; then yum --cacheonly --quiet " ++
    "check-update 2>/dev/null || test \"$?\" -eq 100\nelif command -v apk >/dev/null; then " ++
    "apk version -l '<' 2>/dev/null\nelse printf 'unsupported package manager\\n'; exit 3; fi" := by
  decide +kernel

def serviceStatusCommand (service : Service) : Script Command :=
  external ("LC_ALL=C systemctl show --no-pager --property=Id,Description,LoadState,ActiveState," ++
    "SubState,UnitFileState,MainPID " ++ service.name ++ ".service")

def serviceRestartApply (service : Service) : Script Command :=
  external ("LC_ALL=C sudo -n systemctl restart " ++ service.name ++ ".service")

def serviceRestartVerify (service : Service) : Script Command :=
  chain "; " (.external ("LC_ALL=C systemctl is-active --quiet " ++ service.name ++ ".service"))
    [.external ("systemctl show --no-pager --property=ActiveState,SubState,MainPID " ++
      service.name ++ ".service")]

def timezoneApply (timezone : Timezone) : Script Command :=
  external ("LC_ALL=C sudo -n timedatectl set-timezone " ++ timezone.name)

def timezoneVerify (timezone : Timezone) : Script Command :=
  external ("LC_ALL=C test \"$(timedatectl show --property=Timezone --value)\" = '" ++
    timezone.name ++ "'")

def sigtermPreflight (pid : Int) (ticks : UInt64) : Script Command :=
  chain "; " (.assign "LC_ALL" "C")
    [.test (.number pid) .numbersDiffer (.number 1),
     .test (.number pid) .numbersDiffer .shellPID,
     .test (.number pid) .numbersDiffer .parentPID,
     .testExecutable pid,
     .test (.startTicks pid false) .textsEqual (.quoted (toString ticks)),
     .external "command -v sudo >/dev/null"]

def sigtermEvidence (pid : Int) : Script Command :=
  external ("LC_ALL=C ps -p " ++ toString pid ++ " -o pid=,ppid=,user=,stat=,etimes=,comm=")

def sigtermApply (pid : Int) (ticks : UInt64) : Script Command :=
  chain "; " (.assign "LC_ALL" "C")
    [.test (.startTicks pid true) .textsEqual (.quoted (toString ticks)), .terminate pid]

def sigtermVerify (pid : Int) (ticks : UInt64) : Script Command :=
  chain "; " (.assign "LC_ALL" "C")
    [.captureTicks "current" pid,
     .test (.variable "current") .textsDiffer (.quoted (toString ticks))]

def sigtermSteps (pid : Int) (ticks : UInt64) : List Step :=
  [newStep "process-preflight" .preflight
    "reject reserved, self, kernel-thread, and stale process targets"
    (sigtermPreflight pid ticks) (10 * second),
   newStep "process-evidence" .evidence "record non-secret process identity"
    (sigtermEvidence pid) (10 * second),
   newStep "process-apply" .apply "send SIGTERM once to the bound process instance"
    (sigtermApply pid ticks) (10 * second),
   newStep "process-verify" .verify "verify the original process instance exited"
    (sigtermVerify pid ticks) (15 * second)]

example : scriptText (sigtermPreflight 4242 98765) =
    "LC_ALL=C; test 4242 -ne 1; test 4242 -ne \"$$\"; test 4242 -ne \"$PPID\"; " ++
    "test -e /proc/4242/exe; test \"$(awk '\x7bprint $22\x7d' /proc/4242/stat)\" = \"98765\"; " ++
    "command -v sudo >/dev/null" := by
  decide +kernel

example : scriptText (sigtermApply 4242 98765) =
    "LC_ALL=C; test \"$(awk '\x7bprint $22\x7d' /proc/4242/stat 2>/dev/null)\" = \"98765\"; " ++
    "sudo -n kill -TERM -- 4242" := by
  decide +kernel

example : scriptText (sigtermVerify 4242 98765) =
    "LC_ALL=C; current=$(awk '\x7bprint $22\x7d' /proc/4242/stat 2>/dev/null || true); " ++
    "test \"$current\" != \"98765\"" := by
  decide +kernel

def buildSteps (action : ActionID) (p : Parameters) : Except String (List Step × Parameters) := do
  match action with
  | .capabilities =>
    ensure (p = .empty) "capabilities does not accept parameters"
    return (readOnlySteps "capabilities" "collect supported host tools" capabilitiesCommand, p)
  | .updateCheck =>
    ensure (p = .empty) "update check does not accept parameters"
    return (readOnlySteps "updates" "inspect cached package update metadata" updateCheckCommand,
      p)
  | .serviceStatus =>
    let service ← orError (service? p.service)
      "service status requires exactly one approved service"
    ensure (p.timezone = "" ∧ p.pid = 0 ∧ p.processStartTicks = 0)
      "service status requires exactly one approved service"
    return (readOnlySteps "service-status" "inspect approved service state"
      (serviceStatusCommand service), p)
  | .serviceRestart =>
    let service ← orError (service? p.service)
      "service restart requires exactly one approved service"
    ensure (p.timezone = "" ∧ p.pid = 0 ∧ p.processStartTicks = 0)
      "service restart requires exactly one approved service"
    return (mutatingSteps "service-restart" (serviceStatusCommand service)
      (serviceRestartApply service) (serviceRestartVerify service), p)
  | .timezoneSet =>
    let timezone ← orError (timezone? p.timezone)
      "timezone set requires exactly one approved timezone"
    ensure (p.service = "" ∧ p.pid = 0 ∧ p.processStartTicks = 0)
      "timezone set requires exactly one approved timezone"
    return ([
      newStep "timezone-preflight" .preflight "check timedatectl and non-interactive sudo"
        (privilegePreflight "timedatectl") (10 * second),
      newStep "timezone-evidence" .evidence "record the current timezone"
        (external "LC_ALL=C timedatectl show --property=Timezone --value") (10 * second),
      newStep "timezone-apply" .apply "set the approved timezone" (timezoneApply timezone)
        (15 * second),
      newStep "timezone-verify" .verify "verify the selected timezone" (timezoneVerify timezone)
        (10 * second)], p)
  | .processSIGTERM =>
    ensure (¬ (p.service ≠ "" ∨ p.timezone ≠ "" ∨ p.pid < 100 ∨ p.processStartTicks = 0))
      "SIGTERM requires PID >= 100 and a positive process start tick"
    return (sigtermSteps p.pid p.processStartTicks, p)
  | .hostRebootPlan =>
    ensure (p = .empty) "host reboot plan does not accept parameters"
    return ([
      newStep "reboot-preflight" .preflight "check shutdown and non-interactive sudo"
        (privilegePreflight "shutdown") (10 * second),
      newStep "reboot-evidence" .evidence "record uptime and logged-in sessions"
        (chain "; " (.external "LC_ALL=C uptime") [.external "who"]) (10 * second),
      newStep "reboot-apply" .apply "schedule a reboot in one minute"
        (external "LC_ALL=C sudo -n shutdown -r +1 'vpsmanager approved reboot'") (10 * second),
      newStep "reboot-verify" .verify "verify a shutdown is scheduled"
        (external "LC_ALL=C shutdown --show") (10 * second)], p)

def sealSteps (sha256 : Bytes → Bytes) (steps : List Step) : List Step :=
  steps.map fun step => { step with sealed := sealStep sha256 step }

def build (sha256 : Bytes → Bytes) (action : String) (version : Int) (parameters : Parameters) :
    Except String Plan := do
  let definition ← orError (definition? action)
    "action and version are not in the runbook catalog"
  ensure (version = definition.version) "action and version are not in the runbook catalog"
  let (steps, normalized) ← buildSteps definition.id parameters
  return ⟨definition, normalized, sealSteps sha256 steps⟩

/-- A script that is a chain of commands. -/
def IsChain (script : Script Command) : Prop :=
  ∃ separator command rest, script = chain separator command rest

@[simp] theorem isChain_external (text : String) : IsChain (external text) :=
  ⟨"", .external text, [], rfl⟩

@[simp] theorem isChain_chain (separator : String) (command : Command) (rest : List Command) :
    IsChain (chain separator command rest) := ⟨separator, command, rest, rfl⟩

/-- Every preflight and verify script of the catalog is a chain. -/
theorem buildSteps_chains (action : ActionID) (p normalized : Parameters) (steps : List Step)
    (built : buildSteps action p = .ok (steps, normalized)) :
    steps ≠ [] ∧ ∀ step ∈ steps, step.phase = .preflight ∨ step.phase = .verify →
      IsChain step.command := by
  cases action with
  | capabilities | updateCheck =>
    simp only [buildSteps, bind_eq_ok, ensure_eq_ok, pure_eq_ok, Prod.mk.injEq] at built
    obtain ⟨_, _, rfl, rfl⟩ := built
    simp [readOnlySteps, newStep]
  | serviceStatus =>
    simp only [buildSteps, bind_eq_ok, ensure_eq_ok, orError_eq_ok, pure_eq_ok,
      Prod.mk.injEq] at built
    obtain ⟨service, _, _, _, rfl, rfl⟩ := built
    simp [readOnlySteps, newStep]
  | serviceRestart =>
    simp only [buildSteps, bind_eq_ok, ensure_eq_ok, orError_eq_ok, pure_eq_ok,
      Prod.mk.injEq] at built
    obtain ⟨service, _, _, _, rfl, rfl⟩ := built
    simp [mutatingSteps, newStep, privilegePreflight, serviceRestartVerify]
  | timezoneSet =>
    simp only [buildSteps, bind_eq_ok, ensure_eq_ok, orError_eq_ok, pure_eq_ok,
      Prod.mk.injEq] at built
    obtain ⟨timezone, _, _, _, rfl, rfl⟩ := built
    simp [newStep, privilegePreflight, timezoneVerify]
  | processSIGTERM =>
    simp only [buildSteps, bind_eq_ok, ensure_eq_ok, pure_eq_ok, Prod.mk.injEq] at built
    obtain ⟨_, _, rfl, rfl⟩ := built
    simp [sigtermSteps, newStep, sigtermPreflight, sigtermVerify]
  | hostRebootPlan =>
    simp only [buildSteps, bind_eq_ok, ensure_eq_ok, pure_eq_ok, Prod.mk.injEq] at built
    obtain ⟨_, _, rfl, rfl⟩ := built
    simp [newStep, privilegePreflight]

/-- An action that changes nothing has two steps, and a service at most as its
parameter. -/
theorem buildSteps_readOnly (action : ActionID) (p normalized : Parameters) (steps : List Step)
    (built : buildSteps action p = .ok (steps, normalized))
    (readOnly : (definitionOf action).mutating = false) :
    steps.length = 2 ∧ len p.service ≤ 8 ∧ p.timezone = "" ∧ p.pid = 0 ∧
      p.processStartTicks = 0 := by
  cases action with
  | capabilities | updateCheck =>
    simp only [buildSteps, bind_eq_ok, ensure_eq_ok, pure_eq_ok, Prod.mk.injEq] at built
    obtain ⟨_, rfl, rfl, rfl⟩ := built
    exact ⟨rfl, by decide, rfl, rfl, rfl⟩
  | serviceStatus =>
    simp only [buildSteps, bind_eq_ok, ensure_eq_ok, orError_eq_ok, pure_eq_ok,
      Prod.mk.injEq] at built
    obtain ⟨service, known, _, ⟨timezone, pid, ticks⟩, rfl, rfl⟩ := built
    have name : service.name = p.service := by
      simpa using List.find?_some known
    have short : ∀ service : Service, len service.name ≤ 8 := by
      intro service
      cases service <;> decide
    exact ⟨rfl, name ▸ short service, timezone, pid, ticks⟩
  | serviceRestart | timezoneSet | processSIGTERM | hostRebootPlan =>
    exact absurd readOnly (by decide)

theorem name_of_definition? {action : String} {definition : Definition}
    (known : definition? action = some definition) :
    definition = definitionOf definition.id ∧ definition.id.name = action := by
  obtain ⟨id, found, rfl⟩ := Option.map_eq_some_iff.mp known
  have name : id.name = action := by simpa using List.find?_some found
  cases id <;> exact ⟨rfl, name⟩

theorem build_inversion (sha256 : Bytes → Bytes) (action : String) (version : Int)
    (parameters : Parameters) (plan : Plan)
    (built : build sha256 action version parameters = .ok plan) :
    ∃ definition steps, definition? action = some definition ∧ version = definition.version ∧
      buildSteps definition.id parameters = .ok (steps, plan.parameters) ∧
      plan.definition = definition ∧ plan.steps = sealSteps sha256 steps := by
  simp only [build, bind_eq_ok, ensure_eq_ok, orError_eq_ok, pure_eq_ok] at built
  obtain ⟨definition, known, _, sameVersion, ⟨steps, normalized⟩, success, rfl⟩ := built
  exact ⟨definition, steps, known, sameVersion, success, rfl, rfl⟩

theorem mem_sealSteps (sha256 : Bytes → Bytes) (steps : List Step) (step : Step)
    (member : step ∈ sealSteps sha256 steps) :
    isReviewedCatalogStep sha256 step = true ∧
      ∃ bare ∈ steps, step = { bare with sealed := sealStep sha256 bare } := by
  obtain ⟨bare, inside, rfl⟩ := List.mem_map.mp member
  refine ⟨?_, bare, inside, rfl⟩
  simp [isReviewedCatalogStep, sealStep, Step.commandText]

theorem build_steps (sha256 : Bytes → Bytes) (action : String) (version : Int)
    (parameters : Parameters) (plan : Plan)
    (built : build sha256 action version parameters = .ok plan) :
    plan.steps ≠ [] ∧ (∀ step ∈ plan.steps, isReviewedCatalogStep sha256 step = true) ∧
      ∀ step ∈ plan.steps, step.phase = .preflight ∨ step.phase = .verify →
        IsChain step.command := by
  obtain ⟨definition, steps, -, -, success, -, same⟩ :=
    build_inversion sha256 action version parameters plan built
  obtain ⟨nonempty, chains⟩ := buildSteps_chains _ _ _ _ success
  rw [same]
  refine ⟨by simpa [sealSteps] using nonempty,
    fun step member => (mem_sealSteps sha256 steps step member).1, ?_⟩
  intro step member phase
  obtain ⟨-, bare, inside, rfl⟩ := mem_sealSteps sha256 steps step member
  exact chains bare inside phase

def errInvalidPlan : String := "runbook plan is not from the reviewed catalog"

def scopeDigest (sha256 : Bytes → Bytes) (hostID jobID : String) (plan : Plan) :
    Except String String := do
  ensure (plan.steps ≠ []) errInvalidPlan
  let canonical := "\n".intercalate
    [catalogVersion, plan.definition.id.name, toString plan.definition.version, hostID, jobID,
      plan.parameters.service, plan.parameters.timezone, toString plan.parameters.pid,
      toString plan.parameters.processStartTicks]
  return hex (sha256 (bytes canonical))

end VpsManager.Runbook
