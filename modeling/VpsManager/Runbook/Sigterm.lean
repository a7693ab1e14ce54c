import VpsManager.Runbook.Remote

namespace VpsManager.Runbook

open Go Checks Shell

section Scripts

variable (host : Nat → RemoteHost) (pid : Int) (ticks : UInt64)

/-- Only the last of the preflight commands decides its status. -/
theorem sigtermPreflight_status :
    (eval (hostMachine host none) (sigtermPreflight pid ticks) 0 .initial).status =
      (host 6).external "command -v sudo >/dev/null" := by
  simp [sigtermPreflight, eval_chain, execAll, hostMachine, runCommand, ShellState.initial,
    Operand.events]

theorem sigtermEvidence_status :
    (eval (hostMachine host none) (sigtermEvidence pid) 0 .initial).status =
      (host 0).external
        ("LC_ALL=C ps -p " ++ toString pid ++ " -o pid=,ppid=,user=,stat=,etimes=,comm=") := by
  simp [sigtermEvidence, external, eval, hostMachine, runCommand, ShellState.initial]

/-- The apply script reads the start ticks as its second command and signals as
its third, whatever it read. -/
theorem sigtermApply_events (limit : Option Nat) :
    (eval (hostMachine host limit) (sigtermApply pid ticks) 0 .initial).state.events =
      (if limit.any (· ≤ 1) then [] else [.ticksRead pid ((host 1).startTicks pid)]) ++
      (if limit.any (· ≤ 2) then []
        else if (host 2).delivers pid then [.signalled pid] else []) := by
  cases limit with
  | none =>
    by_cases deliver : (host 2).delivers pid = true <;>
      simp [sigtermApply, eval_chain, execAll, hostMachine, runCommand, ShellState.initial,
        Operand.events, deliver]
  | some bound =>
    -- a session cut after no, one or two commands has run no more than those
    rcases bound with _ | _ | _ | bound
    · simp [sigtermApply, eval_chain, execAll, hostMachine, ShellState.initial]
    · simp [sigtermApply, eval_chain, execAll, hostMachine, runCommand, ShellState.initial]
    · simp [sigtermApply, eval_chain, execAll, hostMachine, runCommand, ShellState.initial,
        Operand.events]
    · by_cases deliver : (host 2).delivers pid = true <;>
        simp [sigtermApply, eval_chain, execAll, hostMachine, runCommand, ShellState.initial,
          Operand.events, deliver]

end Scripts

theorem sigterm_plan (sha256 : Bytes → Bytes) (pid : Int) (ticks : UInt64) (plan : Plan)
    (built : build sha256 "process_sigterm_v1" 1 ⟨"", "", pid, ticks⟩ = .ok plan) :
    plan.steps = sealSteps sha256 (sigtermSteps pid ticks) := by
  obtain ⟨definition, steps, known, -, success, -, same⟩ := build_inversion _ _ _ _ _ built
  obtain rfl : definitionOf .processSIGTERM = definition := Option.some.inj known
  simp only [definitionOf, buildSteps, bind_eq_ok, ensure_eq_ok, pure_eq_ok,
    Prod.mk.injEq] at success
  obtain ⟨_, _, rfl, -⟩ := success
  exact same

theorem stepPassed_iff (encounters : String → HostEncounter) (step : Step) :
    stepPassed encounters step = true ↔
      (encounters step.id).session.failure = none ∧
        (eval (hostMachine (encounters step.id).host none) step.command 0 .initial).status = 0 := by
  rw [stepPassed, runSession_passed, runScript]
  constructor
  · rintro ⟨reported, status⟩
    rw [reported] at status
    exact ⟨reported, status⟩
  · rintro ⟨reported, status⟩
    rw [reported]
    exact ⟨rfl, status⟩

section Execution

variable (encounters : String → HostEncounter) (pid : Int) (ticks : UInt64)

/-- The preflight and the evidence step pass. Of the preflight commands only the
look for `sudo` matters. -/
structure ReachesApply : Prop where
  preflight : (encounters "process-preflight").session.failure = none
  sudoFound : ((encounters "process-preflight").host 6).external "command -v sudo >/dev/null" = 0
  evidence : (encounters "process-evidence").session.failure = none
  listed : ((encounters "process-evidence").host 0).external
    ("LC_ALL=C ps -p " ++ toString pid ++ " -o pid=,ppid=,user=,stat=,etimes=,comm=") = 0

def applyEvents : List Event :=
  (eval (hostMachine (encounters "process-apply").host
    ((encounters "process-apply").session.failure.map fun _ => (encounters "process-apply").limit))
    (sigtermApply pid ticks) 0 .initial).state.events

/-- Of four steps the events of the third are in the trace exactly if the first
two pass. -/
theorem third_events_iff (canceled : Bool) (first second third fourth : Step) (event : Event)
    (notFirst : third.id ≠ first.id) (notSecond : third.id ≠ second.id)
    (notFourth : third.id ≠ fourth.id) :
    (third.id, event) ∈ (executeSteps (hostRunner encounters canceled)
        [first, second, third, fourth] []).1 ↔
      stepPassed encounters first = true ∧ stepPassed encounters second = true ∧
        event ∈ (runScript (encounters third.id) third).state.events := by
  simp only [executeSteps_trace, executeSteps_nil, List.nil_append]
  by_cases one : stepPassed encounters first = true
  · by_cases two : stepPassed encounters second = true
    · by_cases three : stepPassed encounters third = true <;>
        by_cases four : stepPassed encounters fourth = true <;>
          simp [one, two, three, four, mem_stepEvents, notFirst, notSecond, notFourth]
    · simp [one, two, mem_stepEvents, notFirst, notSecond]
  · simp [one, mem_stepEvents, notFirst]

theorem apply_events_iff (sha256 : Bytes → Bytes) (canceled : Bool) (event : Event) :
    ("process-apply", event) ∈ (executeSteps (hostRunner encounters canceled)
        (sealSteps sha256 (sigtermSteps pid ticks)) []).1 ↔
      ReachesApply encounters pid ∧ event ∈ applyEvents encounters pid ticks := by
  refine (third_events_iff encounters canceled _ _ _ _ event (by simp [newStep])
    (by simp [newStep]) (by simp [newStep])).trans ?_
  rw [stepPassed_iff, stepPassed_iff]
  constructor
  · rintro ⟨⟨preflight, sudoFound⟩, ⟨evidence, listed⟩, member⟩
    exact ⟨⟨preflight, (sigtermPreflight_status _ pid ticks).symm.trans sudoFound, evidence,
      (sigtermEvidence_status _ pid).symm.trans listed⟩, member⟩
  · rintro ⟨⟨preflight, sudoFound, evidence, listed⟩, member⟩
    exact ⟨⟨preflight, (sigtermPreflight_status _ pid ticks).trans sudoFound⟩,
      ⟨evidence, (sigtermEvidence_status _ pid).trans listed⟩, member⟩

/-- The apply session gets as far as the signal, and the signal goes through. -/
structure Delivers : Prop where
  reached : (encounters "process-apply").session.failure = none ∨
    2 < (encounters "process-apply").limit
  delivered : ((encounters "process-apply").host 2).delivers pid = true

theorem signalled_iff :
    .signalled pid ∈ applyEvents encounters pid ticks ↔ Delivers encounters pid := by
  rw [applyEvents, sigtermApply_events]
  constructor
  · intro member
    cases failed : (encounters "process-apply").session.failure with
    | none =>
      refine ⟨.inl failed, ?_⟩
      simpa [failed] using member
    | some failure =>
      by_cases short : (encounters "process-apply").limit ≤ 2
      · simp [failed, short] at member
      · refine ⟨.inr (by omega), ?_⟩
        simpa [failed, short] using member
  · rintro ⟨reached, delivered⟩
    cases failed : (encounters "process-apply").session.failure with
    | none => simp [delivered]
    | some failure =>
      have long : ¬ (encounters "process-apply").limit ≤ 2 := by
        rcases reached with impossible | bound
        · rw [failed] at impossible
          cases impossible
        · omega
      simp [long, delivered]

/-- A script that gets as far as the signal has read the start ticks once. -/
theorem ticksRead_iff (delivers : Delivers encounters pid) (actual : Option Nat) :
    .ticksRead pid actual ∈ applyEvents encounters pid ticks ↔
      ((encounters "process-apply").host 1).startTicks pid = actual := by
  rw [applyEvents, sigtermApply_events]
  have reads : ((encounters "process-apply").session.failure.map fun _ =>
      (encounters "process-apply").limit).any (· ≤ 1) = false := by
    rcases delivers.reached with reported | bound
    · simp [reported]
    · cases (encounters "process-apply").session.failure with
      | none => rfl
      | some failure =>
        simp only [Option.map_some, Option.any_some, decide_eq_false_iff_not]
        omega
  simp only [reads, Bool.false_eq_true, ↓reduceIte, List.mem_append, List.mem_singleton,
    Event.ticksRead.injEq, true_and]
  constructor
  · rintro (same | signal)
    · exact same.symm
    · split at signal
      · cases signal
      · split at signal <;> simp at signal
  · exact fun same => .inl same.symm

/-- A SIGTERM of the apply step goes to the bound process instance: the start
ticks it read are the bound ones. -/
def SignalsOnlyBound (trace : List (String × Event)) : Prop :=
  ("process-apply", .signalled pid) ∈ trace →
    ("process-apply", .ticksRead pid (some ticks.toNat)) ∈ trace

/-- The apply step signals only the bound instance exactly if, whenever it is
reached and its signal goes through, the start ticks are the bound ones when it
reads them. -/
theorem sigterm_only_bound_iff (sha256 : Bytes → Bytes) (canceled : Bool) (plan : Plan)
    (trace : List (String × Event)) (execution : Execution)
    (built : build sha256 "process_sigterm_v1" 1 ⟨"", "", pid, ticks⟩ = .ok plan)
    (ran : execute (hostRunner encounters canceled) sha256 plan [] = .ok (trace, execution)) :
    SignalsOnlyBound pid ticks trace ↔
      (ReachesApply encounters pid → Delivers encounters pid →
        ((encounters "process-apply").host 1).startTicks pid = some ticks.toNat) := by
  rw [execute_of_build _ _ _ _ _ _ _ built, sigterm_plan sha256 pid ticks plan built] at ran
  obtain rfl := (Prod.mk.inj (Except.ok.inj ran)).1
  rw [SignalsOnlyBound, apply_events_iff, apply_events_iff, signalled_iff]
  constructor
  · intro bound reaches delivers
    exact (ticksRead_iff encounters pid ticks delivers _).mp (bound ⟨reaches, delivers⟩).2
  · rintro bound ⟨reaches, delivers⟩
    exact ⟨reaches, (ticksRead_iff encounters pid ticks delivers _).mpr (bound reaches delivers)⟩

end Execution

section PIDReuse

/-- A process without anything unusual in its stat line. -/
def plainProcess (ticks : Nat) : Process where
  comm := "worker"
  middle := List.replicate 19 "0"
  startTicks := ticks
  rest := []
  middle_length := rfl
  plain := by
    intro field member
    rw [List.append_nil] at member
    rw [List.eq_of_mem_replicate member]
    refine ⟨by decide, fun c digit => ?_⟩
    rw [show "0".toList = ['0'] from rfl, List.mem_singleton] at digit
    subst digit
    decide

/-- A host on which PID 4242 is a process with the given start ticks. -/
def hostWith (ticks : Nat) : RemoteHost where
  processes pid := if pid = 4242 then some (plainProcess ticks) else none
  hasExecutable _ := true
  shellPID := 5000
  parentPID := 4999
  sudoMaySignal _ := true
  external _ := 0

/-- The bound process exits after the evidence step and its PID is taken by
another one. -/
def reusedPID (stepID : String) : HostEncounter where
  session := ⟨none, [], [], second⟩
  limit := 0
  host _ :=
    if stepID = "process-apply" ∨ stepID = "process-verify" then hostWith 200 else hostWith 100

def samePID (_ : String) : HostEncounter := ⟨⟨none, [], [], second⟩, 0, fun _ => hostWith 100⟩

def sigterm4242 (sha256 : Bytes → Bytes) : Plan where
  definition := definitionOf .processSIGTERM
  parameters := ⟨"", "", 4242, 100⟩
  steps := sealSteps sha256 (sigtermSteps 4242 100)

theorem sigterm4242_built (sha256 : Bytes → Bytes) :
    build sha256 "process_sigterm_v1" 1 ⟨"", "", 4242, 100⟩ = .ok (sigterm4242 sha256) := by
  rfl

theorem reusedPID_delivers : ReachesApply reusedPID 4242 ∧ Delivers reusedPID 4242 :=
  ⟨⟨rfl, rfl, rfl, rfl⟩, .inl rfl, rfl⟩

theorem samePID_delivers : ReachesApply samePID 4242 ∧ Delivers samePID 4242 :=
  ⟨⟨rfl, rfl, rfl, rfl⟩, .inl rfl, rfl⟩

/-- The plan bound to the first process signals the second. -/
theorem sigterm_reused_pid :
    ¬ ∃ sha256, ∀ trace execution,
      execute (hostRunner reusedPID false) sha256 (sigterm4242 sha256) [] = .ok (trace, execution) →
      SignalsOnlyBound 4242 100 trace := by
  rintro ⟨sha256, bound⟩
  obtain ⟨reaches, delivers⟩ := reusedPID_delivers
  have events := apply_events_iff reusedPID 4242 100 sha256 false
  have read := ticksRead_iff reusedPID 4242 100 delivers
  have signalled := (events _).mpr ⟨reaches, (signalled_iff reusedPID 4242 100).mpr delivers⟩
  have only := bound _ _ (execute_of_build _ _ _ _ _ _ _ (sigterm4242_built sha256)) signalled
  have actual := (read _).mp ((events _).mp only).2
  exact absurd actual (by decide)

/-- The plan signals its process when that is still there. -/
theorem sigterm_same_pid :
    ∃ trace execution,
      execute (hostRunner samePID false) id (sigterm4242 id) [] = .ok (trace, execution) ∧
      ("process-apply", .signalled 4242) ∈ trace ∧ SignalsOnlyBound 4242 100 trace := by
  obtain ⟨reaches, delivers⟩ := samePID_delivers
  have ran := execute_of_build (hostRunner samePID false) _ _ _ _ _ [] (sigterm4242_built id)
  exact ⟨_, _, ran,
    (apply_events_iff samePID 4242 100 id false _).mpr
      ⟨reaches, (signalled_iff samePID 4242 100).mpr delivers⟩,
    (sigterm_only_bound_iff samePID 4242 100 id false _ _ _ (sigterm4242_built id) ran).mpr
      fun _ _ => rfl⟩

end PIDReuse

end VpsManager.Runbook
