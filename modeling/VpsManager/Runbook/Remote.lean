import VpsManager.Runbook.Executor

/- The remote host as the scripts see it. It may change in any way between two
commands of one script, and more so between steps. -/
namespace VpsManager.Runbook

open Go Shell

def isBlank (c : Char) : Bool := c == ' ' || c == '\t'

/-- A process as `/proc/PID/stat` prints it: the command name, which may hold any
character, fields 3 to 21, the start ticks and the fields after them. -/
structure Process where
  comm : String
  middle : List String
  startTicks : Nat
  rest : List String
  middle_length : middle.length = 19
  plain : ∀ field ∈ middle ++ rest,
    field ≠ "" ∧ ∀ c ∈ field.toList, isBlank c = false ∧ c ≠ '\n'

def Process.stat (pid : Int) (process : Process) : String :=
  toString pid ++ " (" ++ process.comm ++ ") " ++
    " ".intercalate (process.middle ++ toString process.startTicks :: process.rest) ++ "\n"

/-- The records of a text: its lines, without the empty one after a final line
break. -/
def records (text : List Char) : List (List Char) :=
  let lines := text.splitOn '\n'
  if lines.getLast? = some [] then lines.dropLast else lines

/-- `awk` splits a record at runs of blanks. -/
def awkFields (record : List Char) : List (List Char) :=
  (record.splitOnP isBlank).filter fun field => !field.isEmpty

/-- What `awk '{print $22}'` prints on a text. -/
def printField22 (text : List Char) : List Char :=
  (records text).flatMap fun record => (awkFields record).getD 21 [] ++ ['\n']

/-- `$( )` drops the line breaks at the end of an output. -/
def substituted (output : List Char) : String :=
  String.ofList (output.reverse.dropWhile (· == '\n')).reverse

structure RemoteHost where
  processes : Int → Option Process
  hasExecutable : Int → Bool
  shellPID : Int
  parentPID : Int
  sudoMaySignal : Int → Bool
  external : String → Nat

/-- The output of `awk` on the stat file of a process; nothing without the file. -/
def RemoteHost.ticksText (host : RemoteHost) (pid : Int) : String :=
  match host.processes pid with
  | some process => substituted (printField22 (process.stat pid).toList)
  | none => ""

def RemoteHost.startTicks (host : RemoteHost) (pid : Int) : Option Nat :=
  (host.processes pid).map (·.startTicks)

/-- `sudo -n kill` reaches a process that is there and may be signalled. -/
def RemoteHost.delivers (host : RemoteHost) (pid : Int) : Bool :=
  host.sudoMaySignal pid && (host.processes pid).isSome

/-- What a script does that matters outside: it reads the start ticks of a
process, with what they really are then, or delivers a SIGTERM. -/
inductive Event
  | ticksRead (pid : Int) (actual : Option Nat)
  | signalled (pid : Int)
  deriving DecidableEq, Repr

structure ShellState where
  ran : Nat
  env : String → String
  events : List Event

def ShellState.initial : ShellState := ⟨0, fun _ => "", []⟩

section Operands

variable (host : RemoteHost) (last : Nat) (env : String → String)

def Operand.value : Operand → String
  | .number value => toString value
  | .quoted text => text
  | .shellPID => toString host.shellPID
  | .parentPID => toString host.parentPID
  | .lastStatus => toString last
  | .variable name => env name
  | .startTicks pid _ => host.ticksText pid

def Operand.integer : Operand → Option Int
  | .number value => some value
  | .shellPID => some host.shellPID
  | .parentPID => some host.parentPID
  | .lastStatus => some last
  | _ => none

def Operand.events : Operand → List Event
  | .startTicks pid _ => [.ticksRead pid (host.startTicks pid)]
  | _ => []

/-- The status of `test`: 2 when a number is needed and there is none. -/
def testStatus (left : Operand) (comparison : Comparison) (right : Operand) : Nat :=
  let status (holds : Bool) : Nat := if holds then 0 else 1
  let numbers (holds : Int → Int → Bool) : Nat :=
    match left.integer host last, right.integer host last with
    | some a, some b => status (holds a b)
    | _, _ => 2
  let texts (holds : String → String → Bool) : Nat :=
    status (holds (left.value host last env) (right.value host last env))
  match comparison with
  | .numbersDiffer => numbers fun a b => a != b
  | .numbersEqual => numbers fun a b => a == b
  | .textsEqual => texts fun a b => a == b
  | .textsDiffer => texts fun a b => a != b

end Operands

def runCommand (host : RemoteHost) (command : Command) (last : Nat) (state : ShellState) :
    ShellState × Nat :=
  let set (name value : String) (current : ShellState) : ShellState :=
    { current with env := fun other => if other = name then value else current.env other }
  let log (events : List Event) : ShellState := { state with events := state.events ++ events }
  match command with
  | .assign name value => (set name value state, 0)
  | .captureTicks name pid =>
    (set name (host.ticksText pid) (log [.ticksRead pid (host.startTicks pid)]), 0)
  | .test left comparison right =>
    (log (left.events host ++ right.events host),
      testStatus host last state.env left comparison right)
  | .testExecutable pid => (state, if host.hasExecutable pid then 0 else 1)
  | .terminate pid =>
    if host.delivers pid then (log [.signalled pid], 0) else (state, 1)
  | .external text => (state, host.external text)

/-- The shell over a changing host, killed after `limit` commands if there is a
limit. -/
def hostMachine (host : Nat → RemoteHost) (limit : Option Nat) : Machine Command ShellState where
  exec command last state :=
    if limit.any (· ≤ state.ran) then (state, 137)
    else
      let result := runCommand (host state.ran) command last state
      ({ result.1 with ran := state.ran + 1 }, result.2)
  bind name value state :=
    { state with env := fun other => if other = name then value else state.env other }

/-- How a step meets the host. A session that fails may leave its script cut
short at any command; one that reports a status has run all of it. -/
structure HostEncounter where
  session : Session
  limit : Nat
  host : Nat → RemoteHost

def runScript (encounter : HostEncounter) (step : Step) : Outcome ShellState :=
  eval (hostMachine encounter.host (encounter.session.failure.map fun _ => encounter.limit))
    step.command 0 .initial

/-- The runner over a host; its state is the events so far, each with the ID of
the step it came from. -/
def hostRunner (encounters : String → HostEncounter) (canceled : Bool) :
    Runner (List (String × Event)) where
  runRunbookStep trace step :=
    let outcome := runScript (encounters step.id) step
    (trace ++ outcome.state.events.map fun event => (step.id, event),
      runSession (encounters step.id).session outcome.status)
  canceled _ := canceled

def stepEvents (encounters : String → HostEncounter) (step : Step) : List (String × Event) :=
  (runScript (encounters step.id) step).state.events.map fun event => (step.id, event)

def stepPassed (encounters : String → HostEncounter) (step : Step) : Bool :=
  (runSession (encounters step.id).session (runScript (encounters step.id) step).status).passed

/-- The trace of the loop over the steps: each step adds its events, and the
first that does not pass is the last. -/
theorem executeSteps_trace (encounters : String → HostEncounter) (canceled : Bool) (step : Step)
    (rest : List Step) (trace : List (String × Event)) :
    (executeSteps (hostRunner encounters canceled) (step :: rest) trace).1 =
      if stepPassed encounters step then
        (executeSteps (hostRunner encounters canceled) rest
          (trace ++ stepEvents encounters step)).1
      else trace ++ stepEvents encounters step := by
  by_cases passed : stepPassed encounters step = true
  · simp only [executeSteps, passed, ↓reduceIte]
    unfold stepPassed at passed
    simp only [hostRunner, passed, ↓reduceIte]
    rfl
  · simp only [executeSteps, passed, Bool.false_eq_true, ↓reduceIte]
    unfold stepPassed at passed
    simp only [hostRunner, passed, Bool.false_eq_true, ↓reduceIte]
    rfl

theorem mem_stepEvents (encounters : String → HostEncounter) (step : Step) (id : String)
    (event : Event) :
    (id, event) ∈ stepEvents encounters step ↔
      id = step.id ∧ event ∈ (runScript (encounters step.id) step).state.events := by
  simp only [stepEvents, List.mem_map, Prod.mk.injEq]
  constructor
  · rintro ⟨other, member, rfl, rfl⟩
    exact ⟨rfl, member⟩
  · rintro ⟨rfl, member⟩
    exact ⟨event, member, rfl, rfl⟩

end VpsManager.Runbook
