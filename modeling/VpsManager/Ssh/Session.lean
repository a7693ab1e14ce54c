import VpsManager.Go.Text
import VpsManager.Lib.Machine

namespace VpsManager.Ssh.Session

open Go Machine

/-- The limit of a session for what is configured. -/
def maxOutputBytes (configured : Int) : Int := if configured ≤ 0 then 1048576 else configured

inductive Output
  | stdout
  | stderr
  deriving DecidableEq, Repr

/-- `outputBudget`: what may still be kept, and whether its channel is closed. -/
structure Budget where
  remaining : Int
  exceeded : Bool
  deriving DecidableEq, Repr

/-- Where the copier of a stream is. `Write` reserves under the lock of the budget, appends
under the lock of its buffer and then signals an overflow and returns. -/
inductive Stage
  | reading
  | holding (p : Bytes)
  | granted (p : Bytes) (allowed : Int)
  | appended (p : Bytes) (allowed : Int)
  /-- The copy has failed; `dropped` is what the last `Write` did not keep. -/
  | failed (dropped : Bytes)
  | finished
  deriving DecidableEq, Repr

/-- A stream: what the command has written to it, what is not yet read, whether the command
has closed it, its copier and its buffer. -/
structure Copy where
  written : Bytes
  unread : Bytes
  closed : Bool
  stage : Stage
  buffer : Bytes
  deriving DecidableEq, Repr

inductive CopyAction
  | write (data : Bytes)
  | close
  | read (p : Bytes)
  | readFails
  | reserve
  | append
  | finish
  | readEnd

/-- What `Write` may keep of `p`. -/
def allowance (budget : Budget) (p : Bytes) : Int :=
  if budget.remaining < p.length then budget.remaining else p.length

/-- An action of the command on a stream or of its copier. -/
inductive CopyMoves (budget : Budget) (c : Copy) : CopyAction → Budget → Copy → Prop
  | write (data : Bytes) (isOpen : c.closed = false) :
      CopyMoves budget c (.write data) budget
        { c with written := c.written ++ data, unread := c.unread ++ data }
  | close : CopyMoves budget c .close budget { c with closed := true }
  | read {p rest : Bytes} (reads : c.stage = .reading) (more : c.unread = p ++ rest) :
      CopyMoves budget c (.read p) budget { c with unread := rest, stage := .holding p }
  /-- The connection is lost. -/
  | readFails (reads : c.stage = .reading) :
      CopyMoves budget c .readFails budget { c with stage := .failed [] }
  | reserve {p : Bytes} (holds : c.stage = .holding p) :
      CopyMoves budget c .reserve
        { budget with remaining := budget.remaining - allowance budget p }
        { c with stage := .granted p (allowance budget p) }
  | append {p : Bytes} {allowed : Int} (granted : c.stage = .granted p allowed) :
      CopyMoves budget c .append budget
        { c with
          buffer := if 0 < allowed then c.buffer ++ p.take allowed.toNat else c.buffer
          stage := .appended p allowed }
  | returns {p : Bytes} {allowed : Int} (appended : c.stage = .appended p allowed)
      (whole : ¬ allowed < p.length) :
      CopyMoves budget c .finish budget { c with stage := .reading }
  | overflows {p : Bytes} {allowed : Int} (appended : c.stage = .appended p allowed)
      (short : allowed < p.length) :
      CopyMoves budget c .finish { budget with exceeded := true }
        { c with stage := .failed (p.drop allowed.toNat) }
  | readEnd (reads : c.stage = .reading) (empty : c.unread = []) (closed : c.closed = true) :
      CopyMoves budget c .readEnd budget { c with stage := .finished }

/-- What `Wait` returns. -/
inductive Waited
  | nil
  | exitError (status : Int)
  | other
  deriving DecidableEq, Repr

/-- The goroutine that waits for the session and its channel. -/
inductive Waiter
  | waiting
  | reported (result : Waited)
  deriving DecidableEq, Repr

inductive RunError
  | createSession
  | startCommand
  | outputLimit
  | stopped
  | exited (status : Int)
  | wait
  deriving DecidableEq, Repr

structure Result where
  stdout : Bytes
  stderr : Bytes
  exitCode : Int
  deriving DecidableEq, Repr

inductive Chosen
  | done (result : Waited)
  | exceeded
  | cancelled
  deriving DecidableEq, Repr

def Chosen.exitCode : Chosen → Int
  | .done .nil => 0
  | .done (.exitError status) => status
  | _ => -1

def Chosen.error : Chosen → Option RunError
  | .done .nil => none
  | .done (.exitError status) => some (.exited status)
  | .done .other => some .wait
  | .exceeded => some .outputLimit
  | .cancelled => some .stopped

inductive Caller
  | starting
  | selecting
  /-- The connection is closed, and the end of the command is waited for. -/
  | stopping (chosen : Chosen)
  | collecting (chosen : Chosen)
  | collected (chosen : Chosen) (stdout : Bytes)
  | returned (result : Result) (error : Option RunError)
  deriving DecidableEq, Repr

structure State where
  budget : Budget
  copies : Output → Copy
  /-- The exit status that the remote side has sent. -/
  exitStatus : Option Int
  waiter : Waiter
  cancelled : Bool
  caller : Caller

inductive Action
  | createFails
  | startFails
  | start
  | copy (output : Output) (action : CopyAction)
  | exit (status : Int)
  | waitReturns (result : Waited)
  | cancel
  | choose (chosen : Chosen)
  | stopWaiting
  | readStdout
  | readStderr

/-- The result of `Wait` has no error only if the command has exited with zero and both copies
have come to their end. -/
def Waited.Possible (s : State) : Waited → Prop
  | .nil => s.exitStatus = some 0 ∧ ∀ output, (s.copies output).stage = .finished
  | .exitError status => status ≠ 0 ∧ s.exitStatus = some status
  | .other => True

def Chosen.Ready (s : State) : Chosen → Prop
  | .done result => s.waiter = .reported result
  | .exceeded => s.budget.exceeded = true
  | .cancelled => s.cancelled = true

def afterSelect : Chosen → Caller
  | .done result => .collecting (.done result)
  | chosen => .stopping chosen

def emptyResult : Result := ⟨[], [], 0⟩

inductive Moves (s : State) : Action → State → Prop
  | createFails (starts : s.caller = .starting) :
      Moves s .createFails { s with caller := .returned emptyResult (some .createSession) }
  | startFails (starts : s.caller = .starting) :
      Moves s .startFails { s with caller := .returned emptyResult (some .startCommand) }
  | start (starts : s.caller = .starting) : Moves s .start { s with caller := .selecting }
  | copy {output : Output} {action : CopyAction} {budget : Budget} {copy : Copy}
      (begun : s.caller ≠ .starting)
      (moved : CopyMoves s.budget (s.copies output) action budget copy) :
      Moves s (.copy output action)
        { s with budget := budget, copies := Function.update s.copies output copy }
  | exit (status : Int) (running : s.exitStatus = none) :
      Moves s (.exit status) { s with exitStatus := some status }
  | waitReturns {result : Waited} (waits : s.waiter = .waiting) (possible : result.Possible s) :
      Moves s (.waitReturns result) { s with waiter := .reported result }
  | cancel : Moves s .cancel { s with cancelled := true }
  | choose {chosen : Chosen} (selects : s.caller = .selecting) (ready : chosen.Ready s) :
      Moves s (.choose chosen) { s with caller := afterSelect chosen }
  /-- The end of the command has come, or a second has passed. -/
  | stopWaiting {chosen : Chosen} (stops : s.caller = .stopping chosen) :
      Moves s .stopWaiting { s with caller := .collecting chosen }
  | readStdout {chosen : Chosen} (collects : s.caller = .collecting chosen) :
      Moves s .readStdout
        { s with caller := .collected chosen (s.copies .stdout).buffer }
  | readStderr {chosen : Chosen} {stdout : Bytes} (collects : s.caller = .collected chosen stdout) :
      Moves s .readStderr { s with
        caller := .returned ⟨stdout, (s.copies .stderr).buffer, chosen.exitCode⟩ chosen.error }

def Copy.new : Copy := ⟨[], [], false, .reading, []⟩

def initial (limit : Int) : State :=
  ⟨⟨limit, false⟩, fun _ => .new, none, .waiting, false, .starting⟩

/-- What `Write` has reserved and not yet appended. -/
def Stage.reserved : Stage → Int
  | .granted _ allowed => allowed
  | _ => 0

/-- What a `Write` that has returned did not keep. -/
def Copy.dropped (c : Copy) : Bytes :=
  match c.stage with
  | .failed dropped => dropped
  | _ => []

/-- Every byte that was written is in the buffer, in the hands of the copier, dropped or not
yet read. -/
def Copy.Kept (c : Copy) : Prop :=
  match c.stage with
  | .reading => c.written = c.buffer ++ c.unread
  | .holding p => c.written = c.buffer ++ p ++ c.unread
  | .granted p allowed => c.written = c.buffer ++ p ++ c.unread ∧ 0 ≤ allowed ∧ allowed ≤ p.length
  | .appended p allowed =>
    c.written = c.buffer ++ p.drop allowed.toNat ++ c.unread ∧ 0 ≤ allowed ∧ allowed ≤ p.length
  | .failed dropped => c.written = c.buffer ++ dropped ++ c.unread
  | .finished => c.written = c.buffer ∧ c.closed = true

/-- What the budget has lost is in the buffer or reserved for it. -/
def Copy.used (c : Copy) : Int := c.buffer.length + c.stage.reserved

theorem Copy.Kept.length_le_used {c : Copy} (kept : c.Kept) : (c.buffer.length : Int) ≤ c.used := by
  unfold Copy.Kept at kept
  unfold Copy.used
  cases stage : c.stage with
  | granted p allowed =>
    rw [stage] at kept
    simp only [Stage.reserved]
    omega
  | _ => simp only [Stage.reserved, Int.add_zero, Int.le_refl]

section Copy

variable {budget after : Budget} {c d : Copy} {action : CopyAction}

theorem allowance_range (p : Bytes) (positive : 0 ≤ budget.remaining) :
    0 ≤ allowance budget p ∧ allowance budget p ≤ p.length ∧
      allowance budget p ≤ budget.remaining := by
  unfold allowance
  split <;> omega

/-- One action of a stream: what was written is kept in one of these places. -/
theorem CopyMoves.kept (moved : CopyMoves budget c action after d) (kept : c.Kept)
    (positive : 0 ≤ budget.remaining) : d.Kept := by
  unfold Copy.Kept at kept ⊢
  cases moved with
  | write data isOpen =>
    cases stage : c.stage with
    | finished =>
      rw [stage] at kept
      rw [kept.2] at isOpen
      cases isOpen
    | _ =>
      rw [stage] at kept
      simp_all
  | close =>
    cases stage : c.stage with
    | _ =>
      rw [stage] at kept
      simp_all
  | read reads more =>
    rw [reads] at kept
    simp only [kept, more, List.append_assoc]
  | readFails reads =>
    rw [reads] at kept
    simp only [kept, List.append_nil]
  | reserve holds =>
    rw [holds] at kept
    obtain ⟨low, high, -⟩ := allowance_range _ positive
    exact ⟨kept, low, high⟩
  | @append p allowed granted =>
    rw [granted] at kept
    obtain ⟨whole, low, high⟩ := kept
    refine ⟨?_, low, high⟩
    split
    · rw [whole]
      simp only [List.append_assoc]
      rw [← List.append_assoc (p.take _), List.take_append_drop]
    · have none : allowed.toNat = 0 := by omega
      rw [none, List.drop_zero]
      exact whole
  | @returns p allowed appended whole =>
    rw [appended] at kept
    have all : p.length ≤ allowed.toNat := by omega
    simp only [kept.1, List.drop_eq_nil_of_le all, List.append_nil]
  | overflows appended short =>
    rw [appended] at kept
    exact kept.1
  | readEnd reads empty closed =>
    rw [reads] at kept
    simp only [kept, empty, List.append_nil, closed, and_self]

/-- The budget pays for what the buffer gets, and does not go into debt. -/
theorem CopyMoves.paid (moved : CopyMoves budget c action after d) (kept : c.Kept)
    (positive : 0 ≤ budget.remaining) :
    0 ≤ after.remaining ∧ after.remaining + d.used = budget.remaining + c.used := by
  unfold Copy.used
  cases moved with
  | write | close => exact ⟨positive, rfl⟩
  | read reads more | readFails reads | readEnd reads empty closed =>
    refine ⟨positive, ?_⟩
    simp only [reads, Stage.reserved]
  | @reserve p holds =>
    have range := allowance_range p positive
    simp only [holds, Stage.reserved]
    omega
  | @append p allowed granted =>
    unfold Copy.Kept at kept
    rw [granted] at kept
    refine ⟨positive, ?_⟩
    simp only [granted, Stage.reserved]
    split
    · rw [List.length_append, List.length_take]
      omega
    · omega
  | returns appended whole | overflows appended short =>
    refine ⟨positive, ?_⟩
    simp only [appended, Stage.reserved]

/-- The signal is given when something is dropped, and only then. -/
theorem CopyMoves.signals (moved : CopyMoves budget c action after d) (kept : c.Kept) :
    after.exceeded = true ∧ d.dropped ≠ [] ∨
      after.exceeded = budget.exceeded ∧ d.dropped = c.dropped := by
  unfold Copy.dropped
  cases moved with
  | write | close => exact .inr ⟨rfl, rfl⟩
  | read stage | readFails stage | reserve stage | append stage | returns stage | readEnd stage =>
    right
    rw [stage]
    exact ⟨rfl, rfl⟩
  | overflows appended short =>
    unfold Copy.Kept at kept
    rw [appended] at kept
    left
    refine ⟨rfl, ?_⟩
    simp only [ne_eq, List.drop_eq_nil_iff]
    omega

/-- A stream whose copy has come to its end does not change any more. -/
theorem CopyMoves.finished (moved : CopyMoves budget c action after d)
    (finished : c.stage = .finished) (kept : c.Kept) :
    d.stage = .finished ∧ d.buffer = c.buffer := by
  unfold Copy.Kept at kept
  rw [finished] at kept
  cases moved with
  | write data isOpen =>
    rw [kept.2] at isOpen
    cases isOpen
  | close => exact ⟨finished, rfl⟩
  | read stage | readFails stage | reserve stage | append stage | returns stage | overflows stage
  | readEnd stage =>
    rw [finished] at stage
    cases stage

end Copy

/-- Where a result without error comes from. -/
def Chosen.Whole (s : State) (chosen : Chosen) : Prop :=
  chosen.error = none → ∀ output, (s.copies output).stage = .finished

/-- What is kept of the caller: a result without error is taken after both copies. -/
def Caller.Sound (s : State) : Caller → Prop
  | .starting | .selecting => True
  | .stopping chosen | .collecting chosen => chosen.Whole s
  | .collected chosen stdout =>
    chosen.Whole s ∧ (chosen.error = none → stdout = (s.copies .stdout).buffer)
  | .returned result error => error = none →
      (∀ output, (s.copies output).stage = .finished) ∧
        result.stdout = (s.copies .stdout).buffer ∧ result.stderr = (s.copies .stderr).buffer

structure Invariant (limit : Int) (s : State) : Prop where
  kept : ∀ output, (s.copies output).Kept
  positive : 0 ≤ s.budget.remaining
  paid : s.budget.remaining + (s.copies .stdout).used + (s.copies .stderr).used = limit
  signal : s.budget.exceeded = true ↔ ∃ output, (s.copies output).dropped ≠ []
  waited : s.waiter = .reported .nil → ∀ output, (s.copies output).stage = .finished
  caller : s.caller.Sound s

theorem invariant_initial {limit : Int} (positive : 0 ≤ limit) :
    Invariant limit (initial limit) where
  kept _ := rfl
  positive := positive
  paid := by
    change limit + (0 + 0) + (0 + 0) = limit
    omega
  signal := by simp [initial, Copy.new, Copy.dropped]
  waited := nofun
  caller := trivial

/-- Copies that have come to their end stay as they are. -/
def Settled (s next : State) : Prop :=
  ∀ output, (s.copies output).stage = .finished →
    (next.copies output).stage = .finished ∧ (next.copies output).buffer = (s.copies output).buffer

theorem Caller.Sound.mono {s next : State} (settled : Settled s next) {caller : Caller}
    (sound : caller.Sound s) : caller.Sound next := by
  have whole : ∀ {chosen : Chosen}, chosen.Whole s → chosen.Whole next :=
    fun whole fine output => (settled output (whole fine output)).1
  cases caller with
  | starting | selecting => trivial
  | stopping chosen | collecting chosen => exact whole sound
  | collected chosen stdout =>
    refine ⟨whole sound.1, fun fine => ?_⟩
    rw [sound.2 fine, (settled .stdout (sound.1 fine .stdout)).2]
  | returned result error =>
    intro fine
    obtain ⟨ended, out, err⟩ := sound fine
    refine ⟨fun output => (settled output (ended output)).1, ?_, ?_⟩
    · rw [out, (settled .stdout (ended .stdout)).2]
    · rw [err, (settled .stderr (ended .stderr)).2]

section Update

variable {limit : Int} {s : State} {output : Output} {action : CopyAction} {budget : Budget}
  {changed : Copy}

theorem settled_update (moved : CopyMoves s.budget (s.copies output) action budget changed)
    (kept : (s.copies output).Kept) :
    Settled s { s with budget := budget, copies := Function.update s.copies output changed } := by
  intro other finished
  by_cases same : other = output
  · subst same
    simpa using moved.finished finished kept
  · simpa [same] using finished

theorem Invariant.copy (invariant : Invariant limit s)
    (moved : CopyMoves s.budget (s.copies output) action budget changed) :
    Invariant limit
      { s with budget := budget, copies := Function.update s.copies output changed } := by
  have here := invariant.kept output
  obtain ⟨positive, paid⟩ := moved.paid here invariant.positive
  have before := invariant.paid
  have settled := settled_update moved here
  refine ⟨?_, positive, ?_, ?_, ?_, invariant.caller.mono settled⟩
  · intro other
    by_cases same : other = output
    · subst same
      simpa using moved.kept here invariant.positive
    · simpa [same] using invariant.kept other
  · cases output <;> simp only [Function.update_self, ne_eq, reduceCtorEq, not_false_eq_true,
      Function.update_of_ne] <;> omega
  · have elsewhere : ∀ other, other ≠ output →
        (Function.update s.copies output changed other).dropped = (s.copies other).dropped := by
      intro other different
      rw [Function.update_of_ne different]
    rcases moved.signals here with ⟨given, dropped⟩ | ⟨given, dropped⟩
    · exact ⟨fun _ => ⟨output, by simpa using dropped⟩, fun _ => given⟩
    · have same : ∀ other,
          (Function.update s.copies output changed other).dropped = (s.copies other).dropped := by
        intro other
        by_cases equal : other = output
        · rw [equal, Function.update_self, dropped]
        · exact elsewhere other equal
      simp only [given, same]
      exact invariant.signal
  · intro reported other
    exact (settled other (invariant.waited reported other)).1

end Update

theorem Invariant.step {limit : Int} {s next : State} {action : Action}
    (invariant : Invariant limit s) (moved : Moves s action next) : Invariant limit next := by
  cases moved with
  | copy begun moved => exact invariant.copy moved
  | createFails starts | startFails starts => exact { invariant with caller := nofun }
  | start starts => exact { invariant with caller := trivial }
  | exit status running => exact { invariant with }
  | @waitReturns result waits possible =>
    refine { invariant with waited := ?_ }
    intro reported
    cases reported
    exact possible.2
  | cancel => exact { invariant with }
  | @choose chosen selects ready =>
    have whole : chosen.Whole s := by
      intro fine
      cases chosen with
      | done result =>
        cases result with
        | nil => exact invariant.waited ready
        | _ => cases fine
      | _ => cases fine
    refine { invariant with caller := ?_ }
    cases chosen <;> exact whole
  | stopWaiting stops =>
    have sound := invariant.caller
    rw [stops] at sound
    exact { invariant with caller := sound }
  | readStdout collects =>
    have sound := invariant.caller
    rw [collects] at sound
    exact { invariant with caller := ⟨sound, fun _ => rfl⟩ }
  | readStderr collects =>
    have sound := invariant.caller
    rw [collects] at sound
    exact { invariant with caller := fun fine => ⟨sound.1 fine, sound.2 fine, rfl⟩ }

theorem maxOutputBytes_positive (configured : Int) : 0 < maxOutputBytes configured := by
  unfold maxOutputBytes
  split <;> omega

/-- A session that returns no error returns all that the command wrote before it closed its
streams. The buffers stay within the limit, the budget is never in debt, and the signal is
given when a `Write` has dropped something, and only then. -/
theorem session_output_whole (configured : Int) {actions : List Action} {s : State}
    (ran : Run Moves anyAction (initial (maxOutputBytes configured)) actions s) :
    (∀ result, s.caller = .returned result none →
      result.stdout = (s.copies .stdout).written ∧ result.stderr = (s.copies .stderr).written ∧
        ∀ output, (s.copies output).closed = true) ∧
    ((s.copies .stdout).buffer.length + (s.copies .stderr).buffer.length : Int) ≤
      maxOutputBytes configured ∧
    0 ≤ s.budget.remaining ∧
    (s.budget.exceeded = true ↔ ∃ output, (s.copies output).dropped ≠ []) := by
  have invariant : Invariant (maxOutputBytes configured) s :=
    ran.keeps (fun _ _ _ _ moved before => before.step moved)
      (invariant_initial (maxOutputBytes_positive configured).le)
  have finished : ∀ output, (s.copies output).stage = .finished →
      (s.copies output).written = (s.copies output).buffer ∧ (s.copies output).closed = true := by
    intro output ended
    have kept := invariant.kept output
    unfold Copy.Kept at kept
    rw [ended] at kept
    exact kept
  refine ⟨?_, ?_, invariant.positive, invariant.signal⟩
  · intro result returned
    have sound := invariant.caller
    rw [returned] at sound
    obtain ⟨ended, out, err⟩ := sound rfl
    exact ⟨out.trans (finished .stdout (ended .stdout)).1.symm,
      err.trans (finished .stderr (ended .stderr)).1.symm,
      fun output => (finished output (ended output)).2⟩
  · have paid := invariant.paid
    have positive := invariant.positive
    have out := (invariant.kept .stdout).length_le_used
    have err := (invariant.kept .stderr).length_le_used
    omega

/-- A command that writes two bytes, closes its streams and exits. -/
theorem echo_returned : ∃ actions s,
    Run Moves anyAction (initial (maxOutputBytes 2)) actions s ∧
      s.caller = .returned ⟨[104, 105], [], 0⟩ none ∧ (s.copies .stdout).written = [104, 105] := by
  have ran : Run Moves anyAction (initial (maxOutputBytes 2)) [] _ := .start
  have ran := ran.take .start trivial (.start rfl)
  have ran := ran.take (.copy .stdout _) trivial (.copy (by decide) (.write [104, 105] rfl))
  have ran := ran.take (.copy .stdout _) trivial (.copy (by decide) (.read rfl
    (show _ = [104, 105] ++ [] from rfl)))
  have ran := ran.take (.copy .stdout _) trivial (.copy (by decide) (.reserve rfl))
  have ran := ran.take (.copy .stdout _) trivial (.copy (by decide) (.append rfl))
  have ran := ran.take (.copy .stdout _) trivial (.copy (by decide) (.returns rfl (by decide)))
  have ran := ran.take (.copy .stdout _) trivial (.copy (by decide) .close)
  have ran := ran.take (.copy .stdout _) trivial (.copy (by decide) (.readEnd rfl rfl rfl))
  have ran := ran.take (.copy .stderr _) trivial (.copy (by decide) .close)
  have ran := ran.take (.copy .stderr _) trivial (.copy (by decide) (.readEnd rfl rfl rfl))
  have ran := ran.take (.exit 0) trivial (.exit 0 rfl)
  have ran := ran.take (.waitReturns .nil) trivial
    (.waitReturns rfl ⟨rfl, fun output => by cases output <;> rfl⟩)
  have ran := ran.take (.choose (.done .nil)) trivial (.choose rfl rfl)
  have ran := ran.take .readStdout trivial (.readStdout rfl)
  have ran := ran.take .readStderr trivial (.readStderr rfl)
  have whole := (session_output_whole 2 ran).1 _ rfl
  exact ⟨_, _, ran, rfl, whole.1.symm⟩

end VpsManager.Ssh.Session
