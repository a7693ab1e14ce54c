import VpsManager.Go.Text
import VpsManager.Lib.Machine

namespace VpsManager.Terminal

open Go Machine

/-- What `Wait` of the remote session returns. -/
inductive WaitError
  | nil
  | exitError (status : Int)
  | other
  deriving DecidableEq, Repr

inductive OutputFrame
  | output (data : Bytes)
  | exit (exitCode : Int) (reason : String)
  deriving DecidableEq, Repr

def exited (status : Int) : WaitError := if status = 0 then .nil else .exitError status

def exitFrame : WaitError → OutputFrame
  | .nil => .exit 0 "remote shell exited"
  | .exitError status => .exit status "remote shell exited"
  | .other => .exit (-1) "remote shell disconnected"

theorem exitFrame_exited (status : Int) :
    exitFrame (exited status) = .exit status "remote shell exited" := by
  unfold exited
  split
  · rename_i zero
    rw [zero]
    rfl
  · rfl

namespace Shell

/-- `writeOutput`: it reads, holds what it read until that is written, and ends. -/
inductive Copier
  | reading
  | holding (data : Bytes)
  /-- It read the end of the output. -/
  | ended
  /-- It reported `output_closed`. -/
  | stopped
  deriving DecidableEq, Repr

/-- The goroutine that calls `ptySession.Wait`. -/
inductive Waiter
  | waiting
  /-- `Wait` of the remote session returned. -/
  | returned
  | pipeClosed
  /-- The result is in the channel. -/
  | reported
  deriving DecidableEq, Repr

def Copier.held : Copier → Bytes
  | .holding data => data
  | _ => []

/-- The pipe has been closed. -/
def Waiter.closed (waiter : Waiter) : Prop := waiter = .pipeClosed ∨ waiter = .reported

/-- The loop of `serveConnection`. -/
inductive Main
  | selecting
  | exiting (waitErr : WaitError)
  | closing
  /-- It returned, and the connection is closed. -/
  | done
  deriving DecidableEq, Repr

structure State where
  /-- The chunks the shell has still to write. -/
  pending : List Bytes
  /-- What the reader has not taken of the write in progress. -/
  piped : Option Bytes
  copier : Copier
  waiter : Waiter
  /-- `output_closed` is in the channel. -/
  outputErrors : Bool
  waitErrors : Option WaitError
  main : Main
  /-- What was written to the client. -/
  frames : List OutputFrame
  deriving DecidableEq, Repr

inductive Action
  | write
  | read
  | forward
  | readEnd
  | reportEnd
  | waitReturns
  | closePipe
  | reportWait
  | takeOutput
  | takeWait
  | writeExit
  | close
  deriving DecidableEq, Repr

def started (chunks : List Bytes) : State where
  pending := chunks
  piped := none
  copier := .reading
  waiter := .waiting
  outputErrors := false
  waitErrors := none
  main := .selecting
  frames := []

/-- What a read leaves of a write; the write returns once nothing is left. -/
def afterTaking (bufferSize : Nat) (data : Bytes) : Option Bytes :=
  if data.length ≤ bufferSize then none else some (data.drop bufferSize)

def afterRead (count : Bytes) : Copier := if count = [] then .reading else .holding count

/-- An action of one goroutine, with what it needs. Ticks of the idle timer change
nothing. -/
inductive Moves (bufferSize : Nat) (waitErr : WaitError) (s : State) : Action → State → Prop
  | write {chunk : Bytes} {rest : List Bytes} (free : s.piped = none)
      (more : s.pending = chunk :: rest) :
      Moves bufferSize waitErr s .write { s with piped := some chunk, pending := rest }
  | read {data : Bytes} (reads : s.copier = .reading) (written : s.piped = some data) :
      Moves bufferSize waitErr s .read { s with
        copier := afterRead (data.take bufferSize)
        piped := afterTaking bufferSize data }
  | forward {data : Bytes} (holds : s.copier = .holding data) :
      Moves bufferSize waitErr s .forward
        { s with copier := .reading, frames := s.frames ++ [.output data] }
  | readEnd (reads : s.copier = .reading) (free : s.piped = none) (closed : s.waiter.closed) :
      Moves bufferSize waitErr s .readEnd { s with copier := .ended }
  | reportEnd (ended : s.copier = .ended) :
      Moves bufferSize waitErr s .reportEnd { s with copier := .stopped, outputErrors := true }
  /-- The library returns once every chunk is read. -/
  | waitReturns (waits : s.waiter = .waiting) (written : s.pending = []) (free : s.piped = none) :
      Moves bufferSize waitErr s .waitReturns { s with waiter := .returned }
  | closePipe (returned : s.waiter = .returned) :
      Moves bufferSize waitErr s .closePipe { s with waiter := .pipeClosed }
  | reportWait (closed : s.waiter = .pipeClosed) :
      Moves bufferSize waitErr s .reportWait
        { s with waiter := .reported, waitErrors := some waitErr }
  /-- No frame is written for `output_closed`. -/
  | takeOutput (selects : s.main = .selecting) (reported : s.outputErrors = true) :
      Moves bufferSize waitErr s .takeOutput { s with outputErrors := false, main := .done }
  | takeWait {taken : WaitError} (selects : s.main = .selecting)
      (reported : s.waitErrors = some taken) :
      Moves bufferSize waitErr s .takeWait { s with waitErrors := none, main := .exiting taken }
  | writeExit {taken : WaitError} (exits : s.main = .exiting taken) :
      Moves bufferSize waitErr s .writeExit
        { s with main := .closing, frames := s.frames ++ [exitFrame taken] }
  | close (closes : s.main = .closing) :
      Moves bufferSize waitErr s .close { s with main := .done }

/-- After `serveConnection` has returned nothing reaches the client. -/
def Step (bufferSize : Nat) (waitErr : WaitError) (s : State) (action : Action) (next : State) :
    Prop :=
  s.main ≠ .done ∧ Moves bufferSize waitErr s action next

/-- The loop does not take the end of the output in the place of the result, and
writes the exit frame when the copier holds nothing. -/
def Orderly (s : State) : Action → Prop
  | .takeOutput => False
  | .writeExit => s.copier.held = []
  | _ => True

def Main.tail (waitErr : WaitError) : Main → List OutputFrame
  | .closing | .done => [exitFrame waitErr]
  | _ => []

/-- Every byte is delivered, held, in the pipe or still to be written, and the exit
frame comes after the last of them. -/
structure Ordered (chunks : List Bytes) (waitErr : WaitError) (s : State) : Prop where
  delivered : ∃ outputs : List Bytes,
    s.frames = outputs.map .output ++ s.main.tail waitErr ∧
      outputs.flatten ++ s.copier.held ++ s.piped.getD [] ++ s.pending.flatten = chunks.flatten
  full : ∀ data, s.copier = .holding data → data ≠ []
  /-- Once the session has been waited for, all is read. -/
  read : s.waiter ≠ .waiting → s.pending = [] ∧ s.piped = none
  /-- The copier ends after the pipe is closed. -/
  ended : s.copier = .ended ∨ s.copier = .stopped → s.waiter.closed
  reported : ∀ taken, s.waitErrors = some taken → taken = waitErr ∧ s.waiter = .reported
  /-- The result is in the channel until the loop takes it. -/
  selecting : s.main = .selecting → s.waiter = .reported → s.waitErrors = some waitErr
  taken : s.main ≠ .selecting → s.waiter = .reported
  exiting : ∀ taken, s.main = .exiting taken → taken = waitErr
  closing : s.main = .closing ∨ s.main = .done → s.copier.held = []

theorem ordered_started (chunks : List Bytes) (waitErr : WaitError) :
    Ordered chunks waitErr (started chunks) where
  delivered := ⟨[], rfl, rfl⟩
  full _ impossible := by cases impossible
  read waited := absurd rfl waited
  ended := by
    rintro (impossible | impossible) <;> cases impossible
  reported _ impossible := by cases impossible
  selecting _ impossible := by cases impossible
  taken selecting := absurd rfl selecting
  exiting _ impossible := by cases impossible
  closing := by
    rintro (impossible | impossible) <;> cases impossible

theorem held_afterRead (data : Bytes) : (afterRead data).held = data := by
  unfold afterRead
  split
  · rename_i empty
    exact empty.symm
  · rfl

theorem afterRead_open (data : Bytes) : afterRead data ≠ .ended ∧ afterRead data ≠ .stopped := by
  unfold afterRead
  split <;> simp

theorem afterRead_full {data count : Bytes} (holds : afterRead data = .holding count) :
    count ≠ [] := by
  unfold afterRead at holds
  split at holds
  · cases holds
  · rename_i full
    cases holds
    exact full

theorem take_afterTaking (bufferSize : Nat) (data : Bytes) :
    data.take bufferSize ++ (afterTaking bufferSize data).getD [] = data := by
  unfold afterTaking
  split
  · rename_i short
    rw [List.take_of_length_le short]
    exact List.append_nil data
  · exact List.take_append_drop bufferSize data

section Steps

variable {bufferSize : Nat} {chunks : List Bytes} {waitErr : WaitError} {s next : State}
  {action : Action}

/-- The session is still waited for while there is output. -/
theorem Ordered.waiting (ordered : Ordered chunks waitErr s)
    (more : s.pending ≠ [] ∨ s.piped ≠ none) : s.waiter = .waiting := by
  by_contra waited
  obtain ⟨written, free⟩ := ordered.read waited
  exact more.elim (· written) (· free)

theorem Ordered.selects (ordered : Ordered chunks waitErr s) (unreported : s.waiter ≠ .reported) :
    s.main = .selecting := by
  by_contra other
  exact unreported (ordered.taken other)

theorem Ordered.unreported (ordered : Ordered chunks waitErr s)
    (unreported : s.waiter ≠ .reported) : s.waitErrors = none := by
  cases found : s.waitErrors with
  | none => rfl
  | some taken => exact absurd (ordered.reported taken found).2 unreported

theorem Ordered.not_closed (ordered : Ordered chunks waitErr s) (opened : ¬ s.waiter.closed) :
    s.copier ≠ .ended ∧ s.copier ≠ .stopped :=
  ⟨fun ended => opened (ordered.ended (.inl ended)),
    fun stopped => opened (ordered.ended (.inr stopped))⟩

/-- A copier that holds output holds it before the exit frame. -/
theorem Ordered.unclosed (ordered : Ordered chunks waitErr s) {data : Bytes}
    (holds : s.copier = .holding data) : s.main ≠ .closing ∧ s.main ≠ .done := by
  have full := ordered.full data holds
  have empty (closes : s.main = .closing ∨ s.main = .done) : False := by
    have held := ordered.closing closes
    rw [holds] at held
    exact full held
  exact ⟨fun closes => empty (.inl closes), fun done => empty (.inr done)⟩

theorem Main.tail_nil {main : Main} (unclosed : main ≠ .closing ∧ main ≠ .done) :
    main.tail waitErr = [] := by
  cases main with
  | selecting => rfl
  | exiting => rfl
  | closing => exact absurd rfl unclosed.1
  | done => exact absurd rfl unclosed.2

theorem step_ordered (orderly : Orderly s action) (moved : Step bufferSize waitErr s action next)
    (ordered : Ordered chunks waitErr s) : Ordered chunks waitErr next := by
  obtain ⟨running, moved⟩ := moved
  obtain ⟨outputs, written, bytes⟩ := ordered.delivered
  cases moved with
  | write free more =>
    have waits := ordered.waiting (.inl (by simp [more]))
    rw [free, more] at bytes
    exact { ordered with
      delivered := ⟨outputs, written, by simpa using bytes⟩
      read := fun waited => absurd waits waited }
  | @read data reads held =>
    have waits := ordered.waiting (.inr (by simp [held]))
    have selects := ordered.selects (by simp [waits])
    rw [reads, held] at bytes
    exact { ordered with
      delivered := ⟨outputs, written, by
        rw [← bytes, held_afterRead]
        simp only [Copier.held, Option.getD_some, List.append_nil]
        rw [List.append_assoc outputs.flatten, take_afterTaking]⟩
      full := fun count holds => afterRead_full holds
      read := fun waited => absurd waits waited
      ended := fun gone => (gone.elim (afterRead_open _).1 (afterRead_open _).2).elim
      closing := fun closes => by
        rw [selects] at closes
        rcases closes with impossible | impossible <;> cases impossible }
  | @forward data holds =>
    have unclosed := ordered.unclosed holds
    rw [holds] at bytes
    rw [Main.tail_nil unclosed, List.append_nil] at written
    exact { ordered with
      delivered := ⟨outputs ++ [data],
        by rw [Main.tail_nil unclosed, written]; simp,
        by simpa [Copier.held] using bytes⟩
      full := fun _ impossible => by cases impossible
      ended := fun gone => by rcases gone with impossible | impossible <;> cases impossible
      closing := fun _ => rfl }
  | readEnd reads free closed =>
    rw [reads] at bytes
    exact { ordered with
      delivered := ⟨outputs, written, bytes⟩
      full := fun _ impossible => by cases impossible
      ended := fun _ => closed
      closing := fun _ => rfl }
  | reportEnd ended =>
    rw [ended] at bytes
    exact { ordered with
      delivered := ⟨outputs, written, bytes⟩
      full := fun _ impossible => by cases impossible
      ended := fun _ => ordered.ended (.inl ended)
      closing := fun _ => rfl }
  | waitReturns waits none free =>
    have opened := ordered.not_closed (by simp [Waiter.closed, waits])
    have selects := ordered.selects (by simp [waits])
    exact { ordered with
      read := fun _ => ⟨none, free⟩
      ended := fun gone => (gone.elim opened.1 opened.2).elim
      reported := fun taken found => by
        rw [ordered.unreported (by simp [waits])] at found
        cases found
      selecting := fun _ reported => by cases reported
      taken := fun other => absurd selects other }
  | closePipe returned =>
    have selects := ordered.selects (by simp [returned])
    exact { ordered with
      read := fun _ => ordered.read (by simp [returned])
      ended := fun _ => .inl rfl
      reported := fun taken found => by
        rw [ordered.unreported (by simp [returned])] at found
        cases found
      selecting := fun _ reported => by cases reported
      taken := fun other => absurd selects other }
  | reportWait closed =>
    exact { ordered with
      read := fun _ => ordered.read (by simp [closed])
      ended := fun _ => .inr rfl
      reported := fun taken same => ⟨(Option.some.inj same).symm, rfl⟩
      selecting := fun _ _ => rfl
      taken := fun _ => rfl }
  | takeOutput selects reported => exact orderly.elim
  | @takeWait taken selects reported =>
    obtain ⟨same, byWaiter⟩ := ordered.reported taken reported
    rw [selects] at written
    exact { ordered with
      delivered := ⟨outputs, written, bytes⟩
      reported := fun _ impossible => by cases impossible
      selecting := fun impossible => by cases impossible
      taken := fun _ => byWaiter
      exiting := fun also exits => by
        cases exits
        exact same
      closing := fun closes => by
        rcases closes with impossible | impossible <;> cases impossible }
  | @writeExit taken exits =>
    have same := ordered.exiting taken exits
    rw [exits] at written
    exact { ordered with
      delivered := ⟨outputs, by rw [written, same]; simp [Main.tail], bytes⟩
      selecting := fun impossible => by cases impossible
      taken := fun _ => ordered.taken (by simp [exits])
      exiting := fun _ impossible => by cases impossible
      closing := fun _ => orderly }
  | close closes =>
    rw [closes] at written
    exact { ordered with
      delivered := ⟨outputs, written, bytes⟩
      selecting := fun impossible => by cases impossible
      taken := fun _ => ordered.taken (by simp [closes])
      exiting := fun _ impossible => by cases impossible
      closing := fun _ => ordered.closing (.inl closes) }

def Copier.left : Copier → Nat
  | .reading => 2
  | .holding _ => 3
  | .ended => 1
  | .stopped => 0

def Waiter.left : Waiter → Nat
  | .waiting => 3
  | .returned => 2
  | .pipeClosed => 1
  | .reported => 0

def Main.left : Main → Nat
  | .selecting => 3
  | .exiting _ => 2
  | .closing => 1
  | .done => 0

/-- Each byte is read and forwarded, each chunk written and read to its end. -/
def pendingLeft : List Bytes → Nat
  | [] => 0
  | chunk :: rest => 3 * chunk.length + 3 + pendingLeft rest

def pipedLeft : Option Bytes → Nat
  | some data => 3 * data.length + 2
  | none => 0

/-- More than the actions that can still be taken. -/
def State.left (s : State) : Nat :=
  pendingLeft s.pending + pipedLeft s.piped + s.copier.left + s.waiter.left + s.main.left

theorem left_afterRead (bufferSize : Nat) (positive : 0 < bufferSize) (data : Bytes) :
    pipedLeft (afterTaking bufferSize data) + (afterRead (data.take bufferSize)).left <
      pipedLeft (some data) + Copier.reading.left := by
  have copier (count : Bytes) : (afterRead count).left ≤ 3 := by
    unfold afterRead
    split <;> simp [Copier.left]
  have bound := copier (data.take bufferSize)
  unfold afterTaking
  split
  · simp only [pipedLeft, Copier.left] at bound ⊢
    omega
  · rename_i long
    simp only [pipedLeft, Copier.left, List.length_drop] at bound ⊢
    omega

theorem step_left (positive : 0 < bufferSize) (moved : Step bufferSize waitErr s action next) :
    next.left < s.left := by
  obtain ⟨-, moved⟩ := moved
  cases moved with
  | write free more =>
    simp only [State.left, free, more, pendingLeft, pipedLeft]
    omega
  | @read data reads held =>
    have less := left_afterRead bufferSize positive data
    simp only [State.left, reads, held]
    omega
  | forward holds => simp only [State.left, holds, Copier.left]; omega
  | readEnd reads => simp only [State.left, reads, Copier.left]; omega
  | reportEnd ended => simp only [State.left, ended, Copier.left]; omega
  | waitReturns waits => simp only [State.left, waits, Waiter.left]; omega
  | closePipe returned => simp only [State.left, returned, Waiter.left]; omega
  | reportWait closed => simp only [State.left, closed, Waiter.left]; omega
  | takeOutput selects => simp only [State.left, selects, Main.left]; omega
  | takeWait selects => simp only [State.left, selects, Main.left]; omega
  | writeExit exits => simp only [State.left, exits, Main.left]; omega
  | close closes => simp only [State.left, closes, Main.left]; omega

/-- While the session is waited for, the shell or the copier can go on, or the wait
is over. -/
theorem Ordered.waiting_goes_on (ordered : Ordered chunks waitErr s) (running : s.main ≠ .done)
    (waits : s.waiter = .waiting) (free : ∀ data, s.copier ≠ .holding data) :
    ∃ action next, Orderly s action ∧ Step bufferSize waitErr s action next := by
  have opened := ordered.not_closed (by simp [Waiter.closed, waits])
  have reads : s.copier = .reading := by
    cases copies : s.copier with
    | reading => rfl
    | holding data => exact absurd copies (free data)
    | ended => exact absurd copies opened.1
    | stopped => exact absurd copies opened.2
  cases held : s.piped with
  | some data => exact ⟨.read, _, trivial, running, .read reads held⟩
  | none =>
    cases more : s.pending with
    | cons chunk rest => exact ⟨.write, _, trivial, running, .write held more⟩
    | nil => exact ⟨.waitReturns, _, trivial, running, .waitReturns waits more held⟩

theorem Ordered.goes_on (ordered : Ordered chunks waitErr s) (running : s.main ≠ .done) :
    ∃ action next, Orderly s action ∧ Step bufferSize waitErr s action next := by
  by_cases holds : ∃ data, s.copier = .holding data
  · obtain ⟨data, holds⟩ := holds
    exact ⟨.forward, _, trivial, running, .forward holds⟩
  · have free : ∀ data, s.copier ≠ .holding data := fun data same => holds ⟨data, same⟩
    have empty : s.copier.held = [] := by
      cases copies : s.copier with
      | holding data => exact absurd copies (free data)
      | _ => rfl
    cases loop : s.main with
    | done => exact absurd loop running
    | closing => exact ⟨.close, _, trivial, running, .close loop⟩
    | exiting taken => exact ⟨.writeExit, _, empty, running, .writeExit loop⟩
    | selecting =>
      cases waits : s.waiter with
      | waiting => exact ordered.waiting_goes_on running waits free
      | returned => exact ⟨.closePipe, _, trivial, running, .closePipe waits⟩
      | pipeClosed => exact ⟨.reportWait, _, trivial, running, .reportWait waits⟩
      | reported =>
        exact ⟨.takeWait, _, trivial, running, .takeWait loop (ordered.selecting loop waits)⟩

/-- A session that has ended has read and delivered everything. -/
theorem Ordered.complete (ordered : Ordered chunks waitErr s) (done : s.main = .done) :
    ∃ outputs : List Bytes, outputs.flatten = chunks.flatten ∧
      s.frames = outputs.map .output ++ [exitFrame waitErr] := by
  obtain ⟨outputs, written, bytes⟩ := ordered.delivered
  have reported := ordered.taken (by simp [done])
  obtain ⟨none, free⟩ := ordered.read (by simp [reported])
  rw [ordered.closing (.inr done), none, free] at bytes
  rw [done] at written
  exact ⟨outputs, by simpa using bytes, written⟩

end Steps

/-- However the goroutines of a session take turns, if the loop takes the result and
writes the exit frame when the copier holds nothing, the client receives the whole
output and then one exit frame with the shell's status. The session ends: a run has a
bounded number of actions, and until then some goroutine can go on. -/
theorem exit_reported {bufferSize : Nat} (positive : 0 < bufferSize) (chunks : List Bytes)
    (status : Int) {actions : List Action} {s : State}
    (ran : Run (Step bufferSize (exited status)) Orderly (started chunks) actions s) :
    (s.main = .done → ∃ outputs : List Bytes, outputs.flatten = chunks.flatten ∧
      s.frames = outputs.map .output ++ [.exit status "remote shell exited"]) ∧
    (s.main ≠ .done → ∃ action next, Orderly s action ∧
      Step bufferSize (exited status) s action next) ∧
    actions.length ≤ pendingLeft chunks + 8 := by
  have ordered : Ordered chunks (exited status) s :=
    ran.keeps (fun _ _ _ may moved => step_ordered may moved) (ordered_started chunks _)
  refine ⟨?_, ordered.goes_on, ?_⟩
  · intro done
    have complete := ordered.complete done
    rwa [exitFrame_exited] at complete
  · have bound := ran.length_le fun _ _ _ moved => step_left positive moved
    have initial : (started chunks).left = pendingLeft chunks + 8 := rfl
    omega

def defaultWebSSHOutputMessageBytes : Nat := 16384

def sampleOutput : Bytes := [0x6f, 0x6b]

/-- The runs of a session with this shell, which then exits with 0. -/
def SampleRun (allowed : State → Action → Prop) (actions : List Action) (s : State) : Prop :=
  Run (Step defaultWebSSHOutputMessageBytes (exited 0)) allowed (started [sampleOutput]) actions s

theorem sample_read {allowed : State → Action → Prop}
    (free : ∀ s action, action ≠ .takeOutput ∧ action ≠ .writeExit → allowed s action) :
    ∃ actions, SampleRun allowed actions
      { started [] with copier := .holding sampleOutput, waiter := .pipeClosed } := by
  have ran : SampleRun allowed [] (started [sampleOutput]) := .start
  have ran := ran.take .write (free _ _ (by decide)) ⟨by decide, .write rfl rfl⟩
  have ran := ran.take .read (free _ _ (by decide)) ⟨by decide, .read rfl rfl⟩
  have ran := ran.take .waitReturns (free _ _ (by decide)) ⟨by decide, .waitReturns rfl rfl rfl⟩
  have ran := ran.take .closePipe (free _ _ (by decide)) ⟨by decide, .closePipe rfl⟩
  exact ⟨_, ran⟩

theorem sample_reported : ∃ actions s, SampleRun Orderly actions s ∧ s.main = .done ∧
    ∃ outputs : List Bytes, outputs.flatten = [sampleOutput].flatten ∧
      s.frames = outputs.map .output ++ [.exit 0 "remote shell exited"] := by
  have free (s : State) (action : Action) (other : action ≠ .takeOutput ∧ action ≠ .writeExit) :
      Orderly s action := by
    cases action with
    | takeOutput => exact absurd rfl other.1
    | writeExit => exact absurd rfl other.2
    | _ => trivial
  obtain ⟨_, ran⟩ := sample_read free
  have ran := ran.take .forward trivial ⟨by decide, .forward rfl⟩
  have ran := ran.take .reportWait trivial ⟨by decide, .reportWait rfl⟩
  have ran := ran.take .takeWait trivial ⟨by decide, .takeWait rfl rfl⟩
  have ran := ran.take .writeExit rfl ⟨by decide, .writeExit rfl⟩
  have ran := ran.take .close trivial ⟨by decide, .close rfl⟩
  exact ⟨_, _, ran, rfl, (exit_reported (by decide) [sampleOutput] 0 ran).1 rfl⟩

/-- The loop may take the end of the output first, and then the client receives no
exit frame. It may also write the exit frame before the output that was read last,
which then comes after it or not at all. -/
theorem exit_lost :
    (∃ actions s, SampleRun anyAction actions s ∧ s.main = .done ∧
      s.frames = [.output sampleOutput]) ∧
    (∃ actions s, SampleRun anyAction actions s ∧ s.main = .done ∧
      s.frames = [.exit 0 "remote shell exited", .output sampleOutput]) ∧
    ∃ actions s, SampleRun anyAction actions s ∧ s.main = .done ∧
      s.frames = [.exit 0 "remote shell exited"] := by
  obtain ⟨_, ran⟩ := @sample_read anyAction fun _ _ _ => trivial
  refine ⟨?_, ?_⟩
  · have ran := ran.take .forward trivial ⟨by decide, .forward rfl⟩
    have ran := ran.take .readEnd trivial ⟨by decide, .readEnd rfl rfl (.inl rfl)⟩
    have ran := ran.take .reportEnd trivial ⟨by decide, .reportEnd rfl⟩
    have ran := ran.take .takeOutput trivial ⟨by decide, .takeOutput rfl rfl⟩
    exact ⟨_, _, ran, rfl, rfl⟩
  · have ran := ran.take .reportWait trivial ⟨by decide, .reportWait rfl⟩
    have ran := ran.take .takeWait trivial ⟨by decide, .takeWait rfl rfl⟩
    have ran := ran.take .writeExit trivial ⟨by decide, .writeExit rfl⟩
    refine ⟨?_, ?_⟩
    · have ran := ran.take .forward trivial ⟨by decide, .forward rfl⟩
      have ran := ran.take .close trivial ⟨by decide, .close rfl⟩
      exact ⟨_, _, ran, rfl, rfl⟩
    · have ran := ran.take .close trivial ⟨by decide, .close rfl⟩
      exact ⟨_, _, ran, rfl, rfl⟩

end Shell

end VpsManager.Terminal
