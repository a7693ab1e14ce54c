import VpsManager.Lib.Machine
import VpsManager.Protocol.WebSsh

namespace VpsManager.Terminal

open Go Protocol Machine

/-- A frame of the browser: binary, text that is not JSON, one of the two messages
there are, or any other JSON. -/
inductive BrowserFrame
  | binary
  | notJSON
  | input (data : Bytes)
  | resize (size : TerminalSize)
  | other
  deriving DecidableEq, Repr

inductive ConnectorFrame
  | binary
  | notJSON
  | ready (sessionID : String) (size : TerminalSize)
  | output (data : Bytes)
  | exit (exitCode : Int) (reason : String)
  | error (code message : String) (retryable : Bool)
  | other
  deriving DecidableEq, Repr

structure ProxyResult where
  disconnectType : String
  code : String
  message : String
  retryable : Bool
  sendError : Bool
  deriving DecidableEq, Repr

def clientClosed : ProxyResult := ⟨"client_closed", "", "", false, false⟩

def connectorClosed : ProxyResult :=
  ⟨"connector_closed", "connector_closed", "WebSSH Connector disconnected", true, true⟩

def invalidClientMessage (message : String) : ProxyResult :=
  ⟨"invalid_client_message", "invalid_message", message, false, true⟩

def inputRateLimit : ProxyResult :=
  ⟨"input_rate_limit", "input_rate_limit", "WebSSH input rate limit exceeded", false, true⟩

def connectorProtocolError : ProxyResult :=
  ⟨"connector_protocol_error", "connector_protocol_error",
    "WebSSH Connector sent an invalid message", false, true⟩

def remoteExit : ProxyResult := ⟨"remote_exit", "", "", false, false⟩

/-- What the proxies of a session check frames against. -/
structure ProxyLimits where
  maxInputMessageBytes : Nat
  maxOutputMessageBytes : Nat
  upstreamSession : String
  connectionID : String
  deriving DecidableEq, Repr

/-- `proxyBrowserToConnector` on a frame it read: the frame it writes, or its result.
Whether the limiter admits the frame depends on the time. -/
def checkInput (limits : ProxyLimits) (admitted : Bool) (frame : BrowserFrame) :
    Except ProxyResult BrowserFrame :=
  match frame with
  | .binary => .error (invalidClientMessage "WebSSH messages must be JSON text")
  | _ =>
    if admitted = false then .error inputRateLimit
    else
      match frame with
      | .notJSON => .error (invalidClientMessage "WebSSH message is invalid")
      | .input data =>
        if data.length ≤ limits.maxInputMessageBytes then .ok frame
        else .error (invalidClientMessage "WebSSH message is invalid or too large")
      | .resize size =>
        if validTerminalSize size then .ok frame
        else .error (invalidClientMessage "WebSSH message is invalid or too large")
      | _ => .error (invalidClientMessage "WebSSH message is invalid or too large")

/-- `proxyConnectorToBrowser` on a frame it read: the frame it writes, and whether it
returns afterwards. -/
def checkOutput (limits : ProxyLimits) (ready admitted : Bool) (frame : ConnectorFrame) :
    Except ProxyResult (ConnectorFrame × Bool) :=
  if admitted = false then .error connectorProtocolError
  else
    match frame with
    | .ready sessionID size =>
      if ready = false ∧ sessionID = limits.upstreamSession ∧ validTerminalSize size = true then
        .ok (.ready limits.connectionID size, false)
      else .error connectorProtocolError
    | .output data =>
      if ready = true ∧ data.length ≤ limits.maxOutputMessageBytes then .ok (frame, false)
      else .error connectorProtocolError
    | .exit _ _ => if ready = true then .ok (frame, true) else .error connectorProtocolError
    | .error code message _ =>
      if len code ≤ 128 ∧ len message ≤ 512 then .ok (frame, true)
      else .error connectorProtocolError
    | _ => .error connectorProtocolError

def ConnectorFrame.isReady : ConnectorFrame → Bool
  | .ready _ _ => true
  | _ => false

namespace Gateway

/-- A proxy reads, holds what it will write, and returns. -/
inductive Proxy (α : Type)
  | reading
  /-- `late` says that the frame was read after the authorization was refused. -/
  | holding (frame : α) (late : Bool)
  | returned
  deriving DecidableEq, Repr

/-- The loop of `serveSession`. -/
inductive Main
  | selecting
  | authorizing
  /-- It has an error to write to the browser. -/
  | reporting
  | writing
  | leaving
  | closing
  | finished
  deriving DecidableEq, Repr

/-- Who writes to the browser. -/
inductive Holder
  | main
  | proxy
  deriving DecidableEq, Repr

structure Session where
  main : Main
  /-- An authorization has been refused. -/
  revoked : Bool
  /-- The context of the proxies is done. -/
  cancelled : Bool
  input : Proxy BrowserFrame
  output : Proxy (ConnectorFrame × Bool)
  ready : Bool
  /-- The lock on writing to the browser. -/
  lock : Option Holder
  results : List ProxyResult
  /-- What the proxies wrote, and whether they read it late. -/
  toConnector : List (BrowserFrame × Bool)
  toBrowser : List (ConnectorFrame × Bool)
  deriving DecidableEq, Repr

inductive Action
  | tick
  | authorize (allowed : Bool)
  | takeResult
  | idle
  | timeUp
  | lockError
  | writeError
  | cancelProxy
  | closeNow
  /-- The session's time is up, or the gateway shuts down. -/
  | expire
  | readBrowser (frame : BrowserFrame) (admitted : Bool)
  | failReadBrowser
  | forwardInput
  | failForwardInput
  | readConnector (frame : ConnectorFrame) (admitted : Bool)
  | failReadConnector
  | lockBrowser
  | forwardOutput
  | failForwardOutput
  deriving DecidableEq, Repr

def connected : Session where
  main := .selecting
  revoked := false
  cancelled := false
  input := .reading
  output := .reading
  ready := false
  lock := none
  results := []
  toConnector := []
  toBrowser := []

/-- The input proxy after a frame. -/
def afterInput (s : Session) : Except ProxyResult BrowserFrame → Session
  | .ok frame => { s with input := .holding frame s.revoked }
  | .error result => { s with input := .returned, results := s.results ++ [result] }

def afterOutput (s : Session) : Except ProxyResult (ConnectorFrame × Bool) → Session
  | .ok passed =>
    { s with output := .holding passed s.revoked, ready := s.ready || passed.1.isReady }
  | .error result => { s with output := .returned, results := s.results ++ [result] }

def afterForward (s : Session) (passed : ConnectorFrame × Bool) (late : Bool) : Session :=
  { s with
    output := if passed.2 then .returned else .reading
    lock := none
    results := if passed.2 then s.results ++ [remoteExit] else s.results
    toBrowser := s.toBrowser ++ [(passed.1, late)] }

/-- An action of one goroutine, with what it needs. Reading and writing with a context
that is done fail; they may also fail at any time. -/
inductive Step (limits : ProxyLimits) (s : Session) : Action → Session → Prop
  | tick (selects : s.main = .selecting) : Step limits s .tick { s with main := .authorizing }
  | authorized (asks : s.main = .authorizing) :
      Step limits s (.authorize true) { s with main := .selecting }
  | refused (asks : s.main = .authorizing) :
      Step limits s (.authorize false) { s with main := .reporting, revoked := true }
  | takeResult {result : ProxyResult} {rest : List ProxyResult} (selects : s.main = .selecting)
      (ready : s.results = result :: rest) :
      Step limits s .takeResult
        { s with main := if result.sendError then .reporting else .leaving, results := rest }
  | idle (selects : s.main = .selecting) : Step limits s .idle { s with main := .reporting }
  | timeUp (selects : s.main = .selecting) (done : s.cancelled = true) :
      Step limits s .timeUp { s with main := .leaving }
  | lockError (reports : s.main = .reporting) (free : s.lock = none) :
      Step limits s .lockError { s with main := .writing, lock := some .main }
  /-- The browser took the error, or the time for the write is up. -/
  | writeError (writes : s.main = .writing) :
      Step limits s .writeError { s with main := .leaving, lock := none }
  | cancelProxy (leaves : s.main = .leaving) :
      Step limits s .cancelProxy { s with main := .closing, cancelled := true }
  | closeNow (closes : s.main = .closing) : Step limits s .closeNow { s with main := .finished }
  | expire : Step limits s .expire { s with cancelled := true }
  | readBrowser (frame : BrowserFrame) (admitted : Bool) (reads : s.input = .reading)
      (live : s.cancelled = false) :
      Step limits s (.readBrowser frame admitted)
        (afterInput s (checkInput limits admitted frame))
  | failReadBrowser (reads : s.input = .reading) :
      Step limits s .failReadBrowser (afterInput s (.error clientClosed))
  | forwardInput {frame : BrowserFrame} {late : Bool} (holds : s.input = .holding frame late)
      (live : s.cancelled = false) :
      Step limits s .forwardInput
        { s with input := .reading, toConnector := s.toConnector ++ [(frame, late)] }
  | failForwardInput {frame : BrowserFrame} {late : Bool}
      (holds : s.input = .holding frame late) :
      Step limits s .failForwardInput (afterInput s (.error connectorClosed))
  | readConnector (frame : ConnectorFrame) (admitted : Bool) (reads : s.output = .reading)
      (live : s.cancelled = false) :
      Step limits s (.readConnector frame admitted)
        (afterOutput s (checkOutput limits s.ready admitted frame))
  | failReadConnector (reads : s.output = .reading) :
      Step limits s .failReadConnector (afterOutput s (.error connectorClosed))
  | lockBrowser {passed : ConnectorFrame × Bool} {late : Bool}
      (holds : s.output = .holding passed late) (free : s.lock = none) :
      Step limits s .lockBrowser { s with lock := some .proxy }
  | forwardOutput {passed : ConnectorFrame × Bool} {late : Bool}
      (holds : s.output = .holding passed late) (locked : s.lock = some .proxy)
      (live : s.cancelled = false) :
      Step limits s .forwardOutput (afterForward s passed late)
  | failForwardOutput {passed : ConnectorFrame × Bool} {late : Bool}
      (holds : s.output = .holding passed late) (locked : s.lock = some .proxy) :
      Step limits s .failForwardOutput
        { afterOutput s (.error clientClosed) with lock := none }

/-- An authorization was refused, and the loop has yet to write the error or to end the
context of the proxies. -/
def Session.Reporting (s : Session) : Prop :=
  s.revoked = true ∧ (s.main = .reporting ∨ s.main = .writing ∨ s.main = .leaving)

/-- In that time a proxy reads a frame that passes its checks. -/
def Overtakes (limits : ProxyLimits) (s : Session) : Action → Prop
  | .readBrowser frame admitted =>
    s.Reporting ∧ ∃ passed, checkInput limits admitted frame = .ok passed
  | .readConnector frame admitted =>
    s.Reporting ∧ ∃ passed, checkOutput limits s.ready admitted frame = .ok passed
  | _ => False

/-- What a proxy holds already it may still write. -/
def Prompt (limits : ProxyLimits) (s : Session) (action : Action) : Prop :=
  ¬ Overtakes limits s action

def Proxy.OnTime {α : Type} : Proxy α → Prop
  | .holding _ late => late = false
  | _ => True

/-- After a refusal the loop does not go back to its select: it is on its way to the end
of the context, or the context has ended. -/
structure Cut (s : Session) : Prop where
  ends : s.revoked = true → s.cancelled = true ∨ s.Reporting
  input : s.input.OnTime
  output : s.output.OnTime
  toConnector : ∀ sent ∈ s.toConnector, sent.2 = false
  toBrowser : ∀ sent ∈ s.toBrowser, sent.2 = false

section Steps

variable {limits : ProxyLimits} {s next : Session} {action : Action}

theorem Cut.cancelled_of_main (cut : Cut s) (revoked : s.revoked = true)
    (elsewhere : s.main = .selecting ∨ s.main = .authorizing ∨ s.main = .closing) :
    s.cancelled = true := by
  rcases cut.ends revoked with done | ⟨_, reports⟩
  · exact done
  · rcases elsewhere with at_ | at_ | at_ <;> rw [at_] at reports <;> simp at reports

theorem Cut.not_revoked (cut : Cut s) (live : s.cancelled = false) (out : ¬ s.Reporting) :
    s.revoked = false := by
  by_contra revoked
  rcases cut.ends (by simpa using revoked) with done | reports
  · rw [live] at done
    cases done
  · exact out reports

theorem Cut.afterInput_error (cut : Cut s) (result : ProxyResult) :
    Cut (afterInput s (.error result)) :=
  { cut with input := trivial }

theorem Cut.afterOutput_error (cut : Cut s) (result : ProxyResult) :
    Cut (afterOutput s (.error result)) :=
  { cut with output := trivial }

theorem forall_mem_snoc {α : Type} {holds : α → Prop} {sent : List α} {last : α}
    (all : ∀ item ∈ sent, holds item) (also : holds last) :
    ∀ item ∈ sent ++ [last], holds item := by
  intro item member
  rcases List.mem_append.mp member with before | new
  · exact all item before
  · rw [List.mem_singleton.mp new]
    exact also

theorem step_cut (prompt : Prompt limits s action) (moved : Step limits s action next)
    (cut : Cut s) : Cut next := by
  cases moved with
  | tick selects | idle selects | takeResult selects | timeUp selects =>
    exact { cut with ends := fun revoked => .inl (cut.cancelled_of_main revoked (.inl selects)) }
  | authorized asks =>
    exact { cut with
      ends := fun revoked => .inl (cut.cancelled_of_main revoked (.inr (.inl asks))) }
  | refused => exact { cut with ends := fun _ => .inr ⟨rfl, .inl rfl⟩ }
  | lockError => exact { cut with ends := fun revoked => .inr ⟨revoked, .inr (.inl rfl)⟩ }
  | writeError => exact { cut with ends := fun revoked => .inr ⟨revoked, .inr (.inr rfl)⟩ }
  | cancelProxy | expire => exact { cut with ends := fun _ => .inl rfl }
  | closeNow closes =>
    exact { cut with
      ends := fun revoked => .inl (cut.cancelled_of_main revoked (.inr (.inr closes))) }
  | lockBrowser => exact { cut with }
  | failReadBrowser | failForwardInput => exact cut.afterInput_error _
  | failReadConnector => exact cut.afterOutput_error _
  | readBrowser frame admitted reads live =>
    cases checked : checkInput limits admitted frame with
    | error result => exact cut.afterInput_error result
    | ok passed =>
      exact { cut with input := cut.not_revoked live fun reports => prompt ⟨reports, _, checked⟩ }
  | readConnector frame admitted reads live =>
    cases checked : checkOutput limits s.ready admitted frame with
    | error result => exact cut.afterOutput_error result
    | ok passed =>
      exact { cut with output := cut.not_revoked live fun reports => prompt ⟨reports, _, checked⟩ }
  | forwardInput holds =>
    have early := cut.input
    rw [holds] at early
    exact { cut with input := trivial, toConnector := forall_mem_snoc cut.toConnector early }
  | @forwardOutput passed late holds =>
    have early := cut.output
    rw [holds] at early
    refine { cut with output := ?_, toBrowser := forall_mem_snoc cut.toBrowser early }
    unfold afterForward
    cases passed.2 <;> trivial
  | failForwardOutput => exact { cut with output := trivial }

/-- The loop gives the lock back before it leaves. -/
def Session.Locked (s : Session) : Prop := s.lock = some .main → s.main = .writing

theorem step_locked (moved : Step limits s action next) (locked : s.Locked) : next.Locked := by
  cases moved with
  | tick at_ | authorized at_ | refused at_ | takeResult at_ | idle at_ | timeUp at_
  | cancelProxy at_ | closeNow at_ =>
    intro main
    rw [locked main] at at_
    cases at_
  | lockError => exact fun _ => rfl
  | writeError | lockBrowser | forwardOutput | failForwardOutput => exact fun main => nomatch main
  | expire | forwardInput | failReadBrowser | failForwardInput | failReadConnector => exact locked
  | readBrowser frame admitted =>
    cases checked : checkInput limits admitted frame <;> exact locked
  | readConnector frame admitted =>
    cases checked : checkOutput limits s.ready admitted frame <;> exact locked

/-- Output that is held while the context lasts can still be written. -/
theorem held_output_written {passed : ConnectorFrame × Bool} {late : Bool}
    (locked : s.Locked) (holds : s.output = .holding passed late) (live : s.cancelled = false) :
    ∃ more final, Run (Step limits) anyAction s more final ∧
      (passed.1, late) ∈ final.toBrowser := by
  have ran : Run (Step limits) anyAction s [] s := .start
  cases lock : s.lock with
  | none =>
    have ran := ran.take .lockBrowser trivial (.lockBrowser holds lock)
    have ran := ran.take .forwardOutput trivial (.forwardOutput holds rfl live)
    exact ⟨_, _, ran, List.mem_append_right _ (List.mem_singleton.mpr rfl)⟩
  | some holder =>
    cases holder with
    | proxy =>
      have ran := ran.take .forwardOutput trivial (.forwardOutput holds lock live)
      exact ⟨_, _, ran, List.mem_append_right _ (List.mem_singleton.mpr rfl)⟩
    | main =>
      have ran := ran.take .writeError trivial (.writeError (locked lock))
      have ran := ran.take .lockBrowser trivial (.lockBrowser holds rfl)
      have ran := ran.take .forwardOutput trivial (.forwardOutput holds rfl live)
      exact ⟨_, _, ran, List.mem_append_right _ (List.mem_singleton.mpr rfl)⟩

/-- A late frame has been written, in one of the directions. -/
def LateWritten (s : Session) : Prop :=
  (∃ sent ∈ s.toConnector, sent.2 = true) ∨ ∃ sent ∈ s.toBrowser, sent.2 = true

theorem overtaking_written (locked : s.Locked) (overtakes : Overtakes limits s action)
    (moved : Step limits s action next) :
    ∃ more final, Run (Step limits) anyAction next more final ∧ LateWritten final := by
  have lockedNext := step_locked moved locked
  cases moved with
  | readBrowser frame admitted reads live =>
    obtain ⟨⟨revoked, _⟩, passed, checked⟩ := overtakes
    rw [checked]
    have ran : Run (Step limits) anyAction (afterInput s (.ok passed)) [] _ := .start
    have ran := ran.take .forwardInput trivial (.forwardInput rfl live)
    exact ⟨_, _, ran, .inl ⟨_, List.mem_append_right _ (List.mem_singleton.mpr rfl), revoked⟩⟩
  | readConnector frame admitted reads live =>
    obtain ⟨⟨revoked, _⟩, passed, checked⟩ := overtakes
    rw [checked] at lockedNext ⊢
    obtain ⟨more, final, ran, written⟩ := held_output_written lockedNext rfl live
    exact ⟨more, final, ran, .inr ⟨_, written, revoked⟩⟩
  | _ => exact overtakes.elim

end Steps

/-- If no proxy reads a frame that passes between a refused authorization and the end of
the proxies' context, no frame that is read after the refusal is forwarded, in either
direction. And wherever a run does have such a read, it can go on to forward the frame. -/
theorem revocation_cuts (limits : ProxyLimits) :
    (∀ actions s, Run (Step limits) (Prompt limits) connected actions s →
      (∀ sent ∈ s.toConnector, sent.2 = false) ∧ ∀ sent ∈ s.toBrowser, sent.2 = false) ∧
    ∀ actions s, Run (Step limits) anyAction connected actions s →
      ∀ action next, Overtakes limits s action → Step limits s action next →
        ∃ more final, Run (Step limits) anyAction next more final ∧ LateWritten final := by
  constructor
  · intro actions s ran
    have cut : Cut s :=
      ran.keeps (fun _ _ _ prompt moved => step_cut prompt moved)
        ⟨nofun, trivial, trivial, List.forall_mem_nil _, List.forall_mem_nil _⟩
    exact ⟨cut.toConnector, cut.toBrowser⟩
  · intro actions s ran action next overtakes moved
    have locked : s.Locked := ran.keeps (fun _ _ _ _ moved => step_locked moved) nofun
    exact overtaking_written locked overtakes moved

def sampleLimits : ProxyLimits := ⟨16384, 16384, "session", "connection"⟩

/-- A session in which the loop has learned of a refusal and waits for the browser to
take the error. -/
def refusedSession : Session :=
  { connected with main := .writing, revoked := true, lock := some .main }

theorem refusedSession_run :
    ∃ actions, Run (Step sampleLimits) anyAction connected actions refusedSession := by
  have ran : Run (Step sampleLimits) anyAction connected [] connected := .start
  have ran := ran.take .tick trivial (.tick rfl)
  have ran := ran.take (.authorize false) trivial (.refused rfl)
  have ran := ran.take .lockError trivial (.lockError rfl rfl)
  exact ⟨_, ran⟩

/-- Input that was read before the refusal is written after it, while the error is written;
what the browser sends from then on is not read. A read at that time can be forwarded. -/
theorem refusedSession_cut :
    (∃ actions s, Run (Step sampleLimits) (Prompt sampleLimits) connected actions s ∧
      s.revoked = true ∧ s.cancelled = true ∧ s.toConnector = [(.input [97], false)] ∧
      (∀ sent ∈ s.toConnector, sent.2 = false) ∧ ∀ sent ∈ s.toBrowser, sent.2 = false) ∧
    ∃ more final, Run (Step sampleLimits) anyAction
      (afterInput refusedSession (.ok (.input [98]))) more final ∧ LateWritten final := by
  obtain ⟨cuts, late⟩ := revocation_cuts sampleLimits
  constructor
  · have ran : Run (Step sampleLimits) (Prompt sampleLimits) connected [] connected := .start
    have ran := ran.take (.readBrowser (.input [97]) true) (fun overtakes => nomatch overtakes.1.1)
      (.readBrowser _ _ rfl rfl)
    have ran := ran.take .tick id (.tick rfl)
    have ran := ran.take (.authorize false) id (.refused rfl)
    have ran := ran.take .lockError id (.lockError rfl rfl)
    have ran := ran.take .forwardInput id (.forwardInput rfl rfl)
    have ran := ran.take .writeError id (.writeError rfl)
    have ran := ran.take .cancelProxy id (.cancelProxy rfl)
    exact ⟨_, _, ran, rfl, rfl, rfl, cuts _ _ ran⟩
  · obtain ⟨_, ran⟩ := refusedSession_run
    exact late _ _ ran (.readBrowser (.input [98]) true) _ ⟨⟨rfl, .inr (.inl rfl)⟩, _, rfl⟩
      (.readBrowser _ _ rfl rfl)

/-- While the browser does not take the error, the proxy goes on with its input. And
the loop may find the lock taken by output that comes after the refusal. -/
theorem refused_forwarded :
    (∃ actions s, Run (Step sampleLimits) anyAction connected actions s ∧
      s.toConnector = [(.input [97], true)]) ∧
    ∃ actions s, Run (Step sampleLimits) anyAction connected actions s ∧
      s.toBrowser = [(.ready "connection" ⟨80, 24, 0, 0⟩, false), (.output [98], true)] := by
  constructor
  · obtain ⟨_, ran⟩ := refusedSession_run
    have ran := ran.take (.readBrowser (.input [97]) true) trivial (.readBrowser _ _ rfl rfl)
    have ran := ran.take .forwardInput trivial (.forwardInput rfl rfl)
    exact ⟨_, _, ran, rfl⟩
  · have ran : Run (Step sampleLimits) anyAction connected [] connected := .start
    have ran := ran.take (.readConnector (.ready "session" ⟨80, 24, 0, 0⟩) true) trivial
      (.readConnector _ _ rfl rfl)
    have ran := ran.take .lockBrowser trivial (.lockBrowser rfl rfl)
    have ran := ran.take .forwardOutput trivial (.forwardOutput rfl rfl rfl)
    have ran := ran.take .tick trivial (.tick rfl)
    have ran := ran.take (.authorize false) trivial (.refused rfl)
    have ran := ran.take (.readConnector (.output [98]) true) trivial (.readConnector _ _ rfl rfl)
    have ran := ran.take .lockBrowser trivial (.lockBrowser rfl rfl)
    have ran := ran.take .forwardOutput trivial (.forwardOutput rfl rfl rfl)
    exact ⟨_, _, ran, rfl⟩

end Gateway

end VpsManager.Terminal
