import VpsManager.Lib.Desk
import VpsManager.Lib.Machine
import VpsManager.Terminal.Validation

namespace VpsManager.Terminal

open Go Checks Protocol Machine

def messageHello : String := "hello"

structure HelloMessage where
  type : String
  ticket : String
  connectionID : String
  binding : Binding
  deriving DecidableEq, Repr

namespace Tickets

structure GatewayConfig where
  ticketTTL : Int
  maxOutstandingTickets : Nat

structure ManagerConfig where
  ticketTTL : Int

structure World where
  sha256 : Bytes → Bytes
  gateway : GatewayConfig
  manager : ManagerConfig

structure BrowserTicket where
  connectionID : String
  binding : Binding
  reason : String
  upstreamTicket : String
  upstreamSession : String
  connectorBinding : WebSSHBinding
  expiresAt : Int
  deriving DecidableEq, Repr

/-- The bytes of a value, if there are as many as it must have. -/
def decodeBytes (count : Nat) (encoded : String) : Option Bytes :=
  (rawURLDecode false encoded).filter fun raw => raw.length = count

/-- Both sides refuse a ticket with the same codes. -/
def refusals : Desk.Refusals String where
  unknown := "invalid_ticket"
  replayed := "ticket_replayed"
  expired := "ticket_expired"
  mismatch := "ticket_binding_mismatch"

/-- One call of `createTicket`: its request, the bytes it draws and its clock. -/
structure Creation where
  request : IssueRequest
  requestID : String
  ticketBytes : Bytes
  sessionBytes : Bytes
  now : Int
  deriving DecidableEq, Repr

namespace Creation

def response (manager : ManagerConfig) (creation : Creation) : WebSSHTicketResponse where
  protocolVersion := protocolVersion
  requestID := creation.requestID
  ticket := rawURLEncode creation.ticketBytes
  sessionID := rawURLEncode creation.sessionBytes
  expiresAt := creation.now + manager.ticketTTL

end Creation

/-- The end of one call of `Issue`: its request with the normalized binding, the
Connector's answer, the bytes it draws and the clock its expiry is taken from. -/
structure Issuance where
  request : IssueRequest
  response : WebSSHTicketResponse
  browserRaw : Bytes
  connectionRaw : Bytes
  now : Int
  deriving DecidableEq, Repr

namespace Issuance

def expiresAt (gateway : GatewayConfig) (issuance : Issuance) : Int :=
  if issuance.response.expiresAt < issuance.now + gateway.ticketTTL then
    issuance.response.expiresAt
  else issuance.now + gateway.ticketTTL

def entry (gateway : GatewayConfig) (issuance : Issuance) : BrowserTicket where
  connectionID := rawURLEncode issuance.connectionRaw
  binding := issuance.request.binding
  reason := issuance.request.reason
  upstreamTicket := issuance.response.ticket
  upstreamSession := issuance.response.sessionID
  connectorBinding := (connectorRequest issuance.request).binding
  expiresAt := issuance.expiresAt gateway

end Issuance

def validateConnectorResponse (response : WebSSHTicketResponse) (now : Int) :
    Except String Unit := do
  ensure (response.protocolVersion = protocolVersion ∧ now < response.expiresAt ∧
      response.expiresAt ≤ now + minute)
    "invalid Connector WebSSH response"
  let _ ← orError (decodeBytes 32 response.ticket) "invalid Connector ticket"
  let _ ← orError (decodeBytes 16 response.sessionID) "invalid Connector session"
  return ()

abbrev BrokerDesk := Desk Bytes BrowserTicket

namespace Broker

def errCapacity : String := "WebSSH gateway capacity reached"

/-- The checks of `Issue` before it asks for the authorization: the request with its
normalized binding. -/
def acceptRequest (request : IssueRequest) : Except String IssueRequest := do
  validateIssueRequest request
  let binding ← normalizeBinding request.binding
  return { request with binding := binding }

def consumeTicket (world : World) (hello : HelloMessage) (now : Int) :
    Critical BrokerDesk String BrowserTicket := do
  let decoded ← liftM (orError (decodeBytes 32 hello.ticket) refusals.unknown)
  Desk.consume BrowserTicket.expiresAt refusals now (now + world.gateway.ticketTTL)
    (world.sha256 decoded) fun entry =>
      match normalizeBinding hello.binding with
      | .error _ => false
      | .ok binding =>
        hello.connectionID == entry.connectionID && hello.type == messageHello &&
          entry.binding == binding

end Broker

theorem decodeBytes_eq_some {count : Nat} {encoded : String} {raw : Bytes} :
    decodeBytes count encoded = some raw ↔
      rawURLDecode false encoded = some raw ∧ raw.length = count := by
  simp [decodeBytes, Option.filter_eq_some_iff]

theorem decodeBytes_rawURLEncode {raw : Bytes} {count : Nat} (length : raw.length = count) :
    decodeBytes count (rawURLEncode raw) = some raw :=
  decodeBytes_eq_some.mpr ⟨rawURLDecode_rawURLEncode _ raw, length⟩

def sampleWorld : World where
  sha256 := id
  gateway := ⟨30 * second, 16⟩
  manager := ⟨30 * second⟩

def sampleIssue : IssueRequest :=
  terminalRequest (developer "olga") pinnedHost
    (Control.newPin Ssh.sampleLibrary Control.sampleOperator Ssh.firstKey.key 0)
    (Control.newID "cred" (List.replicate 16 2)) ⟨bytes Ssh.secondKey.privateKeyPEM, []⟩
    sampleTerminal

def sampleCreation : Creation :=
  ⟨sampleIssue, "req_1", List.replicate 32 1, List.replicate 16 2, 0⟩

def sampleIssuance : Issuance :=
  ⟨sampleIssue, sampleCreation.response sampleWorld.manager, List.replicate 32 3,
    List.replicate 16 4, 0⟩

def sampleHello : HelloMessage :=
  ⟨messageHello, rawURLEncode (List.replicate 32 3), rawURLEncode (List.replicate 16 4),
    sampleIssue.binding⟩

theorem sampleIssue_normalized :
    normalizeBinding sampleIssue.binding = .ok sampleIssue.binding := by
  have ids : validID sampleIssue.binding.principalID = true ∧
      validID sampleIssue.binding.sessionID = true ∧ validID sampleIssue.binding.hostID = true ∧
      validID sampleIssue.binding.credentialID = true ∧ sampleIssue.binding.action = actionWebSSH ∧
      validID "operator" = true := by decide +kernel
  obtain ⟨principalID, sessionID, hostID, credentialID, action, role⟩ := ids
  have sorted : sampleIssue.binding.roles.mergeSort = sampleIssue.binding.roles :=
    List.mergeSort_singleton _
  simp only [normalizeBinding, bind_eq_ok, ensure_eq_ok, pure_eq_ok, sorted]
  refine ⟨(), ⟨principalID, sessionID, hostID, credentialID, action⟩, (), by decide, (), ?_, (),
    .singleton _, trivial⟩
  intro other inside
  rw [List.mem_singleton.mp inside]
  exact role

theorem sampleIssue_accepted : Broker.acceptRequest sampleIssue = .ok sampleIssue := by
  have reason := sampleTerminal_valid.2
  simp only [Broker.acceptRequest, validateIssueRequest, bind_eq_ok, ensure_eq_ok, pure_eq_ok]
  exact ⟨(), ⟨_, sampleIssue_normalized, (), reason, by decide +kernel⟩, _, sampleIssue_normalized,
    rfl⟩

theorem sampleHello_consumed {desk : BrokerDesk}
    (there : (desk.prune BrowserTicket.expiresAt 1).held (List.replicate 32 3) =
      some (sampleIssuance.entry sampleWorld.gateway)) :
    (Broker.consumeTicket sampleWorld sampleHello 1).outcome desk =
      (.ok (sampleIssuance.entry sampleWorld.gateway),
        (desk.prune BrowserTicket.expiresAt 1).withdraw (List.replicate 32 3)
          (1 + 30 * second)) := by
  have decoded : decodeBytes 32 sampleHello.ticket = some (List.replicate 32 3) :=
    decodeBytes_rawURLEncode rfl
  simp only [Broker.consumeTicket, Critical.outcome_check_ok, orError_eq_ok]
  refine ⟨_, decoded, Desk.consume_eq _ _ there (by decide) ?_⟩
  have normalized : normalizeBinding sampleHello.binding = .ok sampleIssue.binding :=
    sampleIssue_normalized
  rw [normalized]
  simp [sampleHello, sampleIssuance, Issuance.entry]

end Tickets

end VpsManager.Terminal
