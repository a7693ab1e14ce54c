import VpsManager.Control.Audit
import VpsManager.Control.Identity
import VpsManager.Control.Preview
import VpsManager.Control.Sessions
import VpsManager.Protocol.WebSsh
import VpsManager.Store.Hosts

namespace VpsManager.Terminal

open Go Checks Protocol Control

structure Binding where
  principalID : String
  sessionID : String
  roles : List String
  hostID : String
  credentialID : String
  action : String
  deriving DecidableEq, Repr

structure IssueRequest where
  binding : Binding
  target : Ssh.Target
  pinnedHostKey : String
  credential : Credential
  initialSize : TerminalSize
  reason : String
  deriving DecidableEq, Repr

/-- A trimmed text without blanks and control characters. -/
def plainText (max : Nat) (value : String) : Bool :=
  1 ≤ len value && len value ≤ max && value == trimSpace value &&
    value.toList.all fun c => !(isControl c || isSpace c)

def validID (value : String) : Bool := plainText 128 value

def normalizeBinding (value : Binding) : Except String Binding := do
  ensure (validID value.principalID = true ∧ validID value.sessionID = true ∧
      validID value.hostID = true ∧ validID value.credentialID = true ∧
      value.action = actionWebSSH)
    "invalid WebSSH binding"
  ensure (value.roles.length ≠ 0 ∧ value.roles.length ≤ 32)
    "WebSSH binding must contain between one and 32 roles"
  ensure (∀ role ∈ value.roles, validID role = true) "invalid WebSSH role"
  let roles := value.roles.mergeSort
  ensure (roles.IsChain (· ≠ ·)) "duplicate WebSSH role"
  return { value with roles := roles }

def validateReason (value : String) : Except String Unit := do
  ensure (value ≠ "" ∧ len value ≤ 500 ∧ value = trimSpace value)
    "WebSSH reason must contain between one and 500 trimmed characters"
  ensure (value.toList.all (fun c => !isControl c || c == '\t') = true)
    "WebSSH reason contains control characters"

def validateIssueRequest (request : IssueRequest) : Except String Unit := do
  let _ ← normalizeBinding request.binding
  validateReason request.reason
  ensure (trimSpace request.target.address ≠ "" ∧
      request.target.address = trimSpace request.target.address ∧
      len request.target.address ≤ 253 ∧ 1 ≤ request.target.port ∧
      request.target.port ≤ 65535 ∧ validID request.target.user = true ∧
      len request.pinnedHostKey ≠ 0 ∧ len request.pinnedHostKey ≤ 16 * 1024 ∧
      request.credential.privateKeyPEM.length ≠ 0 ∧
      request.credential.privateKeyPEM.length ≤ 48 * 1024 ∧
      request.credential.passphrase.length ≤ 4 * 1024 ∧
      validTerminalSize request.initialSize = true)
    "invalid WebSSH target, credential, host key, or terminal size"

/-- The request `Issue` hands to the client, which adds the protocol version. -/
def connectorRequest (request : IssueRequest) : WebSSHTicketRequest where
  protocolVersion := ""
  binding := {
    principalID := request.binding.principalID
    hostID := request.binding.hostID
    credentialID := request.binding.credentialID
    action := actionWebSSH }
  target := request.target
  pinnedHostKey := request.pinnedHostKey
  credential := request.credential
  initialSize := request.initialSize

/-- `defaultBodyLimit` of the Connector. -/
def defaultBodyLimit : Nat := 64 * 1024

def validBoundID (value : String) : Bool := plainText 128 value

def validSSHUser (value : String) : Bool := plainText 64 value

def validateWebSSHTicketRequest (library : Ssh.Library) (payload : WebSSHTicketRequest)
    (allowPrivate : Bool) : Except String Unit := do
  ensure (payload.protocolVersion = protocolVersion ∧ payload.binding.action = actionWebSSH ∧
      validBoundID payload.binding.principalID = true ∧
      validBoundID payload.binding.hostID = true ∧
      validBoundID payload.binding.credentialID = true ∧
      trimSpace payload.target.address ≠ "" ∧
      payload.target.address = trimSpace payload.target.address ∧
      len payload.target.address ≤ 253 ∧ 1 ≤ payload.target.port ∧
      payload.target.port ≤ 65535 ∧ validSSHUser payload.target.user = true ∧
      len payload.pinnedHostKey ≠ 0 ∧ len payload.pinnedHostKey ≤ 16 * 1024 ∧
      payload.credential.privateKeyPEM.length ≠ 0 ∧
      payload.credential.privateKeyPEM.length ≤ 48 * 1024 ∧
      payload.credential.passphrase.length ≤ 4 * 1024 ∧
      validTerminalSize payload.initialSize = true)
    "invalid web SSH ticket"
  Ssh.validateTargetLiteral payload.target.address allowPrivate
  let _ ← Ssh.parsePinnedHostKey library payload.pinnedHostKey
  let _ ← orError
    (Ssh.parseSigner library payload.credential.privateKeyPEM payload.credential.passphrase)
    "parse private key"
  return ()

structure DevSessionRequest where
  subject : String
  role : Role
  allHosts : Bool
  hostIDs : List String
  deriving DecidableEq, Repr

/-- `createDevSession` on its decoded body, up to `Issue`. -/
def acceptDevSession (input : DevSessionRequest) : Except ApiError Principal := do
  let subject := trimSpace input.subject
  ensure (1 ≤ len subject ∧ len subject ≤ 128 ∧ validRole input.role = true ∧
      ¬ (input.allHosts = true ∧ 0 < input.hostIDs.length))
    (validationError "subject and valid role are required")
  ensure (∀ hostID ∈ input.hostIDs, hasPrefix hostID "host_" = true ∧ len hostID ≤ 128)
    (validationError "hostIds contains an invalid host id")
  return ⟨subject, input.role, input.allHosts, input.hostIDs, ""⟩

inductive SignedIn (sha256 : Bytes → Bytes) : Principal → Prop
  | dev {input : DevSessionRequest} {principal : Principal} {ttl now : Int} {token : String}
      {random : Except String (Bytes × Bytes)} {session : StoredSession}
      (accepted : acceptDevSession input = .ok principal)
      (lengths : ∀ raw sessionIDRaw, random = .ok (raw, sessionIDRaw) →
        raw.length = 32 ∧ sessionIDRaw.length = 16)
      (issued : issueSession sha256 principal ttl random now = .ok (token, session)) :
      SignedIn sha256 session.principal
  | identity {verifier : Identity.Verifier} {claims : Identity.Claims} {checked ttl now : Int}
      {token : String} {random : Except String (Bytes × Bytes)} {session : StoredSession}
      (accepted : Identity.validateClaims verifier checked claims = .ok ())
      (lengths : ∀ raw sessionIDRaw, random = .ok (raw, sessionIDRaw) →
        raw.length = 32 ∧ sessionIDRaw.length = 16)
      (issued : issueSession sha256 (Identity.principalOf claims) ttl random now =
        .ok (token, session)) :
      SignedIn sha256 session.principal

inductive Managed (server : Server) : Host → Prop
  | created {principal : Principal} {body : Except String CreateHostRequest} {raw : Bytes}
      {now : Int} {host : Host} (drawn : raw.length = 16)
      (ready : prepareCreate server principal body raw now = .ok host) : Managed server host
  | edited {principal : Principal} {edit : HostEdit} {now : Int} {host written : Host}
      {expected : UInt64} (earlier : Managed server host)
      (ready : edit.prepare server principal host now = .ok (written, expected)) :
      Managed server written

structure TerminalSessionRequest where
  reason : String
  columns : UInt16
  rows : UInt16
  deriving DecidableEq, Repr

def TerminalSessionRequest.size (input : TerminalSessionRequest) : TerminalSize where
  columns := if input.columns = 0 then 80 else input.columns
  rows := if input.rows = 0 then 24 else input.rows
  widthPixels := 0
  heightPixels := 0

/-- The request `createTerminalSession` builds from the host, its pin and its
credential. -/
def terminalRequest (principal : Principal) (host : Host) (pin : HostKeyPin) (credentialID : String)
    (credential : Credential) (input : TerminalSessionRequest) : IssueRequest where
  binding := {
    principalID := principal.subject
    sessionID := principal.sessionID
    roles := [principal.role.name]
    hostID := host.id
    credentialID := credentialID
    action := actionWebSSH }
  target := ⟨host.address, host.port, host.username⟩
  pinnedHostKey := pin.publicKey
  credential := credential
  initialSize := input.size
  reason := input.reason

/-- The bytes of a passphrase in the body; an empty one is left out. -/
def passphraseLen (passphrase : Bytes) : Nat :=
  if passphrase = [] then 0 else base64Len passphrase.length + 16

theorem credential_size (credential : Credential) (present : credential.privateKeyPEM ≠ []) :
    credential.json.size =
      base64Len credential.privateKeyPEM.length + passphraseLen credential.passphrase + 20 := by
  have key : (Json.ofBytes credential.privateKeyPEM).size =
      base64Len credential.privateKeyPEM.length + 2 := by
    rw [Json.ofBytes, if_neg present, Json.size, Json.escapedLen_stdEncode]
  have name : Json.escapedLen "privateKeyPem" = 13 := rfl
  by_cases empty : credential.passphrase = []
  · simp only [Credential.json, passphraseLen, empty, ↓reduceIte, Json.struct,
      List.reduceOption_cons_of_some, List.reduceOption_cons_of_none, List.reduceOption_nil,
      Json.size, Json.sizeMembers, key, name]
    omega
  · have passphrase : (Json.ofBytes credential.passphrase).size =
        base64Len credential.passphrase.length + 2 := by
      rw [Json.ofBytes, if_neg empty, Json.size, Json.escapedLen_stdEncode]
    have other : Json.escapedLen "passphrase" = 10 := rfl
    simp only [Credential.json, passphraseLen, empty, ↓reduceIte, Json.struct,
      List.reduceOption_cons_of_some, List.reduceOption_nil, Json.size, Json.sizeMembers, key, name,
      passphrase, other]
    omega

theorem terminalSize_size (size : TerminalSize)
    (flat : size.widthPixels = 0 ∧ size.heightPixels = 0) :
    size.json.size =
      len (toString size.columns.toNat) + len (toString size.rows.toNat) + 20 := by
  have names : Json.escapedLen "columns" = 7 ∧ Json.escapedLen "rows" = 4 := ⟨rfl, rfl⟩
  have zero : (0 : UInt16).toNat = 0 := rfl
  simp only [TerminalSize.json, flat, zero, Json.nonZero, ↓reduceIte, Json.struct,
    List.reduceOption_cons_of_some, List.reduceOption_cons_of_none, List.reduceOption_nil,
    Json.size, Json.sizeMembers, Json.ofNat, names]
  omega

theorem ticketRequest_size (request : WebSSHTicketRequest) :
    request.json.size = Json.escapedLen request.protocolVersion +
      Json.escapedLen request.binding.principalID + Json.escapedLen request.binding.hostID +
      Json.escapedLen request.binding.credentialID + Json.escapedLen request.binding.action +
      Json.escapedLen request.target.address + len (toString request.target.port) +
      Json.escapedLen request.target.user + Json.escapedLen request.pinnedHostKey +
      request.credential.json.size + request.initialSize.json.size + 183 := by
  change 15 + 3 + (Json.escapedLen request.protocolVersion + 2) + 1 +
    (7 + 3 + (11 + 3 + (Json.escapedLen request.binding.principalID + 2) + 1 +
      (6 + 3 + (Json.escapedLen request.binding.hostID + 2) + 1 +
      (12 + 3 + (Json.escapedLen request.binding.credentialID + 2) + 1 +
      (6 + 3 + (Json.escapedLen request.binding.action + 2)))) + 2) + 1 +
    (6 + 3 + (7 + 3 + (Json.escapedLen request.target.address + 2) + 1 +
      (4 + 3 + len (toString request.target.port) + 1 +
      (4 + 3 + (Json.escapedLen request.target.user + 2))) + 2) + 1 +
    (13 + 3 + (Json.escapedLen request.pinnedHostKey + 2) + 1 +
    (10 + 3 + request.credential.json.size + 1 +
    (11 + 3 + request.initialSize.json.size))))) + 2 = _
  omega

/-- The length of the body the client sends for a terminal. -/
def bodyLen (principal : Principal) (host : Host) (pin : HostKeyPin) (credentialID : String)
    (payload : CredentialPayload) (size : TerminalSize) : Nat :=
  Json.escapedLen principal.subject + Json.escapedLen host.id + Json.escapedLen credentialID +
    Json.escapedLen host.address + len (toString host.port) + Json.escapedLen host.username +
    Json.escapedLen pin.publicKey + base64Len (len payload.privateKey) +
    passphraseLen (bytes payload.passphrase) + len (toString size.columns.toNat) +
    len (toString size.rows.toNat) + 235

theorem len_body (principal : Principal) (host : Host) (pin : HostKeyPin) (credentialID : String)
    (payload : CredentialPayload) (input : TerminalSessionRequest)
    (present : payload.privateKey ≠ "") :
    len (webSSHTicket (connectorRequest (terminalRequest principal host pin credentialID
      ⟨bytes payload.privateKey, bytes payload.passphrase⟩ input))).json.encode =
        bodyLen principal host pin credentialID payload input.size := by
  have key : bytes payload.privateKey ≠ [] := by
    intro empty
    exact present (bytes_injective empty)
  have version : Json.escapedLen protocolVersion = 2 := rfl
  have action : Json.escapedLen actionWebSSH = 10 := rfl
  rw [Json.len_encode, ticketRequest_size, bodyLen]
  simp only [webSSHTicket, connectorRequest, terminalRequest, version, action,
    credential_size ⟨bytes payload.privateKey, bytes payload.passphrase⟩ key, length_bytes,
    terminalSize_size input.size ⟨rfl, rfl⟩]
  omega

variable {max : Nat} {value : String} {server : Server} {host : Host}

theorem plainText_iff :
    plainText max value = true ↔ 1 ≤ len value ∧ len value ≤ max ∧ value = trimSpace value ∧
      ∀ c ∈ value.toList, isSpace c = false ∧ isControl c = false := by
  simp only [plainText, Bool.and_eq_true, decide_eq_true_eq, beq_iff_eq, List.all_eq_true,
    Bool.not_eq_true', Bool.or_eq_false_iff, and_assoc, and_comm (a := isControl _ = false)]

theorem plainText_of_anchored {lead follow : Char → Bool} {count : Nat}
    (matched : anchored lead follow count value = true) (short : count + 1 ≤ max)
    (range : ∀ c ∈ value.toList, 45 ≤ c.toNat ∧ c.toNat ≤ 122) : plainText max value = true := by
  obtain ⟨-, bytesEach, trimmed⟩ := Store.plain_of_range range
  have length := length_of_anchored matched
  refine plainText_iff.mpr ⟨by omega, by omega, trimmed.symm, ?_⟩
  intro c member
  have bounds := range c member
  exact printable_of_range (by omega)

theorem validID_of_identifier (identifier : Persistence.identifierPattern value = true) :
    validID value = true :=
  plainText_of_anchored identifier (by decide) (Persistence.identifier_range identifier)

theorem plainText_of_username (username : usernamePattern value = true) (short : 64 ≤ max) :
    plainText max value = true :=
  plainText_of_anchored (Store.usernamePattern_eq value ▸ username) short
    (Store.username_range username)

theorem validID_role {role : Role} (valid : validRole role = true) : validID role.name = true := by
  cases role with
  | other name => cases valid
  | _ => decide +kernel

theorem SignedIn.facts {sha256 : Bytes → Bytes} {principal : Principal}
    (signedIn : SignedIn sha256 principal) :
    1 ≤ len principal.subject ∧ len principal.subject ≤ 128 ∧
      principal.subject = trimSpace principal.subject ∧ validRole principal.role = true ∧
      validID principal.sessionID = true := by
  have session {principal : Principal} {ttl now : Int} {random : Except String (Bytes × Bytes)}
      {token : String} {session : StoredSession}
      (lengths : ∀ raw sessionIDRaw, random = .ok (raw, sessionIDRaw) →
        raw.length = 32 ∧ sessionIDRaw.length = 16)
      (issued : issueSession sha256 principal ttl random now = .ok (token, session)) :
      session.principal.subject = principal.subject ∧ session.principal.role = principal.role ∧
        validID session.principal.sessionID = true := by
    simp only [issueSession, bind_eq_ok, ensure_eq_ok, pure_eq_ok, Prod.mk.injEq] at issued
    obtain ⟨_, -, _, -, ⟨raw, sessionIDRaw⟩, drawn, rfl, rfl⟩ := issued
    exact ⟨rfl, rfl, validID_of_identifier
      (Store.identifierPattern_newID (by decide) (by decide) (lengths _ _ drawn).2)⟩
  cases signedIn with
  | dev accepted lengths issued =>
    obtain ⟨subject, role, sessionID⟩ := session lengths issued
    simp only [acceptDevSession, bind_eq_ok, ensure_eq_ok, pure_eq_ok] at accepted
    obtain ⟨_, ⟨nonempty, short, valid, -⟩, _, -, rfl⟩ := accepted
    rw [subject, role]
    exact ⟨nonempty, short, (trimSpace_trimSpace _).symm, valid, sessionID⟩
  | identity accepted lengths issued =>
    obtain ⟨subject, role, sessionID⟩ := session lengths issued
    simp only [Identity.validateClaims, bind_eq_ok, ensure_eq_ok, not_or] at accepted
    obtain ⟨_, -, _, ⟨trimmed, nonempty, short, valid⟩, -⟩ := accepted
    rw [subject, role]
    exact ⟨Nat.le_of_not_lt nonempty, Nat.le_of_not_lt short, (not_not.mp trimmed).symm,
      (Bool.not_eq_false _).mp valid, sessionID⟩

theorem Managed.usable (managed : Managed server host) : Store.UsableHost host := by
  induction managed with
  | created drawn ready => exact .created drawn ready
  | edited _ ready usable => exact usable.edited ready

theorem Managed.pinSound (readBack : PinsReadBack server.library) (managed : Managed server host) :
    PinSound server.library host := by
  induction managed with
  | created drawn ready =>
    simp only [prepareCreate, bind_eq_ok, ensure_eq_ok, mapError_eq_ok, pure_eq_ok] at ready
    obtain ⟨_, -, input, -, _, -, rfl⟩ := ready
    intro pin pinned
    cases pinned
  | edited _ ready sound => exact sound.prepared readBack ready

/-- What the checks ask for beyond what is true of every session, host and
credential the control plane accepts. -/
structure Opens (principal : Principal) (host : Host) (pin : HostKeyPin) (credentialID : String)
    (payload : CredentialPayload) (size : TerminalSize) (allowPrivate : Bool) : Prop where
  subject : ∀ c ∈ principal.subject.toList, isSpace c = false ∧ isControl c = false
  address : host.address = trimSpace host.address ∧ len host.address ≤ 253
  target : Ssh.validateTargetLiteral host.address allowPrivate = .ok ()
  hostKey : len pin.publicKey ≤ 16 * 1024
  privateKey : len payload.privateKey ≤ 48 * 1024
  body : bodyLen principal host pin credentialID payload size ≤ defaultBodyLimit

theorem normalizeBinding_single {binding : Binding} {role : String}
    (single : binding.roles = [role]) :
    (∃ normalized, normalizeBinding binding = .ok normalized) ↔
      validID binding.principalID = true ∧ validID binding.sessionID = true ∧
        validID binding.hostID = true ∧ validID binding.credentialID = true ∧
        binding.action = actionWebSSH ∧ validID role = true := by
  simp only [normalizeBinding, single, bind_eq_ok, ensure_eq_ok, pure_eq_ok]
  constructor
  · rintro ⟨_, _, ⟨principalID, sessionID, hostID, credentialID, action⟩, _, -, _, roles, -⟩
    exact ⟨principalID, sessionID, hostID, credentialID, action, roles role (by simp)⟩
  · rintro ⟨principalID, sessionID, hostID, credentialID, action, valid⟩
    exact ⟨_, (), ⟨principalID, sessionID, hostID, credentialID, action⟩, (), by simp, (),
      by simpa using valid, (), by simp, rfl⟩

theorem publicKey_nonempty {library : Ssh.Library} {text : String} {key : Ssh.PublicKey}
    (blank : library.parseAuthorizedKey "\n" = none)
    (parsed : Ssh.parsePinnedHostKey library text = .ok key) : len text ≠ 0 := by
  intro zero
  have empty : text = "" := String.utf8ByteSize_eq_zero_iff.mp zero
  have trimmed : trimSpace "" ++ "\n" = "\n" := by decide
  rw [empty, Ssh.parsePinnedHostKey, trimmed, blank] at parsed
  cases parsed

section Passes

variable {principal : Principal} {pin : HostKeyPin} {payload : CredentialPayload}
  {key : Ssh.PublicKey} {raw : Bytes} {input : TerminalSessionRequest} {credential : Credential}
  {allowPrivate : Bool}

/-- For every session, host, pin and credential the control plane accepts, a terminal
passes the three checks exactly if `Opens` holds. -/
theorem terminal_passes_iff (readBack : PinsReadBack server.library)
    (blank : server.library.parseAuthorizedKey "\n" = none)
    (signedIn : SignedIn server.sha256 principal) (managed : Managed server host)
    (pinned : host.hostKey = some pin)
    (accepted : readCredential server (.ok payload) = .ok (payload, key))
    (decoded : decodeConnectorCredential payload = .ok credential) (drawn : raw.length = 16)
    (size : validTerminalSize input.size = true)
    (reason : validateReason input.reason = .ok ()) :
    (validateIssueRequest
        (terminalRequest principal host pin (newID "cred" raw) credential input) = .ok () ∧
      len (webSSHTicket (connectorRequest (terminalRequest principal host pin (newID "cred" raw)
        credential input))).json.encode ≤ defaultBodyLimit ∧
      validateWebSSHTicketRequest server.library (webSSHTicket (connectorRequest
        (terminalRequest principal host pin (newID "cred" raw) credential input)))
        allowPrivate = .ok ()) ↔
      Opens principal host pin (newID "cred" raw) payload input.size allowPrivate := by
  simp only [decodeConnectorCredential, bind_eq_ok, ensure_eq_ok, pure_eq_ok] at decoded
  obtain ⟨_, present, rfl⟩ := decoded
  simp only [readCredential, bind_eq_ok, mapError_eq_ok, ensure_eq_ok, orError_eq_ok,
    pure_eq_ok] at accepted
  obtain ⟨_, same, _, ⟨nonempty, -, passphrase⟩, _, parsed, -⟩ := accepted
  cases same
  obtain ⟨subjectNonempty, subjectShort, subjectTrimmed, role, sessionID⟩ := signedIn.facts
  have usable := managed.usable
  obtain ⟨hostKey, keyParsed, -⟩ := managed.pinSound readBack pin pinned
  have hostID := validID_of_identifier usable.id
  have credentialID : validID (newID "cred" raw) = true :=
    validID_of_identifier (Store.identifierPattern_newID (by decide) (by decide) drawn)
  have keyNonempty := publicKey_nonempty blank keyParsed
  have plainUser : validSSHUser host.username = true :=
    plainText_of_username usable.username (by decide)
  have gatewayUser : validID host.username = true :=
    plainText_of_username usable.username (by decide)
  have pemNonempty : (bytes payload.privateKey).length ≠ 0 := nonempty
  rw [len_body principal host pin (newID "cred" raw) payload input present]
  simp only [validateIssueRequest, validateWebSSHTicketRequest, bind_eq_ok, ensure_eq_ok,
    orError_eq_ok]
  constructor
  · rintro ⟨⟨normalized, bound, _, -, -, address, addressShort, -, -, -, -, keyShort, -, pemShort,
      -⟩, body, _, -, _, target, -⟩
    obtain ⟨subject, -⟩ := (normalizeBinding_single rfl).mp ⟨normalized, bound⟩
    obtain ⟨-, -, -, plain⟩ := plainText_iff.mp subject
    exact ⟨plain, ⟨address, addressShort⟩, target, keyShort, pemShort, body⟩
  · rintro ⟨plain, ⟨address, addressShort⟩, target, keyShort, pemShort, body⟩
    have subject : plainText 128 principal.subject = true :=
      plainText_iff.mpr ⟨subjectNonempty, subjectShort, subjectTrimmed, plain⟩
    obtain ⟨normalized, bound⟩ := (@normalizeBinding_single (terminalRequest principal host pin
      (newID "cred" raw) ⟨bytes payload.privateKey, bytes payload.passphrase⟩ input).binding _
      rfl).mpr ⟨subject, sessionID, hostID, credentialID, rfl, validID_role role⟩
    exact ⟨⟨normalized, bound, (), reason, usable.address.1, address, addressShort, usable.port.1,
        usable.port.2, gatewayUser, keyNonempty, keyShort, pemNonempty, pemShort, passphrase, size⟩,
      body, (), ⟨rfl, rfl, subject, hostID, credentialID, usable.address.1, address, addressShort,
        usable.port.1, usable.port.2, plainUser, keyNonempty, keyShort, pemNonempty, pemShort,
        passphrase, size⟩, (), target, hostKey, keyParsed, _, parsed, rfl⟩

end Passes

def pinnedHost : Host :=
  { Store.requestedHost none with
    hostKey := some (newPin Ssh.sampleLibrary sampleOperator Ssh.firstKey.key 0)
    version := 2 }

theorem pinnedHost_managed : Managed (sampleServer id) pinnedHost := by
  have created : prepareCreate (sampleServer id) sampleOperator (.ok (Store.sampleRequest none))
      (List.replicate 16 7) 0 = .ok (Store.requestedHost none) := rfl
  have facts : trimSpace Ssh.firstKey.fingerprint ≠ "" ∧
      Ssh.sampleLibrary.fingerprintSHA256 Ssh.firstKey.key =
        trimSpace Ssh.firstKey.fingerprint := by decide +kernel
  have algorithm : validateHostKeyAlgorithm Ssh.sampleLibrary Ssh.firstKey.key = .ok () := by
    decide +kernel
  have pinned : (pinRequest 1 Ssh.firstKey).prepare (sampleServer id) sampleOperator
      (Store.requestedHost none) 0 = .ok (pinnedHost, 1) := by
    simp only [HostEdit.prepare, pinRequest, preparePin, bind_eq_ok, mapError_eq_ok, ensure_eq_ok,
      pure_eq_ok]
    exact ⟨_, rfl, (), ⟨by decide, facts.1⟩, Ssh.firstKey.key,
      Ssh.sampleLibrary_parsePinned (List.mem_cons_self ..), (), algorithm, (), facts.2, (), rfl,
      rfl⟩
  exact .edited (.created rfl created) pinned

def developer (subject : String) : Principal :=
  ⟨subject, .operator, true, [], newID "session" (List.replicate 16 1)⟩

theorem developer_signedIn {subject : String} (trimmed : trimSpace subject = subject)
    (nonempty : 1 ≤ len subject) (short : len subject ≤ 128) :
    SignedIn id (developer subject) := by
  have accepted : acceptDevSession ⟨subject, .operator, true, []⟩ =
      .ok ⟨subject, .operator, true, [], ""⟩ := by
    simp only [acceptDevSession, bind_eq_ok, ensure_eq_ok, pure_eq_ok, trimmed]
    exact ⟨(), ⟨nonempty, short, rfl, by simp⟩, (), by simp, trivial⟩
  have named : trimSpace subject ≠ "" := by
    intro empty
    rw [← trimmed, empty] at nonempty
    exact absurd nonempty (by decide)
  have issued : issueSession id ⟨subject, .operator, true, [], ""⟩ (60 * minute)
      (.ok (List.replicate 32 0, List.replicate 16 1)) 0 =
        .ok (rawURLEncode (List.replicate 32 0), ⟨developer subject, 60 * minute,
          bytes (rawURLEncode (List.replicate 32 0)), false⟩) := by
    simp only [issueSession, bind_eq_ok, ensure_eq_ok, pure_eq_ok]
    exact ⟨(), ⟨named, rfl⟩, (), by decide, _, rfl, rfl⟩
  refine .dev accepted ?_ issued
  intro raw sessionIDRaw same
  cases same
  exact ⟨List.length_replicate, List.length_replicate⟩

def sampleTerminal : TerminalSessionRequest := ⟨"routine check", 0, 0⟩

theorem sampleTerminal_valid : validTerminalSize sampleTerminal.size = true ∧
    validateReason sampleTerminal.reason = .ok () := by
  constructor <;> decide +kernel

def samplePayload : CredentialPayload := ⟨Ssh.secondKey.privateKeyPEM, ""⟩

theorem samplePayload_accepted :
    readCredential (sampleServer id) (.ok samplePayload) =
      .ok (samplePayload, Ssh.secondKey.key) := by
  have sizes : len Ssh.secondKey.privateKeyPEM ≠ 0 ∧
      len Ssh.secondKey.privateKeyPEM ≤ 256 * 1024 ∧ len "" ≤ 4096 := by decide +kernel
  simp only [readCredential, bind_eq_ok, mapError_eq_ok, ensure_eq_ok, orError_eq_ok, pure_eq_ok]
  exact ⟨_, rfl, (), sizes, _, Ssh.sampleLibrary_parseSigner, rfl⟩

/-- An operator whose name is one word opens a terminal. -/
theorem oneWord_passes :
    validateIssueRequest (terminalRequest (developer "olga") pinnedHost
        (newPin Ssh.sampleLibrary sampleOperator Ssh.firstKey.key 0)
        (newID "cred" (List.replicate 16 2)) ⟨bytes Ssh.secondKey.privateKeyPEM, []⟩
        sampleTerminal) = .ok () := by
  have opens : Opens (developer "olga") pinnedHost
      (newPin Ssh.sampleLibrary sampleOperator Ssh.firstKey.key 0)
      (newID "cred" (List.replicate 16 2)) samplePayload sampleTerminal.size false := by
    have letters : ("olga".toList.all fun c => !isSpace c && !isControl c) = true := by decide
    constructor
    case subject =>
      intro c member
      simpa using List.all_eq_true.mp letters c member
    all_goals decide +kernel
  have blank : (sampleServer id).library.parseAuthorizedKey "\n" = none := by decide +kernel
  have trimmed : trimSpace "olga" = "olga" := by decide
  have signedIn : SignedIn (sampleServer id).sha256 (developer "olga") :=
    developer_signedIn trimmed (by decide) (by decide)
  have pinned : pinnedHost.hostKey =
      some (newPin Ssh.sampleLibrary sampleOperator Ssh.firstKey.key 0) := rfl
  have decoded : decodeConnectorCredential samplePayload =
      .ok ⟨bytes Ssh.secondKey.privateKeyPEM, []⟩ := by
    have present : Ssh.secondKey.privateKeyPEM ≠ "" := by decide +kernel
    simp only [decodeConnectorCredential, bind_eq_ok, ensure_eq_ok, pure_eq_ok]
    exact ⟨(), present, rfl⟩
  have drawn : (List.replicate 16 (2 : UInt8)).length = 16 := List.length_replicate
  have readBack : PinsReadBack (sampleServer id).library := sampleLibrary_readBack
  have passes := (terminal_passes_iff readBack blank signedIn pinnedHost_managed
    pinned samplePayload_accepted decoded drawn sampleTerminal_valid.1
    sampleTerminal_valid.2).mpr opens
  exact passes.1

/-- One whose name is two words does not, although every part of the request was
accepted. -/
theorem twoWords_refused :
    SignedIn (sampleServer id).sha256 (developer "olga smith") ∧
      Managed (sampleServer id) pinnedHost ∧
      readCredential (sampleServer id) (.ok samplePayload) =
        .ok (samplePayload, Ssh.secondKey.key) ∧
      validateIssueRequest (terminalRequest (developer "olga smith") pinnedHost
        (newPin Ssh.sampleLibrary sampleOperator Ssh.firstKey.key 0)
        (newID "cred" (List.replicate 16 2)) ⟨bytes Ssh.secondKey.privateKeyPEM, []⟩
        sampleTerminal) ≠ .ok () := by
  have trimmed : trimSpace "olga smith" = "olga smith" := by decide
  have signedIn : SignedIn (sampleServer id).sha256 (developer "olga smith") :=
    developer_signedIn trimmed (by decide) (by decide)
  refine ⟨signedIn, pinnedHost_managed, samplePayload_accepted, ?_⟩
  intro passed
  simp only [validateIssueRequest, bind_eq_ok] at passed
  obtain ⟨normalized, bound, -⟩ := passed
  obtain ⟨subject, -⟩ := (normalizeBinding_single rfl).mp ⟨normalized, bound⟩
  exact absurd subject (by decide +kernel)

end VpsManager.Terminal
