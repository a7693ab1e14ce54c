import VpsManager.Control.Server

/- The handlers that change a host. Each is split where it calls the repository,
so that the same parts serve for one request at a time and for requests that
overlap. -/
namespace VpsManager.Control

open Go Checks

def isUsernameChar (c : Char) : Bool := isAlnumASCII c || c == '_' || c == '.' || c == '-'

def usernamePattern (text : String) : Bool :=
  match text.toList with
  | [] => false
  | first :: rest =>
    (isLowerASCII first || isUpperASCII first || first == '_') && rest.length ≤ 63 &&
      rest.all isUsernameChar

def labelKeyPattern (text : String) : Bool :=
  match text.toList with
  | [] => false
  | first :: rest => isAlnumASCII first && rest.length ≤ 62 && rest.all isUsernameChar

/-- `[a-z0-9]` without regard to case, which also takes the long s and the Kelvin
sign. -/
def isDNSAlnum (c : Char) : Bool := isAlnumASCII c || c.toNat == 0x17F || c.toNat == 0x212A

def isDNSLabel (chars : List Char) : Bool :=
  1 ≤ chars.length && chars.length ≤ 63 && chars.head?.any isDNSAlnum &&
    chars.getLast?.any isDNSAlnum && chars.all fun c => isDNSAlnum c || c == '-'

/-- `dnsPattern`: labels separated by dots. -/
def dnsPattern (text : String) : Bool := (split text '.').all fun label => isDNSLabel label.toList

def normalizeAddress (value : String) : String :=
  let value := trimSpace value
  let value :=
    if hasPrefix value "[" && hasSuffix value "]" then
      String.ofList (value.toList.drop 1).dropLast
    else value
  toLower value

def validAddress (value : String) : Bool :=
  let value := normalizeAddress value
  if len value = 0 || 253 < len value || containsAny value " /\\\r\n\t\x00@" then false
  else (parseIP value).isSome || dnsPattern value

def validLabel (key value : String) : Bool :=
  labelKeyPattern key && len value ≤ 128 && !containsAny value "\r\n\x00"

def validateHost (name address : String) (port : Int) (username : String)
    (labels : Option (StringMap String)) (allowPrivateTargets : Bool) : Except String Unit := do
  let name := trimSpace name
  let address := trimSpace address
  let username := trimSpace username
  ensure (1 ≤ len name ∧ len name ≤ 100) "name must contain 1 to 100 characters"
  ensure (validAddress address = true)
    "address must be an IPv4, IPv6, or DNS hostname without a scheme or port"
  (Ssh.validateTargetLiteral (normalizeAddress address) allowPrivateTargets).mapError fun _ =>
    "address is blocked by the SSH destination policy"
  ensure (1 ≤ port ∧ port ≤ 65535) "port must be between 1 and 65535"
  ensure (usernamePattern username = true) "username is not a valid SSH username"
  match labels with
  | none => return ()
  | some labels =>
    ensure (labels.entries.card ≤ 20) "at most 20 labels are allowed"
    ensure (∀ entry ∈ labels.entries, validLabel entry.1 entry.2 = true)
      "labels contain an invalid key or value"

def validateHostKeyAlgorithm (library : Ssh.Library) (key : Ssh.PublicKey) : Except String Unit :=
  let algorithm := library.keyType key
  if algorithm ∈ ["ssh-ed25519", "ecdsa-sha2-nistp256", "ecdsa-sha2-nistp384",
      "ecdsa-sha2-nistp521", "sk-ecdsa-sha2-nistp256@openssh.com",
      "sk-ssh-ed25519@openssh.com"] then
    .ok ()
  else if algorithm = "ssh-rsa" then
    match library.cryptoKey key with
    | none => .error "RSA host key could not be inspected"
    | some modulus =>
      ensure (modulus.any fun bits => 3072 ≤ bits)
        "RSA host keys must contain at least 3072 bits"
  else .error "host key algorithm is not allowed"

theorem validateHost_eq_ok {name address username : String} {port : Int}
    {labels : Option (StringMap String)} {allowPrivateTargets : Bool} :
    validateHost name address port username labels allowPrivateTargets = .ok () ↔
      (1 ≤ len (trimSpace name) ∧ len (trimSpace name) ≤ 100) ∧
      validAddress (trimSpace address) = true ∧
      (∃ target, Ssh.validateTargetLiteral (normalizeAddress (trimSpace address))
        allowPrivateTargets = .ok target) ∧
      (1 ≤ port ∧ port ≤ 65535) ∧
      usernamePattern (trimSpace username) = true ∧
      ∀ present, labels = some present → present.entries.card ≤ 20 ∧
        ∀ entry ∈ present.entries, validLabel entry.1 entry.2 = true := by
  simp only [validateHost, bind_eq_ok, ensure_eq_ok, mapError_eq_ok]
  cases labels with
  | none =>
    simp only [pure_eq_ok]
    constructor
    · rintro ⟨_, named, _, reached, target, permitted, _, open', _, user, -⟩
      refine ⟨named, reached, ⟨target, permitted⟩, open', user, ?_⟩
      intro present absent
      cases absent
    · rintro ⟨named, reached, ⟨target, permitted⟩, open', user, -⟩
      exact ⟨(), named, (), reached, target, permitted, (), open', (), user, trivial⟩
  | some labels =>
    simp only [bind_eq_ok, ensure_eq_ok]
    constructor
    · rintro ⟨_, named, _, reached, target, permitted, _, open', _, user, _, few, valid⟩
      refine ⟨named, reached, ⟨target, permitted⟩, open', user, ?_⟩
      intro present same
      cases same
      exact ⟨few, valid⟩
    · rintro ⟨named, reached, ⟨target, permitted⟩, open', user, labelled⟩
      obtain ⟨few, valid⟩ := labelled labels rfl
      exact ⟨(), named, (), reached, target, permitted, (), open', (), user, (), few, valid⟩

structure CreateHostRequest where
  name : String
  address : String
  port : Int
  username : String
  labels : Option (StringMap String)

def invalidRequest (message : String) : ApiError := ⟨400, "invalid_request", message⟩
def validationError (message : String) : ApiError := ⟨400, "validation_error", message⟩

/-- `createHost` up to its write: the record it writes, for the random bytes drawn
for its ID. The body is what `decodeJSON` made of it. -/
def prepareCreate (server : Server) (principal : Principal)
    (body : Except String CreateHostRequest) (raw : Bytes) (now : Int) : Except ApiError Host := do
  ensure (principal.allHosts = true)
    ⟨403, "host_scope_required", "creating hosts requires an all-hosts session scope"⟩
  let input ← body.mapError invalidRequest
  let port := if input.port = 0 then 22 else input.port
  (validateHost input.name input.address port input.username input.labels
    server.allowPrivateTargets).mapError validationError
  return {
    id := newID "host" raw
    name := trimSpace input.name
    address := normalizeAddress input.address
    port := port
    username := trimSpace input.username
    labels := input.labels
    hostKey := none
    version := 1
    createdAt := now
    updatedAt := now }

structure UpdateHostRequest where
  version : UInt64
  name : Option String
  address : Option String
  port : Option Int
  username : Option String
  labels : Option (StringMap String)

structure PinHostKeyRequest where
  version : UInt64
  publicKey : String
  expectedFingerprintSHA256 : String
  replace : Bool
  expectedCurrentFingerprint : String
  deriving DecidableEq, Repr

/-- The fields of the request written over those of a host. -/
def UpdateHostRequest.patch (input : UpdateHostRequest) (host : Host) : Host :=
  { host with
    name := (input.name.map trimSpace).getD host.name
    address := (input.address.map normalizeAddress).getD host.address
    port := input.port.getD host.port
    username := (input.username.map trimSpace).getD host.username
    labels := if input.labels.isSome then input.labels else host.labels }

/-- `updateHost` between its read and its write: the record to write and the
version it expects. The body is what `decodeJSON` made of it. -/
def prepareUpdate (server : Server) (host : Host) (body : Except String UpdateHostRequest)
    (now : Int) : Except ApiError (Host × UInt64) := do
  let input ← body.mapError invalidRequest
  ensure (input.version ≠ 0) (validationError "version is required")
  let patched := input.patch host
  (validateHost patched.name patched.address patched.port patched.username patched.labels
    server.allowPrivateTargets).mapError validationError
  let trustReset := host.address ≠ patched.address ∨ host.port ≠ patched.port
  return ({ patched with
    hostKey := if trustReset then none else patched.hostKey
    version := input.version + 1
    updatedAt := now }, input.version)

def newPin (library : Ssh.Library) (principal : Principal) (key : Ssh.PublicKey) (now : Int) :
    HostKeyPin where
  algorithm := library.keyType key
  fingerprintSHA256 := library.fingerprintSHA256 key
  publicKey := trimSpace (library.marshalAuthorizedKey key)
  confirmedAt := now
  confirmedBy := principal.subject

/-- The checks on a request that replaces a pinned key by another. -/
def checkReplacing (principal : Principal) (pinned : Option HostKeyPin) (input : PinHostKeyRequest)
    (fingerprint : String) : Except ApiError Unit :=
  match pinned with
  | none => .ok ()
  | some current =>
    if current.fingerprintSHA256 = fingerprint then .ok ()
    else do
      ensure (input.replace = true ∧ allowed principal.role .hostKeyReplace = true)
        ⟨409, "host_key_change",
          "host key changes require an administrator and explicit replacement confirmation"⟩
      ensure (current.fingerprintSHA256 = input.expectedCurrentFingerprint)
        ⟨409, "host_key_change", "current host key fingerprint confirmation did not match"⟩

/-- `pinHostKey` between its read and its write. -/
def preparePin (server : Server) (principal : Principal) (host : Host)
    (body : Except String PinHostKeyRequest) (now : Int) : Except ApiError (Host × UInt64) := do
  let input ← body.mapError invalidRequest
  ensure (input.version ≠ 0 ∧ trimSpace input.expectedFingerprintSHA256 ≠ "")
    (validationError "version and independently verified expected fingerprint are required")
  let key ← (Ssh.parsePinnedHostKey server.library input.publicKey).mapError fun _ =>
    validationError "publicKey must contain exactly one valid OpenSSH public key"
  (validateHostKeyAlgorithm server.library key).mapError validationError
  let fingerprint := server.library.fingerprintSHA256 key
  ensure (fingerprint = trimSpace input.expectedFingerprintSHA256)
    ⟨400, "fingerprint_mismatch",
      "supplied host key does not match the independently verified fingerprint"⟩
  checkReplacing principal host.hostKey input fingerprint
  return ({ host with
    hostKey := some (newPin server.library principal key now)
    version := input.version + 1
    updatedAt := now }, input.version)

/-- The two requests that read a host, change the copy and write it back. -/
inductive HostEdit
  | updateHost (body : Except String UpdateHostRequest)
  | pinHostKey (body : Except String PinHostKeyRequest)

namespace HostEdit

def permission : HostEdit → Permission
  | .updateHost _ => .hostsWrite
  | .pinHostKey _ => .hostKeyPin

def version? : HostEdit → Option UInt64
  | .updateHost body => body.toOption.map (·.version)
  | .pinHostKey body => body.toOption.map (·.version)

def prepare (server : Server) (principal : Principal) (edit : HostEdit) (host : Host) (now : Int) :
    Except ApiError (Host × UInt64) :=
  match edit with
  | .updateHost body => prepareUpdate server host body now
  | .pinHostKey body => preparePin server principal host body now

end HostEdit

variable {server : Server} {host written : Host} {now : Int} {expected : UInt64}
  {principal : Principal} {edit : HostEdit}

theorem prepareUpdate_eq_ok {body : Except String UpdateHostRequest} :
    prepareUpdate server host body now = .ok (written, expected) ↔
      ∃ input, body = .ok input ∧ input.version ≠ 0 ∧
        validateHost (input.patch host).name (input.patch host).address (input.patch host).port
          (input.patch host).username (input.patch host).labels server.allowPrivateTargets =
            .ok () ∧
        written = { input.patch host with
          hostKey := if host.address ≠ (input.patch host).address ∨
              host.port ≠ (input.patch host).port then none else host.hostKey
          version := input.version + 1
          updatedAt := now } ∧
        expected = input.version := by
  simp only [prepareUpdate, bind_eq_ok, mapError_eq_ok, ensure_eq_ok, pure_eq_ok, Prod.mk.injEq]
  constructor
  · rintro ⟨input, decoded, _, nonzero, _, valid, rfl, rfl⟩
    exact ⟨input, decoded, nonzero, valid, rfl, rfl⟩
  · rintro ⟨input, decoded, nonzero, valid, rfl, rfl⟩
    exact ⟨input, decoded, (), nonzero, (), valid, rfl, rfl⟩

/-- A prepared pin is of the key in the request. Another key than the pinned one
takes the permission to replace it. -/
theorem preparePin_ok {body : Except String PinHostKeyRequest}
    (prepared : preparePin server principal host body now = .ok (written, expected)) :
    ∃ input key, body = .ok input ∧ input.version ≠ 0 ∧
      Ssh.parsePinnedHostKey server.library input.publicKey = .ok key ∧
      (∀ current, host.hostKey = some current →
        current.fingerprintSHA256 = server.library.fingerprintSHA256 key ∨
          allowed principal.role .hostKeyReplace = true) ∧
      written = { host with
        hostKey := some (newPin server.library principal key now)
        version := input.version + 1
        updatedAt := now } ∧
      expected = input.version := by
  simp only [preparePin, bind_eq_ok, mapError_eq_ok, ensure_eq_ok, pure_eq_ok,
    Prod.mk.injEq] at prepared
  obtain ⟨input, decoded, _, ⟨nonzero, -⟩, key, parsed, _, -, _, -, _, permitted, rfl, rfl⟩ :=
    prepared
  refine ⟨input, key, decoded, nonzero, parsed, ?_, rfl, rfl⟩
  intro current pinned
  by_cases same : current.fingerprintSHA256 = server.library.fingerprintSHA256 key
  · exact .inl same
  · simp only [checkReplacing, pinned, same, ↓reduceIte, bind_eq_ok, ensure_eq_ok] at permitted
    obtain ⟨_, ⟨-, replaces⟩, -⟩ := permitted
    exact .inr replaces

/-- What both edits write: the host they read under the same ID, with the version
after the one the request names. -/
structure PreparedFrom (edit : HostEdit) (host written : Host) (expected : UInt64) : Prop where
  id : written.id = host.id
  version : written.version = expected + 1
  named : edit.version? = some expected
  nonzero : expected ≠ 0

theorem HostEdit.prepare_ok
    (prepared : edit.prepare server principal host now = .ok (written, expected)) :
    PreparedFrom edit host written expected := by
  cases edit with
  | updateHost body =>
    obtain ⟨input, rfl, nonzero, -, rfl, rfl⟩ := prepareUpdate_eq_ok.mp prepared
    exact ⟨rfl, rfl, rfl, nonzero⟩
  | pinHostKey body =>
    obtain ⟨input, key, rfl, nonzero, -, -, rfl, rfl⟩ := preparePin_ok prepared
    exact ⟨rfl, rfl, rfl, nonzero⟩

theorem HostEdit.prepare_createdAt
    (prepared : edit.prepare server principal host now = .ok (written, expected)) :
    written.createdAt = host.createdAt := by
  cases edit with
  | updateHost body =>
    obtain ⟨input, -, -, -, rfl, -⟩ := prepareUpdate_eq_ok.mp prepared
    rfl
  | pinHostKey body =>
    obtain ⟨input, key, -, -, -, -, rfl, -⟩ := preparePin_ok prepared
    rfl

def editHost (server : Server) (m : Memory) (principal : Principal) (edit : HostEdit)
    (hostID : String) (now : Int) : Except ApiError (Host × Memory) := do
  require principal edit.permission
  checkHostScope principal hostID
  let host ← (m.getHost hostID).mapError writeStoreError
  let (written, expected) ← edit.prepare server principal host now
  let after ← (m.updateHost written expected).mapError writeStoreError
  return (written, after)

def updateHost (server : Server) (m : Memory) (principal : Principal) (hostID : String)
    (body : Except String UpdateHostRequest) (now : Int) : Except ApiError (Host × Memory) :=
  editHost server m principal (.updateHost body) hostID now

def pinHostKey (server : Server) (m : Memory) (principal : Principal) (hostID : String)
    (body : Except String PinHostKeyRequest) (now : Int) : Except ApiError (Host × Memory) :=
  editHost server m principal (.pinHostKey body) hostID now

def deleteHost (m : Memory) (principal : Principal) (hostID : String) : Except ApiError Memory := do
  require principal .hostsDelete
  checkHostScope principal hostID
  (m.deleteHost hostID).mapError writeStoreError

theorem editHost_ok {m after : Memory} {hostID : String}
    (done : editHost server m principal edit hostID now = .ok (written, after)) :
    ∃ host expected, m.hosts.get hostID = some host ∧
      edit.prepare server principal host now = .ok (written, expected) ∧
      after = { m with hosts := m.hosts.put written } := by
  simp only [editHost, Memory.getHost, bind_eq_ok, mapError_eq_ok, orError_eq_ok, pure_eq_ok,
    Prod.mk.injEq] at done
  obtain ⟨_, -, _, -, host, found, ⟨prepared, expected⟩, ready, stored, wrote, rfl, rfl⟩ := done
  exact ⟨host, expected, found, ready, (Memory.updateHost_eq_ok.mp wrote).2⟩

end VpsManager.Control
