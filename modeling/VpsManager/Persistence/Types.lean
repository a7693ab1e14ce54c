import VpsManager.Go.Json
import VpsManager.Lib.Checks

namespace VpsManager.Persistence

open Go Checks

def isIdentifierChar (c : Char) : Bool :=
  isAlnumASCII c || c == '_' || c == '.' || c == ':' || c == '-'

def identifierPattern (text : String) : Bool := anchored isAlnumASCII isIdentifierChar 127 text

theorem isIdentifierChar_range {c : Char} (class' : isIdentifierChar c = true) :
    45 ≤ c.toNat ∧ c.toNat ≤ 122 := by
  simp only [isIdentifierChar, Bool.or_eq_true, beq_iff_eq] at class'
  rcases class' with (((alnum | rfl) | rfl) | rfl) | rfl
  · have range := isAlnumASCII_range alnum
    omega
  all_goals decide

theorem identifier_range {text : String} (identifier : identifierPattern text = true) :
    ∀ c ∈ text.toList, 45 ≤ c.toNat ∧ c.toNat ≤ 122 := by
  intro c member
  refine isIdentifierChar_range (chars_of_anchored identifier ?_ c member)
  intro d alnum
  simp [isIdentifierChar, alnum]

/-- The identifier of an installation; it is checked when the service starts. -/
def InstallationID := { text : String // identifierPattern text = true }

def validateIdentifier (label value : String) : Except String Unit :=
  ensure (identifierPattern value = true) (label ++ " is invalid")

/-- Hyphens, dots and spaces count as underscores. -/
def separated (c : Char) : Char := if c == '-' || c == '.' || c == ' ' then '_' else c

def secretNames : List String :=
  ["password", "passwd", "passphrase", "private_key", "privatekey", "secret", "client_secret",
    "api_token", "access_token", "refresh_token", "authorization", "cookie", "set_cookie",
    "credential", "credentials", "ciphertext", "wrapped_key"]

def isSecretField (key : String) : Bool :=
  let normalized := toLower (String.ofList (key.toList.map separated))
  if hasSuffix normalized "_id" || hasSuffix normalized "_version" ||
      hasSuffix normalized "_fingerprint" then false
  else secretNames.contains normalized

example : isSecretField "Private-Key" = true ∧ isSecretField "private_key_id" = false ∧
    isSecretField "team" = false := by decide +kernel

structure HostKeyPin where
  algorithm : String
  fingerprintSHA256 : String
  publicKey : String
  confirmedAt : Int
  confirmedBy : String
  deriving DecidableEq, Repr

structure Asset where
  installationID : String
  id : String
  name : String
  address : String
  port : Int
  username : String
  labels : Option (StringMap String)
  hostKey : Option HostKeyPin
  version : UInt64
  createdAt : Int
  updatedAt : Int

def validAssetLabel (key value : String) : Bool :=
  !(len key == 0 || 128 < len key || 512 < len value || isSecretField key)

def validateAsset (asset : Asset) : Except String Unit := do
  validateIdentifier "installation id" asset.installationID
  validateIdentifier "asset id" asset.id
  ensure (¬ (trimSpace asset.name = "" ∨ 200 < len asset.name)) "asset name is invalid"
  ensure (¬ (trimSpace asset.address = "" ∨ 255 < len asset.address)) "asset address is invalid"
  ensure (¬ (asset.port < 1 ∨ 65535 < asset.port)) "asset port is invalid"
  ensure (¬ (trimSpace asset.username = "" ∨ 128 < len asset.username)) "asset username is invalid"
  match asset.labels with
  | none => return ()
  | some labels =>
    ensure (∀ entry ∈ labels.entries, validAssetLabel entry.1 entry.2 = true)
      "asset labels are invalid"

def maxJSONBytes : Nat := 2 ^ 20

mutual

def containsSecretField (depth : Nat) : Json → Bool
  | .object members => 64 < depth || membersContainSecret (depth + 1) members
  | .array items => 64 < depth || itemsContainSecret (depth + 1) items
  | _ => 64 < depth

def itemsContainSecret (depth : Nat) : List Json → Bool
  | [] => false
  | item :: items => containsSecretField depth item || itemsContainSecret depth items

def membersContainSecret (depth : Nat) : List (String × Json) → Bool
  | [] => false
  | (key, child) :: members =>
    isSecretField key || containsSecretField depth child || membersContainSecret depth members

end

/-- A `json.RawMessage`, by the value it is the text of; `none` is the empty one. -/
abbrev RawMessage := Option Json

def validateSafeJSON (raw : RawMessage) : Except String Unit :=
  match raw with
  | none => .ok ()
  | some value => do
    ensure (len value.encode ≤ maxJSONBytes) "JSON payload is invalid or too large"
    ensure (containsSecretField 0 value = false) "payload may contain secret material"

def validateSafeJSONObject (raw : RawMessage) : Except String Unit :=
  match raw with
  | none => .ok ()
  | some value => do
    validateSafeJSON (some value)
    ensure (value.typeName = "object") "JSON payload must be an object"

def normalizedJSON (raw : RawMessage) : Json := raw.getD (.object [])

structure AuditEvent where
  installationID : String
  id : String
  timestamp : Int
  actor : String
  role : String
  action : String
  targetType : String
  targetID : String
  outcome : String
  requestID : String
  jobID : String
  details : RawMessage

def validateAudit (event : AuditEvent) : Except String Unit := do
  validateIdentifier "installation id" event.installationID
  validateIdentifier "audit id" event.id
  ensure (¬ (event.actor = "" ∨ event.action = "" ∨ event.targetType = "" ∨ event.outcome = ""))
    "audit event is incomplete"
  (validateSafeJSONObject event.details).mapError fun message => "audit details: " ++ message

/-- What a secret belongs to; the source has its name. -/
inductive SecretScope
  | host
  | cloudflareWorker
  deriving DecidableEq, Repr

def SecretScope.name : SecretScope → String
  | .host => "host"
  | .cloudflareWorker => "cloudflare_worker"

structure CredentialEnvelope where
  installationID : String
  credentialID : String
  version : UInt64
  kind : String
  keyID : String
  ciphertext : Bytes
  cipherNonce : Bytes
  wrappedKey : Bytes
  wrappedKeyNonce : Bytes
  metadata : RawMessage
  createdAt : Int

structure SecretBinding where
  installationID : String
  scopeType : SecretScope
  scopeID : String
  credentialID : String
  version : UInt64
  envelope : CredentialEnvelope

def validateCredential (envelope : CredentialEnvelope) : Except String Unit := do
  validateIdentifier "installation id" envelope.installationID
  validateIdentifier "credential id" envelope.credentialID
  ensure (¬ (envelope.version = 0 ∨ identifierPattern envelope.kind = false ∨
    envelope.keyID = "" ∨ 512 < len envelope.keyID)) "credential envelope metadata is incomplete"
  ensure (¬ (envelope.ciphertext.length = 0 ∨ envelope.wrappedKey.length = 0))
    "credential envelope is incomplete"
  validateSafeJSONObject envelope.metadata

def validateSecretBinding (binding : SecretBinding) : Except String Unit := do
  validateIdentifier "installation id" binding.installationID
  validateIdentifier "secret scope id" binding.scopeID
  ensure (binding.credentialID = binding.envelope.credentialID ∧
    binding.version = binding.envelope.version ∧
    binding.installationID = binding.envelope.installationID)
    "secret binding does not match envelope"
  validateCredential binding.envelope

def jobStates : List String :=
  ["created", "prechecking", "awaiting_approval", "queued", "running", "verifying", "succeeded",
    "failed", "timed_out", "cancelled", "orphaned", "reconciling"]

namespace Repository

structure Job where
  installationID : String
  id : String
  type : String
  assetID : String
  state : String
  requestedBy : String
  requestID : String
  idempotencyKey : String
  parameters : RawMessage
  result : RawMessage
  errorCode : String
  errorMessage : String
  version : UInt64
  createdAt : Int
  startedAt : Option Int
  finishedAt : Option Int
  updatedAt : Int

def validateJob (job : Job) : Except String Unit := do
  validateIdentifier "installation id" job.installationID
  validateIdentifier "job id" job.id
  validateIdentifier "asset id" job.assetID
  ensure (¬ (identifierPattern job.type = false ∨ job.state ∉ jobStates ∨ job.requestedBy = "" ∨
    256 < len job.requestedBy)) "job metadata is incomplete"
  ensure (job.requestID = "" ∨ identifierPattern job.requestID = true) "request id is invalid"
  ensure (job.idempotencyKey = "" ∨ identifierPattern job.idempotencyKey = true)
    "idempotency key is invalid"
  (validateSafeJSONObject job.parameters).mapError fun message => "job parameters: " ++ message
  (validateSafeJSONObject job.result).mapError fun message => "job result: " ++ message
  ensure (¬ (128 < len job.errorCode ∨ isSecretField job.errorCode = true ∨
    4096 < len job.errorMessage)) "job error is invalid"

end Repository

end VpsManager.Persistence
