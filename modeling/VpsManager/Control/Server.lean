import VpsManager.Control.Memory

namespace VpsManager.Control

open Go Checks

structure ApiError where
  status : Nat
  code : String
  message : String
  deriving DecidableEq, Repr

def writeStoreError : StoreError → ApiError
  | .notFound => ⟨404, "not_found", "resource not found"⟩
  | .conflict => ⟨409, "version_conflict", "resource was changed; reload and retry"⟩
  | .other _ => ⟨500, "internal_error", "request could not be completed"⟩

/-- The secret a stored credential encrypts, as `putCredential` marshals it and
`decodeConnectorCredential` reads it. -/
structure CredentialPayload where
  privateKey : String
  passphrase : String
  deriving DecidableEq, Repr

/-- What binds an envelope to its place, `ContextAAD`. -/
structure EncryptionContext where
  installationID : String
  objectID : String
  secretID : String
  secretType : String
  deriving DecidableEq, Repr

/-- The encryption service, by what it opens an envelope to. -/
structure Vault where
  opened : EncryptionContext → Envelope → Option CredentialPayload

structure Server where
  library : Ssh.Library
  vault : Vault
  sha256 : Bytes → Bytes
  installationID : String
  allowPrivateTargets : Bool
  devMode : Bool
  secretExecutionEnabled : Bool
  mutationsEnabled : Bool
  /-- Whether an external Connector is configured. -/
  runbooks : Bool

def Server.credentialAAD (server : Server) (hostID credentialID : String) : EncryptionContext :=
  ⟨server.installationID, hostID, credentialID, "ssh_private_key"⟩

structure StoredSession where
  principal : Principal
  expiresAt : Int
  tokenHash : Bytes
  revoked : Bool
  deriving DecidableEq, Repr

/-- Sessions by the digest of their token. -/
abbrev Sessions := Keyed StoredSession.tokenHash

def bearerToken (authorization : String) : Option String :=
  if hasPrefix authorization "Bearer " then
    some (trimSpace (String.ofList (authorization.toList.drop 7)))
  else none

/-- An expired session is deleted when it is presented. -/
def authenticate (sha256 : Bytes → Bytes) (sessions : Sessions) (authorization : String)
    (now : Int) : Option Principal × Sessions :=
  match bearerToken authorization with
  | none => (none, sessions)
  | some token =>
    if token = "" then (none, sessions)
    else
      let hash := sha256 (bytes token)
      match sessions.get hash with
      | none => (none, sessions)
      | some stored =>
        if stored.revoked then (none, sessions)
        else if now < stored.expiresAt then (some stored.principal, sessions)
        else (none, sessions.erase hash)

def revoke (sha256 : Bytes → Bytes) (sessions : Sessions) (authorization : String) :
    Bool × Sessions :=
  match bearerToken authorization with
  | none => (false, sessions)
  | some token =>
    match sessions.get (sha256 (bytes token)) with
    | none => (false, sessions)
    | some stored => (true, sessions.put { stored with revoked := true })

/-- The session `AuthorizeSession` finds when it ranges over the sessions in the
order `ranged`, and whether it may act on the host. -/
def authorizeSession (ranged : List StoredSession) (sessionID : String) (permission : Permission)
    (hostID : String) (now : Int) : Option Principal :=
  match ranged.find? fun stored =>
      stored.principal.sessionID == sessionID && !stored.revoked && now < stored.expiresAt with
  | none => none
  | some stored =>
    if allowed stored.principal.role permission && canAccessHost stored.principal hostID then
      some stored.principal
    else none

theorem authorizeSession_sessionID (ranged : List StoredSession) (sessionID : String)
    (permission : Permission) (hostID : String) (now : Int) (principal : Principal)
    (authorized : authorizeSession ranged sessionID permission hostID now = some principal) :
    principal.sessionID = sessionID := by
  unfold authorizeSession at authorized
  split at authorized
  · cases authorized
  · rename_i stored found
    have matched := List.find?_some found
    simp only [Bool.and_eq_true, beq_iff_eq] at matched
    split at authorized
    · rw [← Option.some.inj authorized]
      exact matched.1.1
    · cases authorized

/-- `require`: the permission a route demands of an authenticated principal. -/
def require (principal : Principal) (permission : Permission) : Except ApiError Unit :=
  ensure (allowed principal.role permission = true)
    ⟨403, "forbidden", "the current role cannot perform this action"⟩

def checkHostScope (principal : Principal) (hostID : String) : Except ApiError Unit :=
  ensure (canAccessHost principal hostID = true) ⟨404, "not_found", "resource not found"⟩

end VpsManager.Control
