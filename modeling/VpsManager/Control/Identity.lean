import VpsManager.Control.Auth
import VpsManager.Lib.Checks
import VpsManager.Lib.Expiring

namespace VpsManager.Control.Identity

open Go Checks

def maxAssertionBytes : Nat := 12288
def maxAssertionTTL : Int := 60 * second
def defaultClockSkew : Int := 5 * second

def publicKeySize : Nat := 32
def signatureSize : Nat := 64

structure Claims where
  issuer : String
  audience : String
  subject : String
  role : Role
  allHosts : Bool
  hostIDs : List String
  issuedAt : Int
  expires : Int
  jwtID : String
  deriving DecidableEq, Repr

structure Header where
  algorithm : String
  keyID : String
  type : String
  deriving DecidableEq, Repr

/-- The cryptographic functions and the decoding of one JSON value into a header
or into claims. -/
structure Primitives where
  sha256 : Bytes → Bytes
  ed25519Verify : Bytes → Bytes → Bytes → Bool
  decodeHeader : Bytes → Option Header
  decodeClaims : Bytes → Option Claims

structure Config where
  issuer : String
  audience : String
  keyID : String
  publicKey : Bytes
  clockSkew : Int

/-- A verifier carries the bounds its constructor enforces on the skew. -/
structure Verifier where
  issuer : String
  audience : String
  keyID : String
  key : Bytes
  skew : Int
  skew_positive : 0 < skew
  skew_bounded : skew ≤ 15 * second

def newVerifier (config : Config) : Except String Verifier := do
  let issuer := trimSpace config.issuer
  let audience := trimSpace config.audience
  let keyID := trimSpace config.keyID
  ensure (¬ (issuer = "" ∨ 256 < len issuer ∨ audience = "" ∨ 256 < len audience))
    "identity issuer and audience are required"
  ensure (¬ (keyID = "" ∨ 128 < len keyID ∨ containsAny keyID "\r\n"))
    "identity key id is invalid"
  ensure (config.publicKey.length = publicKeySize) "identity Ed25519 public key is invalid"
  let skew := if config.clockSkew = 0 then defaultClockSkew else config.clockSkew
  if bounds : ¬ (skew < 0 ∨ 15 * second < skew) then
    return {
      issuer, audience, keyID, key := config.publicKey, skew
      skew_positive := by
        by_cases zero : config.clockSkew = 0
        · simp only [skew, zero, ↓reduceIte]
          decide
        · simp only [skew, zero, ↓reduceIte] at bounds ⊢
          omega
      skew_bounded := by omega }
  else .error "identity clock skew must be between zero and 15 seconds"

def decodeSegment (value : String) (limit : Nat) : Option Bytes :=
  if value.toList.contains '=' then none
  else (rawURLDecode true value).bind fun decoded =>
    if limit < decoded.length then none else some decoded

/-- `Verify` up to the decoded claims. -/
def decodeAssertion (primitives : Primitives) (v : Verifier) (assertion : String) :
    Except String Claims := do
  ensure (¬ (len assertion = 0 ∨ maxAssertionBytes < len assertion ∨
    trimSpace assertion ≠ assertion)) "identity assertion is invalid"
  match split assertion '.' with
  | [headerText, payloadText, signatureText] =>
    ensure (¬ (headerText = "" ∨ payloadText = "" ∨ signatureText = ""))
      "identity assertion is malformed"
    let headerBytes ← orError (decodeSegment headerText 1024)
      "identity assertion header is invalid"
    let header ← orError (primitives.decodeHeader headerBytes)
      "identity assertion header is not accepted"
    ensure (header.algorithm = "EdDSA" ∧ header.type = "VPSMGR+JWT" ∧ header.keyID = v.keyID)
      "identity assertion header is not accepted"
    let signature ← orError (decodeSegment signatureText signatureSize)
      "identity assertion signature is invalid"
    ensure (signature.length = signatureSize) "identity assertion signature is invalid"
    ensure (primitives.ed25519Verify v.key (bytes (headerText ++ "." ++ payloadText)) signature)
      "identity assertion signature verification failed"
    let payload ← orError (decodeSegment payloadText 8192)
      "identity assertion payload is invalid"
    orError (primitives.decodeClaims payload) "identity assertion claims are invalid"
  | _ => .error "identity assertion is malformed"

/-- The loop over the host IDs of the claims; `seen` holds those before. -/
def validateHostIDs : List String → List String → Except String Unit
  | _, [] => .ok ()
  | seen, hostID :: rest => do
    ensure (¬ (hasPrefix hostID "host_" = false ∨ 128 < len hostID ∨ trimSpace hostID ≠ hostID))
      "identity assertion host scope is invalid"
    ensure (hostID ∉ seen) "identity assertion host scope contains duplicates"
    validateHostIDs (hostID :: seen) rest

def validateClaims (v : Verifier) (now : Int) (claims : Claims) : Except String Unit := do
  ensure (¬ (claims.issuer ≠ v.issuer ∨ claims.audience ≠ v.audience))
    "identity assertion issuer or audience is not accepted"
  ensure (¬ (trimSpace claims.subject ≠ claims.subject ∨ len claims.subject < 1 ∨
    128 < len claims.subject ∨ validRole claims.role = false))
    "identity assertion principal is invalid"
  ensure (¬ (trimSpace claims.jwtID ≠ claims.jwtID ∨ len claims.jwtID < 16 ∨
    128 < len claims.jwtID)) "identity assertion id is invalid"
  ensure (¬ ((claims.allHosts = true ∧ claims.hostIDs.length ≠ 0) ∨ 256 < claims.hostIDs.length))
    "identity assertion host scope is invalid"
  validateHostIDs [] claims.hostIDs
  let issued := unix claims.issuedAt
  let expires := unix claims.expires
  ensure (¬ (claims.issuedAt ≤ 0 ∨ claims.expires ≤ 0 ∨ expires ≤ issued ∨
    maxAssertionTTL < expires - issued)) "identity assertion lifetime is invalid"
  ensure (¬ (now + v.skew < issued ∨ expires ≤ now - v.skew))
    "identity assertion is outside its validity window"

/-- `consume` under the lock, with the digest and the reading of the clock taken
before it. -/
def consume (v : Verifier) (consumed : Expiring.Table Bytes) (now : Int) (digest : Bytes)
    (expires : Int) : Expiring.Table Bytes × Bool :=
  let pruned := Expiring.prune (now - v.skew) consumed
  if digest ∈ pruned then (pruned, false)
  else (pruned.insert digest (expires + v.skew), true)

def principalOf (claims : Claims) : Principal where
  subject := claims.subject
  role := claims.role
  allHosts := claims.allHosts
  hostIDs := claims.hostIDs
  sessionID := ""

end VpsManager.Control.Identity
