import VpsManager.Go.Text
import VpsManager.Lib.Checks
import VpsManager.Lib.Expiring
import VpsManager.Lib.Interleaving

namespace VpsManager.Protocol

open Go Checks

def protocolVersion : String := "v1"

def headerProtocol : String := "X-Vpsmgr-Protocol"
def headerKeyID : String := "X-Vpsmgr-Key-Id"
def headerTimestamp : String := "X-Vpsmgr-Timestamp"
def headerNonce : String := "X-Vpsmgr-Nonce"
def headerSignature : String := "X-Vpsmgr-Signature"

def minimumKeyBytes : Nat := 32
def defaultMaxSkew : Int := 30 * second
def defaultNonces : Int := 10000

structure Digests where
  sha256 : Bytes → Bytes
  hmacSHA256 : Bytes → Bytes → Bytes

structure VerifierConfig where
  keyID : String
  key : Bytes
  maxSkew : Int
  maxNonces : Int

/-- A verifier exists only with a window and a capacity within the bounds its
constructor enforces. -/
structure Verifier where
  keyID : String
  key : Bytes
  maxSkew : Int
  maxNonces : Int
  skew_positive : 0 < maxSkew
  skew_bounded : maxSkew ≤ 5 * minute
  nonces_positive : 0 < maxNonces
  nonces_bounded : maxNonces ≤ 1000000

def keyIDChar (c : Char) : Bool := isAlnumASCII c || c == '.' || c == '_' || c == '-'

def validateKey (keyID : String) (key : Bytes) : Except String Unit := do
  ensure (¬ (len keyID < 1 ∨ 64 < len keyID)) "HMAC key ID must contain 1 to 64 characters"
  ensure (keyID.toList.all keyIDChar) "HMAC key ID contains an invalid character"
  ensure (¬ key.length < minimumKeyBytes) "HMAC key must contain at least 32 decoded bytes"

def newVerifier (config : VerifierConfig) : Except String Verifier :=
  match validateKey config.keyID config.key with
  | .error reason => .error reason
  | .ok () =>
    let maxSkew := if config.maxSkew ≤ 0 then defaultMaxSkew else config.maxSkew
    let maxNonces := if config.maxNonces ≤ 0 then defaultNonces else config.maxNonces
    if wide : maxSkew ≤ 5 * minute then
      if small : maxNonces ≤ 1000000 then
        .ok {
          keyID := config.keyID, key := config.key
          maxSkew := maxSkew, maxNonces := maxNonces
          skew_positive := by
            dsimp only [maxSkew]
            split
            · decide
            · omega
          skew_bounded := wide
          nonces_positive := by
            dsimp only [maxNonces]
            split
            · decide
            · omega
          nonces_bounded := small }
      else .error "nonce cache limit is too large"
    else .error "HMAC time window must not exceed five minutes"

/-- An incoming request; `header` gives all values of a header. -/
structure Request where
  method : String
  requestURI : String
  header : String → List String

def singleHeader (header : String → List String) (name : String) : Option String :=
  match header name with
  | [value] => if trimSpace value == "" || value != trimSpace value then none else some value
  | _ => none

def canonicalRequest (digests : Digests) (method requestURI keyID timestamp nonce : String)
    (body : Bytes) : String :=
  "\n".intercalate
    ["VPSMGR-HMAC-SHA256", protocolVersion, keyID, timestamp, nonce, method.toUpper, requestURI,
      hex (digests.sha256 body)]

def computeMAC (digests : Digests) (key : Bytes) (canonical : String) : Bytes :=
  digests.hmacSHA256 key (bytes canonical)

/-- What `Verify` has established when it reaches the nonce table. -/
structure Authenticated where
  keyID : String
  timestamp : Int
  nonce : String
  signature : Bytes
  deriving DecidableEq, Repr

/-- `Verify` up to the lock: `now` is its one reading of the clock. -/
def verifyHeaders (digests : Digests) (v : Verifier) (now : Int) (request : Request)
    (body : Bytes) : Except String Authenticated := do
  let protocol ← orError (singleHeader request.header headerProtocol) "invalid_protocol"
  ensure (protocol = protocolVersion) "invalid_protocol"
  let keyID ← orError (singleHeader request.header headerKeyID) "invalid_key_id"
  ensure (keyID = v.keyID) "invalid_key_id"
  let timestampText ← orError (singleHeader request.header headerTimestamp) "invalid_timestamp"
  let timestamp ← orError (parseInt64 timestampText) "invalid_timestamp"
  ensure (¬ (unix timestamp < now - v.maxSkew ∨ now + v.maxSkew < unix timestamp))
    "stale_request"
  let nonce ← orError (singleHeader request.header headerNonce) "invalid_nonce"
  let nonceBytes ← orError (rawURLDecode false nonce) "invalid_nonce"
  ensure (¬ (nonceBytes.length < 16 ∨ 64 < nonceBytes.length)) "invalid_nonce"
  let signatureText ← orError (singleHeader request.header headerSignature) "invalid_signature"
  let signature ← orError (rawURLDecode false signatureText) "invalid_signature"
  ensure (signature.length = 32) "invalid_signature"
  let want := computeMAC digests v.key
    (canonicalRequest digests request.method request.requestURI keyID timestampText nonce body)
  ensure (want = signature) "invalid_signature"
  return ⟨keyID, timestamp, nonce, signature⟩

def cacheKey (request : Authenticated) : String := request.keyID ++ "\x00" ++ request.nonce

/-- `Verify` under the lock: prune, refuse a known nonce or a full table, else
remember the nonce. The error code is `none` on success. -/
def recordNonce (v : Verifier) (nonces : Expiring.Table String) (now : Int)
    (request : Authenticated) : Expiring.Table String × Option String :=
  let pruned := Expiring.prune now nonces
  if cacheKey request ∈ pruned then (pruned, some "replayed_request")
  else if v.maxNonces ≤ pruned.keys.card then (pruned, some "replay_cache_full")
  else (pruned.insert (cacheKey request) (now + 2 * v.maxSkew), none)

end VpsManager.Protocol
