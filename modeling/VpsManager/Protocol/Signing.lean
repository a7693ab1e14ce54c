import Mathlib.Data.Bool.AllAny
import VpsManager.Go.Numbers
import VpsManager.Lib.Joined
import VpsManager.Protocol.Replay

namespace VpsManager.Protocol

open Go Checks

structure SignerConfig where
  keyID : String
  key : Bytes

/-- A signer exists only with a key that passes the check. -/
structure Signer where
  keyID : String
  key : Bytes
  valid : validateKey keyID key = .ok ()

def newSigner (config : SignerConfig) : Except String Signer :=
  match valid : validateKey config.keyID config.key with
  | .error reason => .error reason
  | .ok () => .ok ⟨config.keyID, config.key, valid⟩

/-- `time.Time.Unix`, an `int64`. -/
def unixSeconds (now : Int) : Int := (now / second).bmod (2 ^ 64)

/-- A call of `Sign`, with its reading of the clock and its random bytes. -/
structure SignCall where
  signer : Signer
  request : Request
  body : Bytes
  now : Int
  nonceBytes : Bytes
  nonce_size : nonceBytes.length = 24

namespace SignCall

variable (digests : Digests) (call : SignCall)

def timestamp : String := toString (unixSeconds call.now)

def nonce : String := rawURLEncode call.nonceBytes

def canonical : String :=
  canonicalRequest digests call.request.method call.request.requestURI call.signer.keyID
    call.timestamp call.nonce call.body

def signature : Bytes := computeMAC digests call.signer.key (call.canonical digests)

/-- The request as the call leaves it. -/
def signed : Request :=
  { call.request with
    header := fun name =>
      if name = headerProtocol then [protocolVersion]
      else if name = headerKeyID then [call.signer.keyID]
      else if name = headerTimestamp then [call.timestamp]
      else if name = headerNonce then [call.nonce]
      else if name = headerSignature then [rawURLEncode (call.signature digests)]
      else call.request.header name }

end SignCall

/-- `Verify`, with the table that it finds under its lock; the error code is `none` if the
request is accepted. -/
def verify (digests : Digests) (v : Verifier) (nonces : Expiring.Table String) (now : Int)
    (request : Request) (body : Bytes) : Expiring.Table String × Option String :=
  match verifyHeaders digests v now request body with
  | .error code => (nonces, some code)
  | .ok accepted => recordNonce v nonces now accepted

theorem newline_not_mem_hex (raw : Bytes) : '\n' ∉ (hex raw).toList := by
  have digits : ∀ n < 16, hexDigit n ≠ '\n' := by decide
  intro inside
  rw [hex, String.toList_ofList] at inside
  obtain ⟨b, -, member⟩ := List.mem_flatMap.mp inside
  simp only [List.mem_cons, List.not_mem_nil, or_false] at member
  have small := b.toNat_lt
  rcases member with high | low
  · exact digits _ (by omega) high.symm
  · exact digits _ (by omega) low.symm

variable {body : Bytes} {v : Verifier} {now : Int}

/-- The parts of the canonical form are read back if the headers and the URI have no line
break, whatever the method is. -/
theorem canonicalRequest_injective {digests : Digests}
    {method method' uri uri' keyID keyID' timestamp timestamp' nonce nonce' : String}
    {body' : Bytes} (plain : ∀ text ∈ [keyID, timestamp, nonce, uri], '\n' ∉ text.toList)
    (plain' : ∀ text ∈ [keyID', timestamp', nonce', uri'], '\n' ∉ text.toList)
    (same : canonicalRequest digests method uri keyID timestamp nonce body =
      canonicalRequest digests method' uri' keyID' timestamp' nonce' body') :
    keyID = keyID' ∧ timestamp = timestamp' ∧ nonce = nonce' ∧ method.toUpper = method'.toUpper ∧
      uri = uri' ∧ digests.sha256 body = digests.sha256 body' := by
  simp only [List.forall_mem_cons] at plain plain'
  have chars := congrArg String.toList same
  simp only [canonicalRequest, String.toList_intercalate, List.map_cons, List.map_nil,
    show "\n".toList = ['\n'] from rfl, List.intercalate, List.intersperse, List.flatten_cons,
    List.flatten_nil, List.singleton_append, List.append_nil] at chars
  obtain ⟨-, chars⟩ := List.cons.inj (List.append_cancel_left chars)
  obtain ⟨-, chars⟩ := List.cons.inj (List.append_cancel_left chars)
  -- the headers are cut off from the left
  obtain ⟨keys, chars⟩ := Joined.append_cons_inj_left plain.1 plain'.1 chars
  obtain ⟨times, chars⟩ := Joined.append_cons_inj_left plain.2.1 plain'.2.1 chars
  obtain ⟨nonces, chars⟩ := Joined.append_cons_inj_left plain.2.2.1 plain'.2.2.1 chars
  -- the digest and the URI from the right, so that the method is what is left
  rw [← List.cons_append, ← List.append_assoc, ← List.cons_append, ← List.append_assoc] at chars
  obtain ⟨chars, digits⟩ := Joined.append_cons_inj_right (newline_not_mem_hex _)
    (newline_not_mem_hex _) chars
  obtain ⟨methods, uris⟩ := Joined.append_cons_inj_right plain.2.2.2.1 plain'.2.2.2.1 chars
  exact ⟨String.toList_inj.mp keys, String.toList_inj.mp times, String.toList_inj.mp nonces,
    String.toList_inj.mp methods, String.toList_inj.mp uris,
    hex_injective (String.toList_inj.mp digits)⟩

variable {header : String → List String} {name value : String} {request : Request}
  {accepted : Authenticated} {nonces : Expiring.Table String}

section Sent

variable (digests : Digests) (call : SignCall)

theorem SignCall.seconds_range :
    -(2 ^ 63) ≤ unixSeconds call.now ∧ unixSeconds call.now < 2 ^ 63 := by
  have low := Int.le_bmod (x := call.now / second) (m := 2 ^ 64) (by decide)
  have high := Int.bmod_lt (x := call.now / second) (m := 2 ^ 64) (by decide)
  unfold unixSeconds
  omega

theorem SignCall.parse_timestamp : parseInt64 call.timestamp = some (unixSeconds call.now) :=
  parseInt64_toString call.seconds_range.1 call.seconds_range.2

def Solid (text : String) : Prop :=
  text ≠ "" ∧ ∀ c ∈ text.toList, 33 ≤ c.toNat ∧ c.toNat ≤ 126

theorem Solid.newline {text : String} (solid : Solid text) : '\n' ∉ text.toList := by
  intro inside
  have range := (solid.2 _ inside).1
  revert range
  decide

theorem singleHeader_of_solid (only : header name = [value]) (solid : Solid value) :
    singleHeader header name = some value := by
  have trimmed := trimSpace_of_none value fun c inside => (printable_of_range (solid.2 c inside)).1
  have filled : (value == "") = false := beq_eq_false_iff_ne.mpr solid.1
  simp only [singleHeader, only, trimmed, filled, bne_self_eq_false, Bool.or_self]
  rfl

theorem solid_rawURLEncode {raw : Bytes} (filled : 0 < raw.length) : Solid (rawURLEncode raw) := by
  constructor
  · intro empty
    have size := congrArg String.length empty
    rw [rawURLEncode, String.length_ofList, List.length_map, length_sextets] at size
    change _ = 0 at size
    omega
  · intro c inside
    have range := rawURLEncode_range raw c inside
    omega

theorem SignCall.solid_keyID : Solid call.signer.keyID := by
  have valid := call.signer.valid
  simp only [validateKey, bind_eq_ok, ensure_eq_ok, Unique.exists_iff] at valid
  obtain ⟨size, chars, -⟩ := valid
  constructor
  · intro empty
    rw [empty] at size
    exact size (.inl (by decide))
  · intro c inside
    have valid := List.all_eq_true.mp chars c inside
    simp only [keyIDChar, Bool.or_eq_true, beq_iff_eq] at valid
    rcases valid with ((alnum | rfl) | rfl) | rfl
    · have range := isAlnumASCII_range alnum
      omega
    all_goals decide

theorem SignCall.solid_timestamp : Solid call.timestamp := by
  constructor
  · intro empty
    exact Decimal.int_ne_nil _ (congrArg String.toList empty)
  · intro c inside
    rcases Decimal.int_chars _ c inside with rfl | digit
    · decide
    · have range := Char.isDigit_iff_toNat.mp digit
      exact ⟨Nat.le_trans (by decide) range.1, Nat.le_trans range.2 (by decide)⟩

theorem SignCall.solid_nonce : Solid call.nonce := solid_rawURLEncode (by
  rw [call.nonce_size]
  decide)

/-- The headers of a signed request are accepted within the window of its timestamp. -/
theorem verifyHeaders_signed (size : ∀ key message, (digests.hmacSHA256 key message).length = 32)
    (keyID : call.signer.keyID = v.keyID) (key : call.signer.key = v.key)
    (window : now - v.maxSkew ≤ unix (unixSeconds call.now) ∧
      unix (unixSeconds call.now) ≤ now + v.maxSkew) :
    verifyHeaders digests v now (call.signed digests) call.body =
      .ok ⟨v.keyID, unixSeconds call.now, call.nonce, call.signature digests⟩ := by
  have signatureSize : (call.signature digests).length = 32 := size _ _
  have version : Solid protocolVersion :=
    ⟨by decide, List.all_iff_forall_prop.mp (by decide)⟩
  have signature : Solid (rawURLEncode (call.signature digests)) :=
    solid_rawURLEncode (by omega)
  have nonceSize := call.nonce_size
  simp only [verifyHeaders, bind_eq_ok, ensure_eq_ok, orError_eq_ok, pure_eq_ok,
    Unique.exists_iff]
  refine ⟨_, singleHeader_of_solid rfl version, rfl, _,
    singleHeader_of_solid rfl call.solid_keyID, keyID, _,
    singleHeader_of_solid rfl call.solid_timestamp, _, call.parse_timestamp, by omega, _,
    singleHeader_of_solid rfl call.solid_nonce, _, rawURLDecode_rawURLEncode false _, by omega, _,
    singleHeader_of_solid rfl signature, _, rawURLDecode_rawURLEncode false _, signatureSize, ?_,
    ?_⟩
  · rw [← key]
    rfl
  · rw [keyID]

end Sent

structure Lineless (request : Request) : Prop where
  uri : '\n' ∉ request.requestURI.toList
  headers : ∀ name, ∀ value ∈ request.header name, '\n' ∉ value.toList

/-- Whoever presents the code of a message under the key has it from an earlier call that
signed this message with the key. -/
def Unforged (digests : Digests) (key : Bytes) (earlier : List SignCall) (request : Request) :
    Prop :=
  ∀ text signature message, singleHeader request.header headerSignature = some text →
    rawURLDecode false text = some signature → computeMAC digests key message = signature →
    ∃ call ∈ earlier, call.signer.key = key ∧ call.canonical digests = message

/-- No signed body has the digest of this one but itself. -/
def CollisionFree (digests : Digests) (earlier : List SignCall) (body : Bytes) : Prop :=
  ∀ call ∈ earlier, digests.sha256 call.body = digests.sha256 body → call.body = body

/-- The call signed this request, up to the letter case of its method. -/
structure Vouches (call : SignCall) (v : Verifier) (request : Request) (body : Bytes) : Prop where
  key : call.signer.key = v.key
  requestURI : call.request.requestURI = request.requestURI
  keyID : singleHeader request.header headerKeyID = some call.signer.keyID
  timestamp : singleHeader request.header headerTimestamp = some call.timestamp
  nonce : singleHeader request.header headerNonce = some call.nonce
  body : call.body = body
  method : call.request.method.toUpper = request.method.toUpper

theorem mem_of_singleHeader (found : singleHeader header name = some value) :
    value ∈ header name := by
  unfold singleHeader at found
  split at found
  · rename_i only shape
    split at found
    · cases found
    · cases found
      rw [shape]
      exact List.mem_singleton_self _
  · cases found

theorem vouches_of_verifyHeaders {digests : Digests} {earlier : List SignCall}
    (lineless : Lineless request)
    (signedLineless : ∀ call ∈ earlier, '\n' ∉ call.request.requestURI.toList)
    (unforged : Unforged digests v.key earlier request)
    (collisionFree : CollisionFree digests earlier body)
    (verified : verifyHeaders digests v now request body = .ok accepted) :
    ∃ call ∈ earlier, Vouches call v request body := by
  simp only [verifyHeaders, bind_eq_ok, ensure_eq_ok, orError_eq_ok, Unique.exists_iff] at verified
  obtain ⟨_, -, -, keyID, keyHeader, -, timestamp, timeHeader, _, -, -, nonce, nonceHeader, _, -,
    -, text, signatureHeader, signature, decoded, -, fits, -⟩ := verified
  obtain ⟨call, listed, key, signed⟩ := unforged text signature _ signatureHeader decoded fits
  have sent : ∀ text ∈ [call.signer.keyID, call.timestamp, call.nonce, call.request.requestURI],
      '\n' ∉ text.toList := by
    simp only [List.forall_mem_cons]
    exact ⟨call.solid_keyID.newline, call.solid_timestamp.newline, call.solid_nonce.newline,
      signedLineless call listed, List.forall_mem_nil _⟩
  have received : ∀ text ∈ [keyID, timestamp, nonce, request.requestURI], '\n' ∉ text.toList := by
    have plain : ∀ {name value}, singleHeader request.header name = some value →
        '\n' ∉ value.toList := fun found => lineless.headers _ _ (mem_of_singleHeader found)
    simp only [List.forall_mem_cons]
    exact ⟨plain keyHeader, plain timeHeader, plain nonceHeader, lineless.uri,
      List.forall_mem_nil _⟩
  obtain ⟨rfl, rfl, rfl, method, uri, digest⟩ := canonicalRequest_injective sent received signed
  exact ⟨call, listed, key, uri, keyHeader, timeHeader, nonceHeader,
    collisionFree call listed digest, method⟩

theorem verify_eq_none {digests : Digests} :
    (verify digests v nonces now request body).2 = none ↔
      ∃ accepted, verifyHeaders digests v now request body = .ok accepted ∧
        (recordNonce v nonces now accepted).2 = none := by
  unfold verify
  cases verifyHeaders digests v now request body <;> simp

theorem recordNonce_eq_none :
    (recordNonce v nonces now accepted).2 = none ↔
      cacheKey accepted ∉ Expiring.prune now nonces ∧
        ((Expiring.prune now nonces).keys.card : Int) < v.maxNonces := by
  unfold recordNonce
  dsimp only
  split_ifs with known full
  · simp [known]
  · simp [full]
  · simp only [known, not_false_eq_true, true_and, true_iff]
    omega

/-- A request that is accepted was signed as a whole by an earlier call with the key, and a
signed request is accepted within its window, with an unused nonce and room in the table. -/
theorem connector_requests_authentic (digests : Digests) (v : Verifier) :
    (∀ earlier nonces now request body, Lineless request →
      (∀ call ∈ earlier, '\n' ∉ call.request.requestURI.toList) →
      Unforged digests v.key earlier request → CollisionFree digests earlier body →
      (verify digests v nonces now request body).2 = none →
      ∃ call ∈ earlier, Vouches call v request body) ∧
    (∀ (call : SignCall) (nonces : Expiring.Table String) (now : Int),
      (∀ key message, (digests.hmacSHA256 key message).length = 32) →
      call.signer.keyID = v.keyID → call.signer.key = v.key →
      now - v.maxSkew ≤ unix (unixSeconds call.now) →
      unix (unixSeconds call.now) ≤ now + v.maxSkew →
      v.keyID ++ "\x00" ++ call.nonce ∉ Expiring.prune now nonces →
      ((Expiring.prune now nonces).keys.card : Int) < v.maxNonces →
      (verify digests v nonces now (call.signed digests) call.body).2 = none) := by
  constructor
  · intro earlier nonces now request body lineless signedLineless unforged collisionFree accepted
    obtain ⟨authenticated, verified, -⟩ := verify_eq_none.mp accepted
    exact vouches_of_verifyHeaders lineless signedLineless unforged collisionFree verified
  · intro call nonces now size keyID key low high unused room
    exact verify_eq_none.mpr ⟨_, verifyHeaders_signed digests call size keyID key ⟨low, high⟩,
      recordNonce_eq_none.mpr ⟨unused, room⟩⟩

def probeSigner : Signer := ⟨"control", List.replicate 32 7, by decide⟩

def probeCall : SignCall :=
  ⟨probeSigner, ⟨"post", "/v1/host-keys", fun _ => []⟩, [1, 2, 3], unix 1000, List.replicate 24 5,
    rfl⟩

/-- SHA-256 of the body of this call. -/
def probeSHA256 : Bytes → Bytes :=
  digestsOn [(probeCall.body, 0x039058c6f2c0cb492c533b0a4d14ef77cc0f78abccced5287d84a1a2011cfb81)]

/-- The MAC tells the message of this call from all others. -/
def probeDigests : Digests where
  sha256 := probeSHA256
  hmacSHA256 _ message :=
    if message = bytes (probeCall.canonical ⟨probeSHA256, fun _ _ => []⟩) then List.replicate 32 1
    else List.replicate 32 0

def probeVerifier : Verifier := { defaultVerifier with key := List.replicate 32 7 }

theorem probe_signature : probeCall.signature probeDigests = List.replicate 32 1 := if_pos rfl

theorem probe_lineless : Lineless (probeCall.signed probeDigests) := by
  constructor
  · decide
  · have signature := solid_rawURLEncode (show 0 < (List.replicate 32 (1 : UInt8)).length by decide)
    intro name value listed
    simp only [SignCall.signed, probe_signature] at listed
    split_ifs at listed
    · rw [List.mem_singleton.mp listed]
      decide
    · rw [List.mem_singleton.mp listed]
      exact probeCall.solid_keyID.newline
    · rw [List.mem_singleton.mp listed]
      exact probeCall.solid_timestamp.newline
    · rw [List.mem_singleton.mp listed]
      exact probeCall.solid_nonce.newline
    · rw [List.mem_singleton.mp listed]
      exact signature.newline
    · cases listed

theorem probe_unforged :
    Unforged probeDigests probeVerifier.key [probeCall] (probeCall.signed probeDigests) := by
  intro text signature message header decoded fits
  refine ⟨probeCall, List.mem_singleton_self _, rfl, ?_⟩
  have solid : Solid (rawURLEncode (probeCall.signature probeDigests)) := by
    rw [probe_signature]
    exact solid_rawURLEncode (by decide)
  have same : some (rawURLEncode (probeCall.signature probeDigests)) = some text :=
    (singleHeader_of_solid rfl solid).symm.trans header
  cases same
  rw [rawURLDecode_rawURLEncode, probe_signature] at decoded
  cases decoded
  simp only [computeMAC, probeDigests] at fits
  split at fits
  · rename_i equal
    exact (bytes_injective equal).symm
  · cases fits

/-- The request of a call is accepted, and its call vouches for it. -/
theorem probe_authentic :
    (verify probeDigests probeVerifier ∅ (unix 1010) (probeCall.signed probeDigests)
      probeCall.body).2 = none ∧
    ∃ call ∈ [probeCall], Vouches call probeVerifier (probeCall.signed probeDigests)
      probeCall.body := by
  have size : ∀ key message, (probeDigests.hmacSHA256 key message).length = 32 := by
    intro key message
    simp only [probeDigests]
    split <;> rfl
  have accepted := (connector_requests_authentic probeDigests probeVerifier).2 probeCall ∅
    (unix 1010) size rfl rfl (by decide) (by decide) (by decide) (by decide)
  refine ⟨accepted, (connector_requests_authentic probeDigests probeVerifier).1 [probeCall] ∅
    (unix 1010) _ _ probe_lineless ?_ probe_unforged ?_ accepted⟩
  · intro call listed
    rw [List.mem_singleton.mp listed]
    decide
  · intro call listed _
    rw [List.mem_singleton.mp listed]

end VpsManager.Protocol
