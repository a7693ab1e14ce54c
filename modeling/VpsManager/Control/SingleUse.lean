import VpsManager.Control.Identity
import VpsManager.Lib.Interleaving

/- Concurrent calls of one identity verifier. Validation and consumption each
read the clock, and a call may be suspended between any two of its steps. -/
namespace VpsManager.Control.Identity

open Go Checks Interleaving

/-- The clock and the table of the consumed assertions. -/
abbrev VerifierState := Expiring.Clocked Bytes

inductive VerifyCall
  | arrived (assertion : String)
  | validated (assertion : String) (claims : Claims)
  | locking (assertion : String) (claims : Claims) (now : Int)
  | refused (reason : String)
  | returned (assertion : String) (principal : Principal)

inductive VerifyEvent
  | tick
  | validation
  | reading
  | consumption (now : Int) (claims : Claims) (fresh : Bool)
  deriving DecidableEq

def validate (primitives : Primitives) (v : Verifier) (now : Int) (assertion : String) :
    Except String Claims := do
  let claims ← decodeAssertion primitives v assertion
  validateClaims v now claims
  return claims

inductive VerifyStep (primitives : Primitives) (v : Verifier) :
    VerifierState → VerifyCall → VerifyEvent → VerifierState → VerifyCall → Prop
  | refuse {shared : VerifierState} {assertion reason : String}
      (failure : validate primitives v shared.clock assertion = .error reason) :
      VerifyStep primitives v shared (.arrived assertion) .validation shared (.refused reason)
  | validate {shared : VerifierState} {assertion : String} {claims : Claims}
      (success : validate primitives v shared.clock assertion = .ok claims) :
      VerifyStep primitives v shared (.arrived assertion) .validation shared
        (.validated assertion claims)
  | read {shared : VerifierState} {assertion : String} {claims : Claims} :
      VerifyStep primitives v shared (.validated assertion claims) .reading shared
        (.locking assertion claims shared.clock)
  | consume {shared : VerifierState} {assertion : String} {claims : Claims} {now : Int}
      {consumed : Expiring.Table Bytes} {fresh : Bool}
      (outcome : consume v shared.table now (primitives.sha256 (bytes claims.jwtID))
        (unix claims.expires) = (consumed, fresh)) :
      VerifyStep primitives v shared (.locking assertion claims now)
        (.consumption now claims fresh) { shared with table := consumed }
        (if fresh then .returned assertion (principalOf claims)
          else .refused "identity assertion was already consumed")

def verifySystem (primitives : Primitives) (v : Verifier) :
    System VerifierState VerifyCall VerifyEvent where
  begins call := ∃ assertion, call = .arrived assertion
  step := VerifyStep primitives v
  outside := Expiring.ClockStep .tick

section Consumption

variable (primitives : Primitives) (v : Verifier)

def tableUse (now : Int) (claims : Claims) : Expiring.Use Bytes :=
  ⟨primitives.sha256 (bytes claims.jwtID), unix claims.expires + v.skew, now - v.skew⟩

/-- The consumptions of a run as uses of an expiring table. -/
def lockUse : VerifyEvent → Option (Expiring.Use Bytes × Bool)
  | .tick => none
  | .validation => none
  | .reading => none
  | .consumption now claims fresh => some (tableUse primitives v now claims, fresh)

theorem consume_table (consumed : Expiring.Table Bytes) (now : Int) (claims : Claims) :
    Expiring.use none consumed (tableUse primitives v now claims) =
      consume v consumed now (primitives.sha256 (bytes claims.jwtID)) (unix claims.expires) := by
  simp only [Expiring.use, Expiring.full, consume, tableUse, Bool.false_eq_true, ↓reduceIte]

/-- A call past validation holds the claims its assertion decodes to; one that
returned a principal has left its consumption in the trace. -/
def CallSound (trace : List VerifyEvent) : VerifyCall → Prop
  | .arrived _ => True
  | .validated assertion claims => decodeAssertion primitives v assertion = .ok claims
  | .locking assertion claims _ => decodeAssertion primitives v assertion = .ok claims
  | .refused _ => True
  | .returned assertion _ => ∃ claims now, decodeAssertion primitives v assertion = .ok claims ∧
      .consumption now claims true ∈ trace

theorem CallSound.weaken (trace : List VerifyEvent) (label : VerifyEvent) (call : VerifyCall)
    (sound : CallSound primitives v trace call) :
    CallSound primitives v (label :: trace) call := by
  cases call with
  | arrived assertion => trivial
  | validated assertion claims => exact sound
  | locking assertion claims now => exact sound
  | refused reason => trivial
  | returned assertion principal =>
    obtain ⟨claims, now, decoded, member⟩ := sound
    exact ⟨claims, now, decoded, List.mem_cons_of_mem _ member⟩

variable {shared after : VerifierState} {call next : VerifyCall} {label : VerifyEvent}
  {trace : List VerifyEvent}

theorem VerifyStep.sound (step : VerifyStep primitives v shared call label after next)
    (sound : CallSound primitives v trace call) : CallSound primitives v (label :: trace) next := by
  cases step with
  | refuse failure => trivial
  | validate success =>
    simp only [Identity.validate, bind_eq_ok, pure_eq_ok] at success
    obtain ⟨claims, decoded, _, _, rfl⟩ := success
    exact decoded
  | read => exact sound
  | consume outcome =>
    split
    · rename_i fresh
      subst fresh
      exact ⟨_, _, sound, List.mem_cons_self⟩
    · trivial

theorem VerifyStep.records (step : VerifyStep primitives v shared call label after next)
    (held : Expiring.Records (lockUse primitives v) none shared.table trace) :
    Expiring.Records (lockUse primitives v) none after.table (label :: trace) := by
  cases step with
  | refuse failure => exact held.skip _ rfl
  | validate success => exact held.skip _ rfl
  | read => exact held.skip _ rfl
  | @consume _ claims now consumed fresh outcome =>
    have answer := consume_table primitives v shared.table now claims
    rw [outcome] at answer
    have used := held.used (.consumption now claims fresh) (tableUse primitives v now claims)
      (by simp only [lockUse, answer])
    rw [answer] at used
    exact used

/-- The instants up to which the consumptions of a run have pruned. -/
def cutoffs (trace : List VerifyEvent) : List Int :=
  (Expiring.uses (lockUse primitives v) trace).map (·.cutoff)

/-- A call consumes while neither it nor a consumption before prunes up to the
expiry of its claims and the skew. -/
def BeforeForgotten (_ : VerifierState) (trace : List VerifyEvent) (call : VerifyCall)
    (_ : VerifyEvent) : Prop :=
  match call with
  | .locking _ claims now =>
    ∀ cutoff ∈ (now - v.skew) :: cutoffs primitives v trace,
      cutoff < unix claims.expires + v.skew
  | _ => True

/-- Not both calls returned a principal for the same assertion. -/
def NotReused (one other : VerifyCall) : Prop :=
  ∀ assertion first second, one = .returned assertion first → other ≠ .returned assertion second

theorem NotReused.symm (one other : VerifyCall) (distinct : NotReused one other) :
    NotReused other one := by
  rintro assertion first second rfl rfl
  exact distinct assertion second first rfl rfl

theorem consumed_refuses {claims : Claims} {now earlier : Int}
    (held : Expiring.Records (lockUse primitives v) none shared.table trace)
    (member : .consumption earlier claims true ∈ trace)
    (remembered : ∀ cutoff ∈ (now - v.skew) :: cutoffs primitives v trace,
      cutoff < unix claims.expires + v.skew) :
    (consume v shared.table now (primitives.sha256 (bytes claims.jwtID))
      (unix claims.expires)).2 = false := by
  rw [← consume_table]
  refine held.refuses member rfl ?_ ?_
  · rfl
  intro entry listed
  apply remembered
  rcases List.mem_cons.mp listed with rfl | listed
  · exact List.mem_cons_self
  · exact List.mem_cons_of_mem _ (List.mem_map_of_mem listed)

theorem VerifyStep.notReused {other : VerifyCall}
    (step : VerifyStep primitives v shared call label after next)
    (held : Expiring.Records (lockUse primitives v) none shared.table trace)
    (sound : CallSound primitives v trace call) (otherSound : CallSound primitives v trace other)
    (admitted : BeforeForgotten primitives v shared trace call label) : NotReused next other := by
  rintro assertion first second same rfl
  cases step with
  | refuse failure => cases same
  | validate success => cases same
  | read => cases same
  | consume outcome =>
    split at same
    · rename_i fresh
      obtain ⟨rfl, -⟩ := VerifyCall.returned.inj same
      obtain ⟨claims, earlier, decoded, member⟩ := otherSound
      -- one assertion decodes to one set of claims
      obtain rfl := Except.ok.inj (decoded.symm.trans sound)
      have refused := consumed_refuses primitives v held member admitted
      rw [outcome] at refused
      exact Bool.noConfusion (refused.symm.trans fresh)
    · cases same

theorem verify_inductive (clock : Int) :
    Inductive (verifySystem primitives v) (BeforeForgotten primitives v)
      (Expiring.Clocked.initial clock)
      (fun shared trace => Expiring.Records (lockUse primitives v) none shared.table trace)
      (fun _ trace call => CallSound primitives v trace call) NotReused where
  symmetric := NotReused.symm
  initial := Expiring.Records.initial
  begun := by
    rintro shared trace call held ⟨assertion, rfl⟩
    refine ⟨trivial, ?_⟩
    rintro other _ first second impossible
    cases impossible
  advanced := by
    intro shared trace call label after next held sound step admitted
    exact ⟨step.records primitives v held, step.sound primitives v sound,
      fun other otherSound _ => ⟨otherSound.weaken primitives v trace label other,
        step.notReused primitives v held sound otherSound admitted⟩⟩
  disturbed := by
    rintro shared trace label after held ⟨later⟩
    exact ⟨held.skip _ rfl, fun other => CallSound.weaken primitives v trace _ other⟩

/-- In a run in which every call consumes before its assertion is forgotten, no
assertion makes two calls return a principal. -/
theorem verify_single_use (clock : Int)
    (config : Interleaving.Config VerifierState VerifyCall VerifyEvent)
    (reached : Reachable (verifySystem primitives v) (BeforeForgotten primitives v)
      (Expiring.Clocked.initial clock) config) :
    config.calls.Pairwise NotReused :=
  ((verify_inductive primitives v clock).holds reached).2.2

end Consumption

section Suspended

def bridgeKey : Bytes :=
  [3, 161, 7, 191, 243, 206, 16, 190, 29, 112, 221, 24, 231, 75, 192, 153, 103, 228, 214, 48, 155,
    165, 13, 95, 29, 220, 134, 100, 18, 85, 49, 184]

def bridgeHeader : String := "eyJhbGciOiJFZERTQSIsImtpZCI6ImsiLCJ0eXAiOiJWUFNNR1IrSldUIn0"

def bridgePayload : String :=
  "eyJpc3MiOiJiIiwiYXVkIjoiYyIsInN1YiI6ImEiLCJyb2xlIjoidmlld2VyIiwi" ++
    "aWF0IjoxMDAsImV4cCI6MTYwLCJqdGkiOiIwMTIzNDU2Nzg5YWJjZGVmIn0"

def bridgeSignature : String :=
  "FFSLVCm9X2anUvRnF7SnvhaR7jnii-PxS0IA_3xKDjIlcNBAHqgS2PVKJcrzUb9-DiWAkta7KNJ9EL2iqXjUCQ"

def bridgeAssertion : String := bridgeHeader ++ "." ++ bridgePayload ++ "." ++ bridgeSignature

def bridgeClaims : Claims :=
  ⟨"b", "c", "a", .viewer, false, [], 100, 160, "0123456789abcdef"⟩

def signatureBytes : Bytes :=
  [20, 84, 139, 84, 41, 189, 95, 102, 167, 82, 244, 103, 23, 180, 167, 190, 22, 145, 238, 57, 226,
    139, 227, 241, 75, 66, 0, 255, 124, 74, 14, 50, 37, 112, 208, 64, 30, 168, 18, 216, 245, 74, 37,
    202, 243, 81, 191, 126, 14, 37, 128, 146, 214, 187, 40, 210, 125, 16, 189, 162, 169, 120, 212,
    9]

def headerJSON : Bytes :=
  bytes "\x7b\"alg\":\"EdDSA\",\"kid\":\"k\",\"typ\":\"VPSMGR+JWT\"\x7d"

def claimsJSON : Bytes :=
  bytes "\x7b\"iss\":\"b\",\"aud\":\"c\",\"sub\":\"a\",\"role\":\"viewer\"," ++
    bytes "\"iat\":100,\"exp\":160,\"jti\":\"0123456789abcdef\"\x7d"

/-- The values of the real functions on one signed assertion. -/
def bridgePrimitives : Primitives where
  sha256 data :=
    if data = bytes "0123456789abcdef" then
      [159, 159, 81, 17, 247, 178, 122, 120, 31, 31, 29, 221, 229, 235, 194, 221, 43, 121, 107, 252,
        115, 101, 201, 194, 139, 84, 142, 86, 65, 118, 146, 159]
    else []
  ed25519Verify key message signature :=
    key = bridgeKey && message = bytes (bridgeHeader ++ "." ++ bridgePayload) &&
      signature = signatureBytes
  decodeHeader data := if data = headerJSON then some ⟨"EdDSA", "k", "VPSMGR+JWT"⟩ else none
  decodeClaims data := if data = claimsJSON then some bridgeClaims else none

def bridgeVerifier : Verifier where
  issuer := "b"
  audience := "c"
  keyID := "k"
  key := bridgeKey
  skew := defaultClockSkew
  skew_positive := by decide
  skew_bounded := by decide

theorem bridgeAssertion_parts :
    split bridgeAssertion '.' = [bridgeHeader, bridgePayload, bridgeSignature] := by
  have same : bridgeAssertion = bridgeHeader ++ (String.singleton '.' ++
      (bridgePayload ++ (String.singleton '.' ++ bridgeSignature))) := by
    simp only [bridgeAssertion, String.append_assoc]
    rfl
  rw [same, split_append _ _ _ (by decide +kernel), split_append _ _ _ (by decide +kernel),
    split_of_absent _ _ (by decide +kernel)]

theorem bridgeAssertion_trimmed : trimSpace bridgeAssertion = bridgeAssertion := by
  -- Part by part: the whole text is too long to evaluate at once.
  have header : bridgeHeader.toList.all (isSpace · == false) = true := by decide +kernel
  have payload : bridgePayload.toList.all (isSpace · == false) = true := by decide +kernel
  have signature : bridgeSignature.toList.all (isSpace · == false) = true := by decide +kernel
  have dot : ".".toList.all (isSpace · == false) = true := by decide +kernel
  apply trimSpace_of_none
  intro c member
  have spaceless : bridgeAssertion.toList.all (isSpace · == false) = true := by
    simp only [bridgeAssertion, String.toList_append, List.all_append, header, payload, signature,
      dot, Bool.and_self]
  exact beq_iff_eq.mp (List.all_eq_true.mp spaceless c member)

theorem bridgeAssertion_segments :
    decodeSegment bridgeHeader 1024 = some headerJSON ∧
      decodeSegment bridgePayload 8192 = some claimsJSON ∧
      decodeSegment bridgeSignature signatureSize = some signatureBytes := by
  decide +kernel

theorem bridgeAssertion_decoded :
    decodeAssertion bridgePrimitives bridgeVerifier bridgeAssertion = .ok bridgeClaims := by
  obtain ⟨header, payload, signature⟩ := bridgeAssertion_segments
  have size : len bridgeAssertion = 270 := by
    simp only [len, bridgeAssertion, String.utf8ByteSize_append]
    decide +kernel
  have present : bridgeHeader ≠ "" ∧ bridgePayload ≠ "" ∧ bridgeSignature ≠ "" := by
    decide +kernel
  simp only [decodeAssertion, bind_eq_ok, ensure_eq_ok, orError_eq_ok, bridgeAssertion_parts,
    bridgeAssertion_trimmed, header, payload, signature, size]
  exact ⟨(), by simp [maxAssertionBytes], (), by simp [present], headerJSON, rfl,
    ⟨"EdDSA", "k", "VPSMGR+JWT"⟩, by simp [bridgePrimitives], (), ⟨rfl, rfl, rfl⟩,
    signatureBytes, rfl, (), rfl, (), by simp [bridgePrimitives, bridgeVerifier],
    claimsJSON, rfl, by simp [bridgePrimitives]⟩

theorem bridgeAssertion_valid :
    validate bridgePrimitives bridgeVerifier (unix 100) bridgeAssertion = .ok bridgeClaims := by
  rw [validate, bridgeAssertion_decoded]
  decide +kernel

def bridgeConsumed : Expiring.Table Bytes :=
  (consume bridgeVerifier ∅ (unix 100) (bridgePrimitives.sha256 (bytes "0123456789abcdef"))
    (unix 160)).1

/-- Two calls validate one assertion and the first consumes it. -/
theorem bridgeAssertion_consumed :
    Reachable (verifySystem bridgePrimitives bridgeVerifier)
      (BeforeForgotten bridgePrimitives bridgeVerifier) (Expiring.Clocked.initial (unix 100))
      ⟨⟨unix 100, bridgeConsumed⟩, [.returned bridgeAssertion (principalOf bridgeClaims),
        .validated bridgeAssertion bridgeClaims],
        [.consumption (unix 100) bridgeClaims true, .reading, .validation, .validation]⟩ := by
  have started : Reachable (verifySystem bridgePrimitives bridgeVerifier)
      (BeforeForgotten bridgePrimitives bridgeVerifier)
      (Expiring.Clocked.initial (unix 100)) _ := .start
  have one := started.call (.arrived bridgeAssertion) ⟨_, rfl⟩
  have two := one.call (.arrived bridgeAssertion) ⟨_, rfl⟩
  have first := two.advance 0 rfl (.validate bridgeAssertion_valid) trivial
  have second := first.advance 1 rfl (.validate bridgeAssertion_valid) trivial
  have read := second.advance 0 rfl .read trivial
  exact read.advance 0 rfl (.consume (Prod.ext rfl (by decide : _ = true)))
    (by unfold BeforeForgotten; decide)

/-- A call that is suspended between validation and consumption until the entry
of the first call is dropped returns the principal a second time. -/
theorem verify_reused_after_suspension :
    ∃ shared trace, Reachable (verifySystem bridgePrimitives bridgeVerifier) anyStep
      (Expiring.Clocked.initial (unix 100))
      ⟨shared, [.returned bridgeAssertion (principalOf bridgeClaims),
        .returned bridgeAssertion (principalOf bridgeClaims)], trace⟩ := by
  have once : Reachable _ anyStep _ _ := bridgeAssertion_consumed.mono fun _ _ _ _ _ => trivial
  have later := once.outside (.tick (by decide : unix 100 ≤ unix 170))
  have read := later.advance 1 rfl .read trivial
  exact ⟨_, _, read.advance 1 rfl (.consume (Prod.ext rfl (by decide : _ = true))) trivial⟩

/-- A run that meets the condition: the second call is refused. -/
theorem bridgeAssertion_single_use :
    ∃ config, Reachable (verifySystem bridgePrimitives bridgeVerifier)
        (BeforeForgotten bridgePrimitives bridgeVerifier) (Expiring.Clocked.initial (unix 100))
        config ∧
      config.calls = [.returned bridgeAssertion (principalOf bridgeClaims),
        .refused "identity assertion was already consumed"] ∧
      config.calls.Pairwise NotReused := by
  have read := bridgeAssertion_consumed.advance 1 rfl .read trivial
  have refused := read.advance 1 rfl (.consume (Prod.ext rfl (by decide : _ = false)))
    (by unfold BeforeForgotten; decide)
  exact ⟨_, refused, rfl, verify_single_use _ _ _ _ refused⟩

end Suspended

end VpsManager.Control.Identity
