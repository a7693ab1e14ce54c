import VpsManager.Lib.Aead
import VpsManager.Go.Json
import VpsManager.Control.Server

namespace VpsManager.Control

open Go Checks

def contextChar (c : Char) : Bool :=
  isAlnumASCII c || c == '_' || c == '.' || c == ':' || c == '-'

def contextIDPattern (text : String) : Bool :=
  anchored isAlnumASCII contextChar 127 text

def credentialPattern (text : String) : Bool :=
  anchored isLowerASCII (fun c => isLowerASCII c || isDigitASCII c || c == '_') 63 text

/-- `EncryptionContext` of the key manager. -/
structure KeyContext where
  installationID : String
  credentialID : String
  version : UInt64
  credentialType : String
  deriving DecidableEq, Repr

def KeyContext.json (context : KeyContext) : Json :=
  .struct [some ("installation_id", .string context.installationID),
    some ("credential_id", .string context.credentialID),
    some ("version", .number (toString context.version.toNat)),
    some ("credential_type", .string context.credentialType)]

def KeyContext.aad (context : KeyContext) : Except String Bytes := do
  ensure (contextIDPattern context.installationID = true ∧
      contextIDPattern context.credentialID = true ∧ context.version ≠ 0 ∧
      credentialPattern context.credentialType = true) "encryption context is invalid"
  return bytes context.json.encode

def EncryptionContext.keyContext (context : EncryptionContext) : KeyContext :=
  ⟨context.installationID, context.objectID ++ ":" ++ context.secretID, 1, context.secretType⟩

def EncryptionContext.contextAAD (context : EncryptionContext) : Except String Bytes := do
  ensure (¬ (contains context.objectID ":" = true ∨ contains context.secretID ":" = true))
    "encryption context object ids are invalid"
  context.keyContext.aad

/-- What the handlers pass on: the error is dropped, and without a value the bytes are
nil. -/
def EncryptionContext.aad (context : EncryptionContext) : Bytes :=
  context.contextAAD.toOption.getD []

/-- `io.ReadFull` from the random source. -/
abbrev Drawn (size : Nat) := Except String { raw : Bytes // raw.length = size }

/-- `aes.NewCipher`, by the sizes it takes. -/
def newCipher (key : Bytes) : Except String Unit :=
  ensure (key.length = 16 ∨ key.length = 24 ∨ key.length = 32)
    ("crypto/aes: invalid key size " ++ toString key.length)

def dataKeyBytes : Nat := 32

structure KeyWrapper (aead : Aead) where
  keyID : String
  wrapKey (nonce : Drawn aead.nonceSize) (dataKey aad : Bytes) : Except String (Bytes × Bytes)

structure KeyUnwrapper where
  keyID : String
  unwrapKey (wrappedKey nonce aad : Bytes) : Except String Bytes

/-- A service made with `NewSealingService` has nothing to unwrap keys with. -/
structure Service (aead : Aead) where
  wrapper : KeyWrapper aead
  unwrapper : Option KeyUnwrapper

structure Draws (aead : Aead) where
  dataKey : Drawn dataKeyBytes
  nonce : Drawn aead.nonceSize
  keyNonce : Drawn aead.nonceSize

section Service

variable {aead : Aead}

def Service.seal (service : Service aead) (draws : Draws aead) (plaintext aad : Bytes) :
    Except String Envelope := do
  ensure (plaintext ≠ []) "credential plaintext is empty"
  ensure (aad ≠ []) "credential encryption context is required"
  let dataKey ← draws.dataKey.mapError ("generate data key: " ++ ·)
  newCipher dataKey.val
  let nonce ← draws.nonce.mapError ("generate credential nonce: " ++ ·)
  let ciphertext := aead.sealed dataKey.val nonce.val plaintext aad
  let wrapped ← (service.wrapper.wrapKey draws.keyNonce dataKey.val aad).mapError
    ("wrap data key: " ++ ·)
  return {
    keyID := service.wrapper.keyID
    wrappedKey := wrapped.1
    keyNonce := wrapped.2
    ciphertext := ciphertext
    nonce := nonce.val }

/-- `Open`, up to the call of its consumer. -/
def Service.opened (service : Service aead) (envelope : Envelope) (aad : Bytes) :
    Except String Bytes := do
  let unwrapper ← orError service.unwrapper
    "credential decryption is unavailable in this process"
  ensure (envelope.keyID = unwrapper.keyID) "credential key id is not available"
  let dataKey ← (unwrapper.unwrapKey envelope.wrappedKey envelope.keyNonce aad).mapError
    ("unwrap data key: " ++ ·)
  newCipher dataKey
  ensure (envelope.nonce.length = aead.nonceSize ∧ aead.overhead ≤ envelope.ciphertext.length)
    "credential envelope is malformed"
  orError (aead.opened dataKey envelope.nonce envelope.ciphertext aad)
    "credential authentication failed"

end Service

/-- The key service for development; `NewDevKMS` makes no other. -/
structure DevKMS where
  keyID : String
  master : Bytes
  named : keyID ≠ ""
  size : master.length = dataKeyBytes

namespace DevKMS

variable (kms : DevKMS) (aead : Aead)

def wrapKey (nonce : Drawn aead.nonceSize) (dataKey aad : Bytes) :
    Except String (Bytes × Bytes) := do
  newCipher kms.master
  let nonce ← nonce
  return (aead.sealed kms.master nonce.val dataKey aad, nonce.val)

def unwrapKey (wrappedKey nonce aad : Bytes) : Except String Bytes := do
  newCipher kms.master
  ensure (nonce.length = aead.nonceSize ∧ aead.overhead ≤ wrappedKey.length)
    "wrapped data key is malformed"
  orError (aead.opened kms.master nonce wrappedKey aad) "wrapped data key authentication failed"

/-- `NewService` of the key service. -/
def service : Service aead where
  wrapper := ⟨kms.keyID, kms.wrapKey aead⟩
  unwrapper := some ⟨kms.keyID, kms.unwrapKey aead⟩

end DevKMS

section Contexts

variable {context other : EncryptionContext}

theorem contains_colon (text : String) : contains text ":" = true ↔ ':' ∈ text.toList := by
  have colon : ":".toList = [':'] := by decide
  simp only [contains, colon, List.any_eq_true, List.mem_tails]
  constructor
  · rintro ⟨rest, suffix, leads⟩
    obtain ⟨tail, rfl⟩ := List.isPrefixOf_iff_prefix.mp leads
    exact suffix.subset (.head _)
  · intro member
    obtain ⟨before, after, shape⟩ := List.append_of_mem member
    exact ⟨':' :: after, ⟨before, shape.symm⟩, List.isPrefixOf_iff_prefix.mpr ⟨after, rfl⟩⟩

theorem contextChar_plain {c : Char} (listed : contextChar c = true) :
    c ≠ '"' ∧ Json.escapeChar c = String.singleton c := by
  have small : c.toNat < 128 := by
    simp only [contextChar, Bool.or_eq_true, beq_iff_eq, or_assoc] at listed
    rcases listed with alnum | rfl | rfl | rfl | rfl
    · have := isAlnumASCII_range alnum
      omega
    all_goals decide
  have table : ∀ n < 128, contextChar (Char.ofNat n) = true →
      Char.ofNat n ≠ '"' ∧ Json.escapeChar (Char.ofNat n) = String.singleton (Char.ofNat n) := by
    decide +kernel
  have hit := table c.toNat small
  rw [Char.ofNat_toNat] at hit
  exact hit listed

theorem cut_at {separator : Char} {one other rest tail : List Char} (absent : separator ∉ one)
    (missing : separator ∉ other) (same : one ++ separator :: rest = other ++ separator :: tail) :
    one = other ∧ rest = tail := by
  have parts := congrArg (List.splitOn separator) same
  rw [List.splitOn_append_cons_self_of_not_mem absent,
    List.splitOn_append_cons_self_of_not_mem missing] at parts
  obtain rfl := (List.cons.inj parts).1
  exact ⟨rfl, (List.cons.inj (List.append_cancel_left same)).2⟩

/-- A text that JSON writes as it is, between quotes. -/
structure Verbatim (text : String) : Prop where
  unquoted : '"' ∉ text.toList
  quoted : (Json.quote text).toList = '"' :: (text.toList ++ ['"'])

variable {text : String}

theorem verbatim_of_contextChars (listed : ∀ c ∈ text.toList, contextChar c = true) :
    Verbatim text where
  unquoted member := (contextChar_plain (listed _ member)).1 rfl
  quoted := by
    have same : text.toList.map Json.escapeChar = text.toList.map String.singleton :=
      List.map_congr_left fun c member => (contextChar_plain (listed c member)).2
    have flat : ∀ chars : List Char,
        (chars.map String.singleton).flatMap String.toList = chars := by
      intro chars
      simp [List.flatMap_map, List.flatMap_singleton']
    simp [Json.quote, same, String.toList_join, flat]

theorem verbatim_of_contextID (identifier : contextIDPattern text = true) : Verbatim text := by
  refine verbatim_of_contextChars (chars_of_anchored identifier ?_)
  intro c alnum
  simp [contextChar, alnum]

theorem verbatim_of_credentialType (named : credentialPattern text = true) : Verbatim text := by
  refine verbatim_of_contextChars ?_
  have chars := chars_of_anchored named fun c lower => by simp [lower]
  intro c member
  have listed := chars c member
  simp only [Bool.or_eq_true, beq_iff_eq] at listed
  rcases listed with (lower | digit) | rfl
  · simp [contextChar, isAlnumASCII, lower]
  · simp [contextChar, isAlnumASCII, digit]
  · decide

/-- What follows a quoted text is found by the quote that ends it. -/
theorem Verbatim.cut {one other : String} {rest tail : List Char} (plain : Verbatim one)
    (fellow : Verbatim other)
    (same : (Json.quote one).toList ++ rest = (Json.quote other).toList ++ tail) :
    one = other ∧ rest = tail := by
  rw [plain.quoted, fellow.quoted, List.cons_append, List.cons_append, List.append_assoc,
    List.append_assoc] at same
  obtain ⟨text, rest⟩ := cut_at plain.unquoted fellow.unquoted (List.cons.inj same).2
  exact ⟨String.toList_inj.mp text, rest⟩

structure ValidContext (context : EncryptionContext) : Prop where
  objectID : ':' ∉ context.objectID.toList
  secretID : ':' ∉ context.secretID.toList
  installation : contextIDPattern context.installationID = true
  credential : contextIDPattern (context.objectID ++ ":" ++ context.secretID) = true
  secretType : credentialPattern context.secretType = true

theorem contextAAD_eq_ok {raw : Bytes} :
    context.contextAAD = .ok raw ↔
      ValidContext context ∧ bytes context.keyContext.json.encode = raw := by
  simp only [EncryptionContext.contextAAD, KeyContext.aad, bind_eq_ok, ensure_eq_ok, pure_eq_ok,
    exists_const, not_or, contains_colon]
  constructor
  · rintro ⟨⟨object, secret⟩, ⟨installation, credential, -, named⟩, rfl⟩
    exact ⟨⟨object, secret, installation, credential, named⟩, rfl⟩
  · rintro ⟨valid, rfl⟩
    have version : (1 : UInt64) ≠ 0 := by decide
    exact ⟨⟨valid.objectID, valid.secretID⟩,
      ⟨valid.installation, valid.credential, version, valid.secretType⟩, rfl⟩

theorem encode_keyContext (context : KeyContext) :
    context.json.encode =
      "\x7b\"installation_id\":" ++ (Json.quote context.installationID ++
        (",\"credential_id\":" ++ (Json.quote context.credentialID ++
          (",\"version\":" ++ toString context.version.toNat ++ ",\"credential_type\":" ++
            (Json.quote context.credentialType ++ "\x7d"))))) := by
  have object : context.json = .object [("installation_id", .string context.installationID),
      ("credential_id", .string context.credentialID),
      ("version", .number (toString context.version.toNat)),
      ("credential_type", .string context.credentialType)] := rfl
  have names : Json.quote "installation_id" = "\"installation_id\"" ∧
      Json.quote "credential_id" = "\"credential_id\"" ∧ Json.quote "version" = "\"version\"" ∧
      Json.quote "credential_type" = "\"credential_type\"" := by decide +kernel
  obtain ⟨installation, credential, version, secretType⟩ := names
  rw [object]
  simp only [Json.encode, Json.encodeMembers, installation, credential, version, secretType,
    ← String.toList_inj, String.toList_append, List.append_assoc]
  rfl

theorem encode_inj (valid : ValidContext context) (sound : ValidContext other)
    (same : context.keyContext.json.encode = other.keyContext.json.encode) : context = other := by
  rw [encode_keyContext, encode_keyContext] at same
  have chars := congrArg String.toList same
  simp only [String.toList_append] at chars
  obtain ⟨installation, rest⟩ := (verbatim_of_contextID valid.installation).cut
    (verbatim_of_contextID sound.installation) (List.append_cancel_left chars)
  obtain ⟨credential, rest⟩ := (verbatim_of_contextID valid.credential).cut
    (verbatim_of_contextID sound.credential) (List.append_cancel_left rest)
  obtain ⟨secretType, -⟩ := (verbatim_of_credentialType valid.secretType).cut
    (verbatim_of_credentialType sound.secretType) (List.append_cancel_left rest)
  have joined := congrArg String.toList credential
  simp only [String.toList_append, List.append_assoc] at joined
  obtain ⟨object, secret⟩ := cut_at valid.objectID sound.objectID joined
  cases context
  cases other
  congr
  · exact String.toList_inj.mp object
  · exact String.toList_inj.mp secret

theorem aad_of_valid (valid : ValidContext context) :
    context.aad = bytes context.keyContext.json.encode := by
  rw [EncryptionContext.aad, contextAAD_eq_ok.mpr ⟨valid, rfl⟩]
  rfl

theorem aad_of_invalid (invalid : ¬ ValidContext context) : context.aad = [] := by
  rw [EncryptionContext.aad]
  cases result : context.contextAAD with
  | error message => rfl
  | ok raw => exact absurd (contextAAD_eq_ok.mp result).1 invalid

theorem aad_ne_nil (valid : ValidContext context) : context.aad ≠ [] := by
  rw [aad_of_valid valid, encode_keyContext]
  intro empty
  have nothing := bytes_injective (empty.trans (by decide : [] = bytes ""))
  have chars := congrArg String.toList nothing
  rw [String.toList_append] at chars
  cases chars

theorem aad_inj (valid : ValidContext context) : other.aad = context.aad ↔ other = context := by
  refine ⟨?_, fun same => by rw [same]⟩
  intro same
  by_cases sound : ValidContext other
  · rw [aad_of_valid valid, aad_of_valid sound] at same
    exact encode_inj sound valid (bytes_injective same)
  · rw [aad_of_invalid sound] at same
    exact absurd same.symm (aad_ne_nil valid)

end Contexts

section Sealed

variable {aead : Aead} {kms : DevKMS} {draws : Draws aead} {plaintext aad : Bytes}
  {envelope : Envelope}

theorem newCipher_of_length {key : Bytes} (size : key.length = dataKeyBytes) :
    newCipher key = .ok () := by
  rw [newCipher, ensure_eq_ok]
  exact .inr (.inr size)

def DevKMS.sealed (kms : DevKMS) (aead : Aead) (plaintext aad dataKey nonce keyNonce : Bytes) :
    Envelope where
  keyID := kms.keyID
  wrappedKey := aead.sealed kms.master keyNonce dataKey aad
  keyNonce := keyNonce
  ciphertext := aead.sealed dataKey nonce plaintext aad
  nonce := nonce

variable {dataKey found : Bytes}

theorem wrapKey_eq_ok {drawn : Drawn aead.nonceSize} {wrapped : Bytes × Bytes} :
    kms.wrapKey aead drawn dataKey aad = .ok wrapped ↔
      ∃ nonce, drawn = .ok nonce ∧
        (aead.sealed kms.master nonce.val dataKey aad, nonce.val) = wrapped := by
  simp only [DevKMS.wrapKey, newCipher_of_length kms.size, bind_eq_ok, pure_eq_ok, exists_const,
    true_and]

theorem unwrapKey_sealed_iff {nonce other : Bytes} (size : nonce.length = aead.nonceSize) :
    kms.unwrapKey aead (aead.sealed kms.master nonce dataKey aad) nonce other = .ok found ↔
      other = aad ∧ found = dataKey := by
  simp only [DevKMS.unwrapKey, newCipher_of_length kms.size, bind_eq_ok, ensure_eq_ok,
    orError_eq_ok, exists_const, true_and, aead.opened_sealed_iff, size, aead.overhead_le,
    true_and]

theorem seal_eq_ok :
    (kms.service aead).seal draws plaintext aad = .ok envelope ↔
      plaintext ≠ [] ∧ aad ≠ [] ∧ ∃ dataKey nonce keyNonce, draws.dataKey = .ok dataKey ∧
        draws.nonce = .ok nonce ∧ draws.keyNonce = .ok keyNonce ∧
        kms.sealed aead plaintext aad dataKey.val nonce.val keyNonce.val = envelope := by
  simp only [Service.seal, DevKMS.service, bind_eq_ok, ensure_eq_ok, mapError_eq_ok, pure_eq_ok,
    exists_const, wrapKey_eq_ok]
  constructor
  · rintro ⟨text, context, dataKey, key, _, -, nonce, drawn, _, ⟨keyNonce, second, rfl⟩, rfl⟩
    exact ⟨text, context, dataKey, nonce, keyNonce, key, drawn, second, rfl⟩
  · rintro ⟨text, context, dataKey, nonce, keyNonce, key, drawn, second, rfl⟩
    exact ⟨text, context, dataKey, key, (), newCipher_of_length dataKey.2, nonce, drawn, _,
      ⟨keyNonce, second, rfl⟩, rfl⟩

/-- An envelope opens under what it was sealed under, to what was sealed. -/
theorem opened_sealed_iff {nonce keyNonce other : Bytes} (key : dataKey.length = dataKeyBytes)
    (first : nonce.length = aead.nonceSize) (second : keyNonce.length = aead.nonceSize) :
    (kms.service aead).opened (kms.sealed aead plaintext aad dataKey nonce keyNonce) other =
        .ok found ↔ other = aad ∧ found = plaintext := by
  simp only [Service.opened, bind_eq_ok, orError_eq_ok, ensure_eq_ok, mapError_eq_ok]
  constructor
  · rintro ⟨unwrapper, same, _, -, unwrapped, success, _, -, _, -, opened⟩
    obtain rfl := Option.some.inj same
    obtain ⟨rfl, rfl⟩ := (unwrapKey_sealed_iff second).mp success
    exact (aead.opened_sealed_iff _ _ _ _ _ _).mp opened
  · rintro ⟨rfl, rfl⟩
    exact ⟨_, rfl, (), rfl, dataKey, (unwrapKey_sealed_iff second).mpr ⟨rfl, rfl⟩, (),
      newCipher_of_length key, (), ⟨first, aead.overhead_le _ _ _ _⟩, aead.opened_sealed _ _ _ _⟩

theorem sealed_opens_iff {context other : EncryptionContext}
    (success : (kms.service aead).seal draws plaintext context.aad = .ok envelope) :
    (kms.service aead).opened envelope other.aad = .ok found ↔
      other = context ∧ found = plaintext := by
  obtain ⟨-, present, dataKey, nonce, keyNonce, -, -, -, rfl⟩ := seal_eq_ok.mp success
  have valid : ValidContext context := by
    by_contra invalid
    exact present (aad_of_invalid invalid)
  rw [opened_sealed_iff dataKey.2 nonce.2 keyNonce.2, aad_inj valid]

end Sealed

/-- An envelope opens in its own place and in no other, whatever the kind of its
secret; without a context there is no envelope. -/
theorem sealed_in_place (aead : Aead) (kms : DevKMS) (context : EncryptionContext) :
    (∀ draws plaintext envelope,
        (kms.service aead).seal draws plaintext context.aad = .ok envelope →
        ∀ other found, (kms.service aead).opened envelope other.aad = .ok found ↔
          other = context ∧ found = plaintext) ∧
      (∀ message, context.contextAAD = .error message → ∀ draws plaintext envelope,
        (kms.service aead).seal draws plaintext context.aad ≠ .ok envelope) ∧
      ∀ raw, context.contextAAD = .ok raw → ∀ plaintext ≠ [], ∀ dataKey nonce keyNonce,
        ∃ envelope, (kms.service aead).seal ⟨.ok dataKey, .ok nonce, .ok keyNonce⟩ plaintext
          context.aad = .ok envelope := by
  refine ⟨?_, ?_, ?_⟩
  · intro draws plaintext envelope success other found
    exact sealed_opens_iff success
  · intro message failed draws plaintext envelope success
    have nothing : context.aad = [] := by
      rw [EncryptionContext.aad, failed]
      rfl
    exact (seal_eq_ok.mp success).2.1 nothing
  · intro raw encoded plaintext present dataKey nonce keyNonce
    have valid := (contextAAD_eq_ok.mp encoded).1
    exact ⟨_, seal_eq_ok.mpr ⟨present, aad_ne_nil valid, dataKey, nonce, keyNonce, rfl, rfl, rfl,
      rfl⟩⟩

def sampleKMS : DevKMS := ⟨"dev-ephemeral", List.replicate 32 7, by decide, by decide⟩

def sampleContext : EncryptionContext := ⟨"installation", "host_1", "cred_1", "ssh_private_key"⟩

/-- The same IDs as a token of a Worker. -/
def sampleToken : EncryptionContext := ⟨"installation", "host_1", "cred_1", "cloudflare_api_token"⟩

theorem sampleContext_sealed :
    ∃ envelope, (sampleKMS.service (.framed 12)).opened envelope sampleContext.aad = .ok [1] ∧
      (sampleKMS.service (.framed 12)).opened envelope sampleToken.aad ≠ .ok [1] := by
  obtain ⟨opens, -, sealable⟩ := sealed_in_place (.framed 12) sampleKMS sampleContext
  obtain ⟨envelope, success⟩ := sealable _
    (contextAAD_eq_ok.mpr ⟨⟨by decide, by decide, by decide, by decide, by decide⟩, rfl⟩) [1]
    (by decide) ⟨List.replicate 32 1, by decide⟩ ⟨List.replicate 12 2, by decide⟩
    ⟨List.replicate 12 3, by decide⟩
  have elsewhere : sampleToken ≠ sampleContext := by decide
  refine ⟨envelope, (opens _ _ _ success _ _).mpr ⟨rfl, rfl⟩, ?_⟩
  intro opened
  exact elsewhere ((opens _ _ _ success _ _).mp opened).1

end VpsManager.Control
