import VpsManager.Control.Envelope
import VpsManager.Go.JsonStream
import VpsManager.Go.Size

namespace VpsManager.Control

open Go Checks

def keyContextFields : List (Json.Field KeyContext) :=
  [.of "installation_id" (·.installationID) (fun c text => { c with installationID := text })
      Json.decodeString,
    .of "credential_id" (·.credentialID) (fun c text => { c with credentialID := text })
      Json.decodeString,
    .of "version" (·.version.toNat) (fun c n => { c with version := UInt64.ofNat n })
      (Json.decodeUint 64),
    .of "credential_type" (·.credentialType) (fun c text => { c with credentialType := text })
      Json.decodeString]

def zeroKeyContext : KeyContext := ⟨"", "", 0, ""⟩

/-- Anything after the first value is not read, so that only the comparison finds it. -/
def validateEncryptionContext (aad : Bytes) : Except String Unit := do
  ensure (aad.length ≠ 0 ∧ aad.length ≤ 1024) "encryption context is invalid"
  let contextValue ← orError (Json.decodeNext true keyContextFields zeroKeyContext aad)
    "encryption context is invalid"
  let canonical ← contextValue.aad.mapError fun _ => "encryption context is not canonical"
  ensure (canonical = aad) "encryption context is not canonical"

structure KeyContext.Valid (context : KeyContext) : Prop where
  installationID : contextIDPattern context.installationID = true
  credentialID : contextIDPattern context.credentialID = true
  version : context.version ≠ 0
  credentialType : credentialPattern context.credentialType = true

theorem keyContext_aad_eq_ok {context : KeyContext} {aad : Bytes} :
    context.aad = .ok aad ↔ context.Valid ∧ bytes context.json.encode = aad := by
  simp only [KeyContext.aad, bind_eq_ok, ensure_eq_ok, pure_eq_ok, exists_const]
  constructor
  · rintro ⟨⟨installation, credential, version, named⟩, written⟩
    exact ⟨⟨installation, credential, version, named⟩, written⟩
  · rintro ⟨valid, written⟩
    exact ⟨⟨valid.installationID, valid.credentialID, valid.version, valid.credentialType⟩, written⟩

/-- Decoding gives back the context that was encoded. -/
theorem decodeNext_keyContext (context : KeyContext) :
    Json.decodeNext true keyContextFields zeroKeyContext (bytes context.json.encode) =
      some context := by
  have written : Json.Written Json.maxNestingDepth context.json := by
    refine ⟨by decide, trivial, trivial, Json.written_nat _ _, trivial, trivial⟩
  have version : Json.parseUint 64 (toString context.version.toNat) = some context.version.toNat :=
    Json.parseUint_toString context.version.toNat_lt
  calc
    _ = Json.decodeFields true keyContextFields _ zeroKeyContext := Json.decodeNext_encode written
    _ = _ := Json.decodeFields_read _ rfl rfl
    _ = _ := Json.decodeFields_read _ rfl rfl
    _ = _ := Json.decodeFields_read _ rfl version
    _ = _ := Json.decodeFields_read _ rfl rfl
    _ = some context := by simp [Json.decodeFields]

theorem contextChar_unescaped {c : Char} (listed : contextChar c = true) : Json.Unescaped c := by
  simp only [contextChar, Bool.or_eq_true, beq_iff_eq, or_assoc] at listed
  rcases listed with alnum | rfl | rfl | rfl | rfl
  · exact Json.unescaped_of_alnum alnum
  all_goals
    unfold Json.Unescaped
    decide

theorem escapedLen_contextID {text : String} (identifier : contextIDPattern text = true) :
    Json.escapedLen text ≤ 128 := by
  have chars := chars_of_anchored identifier fun c alnum => by simp [contextChar, alnum]
  have length := length_of_anchored identifier
  rw [Json.escapedLen_of_unescaped fun c inside => contextChar_unescaped (chars c inside)]
  exact length.2

theorem escapedLen_credentialType {text : String} (named : credentialPattern text = true) :
    Json.escapedLen text ≤ 64 := by
  have chars := chars_of_anchored named fun c lower => by simp [lower]
  have length := length_of_anchored named
  rw [Json.escapedLen_of_unescaped]
  · exact length.2
  · intro c inside
    have listed := chars c inside
    simp only [Bool.or_eq_true, beq_iff_eq] at listed
    rcases listed with (lower | digit) | rfl
    · exact Json.unescaped_of_alnum (by simp [isAlnumASCII, lower])
    · exact Json.unescaped_of_alnum (by simp [isAlnumASCII, digit])
    · exact contextChar_unescaped (by decide)

theorem length_keyContext_le {context : KeyContext} (valid : context.Valid) :
    (bytes context.json.encode).length ≤ 1024 := by
  have installation := escapedLen_contextID valid.installationID
  have credential := escapedLen_contextID valid.credentialID
  have named := escapedLen_credentialType valid.credentialType
  have version : len (toString context.version.toNat) ≤ 20 :=
    Json.len_toString_nat_le _ 20 (by decide) (context.version.toNat_lt.trans (by decide))
  have names : Json.escapedLen "installation_id" = 15 ∧ Json.escapedLen "credential_id" = 13 ∧
      Json.escapedLen "version" = 7 ∧ Json.escapedLen "credential_type" = 15 := by decide +kernel
  obtain ⟨first, second, third, fourth⟩ := names
  have members : context.json = .object [("installation_id", .string context.installationID),
      ("credential_id", .string context.credentialID),
      ("version", .number (toString context.version.toNat)),
      ("credential_type", .string context.credentialType)] := rfl
  rw [length_bytes, Json.len_encode, members]
  simp only [Json.size, Json.sizeMembers, first, second, third, fourth]
  omega

/-- The key manager accepts the encodings of the valid contexts and nothing else, and each is
the encoding of one context. -/
theorem key_manager_accepts_canonical (aad : Bytes) :
    (validateEncryptionContext aad = .ok () ↔ ∃ context : KeyContext, context.aad = .ok aad) ∧
      (∀ context other : KeyContext, context.aad = .ok aad → other.aad = .ok aad →
        context = other) ∧
      (∀ context : KeyContext, context.aad = .ok aad → aad.length ≤ 1024) := by
  refine ⟨⟨?_, ?_⟩, ?_, ?_⟩
  · intro accepted
    simp only [validateEncryptionContext, bind_eq_ok, ensure_eq_ok, orError_eq_ok,
      mapError_eq_ok] at accepted
    obtain ⟨_, -, context, -, canonical, encoded, rfl⟩ := accepted
    exact ⟨context, encoded⟩
  · rintro ⟨context, encoded⟩
    obtain ⟨valid, rfl⟩ := keyContext_aad_eq_ok.mp encoded
    have short := length_keyContext_le valid
    have filled : (bytes context.json.encode).length ≠ 0 := by
      rw [length_bytes, Json.len_encode]
      exact Nat.succ_ne_zero _
    simp only [validateEncryptionContext, bind_eq_ok, ensure_eq_ok, orError_eq_ok,
      mapError_eq_ok]
    exact ⟨(), ⟨filled, short⟩, context, decodeNext_keyContext context, _, encoded, rfl⟩
  · intro context other first second
    obtain ⟨-, rfl⟩ := keyContext_aad_eq_ok.mp first
    obtain ⟨-, same⟩ := keyContext_aad_eq_ok.mp second
    have read := decodeNext_keyContext other
    rw [same, decodeNext_keyContext context] at read
    exact Option.some.inj read
  · intro context encoded
    obtain ⟨valid, rfl⟩ := keyContext_aad_eq_ok.mp encoded
    exact length_keyContext_le valid

def sampleKeyContext : KeyContext := ⟨"default", "host_1:cred_2", 1, "ssh_key"⟩

/-- A context is accepted as it is encoded. -/
theorem sample_context_accepted :
    (∃ aad, sampleKeyContext.aad = .ok aad) ∧
      validateEncryptionContext (bytes sampleKeyContext.json.encode) = .ok () := by
  have encoded : sampleKeyContext.aad = .ok (bytes sampleKeyContext.json.encode) :=
    keyContext_aad_eq_ok.mpr ⟨⟨by decide, by decide, by decide, by decide⟩, rfl⟩
  exact ⟨⟨_, encoded⟩, (key_manager_accepts_canonical _).1.mpr ⟨_, encoded⟩⟩

end VpsManager.Control
