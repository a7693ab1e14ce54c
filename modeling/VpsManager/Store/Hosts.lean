import VpsManager.Control.HostKeys
import VpsManager.Persistence.Schema
import VpsManager.Persistence.Types

namespace VpsManager.Store

open Go Control Persistence Checks Sql

/-- The text `time.Time` has in JSON. -/
structure TimeText where
  text : Int → String
  printable : ∀ t, nulFree (text t) = true

def hostToAsset (installation : InstallationID) (host : Host) : Asset where
  installationID := installation.val
  id := host.id
  name := host.name
  address := host.address
  port := host.port
  username := host.username
  labels := host.labels
  hostKey := host.hostKey.map fun pin =>
    ⟨pin.algorithm, pin.fingerprintSHA256, pin.publicKey, pin.confirmedAt, pin.confirmedBy⟩
  version := host.version
  createdAt := host.createdAt
  updatedAt := host.updatedAt

/-- `json.Marshal` of the labels; a nil map is `null`. -/
def labelsJson (labels : Option (StringMap String)) : Json := (labels.map Json.ofMap).getD .null

/-- `json.Marshal` of a pin. -/
def pinJson (times : TimeText) (pin : Persistence.HostKeyPin) : Json :=
  .object [("algorithm", .string pin.algorithm),
    ("fingerprintSha256", .string pin.fingerprintSHA256),
    ("publicKey", .string pin.publicKey),
    ("confirmedAt", .string (times.text pin.confirmedAt)),
    ("confirmedBy", .string pin.confirmedBy)]

/-- The row `CreateAsset` inserts, if its values can be sent. -/
def assetRow (times : TimeText) (asset : Asset) : Option AssetRow := do
  let installationID ← sqlText asset.installationID
  let id ← sqlText asset.id
  let name ← sqlText asset.name
  let address ← sqlText asset.address
  let username ← sqlText asset.username
  let labels ← jsonb (labelsJson asset.labels)
  let hostKey ← asset.hostKey.mapM fun pin => jsonb (pinJson times pin)
  let version ← bigint asset.version
  return {
    installationID := installationID
    id := id
    name := name
    address := address
    port := asset.port
    username := username
    labels := labels
    hostKey := hostKey
    version := version
    createdAt := timestamptz asset.createdAt
    updatedAt := timestamptz asset.updatedAt }

/-- What the database asks of the values before it looks at a constraint. -/
structure Sendable (times : TimeText) (asset : Asset) : Prop where
  installationID : nulFree asset.installationID = true
  id : nulFree asset.id = true
  name : nulFree asset.name = true
  address : nulFree asset.address = true
  username : nulFree asset.username = true
  labels : (labelsJson asset.labels).allStrings nulFree = true
  hostKey : ∀ pin, asset.hostKey = some pin → (pinJson times pin).allStrings nulFree = true
  version : asset.version.toNat < 2 ^ 63

def assetColumns (times : TimeText) (asset : Asset) : AssetRow where
  installationID := asset.installationID
  id := asset.id
  name := asset.name
  address := asset.address
  port := asset.port
  username := asset.username
  labels := labelsJson asset.labels
  hostKey := asset.hostKey.map (pinJson times)
  version := asset.version.toNat
  createdAt := timestamptz asset.createdAt
  updatedAt := timestamptz asset.updatedAt

theorem mapM_jsonb_eq_some {α : Type} (encode : α → Json) (value : Option α)
    (sent : Option Json) :
    value.mapM (fun a => jsonb (encode a)) = some sent ↔
      (∀ a, value = some a → (encode a).allStrings nulFree = true) ∧ value.map encode = sent := by
  cases value with
  | none => simp
  | some a =>
    by_cases clean : (encode a).allStrings nulFree = true
    · simp [jsonb, clean]
    · simp [jsonb, clean]

theorem assetRow_eq_some {times : TimeText} {asset : Asset} {row : AssetRow} :
    assetRow times asset = some row ↔ Sendable times asset ∧ assetColumns times asset = row := by
  simp only [assetRow, bind, Option.bind_eq_some_iff, sqlText_eq_some, jsonb_eq_some,
    bigint_eq_some, mapM_jsonb_eq_some, pure, Option.some.injEq]
  constructor
  · rintro ⟨_, ⟨installationID, rfl⟩, _, ⟨id, rfl⟩, _, ⟨name, rfl⟩, _, ⟨address, rfl⟩, _,
      ⟨username, rfl⟩, _, ⟨labels, rfl⟩, _, ⟨hostKey, rfl⟩, _, ⟨version, rfl⟩, rfl⟩
    exact ⟨⟨installationID, id, name, address, username, labels, hostKey, version⟩, rfl⟩
  · rintro ⟨⟨installationID, id, name, address, username, labels, hostKey, version⟩, rfl⟩
    exact ⟨_, ⟨installationID, rfl⟩, _, ⟨id, rfl⟩, _, ⟨name, rfl⟩, _, ⟨address, rfl⟩, _,
      ⟨username, rfl⟩, _, ⟨labels, rfl⟩, _, ⟨hostKey, rfl⟩, _, ⟨version, rfl⟩, rfl⟩

/-- The row `UpdateAsset` leaves, which keeps its key and its time of creation. -/
def updatedAssetRow (times : TimeText) (row : AssetRow) (asset : Asset) : Option AssetRow :=
  (assetRow times asset).map fun sent =>
    { sent with installationID := row.installationID, id := row.id, createdAt := row.createdAt }

/-- A host the handlers accept, with the row sent for it. An edit reads a host that
has a row and names its version; no clock goes back. -/
inductive Accepted (server : Server) (times : TimeText) (installation : InstallationID) :
    Host → Option AssetRow → Prop
  | created {principal : Principal} {body : Except String CreateHostRequest} {raw : Bytes}
      {now : Int} {host : Host} (drawn : raw.length = 16)
      (ready : prepareCreate server principal body raw now = .ok host) :
      Accepted server times installation host (assetRow times (hostToAsset installation host))
  | edited {principal : Principal} {edit : HostEdit} {now : Int} {host written : Host}
      {row : AssetRow} (earlier : Accepted server times installation host (some row))
      (ready : edit.prepare server principal host now = .ok (written, host.version))
      (forward : host.updatedAt ≤ now) :
      Accepted server times installation written
        (updatedAssetRow times row (hostToAsset installation written))

variable {text : String} {c : Char} {raw : Bytes} {server : Server} {principal : Principal}
  {now : Int} {host written : Host} {edit : HostEdit} {expected : UInt64}

theorem trimSpace_ne_empty (member : c ∈ text.toList) (kept : isSpace c = false) :
    trimSpace text ≠ "" := by
  intro empty
  have stays := mem_trimSpace member kept
  rw [empty] at stays
  cases stays

theorem nulFree_of_containsAny {chars : String} (clean : containsAny text chars = false)
    (listed : chars.toList.contains '\x00' = true) : nulFree text = true := by
  refine nulFree_of_forall ?_
  intro c member
  have unlisted := List.any_eq_false.mp clean c member
  refine Nat.pos_of_ne_zero ?_
  intro zero
  obtain rfl : c = '\x00' := Char.toNat_inj.mp zero
  exact unlisted listed

/-- Normalising takes only spaces and brackets away. -/
theorem mem_normalizeAddress (member : c ∈ text.toList) (kept : isSpace c = false)
    (opening : c ≠ '[') (closing : c ≠ ']') : lowerChar c ∈ (normalizeAddress text).toList := by
  have inside := mem_trimSpace member kept
  have unbracketed : ∀ value : String, c ∈ value.toList →
      hasPrefix value "[" && hasSuffix value "]" → c ∈ (value.toList.drop 1).dropLast := by
    intro value member bracketed
    simp only [hasPrefix, hasSuffix, Bool.and_eq_true, List.isPrefixOf_iff_prefix,
      List.isSuffixOf_iff_suffix] at bracketed
    obtain ⟨⟨rest, front⟩, ⟨lead, back⟩⟩ := bracketed
    change '[' :: rest = value.toList at front
    change lead ++ [']'] = value.toList at back
    cases lead with
    | nil => rw [← front] at back; simp at back
    | cons d lead =>
      rw [← back] at member ⊢
      rw [← front] at back
      obtain ⟨rfl, -⟩ := List.cons.inj back
      simp only [List.cons_append, List.mem_cons, List.mem_append, List.not_mem_nil,
        or_false] at member
      rcases member with rfl | member | rfl
      · exact absurd rfl opening
      · simpa using member
      · exact absurd rfl closing
  unfold normalizeAddress toLower
  rw [String.toList_ofList]
  refine List.mem_map_of_mem ?_
  split
  · rename_i bracketed
    rw [String.toList_ofList]
    exact unbracketed _ inside bracketed
  · exact inside

theorem normalizeAddress_trimSpace (text : String) :
    normalizeAddress (trimSpace text) = normalizeAddress text := by
  rw [normalizeAddress, normalizeAddress, trimSpace_trimSpace]

theorem validAddress_parts (valid : validAddress text = true) :
    normalizeAddress text ≠ "" ∧ len (normalizeAddress text) ≤ 253 ∧
      nulFree (normalizeAddress text) = true ∧
      ((parseIP (normalizeAddress text)).isSome = true ∨
        dnsPattern (normalizeAddress text) = true) := by
  unfold validAddress at valid
  dsimp only at valid
  split at valid
  · cases valid
  · rename_i proper
    simp only [Bool.or_eq_true, decide_eq_true_eq, not_or, not_lt, Bool.not_eq_true] at proper
    obtain ⟨⟨nonempty, short⟩, clean⟩ := proper
    refine ⟨?_, short, ?_, by simpa using valid⟩
    · intro empty
      rw [empty] at nonempty
      exact nonempty rfl
    · exact nulFree_of_containsAny clean (by decide)

theorem isDNSAlnum_not_space (alnum : isDNSAlnum c = true) : isSpace c = false := by
  simp only [isDNSAlnum, Bool.or_eq_true, beq_iff_eq] at alnum
  rcases alnum with (ascii | long) | kelvin
  · have range := isAlnumASCII_range ascii
    simp only [isSpace, Bool.or_eq_false_iff, Bool.and_eq_false_iff, beq_eq_false_iff_ne,
      decide_eq_false_iff_not]
    omega
  · simp [isSpace, long]
  · simp [isSpace, kelvin]

/-- An address that parses is not made of spaces alone. -/
theorem trimSpace_of_parsed (parsed : (parseIP text).isSome = true ∨ dnsPattern text = true) :
    trimSpace text ≠ "" := by
  intro empty
  have spaces : ∀ c ∈ text.toList, isSpace c = true := by
    intro c member
    by_contra kept
    exact trimSpace_ne_empty member (Bool.not_eq_true _ ▸ kept) empty
  rcases parsed with address | name
  · -- the parser of addresses first looks for one of three characters
    unfold parseIP parseAddr at address
    cases found : text.toList.find? fun c => c == '.' || c == ':' || c == '%' with
    | none => rw [found] at address; cases address
    | some c =>
      have space := spaces c (List.mem_of_find?_eq_some found)
      have which := List.find?_some found
      simp only [Bool.or_eq_true, beq_iff_eq] at which
      rcases which with (rfl | rfl) | rfl <;> cases space
  · -- without a dot the text is one label, which begins with a letter or digit
    have undotted : '.' ∉ text.toList := fun member => absurd (spaces _ member) (by decide)
    rw [dnsPattern, split_of_absent text '.' undotted] at name
    simp only [List.all_cons, List.all_nil, Bool.and_true, isDNSLabel, Bool.and_eq_true] at name
    obtain ⟨⟨⟨-, first⟩, -⟩, -⟩ := name
    cases head : text.toList.head? with
    | none => rw [head] at first; cases first
    | some c =>
      rw [head] at first
      have space := spaces c (List.mem_of_head? head)
      rw [isDNSAlnum_not_space first] at space
      cases space

theorem address_of_revalidated (valid : validAddress (trimSpace text) = true) :
    trimSpace text ≠ "" ∧ nulFree text = true := by
  obtain ⟨nonempty, -, clean, -⟩ := validAddress_parts valid
  constructor
  · intro empty
    rw [empty] at nonempty
    exact nonempty rfl
  · refine nulFree_of_forall ?_
    intro c member
    refine Nat.pos_of_ne_zero ?_
    intro zero
    obtain rfl : c = '\x00' := Char.toNat_inj.mp zero
    have inside := mem_normalizeAddress member (by decide) (by decide) (by decide)
    rw [← normalizeAddress_trimSpace] at inside
    simp only [nulFree, Bool.not_eq_true', List.contains_eq_mem, decide_eq_false_iff_not] at clean
    exact clean inside

theorem address_of_validated (valid : validAddress (trimSpace text) = true) :
    trimSpace (normalizeAddress text) ≠ "" ∧ nulFree (normalizeAddress text) = true := by
  obtain ⟨-, -, clean, parsed⟩ := validAddress_parts valid
  rw [normalizeAddress_trimSpace] at clean parsed
  exact ⟨trimSpace_of_parsed parsed, clean⟩

theorem isUsernameChar_range (class' : isUsernameChar c = true) : 45 ≤ c.toNat ∧ c.toNat ≤ 122 := by
  refine isIdentifierChar_range ?_
  simp only [isUsernameChar, Bool.or_eq_true, beq_iff_eq] at class'
  simp only [isIdentifierChar, Bool.or_eq_true, beq_iff_eq]
  tauto

theorem usernamePattern_eq (text : String) :
    usernamePattern text = anchored (fun c => isLowerASCII c || isUpperASCII c || c == '_')
      isUsernameChar 63 text := rfl

theorem labelKeyPattern_eq (text : String) :
    labelKeyPattern text = anchored isAlnumASCII isUsernameChar 62 text := rfl

theorem username_range (username : usernamePattern text = true) :
    ∀ c ∈ text.toList, 45 ≤ c.toNat ∧ c.toNat ≤ 122 := by
  intro c member
  refine isUsernameChar_range (chars_of_anchored (usernamePattern_eq text ▸ username) ?_ c member)
  intro d lead
  simp only [Bool.or_eq_true, beq_iff_eq] at lead
  simp only [isUsernameChar, isAlnumASCII, Bool.or_eq_true, beq_iff_eq]
  tauto

theorem labelKey_range (key : labelKeyPattern text = true) :
    ∀ c ∈ text.toList, 45 ≤ c.toNat ∧ c.toNat ≤ 122 := by
  intro c member
  refine isUsernameChar_range (chars_of_anchored (labelKeyPattern_eq text ▸ key) ?_ c member)
  intro d alnum
  simp [isUsernameChar, alnum]

/-- In a text of such characters nothing is trimmed and a character is a byte. -/
theorem plain_of_range (range : ∀ c ∈ text.toList, 45 ≤ c.toNat ∧ c.toNat ≤ 122) :
    nulFree text = true ∧ len text = text.length ∧ trimSpace text = text := by
  refine ⟨nulFree_of_forall ?_, len_of_ascii text ?_, trimSpace_of_none text ?_⟩
  · intro c member
    have bounds := range c member
    omega
  · intro c member
    have bounds := range c member
    omega
  · intro c member
    have bounds := range c member
    exact (printable_of_range (by omega)).1

/-- The identifiers the control plane draws are identifiers of the database. -/
theorem identifierPattern_newID {kind : String} (identifier : identifierPattern kind = true)
    (short : kind.length ≤ 100) (drawn : raw.length = 16) :
    identifierPattern (newID kind raw) = true := by
  obtain ⟨c, chars, shape, first, -, rest⟩ := anchored_iff.mp identifier
  have encoded : (rawURLEncode raw).toList.length = 22 := by
    rw [rawURLEncode, String.toList_ofList, List.length_map, length_sextets, drawn]
  have kindLength : chars.length + 1 = kind.length := by
    rw [← String.length_toList, shape, List.length_cons]
  refine anchored_iff.mpr ⟨c, chars ++ '_' :: (rawURLEncode raw).toList, ?_, first, ?_, ?_⟩
  · simp [newID, String.toList_append, shape]
  · rw [List.length_append, List.length_cons, encoded]
    omega
  · intro d member
    simp only [List.mem_append, List.mem_cons] at member
    rcases member with inKind | rfl | inRandom
    · exact rest d inKind
    · rfl
    · rcases rawURLEncode_chars raw d inRandom with alnum | rfl | rfl
      · simp [isIdentifierChar, alnum]
      · rfl
      · rfl

structure UsableHost (host : Host) : Prop where
  id : identifierPattern host.id = true
  address : trimSpace host.address ≠ "" ∧ nulFree host.address = true
  port : 1 ≤ host.port ∧ host.port ≤ 65535
  username : usernamePattern host.username = true

theorem UsableHost.created {body : Except String CreateHostRequest} (drawn : raw.length = 16)
    (ready : prepareCreate server principal body raw now = .ok host) : UsableHost host := by
  simp only [prepareCreate, bind_eq_ok, ensure_eq_ok, mapError_eq_ok, pure_eq_ok] at ready
  obtain ⟨_, -, input, -, _, valid, rfl⟩ := ready
  obtain ⟨-, reached, -, port, user, -⟩ := validateHost_eq_ok.mp valid
  exact {
    id := identifierPattern_newID (by decide) (by decide) drawn
    address := address_of_validated reached
    port := port
    username := user }

theorem UsableHost.edited (usable : UsableHost host)
    (ready : edit.prepare server principal host now = .ok (written, expected)) :
    UsableHost written := by
  cases edit with
  | pinHostKey body =>
    obtain ⟨input, key, -, -, -, -, rfl, -⟩ := preparePin_ok ready
    exact { usable with }
  | updateHost body =>
    obtain ⟨input, -, -, valid, rfl, -⟩ := prepareUpdate_eq_ok.mp ready
    obtain ⟨-, reached, -, port, user, -⟩ := validateHost_eq_ok.mp valid
    -- a user that the request leaves out was trimmed before
    have trimmedUser : trimSpace (input.patch host).username = (input.patch host).username := by
      unfold UpdateHostRequest.patch
      cases input.username with
      | none => exact (plain_of_range (username_range usable.username)).2.2
      | some username => exact trimSpace_trimSpace username
    exact {
      id := usable.id
      address := address_of_revalidated reached
      port := port
      username := trimmedUser ▸ user }

structure SoundHost (host : Host) : Prop where
  id : identifierPattern host.id = true
  name : 1 ≤ len host.name ∧ len host.name ≤ 100
  trimmed : trimSpace host.name = host.name
  address : trimSpace host.address ≠ "" ∧ nulFree host.address = true
  port : 1 ≤ host.port ∧ host.port ≤ 65535
  username : usernamePattern host.username = true
  labels : ∀ present, host.labels = some present →
    ∀ entry ∈ present.entries, validLabel entry.1 entry.2 = true
  times : host.createdAt ≤ host.updatedAt

theorem SoundHost.usable (sound : SoundHost host) : UsableHost host :=
  ⟨sound.id, sound.address, sound.port, sound.username⟩

theorem SoundHost.created {body : Except String CreateHostRequest} (drawn : raw.length = 16)
    (ready : prepareCreate server principal body raw now = .ok host) : SoundHost host := by
  have usable := UsableHost.created drawn ready
  simp only [prepareCreate, bind_eq_ok, ensure_eq_ok, mapError_eq_ok, pure_eq_ok] at ready
  obtain ⟨_, -, input, -, _, valid, rfl⟩ := ready
  obtain ⟨named, -, -, -, -, labelled⟩ := validateHost_eq_ok.mp valid
  exact { usable with
    name := named
    trimmed := trimSpace_trimSpace input.name
    labels := fun present same => (labelled present same).2
    times := Int.le_refl now }

/-- An edit keeps what is true of a host, whenever its clock has not gone back before
the host was created. -/
theorem SoundHost.rewritten (sound : SoundHost host)
    (ready : edit.prepare server principal host now = .ok (written, expected))
    (times : host.createdAt ≤ now) : SoundHost written := by
  have usable := sound.usable.edited ready
  cases edit with
  | pinHostKey body =>
    obtain ⟨input, key, -, -, -, -, rfl, -⟩ := preparePin_ok ready
    exact { sound with times := times }
  | updateHost body =>
    obtain ⟨input, -, -, valid, rfl, -⟩ := prepareUpdate_eq_ok.mp ready
    obtain ⟨named, -, -, -, -, labelled⟩ := validateHost_eq_ok.mp valid
    -- a name that the request leaves out was trimmed before
    have trimmed : trimSpace (input.patch host).name = (input.patch host).name := by
      unfold UpdateHostRequest.patch
      cases input.name with
      | none => exact sound.trimmed
      | some name => exact trimSpace_trimSpace name
    exact { usable with
      name := trimmed ▸ named
      trimmed := trimmed
      labels := fun present same => (labelled present same).2
      times := times }

theorem SoundHost.edited (sound : SoundHost host)
    (ready : edit.prepare server principal host now = .ok (written, expected))
    (forward : host.updatedAt ≤ now) : SoundHost written :=
  sound.rewritten ready (le_trans sound.times forward)

section Accepted

variable {times : TimeText} {installation : InstallationID} {row : Option AssetRow}

theorem Accepted.sound (accepted : Accepted server times installation host row) :
    SoundHost host := by
  induction accepted with
  | created drawn ready => exact .created drawn ready
  | edited _ ready forward sound => exact sound.edited ready forward

/-- An update leaves the row that inserting the host as it is now would give. -/
theorem Accepted.row_eq (accepted : Accepted server times installation host row) :
    row = assetRow times (hostToAsset installation host) := by
  induction accepted with
  | created drawn ready => rfl
  | @edited principal edit now host written row earlier ready forward same =>
    obtain ⟨-, rfl⟩ := assetRow_eq_some.mp same.symm
    have id : written.id = host.id := (HostEdit.prepare_ok ready).id
    have createdAt : written.createdAt = host.createdAt := HostEdit.prepare_createdAt ready
    rw [updatedAssetRow]
    cases sent : assetRow times (hostToAsset installation written) with
    | none => rfl
    | some columns =>
      obtain ⟨-, rfl⟩ := assetRow_eq_some.mp sent
      simp only [Option.map_some, assetColumns, hostToAsset, id, createdAt]

end Accepted

/-- What the asset and its row ask for beyond what is true of every accepted host. -/
structure StorableHost (host : Host) : Prop where
  /-- The labels are present, and none is named like a secret. -/
  labels : ∃ present, host.labels = some present ∧
    ∀ entry ∈ present.entries, isSecretField entry.1 = false
  name : nulFree host.name = true
  address : len host.address ≤ 255
  hostKey : ∀ pin, host.hostKey = some pin →
    nulFree pin.algorithm = true ∧ nulFree pin.fingerprintSHA256 = true ∧
      nulFree pin.publicKey = true ∧ nulFree pin.confirmedBy = true
  version : host.version.toNat < 2 ^ 63

section Storable

variable {installation : InstallationID} {times : TimeText}

theorem validAssetLabel_iff {key value : String} (valid : validLabel key value = true) :
    validAssetLabel key value = true ↔ isSecretField key = false := by
  simp only [validLabel, Bool.and_eq_true, decide_eq_true_eq] at valid
  obtain ⟨⟨pattern, short⟩, -⟩ := valid
  have length := length_of_anchored (labelKeyPattern_eq key ▸ pattern)
  have bytes := (plain_of_range (labelKey_range pattern)).2.1
  simp only [validAssetLabel, Bool.not_eq_true', Bool.or_eq_false_iff, beq_eq_false_iff_ne,
    decide_eq_false_iff_not]
  constructor
  · rintro ⟨-, notSecret⟩
    exact notSecret
  · intro notSecret
    refine ⟨⟨⟨?_, ?_⟩, ?_⟩, notSecret⟩ <;> omega

/-- The application's own check. -/
theorem validateAsset_iff (sound : SoundHost host) :
    validateAsset (hostToAsset installation host) = .ok () ↔
      len host.address ≤ 255 ∧ ∀ present, host.labels = some present →
        ∀ entry ∈ present.entries, isSecretField entry.1 = false := by
  obtain ⟨-, userBytes, userTrimmed⟩ := plain_of_range (username_range sound.username)
  have userLength := length_of_anchored (usernamePattern_eq host.username ▸ sound.username)
  have name : ¬ (trimSpace host.name = "" ∨ 200 < len host.name) := by
    have bounds := sound.name
    rw [sound.trimmed]
    rintro (empty | long)
    · rw [empty] at bounds
      exact absurd bounds.1 (by decide)
    · omega
  have username : ¬ (trimSpace host.username = "" ∨ 128 < len host.username) := by
    rw [userTrimmed, userBytes]
    rintro (empty | long)
    · rw [empty] at userLength
      exact absurd userLength.1 (by decide)
    · omega
  have port : ¬ (host.port < 1 ∨ 65535 < host.port) := by
    have bounds := sound.port
    omega
  have labels : ∀ present, host.labels = some present →
      ((∀ entry ∈ present.entries, validAssetLabel entry.1 entry.2 = true) ↔
        ∀ entry ∈ present.entries, isSecretField entry.1 = false) := by
    intro present same
    refine forall₂_congr ?_
    intro entry member
    exact validAssetLabel_iff (sound.labels present same entry member)
  simp only [validateAsset, validateIdentifier, hostToAsset, bind_eq_ok, ensure_eq_ok,
    installation.property, sound.id, name, sound.address.1, port, username, not_false_eq_true,
    false_or, not_lt, exists_const, true_and]
  cases labelled : host.labels with
  | none => simp
  | some present => simpa using fun _ => labels present labelled

theorem pinJson_nulFree_iff (times : TimeText) (pin : Persistence.HostKeyPin) :
    (pinJson times pin).allStrings nulFree = true ↔
      nulFree pin.algorithm = true ∧ nulFree pin.fingerprintSHA256 = true ∧
        nulFree pin.publicKey = true ∧ nulFree pin.confirmedBy = true := by
  have names : nulFree "algorithm" = true ∧ nulFree "fingerprintSha256" = true ∧
      nulFree "publicKey" = true ∧ nulFree "confirmedAt" = true ∧ nulFree "confirmedBy" = true := by
    decide
  simp [pinJson, Json.allStrings, Json.allMembers, names, times.printable]

theorem sendable_iff (sound : SoundHost host) :
    Sendable times (hostToAsset installation host) ↔
      nulFree host.name = true ∧
      (∀ pin, host.hostKey = some pin →
        nulFree pin.algorithm = true ∧ nulFree pin.fingerprintSHA256 = true ∧
          nulFree pin.publicKey = true ∧ nulFree pin.confirmedBy = true) ∧
      host.version.toNat < 2 ^ 63 := by
  have labels : (labelsJson host.labels).allStrings nulFree = true := by
    cases labelled : host.labels with
    | none => rfl
    | some present =>
      refine (Json.allStrings_ofMap nulFree present).mpr ?_
      intro entry member
      have valid := sound.labels present labelled entry member
      simp only [validLabel, Bool.and_eq_true, Bool.not_eq_true'] at valid
      obtain ⟨⟨key, -⟩, clean⟩ := valid
      exact ⟨(plain_of_range (labelKey_range key)).1, nulFree_of_containsAny clean (by decide)⟩
  constructor
  · intro sendable
    refine ⟨sendable.name, ?_, sendable.version⟩
    intro pin pinned
    exact (pinJson_nulFree_iff times _).mp (sendable.hostKey _ (by rw [hostToAsset, pinned]; rfl))
  · rintro ⟨name, hostKey, version⟩
    refine ⟨(plain_of_range (identifier_range installation.property)).1,
      (plain_of_range (identifier_range sound.id)).1, name, sound.address.2,
      (plain_of_range (username_range sound.username)).1, labels, ?_, version⟩
    intro pin pinned
    obtain ⟨original, same, rfl⟩ := Option.map_eq_some_iff.mp pinned
    exact (pinJson_nulFree_iff times _).mpr (hostKey original same)

theorem assetColumns_satisfies_iff (sound : SoundHost host) (short : len host.address ≤ 255) :
    Satisfies assetsChecks (assetColumns times (hostToAsset installation host)) ↔
      ∃ present, host.labels = some present := by
  have nameLength := length_le_len host.name
  have addressLength := length_le_len host.address
  have userLength := length_of_anchored (usernamePattern_eq host.username ▸ sound.username)
  have name : 1 ≤ host.name.length ∧ host.name.length ≤ 200 := by
    have bounds := sound.name
    have nonempty : host.name.length ≠ 0 := by
      intro zero
      rw [String.length_eq_zero_iff.mp zero] at bounds
      exact absurd bounds.1 (by decide)
    omega
  have address : 1 ≤ host.address.length ∧ host.address.length ≤ 255 := by
    have nonempty : host.address.length ≠ 0 := by
      intro zero
      refine sound.address.1 ?_
      rw [String.length_eq_zero_iff.mp zero]
      rfl
    omega
  have username : 1 ≤ host.username.length ∧ host.username.length ≤ 128 := by omega
  have updated := timestamptz_mono sound.times
  have labelled : (labelsJson host.labels).typeName = "object" ↔
      ∃ present, host.labels = some present := by
    cases host.labels with
    | none => simp [labelsJson, Json.typeName]
    | some present => simp [labelsJson, Json.typeName, Json.ofMap]
  simp only [assetsChecks, satisfies_cons, satisfies_nil, passes_test, lengthBetween_iff,
    assetColumns, hostToAsset, labelled, and_true]
  constructor
  · rintro ⟨-, -, -, -, present, -, -⟩
    exact present
  · intro present
    exact ⟨name, address, sound.port, username, present, Int.natCast_nonneg _, updated⟩

end Storable

/-- An accepted host passes the application's check and has a row that satisfies the
constraints exactly if it is storable. -/
theorem accepted_storable_iff (server : Server) (times : TimeText) (installation : InstallationID)
    (host : Host) (row : Option AssetRow)
    (accepted : Accepted server times installation host row) :
    (validateAsset (hostToAsset installation host) = .ok () ∧
      ∃ columns, row = some columns ∧ Satisfies assetsChecks columns) ↔ StorableHost host := by
  have sound := accepted.sound
  rw [accepted.row_eq, validateAsset_iff sound]
  constructor
  · rintro ⟨⟨short, unnamed⟩, columns, sent, satisfied⟩
    obtain ⟨sendable, rfl⟩ := assetRow_eq_some.mp sent
    obtain ⟨name, hostKey, version⟩ := (sendable_iff sound).mp sendable
    obtain ⟨present, labelled⟩ := (assetColumns_satisfies_iff sound short).mp satisfied
    exact ⟨⟨present, labelled, unnamed present labelled⟩, name, short, hostKey, version⟩
  · intro storable
    obtain ⟨present, labelled, unnamed⟩ := storable.labels
    have sendable : Sendable times (hostToAsset installation host) :=
      (sendable_iff sound).mpr ⟨storable.name, storable.hostKey, storable.version⟩
    refine ⟨⟨storable.address, ?_⟩, _, assetRow_eq_some.mpr ⟨sendable, rfl⟩, ?_⟩
    · intro other same
      rw [labelled] at same
      cases same
      exact unnamed
    · exact (assetColumns_satisfies_iff sound storable.address).mpr ⟨present, labelled⟩

def sampleRequest (labels : Option (StringMap String)) : CreateHostRequest :=
  ⟨"web", "vps.example", 0, "deploy", labels⟩

def requestedHost (labels : Option (StringMap String)) : Host where
  id := newID "host" (List.replicate 16 7)
  name := "web"
  address := "vps.example"
  port := 22
  username := "deploy"
  labels := labels
  hostKey := none
  version := 1
  createdAt := 0
  updatedAt := 0

def plainTimes : TimeText := ⟨fun _ => "1970-01-01T00:00:00Z", fun _ => by decide⟩

theorem installation_identifier : identifierPattern "installation" = true := by
  decide

def sampleInstallation : InstallationID := ⟨"installation", installation_identifier⟩

def teamLabel : StringMap String := Finmap.singleton "team" "web"

theorem requested_accepted (labels : Option (StringMap String))
    (ready : prepareCreate (sampleServer fun _ => []) sampleOperator (.ok (sampleRequest labels))
      (List.replicate 16 7) 0 = .ok (requestedHost labels)) :
    Accepted (sampleServer fun _ => []) plainTimes sampleInstallation (requestedHost labels)
      (assetRow plainTimes (hostToAsset sampleInstallation (requestedHost labels))) :=
  .created rfl ready

theorem unlabelled_refused :
    ¬ ∀ (server : Server) (times : TimeText) (installation : InstallationID) (host : Host)
        (row : Option AssetRow), Accepted server times installation host row →
      validateAsset (hostToAsset installation host) = .ok () ∧
        ∃ columns, row = some columns ∧ Satisfies assetsChecks columns := by
  intro always
  have accepted := requested_accepted none rfl
  obtain ⟨-, columns, sent, satisfied⟩ := always _ _ _ _ _ accepted
  obtain ⟨-, rfl⟩ := assetRow_eq_some.mp sent
  obtain ⟨present, labelled⟩ :=
    (assetColumns_satisfies_iff accepted.sound (by decide)).mp satisfied
  cases labelled

theorem labelled_stored :
    validateAsset (hostToAsset sampleInstallation (requestedHost (some teamLabel))) = .ok () ∧
      ∃ columns, assetRow plainTimes
          (hostToAsset sampleInstallation (requestedHost (some teamLabel))) = some columns ∧
        Satisfies assetsChecks columns := by
  refine (accepted_storable_iff (sampleServer fun _ => []) plainTimes sampleInstallation _ _
    (requested_accepted (some teamLabel) rfl)).mpr ?_
  exact ⟨⟨teamLabel, rfl, by decide +kernel⟩, by decide, by decide, nofun, by decide⟩

end VpsManager.Store
