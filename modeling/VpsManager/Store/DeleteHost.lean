import VpsManager.Store.Hosts

/- `DeleteHost` in the database: a read, the removal of the secret and the removal of
the asset, each a statement of its own, among updates of hosts and new credentials. -/
namespace VpsManager.Store

open Go Control Persistence Checks Sql Interleaving

/-- The rows of one installation that hosts and secrets are in. -/
structure Database where
  assets : Keyed AssetRow.id
  /-- The IDs of the Workers. -/
  workers : List String
  envelopes : Keyed EnvelopeRow.key
  bindings : Keyed BindingRow.scope
  jobs : List JobRow

/-- The key of a host's binding. -/
def hostScope (id : String) : String × String := (SecretScope.host.name, id)

/-- `json.Marshal` of a credential's metadata. -/
def credentialJson (times : TimeText) (metadata : CredentialMetadata) : Json :=
  .object [("id", .string metadata.id), ("hostId", .string metadata.hostID),
    ("kind", .string metadata.kind),
    ("publicKeyFingerprint", .string metadata.publicKeyFingerprint),
    ("keyId", .string metadata.keyID), ("createdAt", .string (times.text metadata.createdAt)),
    ("createdBy", .string metadata.createdBy)]

def hostBinding (times : TimeText) (installation : InstallationID)
    (credential : StoredCredential) : SecretBinding where
  installationID := installation.val
  scopeType := .host
  scopeID := credential.metadata.hostID
  credentialID := credential.metadata.id
  version := 1
  envelope :=
    { installationID := installation.val
      credentialID := credential.metadata.id
      version := 1
      kind := credential.metadata.kind
      keyID := credential.envelope.keyID
      ciphertext := credential.envelope.ciphertext
      cipherNonce := credential.envelope.nonce
      wrappedKey := credential.envelope.wrappedKey
      wrappedKeyNonce := credential.envelope.keyNonce
      metadata := some (credentialJson times credential.metadata)
      createdAt := credential.metadata.createdAt }

def envelopeRow (envelope : CredentialEnvelope) : Option EnvelopeRow := do
  let installationID ← sqlText envelope.installationID
  let credentialID ← sqlText envelope.credentialID
  let version ← bigint envelope.version
  let kind ← sqlText envelope.kind
  let keyID ← sqlText envelope.keyID
  let metadata ← jsonb (normalizedJSON envelope.metadata)
  return {
    installationID := installationID
    credentialID := credentialID
    version := version
    kind := kind
    keyID := keyID
    ciphertext := envelope.ciphertext
    cipherNonce := envelope.cipherNonce
    wrappedKey := envelope.wrappedKey
    wrappedKeyNonce := envelope.wrappedKeyNonce
    metadata := metadata
    createdAt := timestamptz envelope.createdAt }

/-- The binding of a secret to an envelope that has a row. -/
def bindingRow (binding : SecretBinding) (envelope : EnvelopeRow) : BindingRow where
  installationID := binding.installationID
  scopeType := binding.scopeType.name
  scopeID := binding.scopeID
  credentialID := binding.credentialID
  credentialVersion := envelope.version
  updatedAt := timestamptz binding.envelope.createdAt

/-- The asset can be removed: it has the version, and no job refers to it. -/
def Deletable (db : Database) (id : String) (version : Int) : Prop :=
  (∃ row, db.assets.get id = some row ∧ row.version = version) ∧
    ∀ job ∈ db.jobs, job.assetID ≠ id

variable {id : String} {times : TimeText} {decoded : Except StoreError Unit} {asset : Asset}
  {expectedVersion : UInt64} {installation : InstallationID} {credential : StoredCredential}

namespace Database

variable (db : Database)

/-- `GetAsset`; whether the JSON of the row can be decoded is left open. -/
def getAsset (id : String) (decoded : Except StoreError Unit) : Except StoreError AssetRow := do
  (validateIdentifier "asset id" id).mapError .other
  let row ← orError (db.assets.get id) .notFound
  decoded
  return row

def updateAsset (times : TimeText) (asset : Asset) (expectedVersion : UInt64) :
    Except StoreError Database := do
  (validateAsset asset).mapError .other
  ensure (asset.version = expectedVersion + 1) .conflict
  let _ ← orError (assetRow times asset) operationFailed
  let expected ← orError (bigint expectedVersion) operationFailed
  let row ← orError (db.assets.get asset.id) .conflict
  ensure (row.version = expected) .conflict
  let written ← orError (updatedAssetRow times row asset) operationFailed
  ensure (Satisfies assetsChecks written) operationFailed
  return { db with assets := db.assets.put written }

/-- `DeleteAsset`; the foreign key of the jobs restricts it. -/
def deleteAsset (id : String) (expectedVersion : Int) : Except StoreError Database := do
  sendTexts [id]
  let row ← orError (db.assets.get id) .conflict
  ensure (row.version = expectedVersion) .conflict
  ensure (∀ job ∈ db.jobs, job.assetID ≠ id) operationFailed
  return { db with assets := db.assets.erase id }

def verifySecretScope (binding : SecretBinding) : Except StoreError Unit :=
  match binding.scopeType with
  | .host => ensure ((db.assets.get binding.scopeID).isSome = true) .notFound
  | .cloudflareWorker => ensure (binding.scopeID ∈ db.workers) .notFound

/-- `PutCurrentSecret`, a transaction. -/
def putCurrentSecret (binding : SecretBinding) : Except StoreError Database := do
  (validateSecretBinding binding).mapError .other
  db.verifySecretScope binding
  let envelope ← orError (envelopeRow binding.envelope) operationFailed
  ensure (Satisfies credentialEnvelopesChecks envelope) operationFailed
  ensure ((db.envelopes.get envelope.key).isNone = true) .conflict
  let row := bindingRow binding envelope
  ensure (Satisfies currentSecretBindingsChecks row) operationFailed
  return { db with envelopes := db.envelopes.put envelope, bindings := db.bindings.put row }

def deleteCurrentSecret (scope : SecretScope) (id : String) : Except StoreError Database := do
  sendTexts [id]
  let _ ← orError (db.bindings.get (scope.name, id)) .notFound
  return { db with bindings := db.bindings.erase (scope.name, id) }

variable {db}

theorem getAsset_ok {row : AssetRow} (read : db.getAsset id decoded = .ok row) :
    nulFree id = true := by
  simp only [getAsset, validateIdentifier, bind_eq_ok, mapError_eq_ok, ensure_eq_ok] at read
  obtain ⟨_, identifier, -⟩ := read
  refine nulFree_of_forall ?_
  intro c member
  have range := identifier_range identifier c member
  omega

variable {after : Database}

theorem updateAsset_ok (done : db.updateAsset times asset expectedVersion = .ok after) :
    ∃ written, written.id = asset.id ∧ after = { db with assets := db.assets.put written } := by
  simp only [updateAsset, bind_eq_ok, ensure_eq_ok, orError_eq_ok, pure_eq_ok] at done
  obtain ⟨_, -, _, -, _, -, _, -, row, found, _, -, written, sent, _, -, rfl⟩ := done
  refine ⟨written, ?_, rfl⟩
  simp only [updatedAssetRow, Option.map_eq_some_iff] at sent
  obtain ⟨columns, -, rfl⟩ := sent
  exact (Keyed.key_of_get found : row.id = asset.id)

theorem deleteAsset_eq_ok {expectedVersion : Int} :
    db.deleteAsset id expectedVersion = .ok after ↔
      nulFree id = true ∧ Deletable db id expectedVersion ∧
        after = { db with assets := db.assets.erase id } := by
  simp only [deleteAsset, sendTexts, bind_eq_ok, ensure_eq_ok, orError_eq_ok, pure_eq_ok,
    List.forall_mem_singleton, Deletable]
  constructor
  · rintro ⟨_, clean, row, found, _, version, _, unused, rfl⟩
    exact ⟨clean, ⟨⟨row, found, version⟩, unused⟩, rfl⟩
  · rintro ⟨clean, ⟨⟨row, found, version⟩, unused⟩, rfl⟩
    exact ⟨(), clean, row, found, (), version, (), unused, rfl⟩

theorem putCurrentSecret_eq_ok {binding : SecretBinding} :
    db.putCurrentSecret binding = .ok after ↔
      validateSecretBinding binding = .ok () ∧ db.verifySecretScope binding = .ok () ∧
        ∃ envelope, envelopeRow binding.envelope = some envelope ∧
          Satisfies credentialEnvelopesChecks envelope ∧
          (db.envelopes.get envelope.key).isNone = true ∧
          Satisfies currentSecretBindingsChecks (bindingRow binding envelope) ∧
          after = { db with
            envelopes := db.envelopes.put envelope
            bindings := db.bindings.put (bindingRow binding envelope) } := by
  simp only [putCurrentSecret, bind_eq_ok, mapError_eq_ok, ensure_eq_ok, orError_eq_ok, pure_eq_ok]
  constructor
  · rintro ⟨_, valid, _, exists', envelope, sent, _, checks, _, fresh, _, scope, rfl⟩
    exact ⟨valid, exists', envelope, sent, checks, fresh, scope, rfl⟩
  · rintro ⟨valid, exists', envelope, sent, checks, fresh, scope, rfl⟩
    exact ⟨(), valid, (), exists', envelope, sent, (), checks, (), fresh, (), scope, rfl⟩

theorem putCredential_ok
    (done : db.putCurrentSecret (hostBinding times installation credential) = .ok after) :
    (∃ row, db.assets.get credential.metadata.hostID = some row) ∧
      after.assets = db.assets ∧ after.jobs = db.jobs ∧
      ∃ binding : BindingRow, binding.scope = hostScope credential.metadata.hostID ∧
        after.bindings = db.bindings.put binding := by
  obtain ⟨-, verified, envelope, -, -, -, -, rfl⟩ := putCurrentSecret_eq_ok.mp done
  have present := (ensure_eq_ok _ _ _).mp verified
  exact ⟨Option.isSome_iff_exists.mp present, rfl, rfl, _, rfl, rfl⟩

variable {scope : SecretScope}

theorem deleteCurrentSecret_ok (done : db.deleteCurrentSecret scope id = .ok after) :
    after = { db with bindings := db.bindings.erase (scope.name, id) } := by
  simp only [deleteCurrentSecret, bind_eq_ok, pure_eq_ok] at done
  obtain ⟨_, -, _, -, rfl⟩ := done
  rfl

theorem deleteCurrentSecret_notFound
    (missing : db.deleteCurrentSecret scope id = .error .notFound) :
    db.bindings.get (scope.name, id) = none := by
  simp only [deleteCurrentSecret, sendTexts, ensure] at missing
  split at missing
  · cases found : db.bindings.get (scope.name, id) with
    | none => rfl
    | some row =>
      rw [found] at missing
      cases missing
  · cases missing

end Database

inductive Call
  | deleteHost (id : String)
  | read (id : String) (version : Int)
  /-- The secret is removed, if there was one. -/
  | unbound (id : String) (version : Int) (removed : Option BindingRow)
  | deleted (id : String) (removed : Option BindingRow) (outcome : Except StoreError Unit)
  | putCredential (credential : StoredCredential)
  | updateHost (host : Host) (expectedVersion : UInt64)
  | answered (outcome : Except StoreError Unit)

inductive Event
  | silent
  /-- `DeleteHost` has removed the secret of a host. -/
  | unbound (id : String)
  /-- `DeleteHost` has tried to remove the asset; the rows of the host that are left. -/
  | returned (id : String) (outcome : Except StoreError Unit) (asset : Option AssetRow)
      (binding : Option BindingRow)

def advance (times : TimeText) (installation : InstallationID)
    (decoded : Except StoreError Unit) (db : Database) : Call → Database × Call × Event
  | .deleteHost id =>
    match db.getAsset id decoded with
    | .error error => (db, .deleted id none (.error error), .silent)
    | .ok row => (db, .read id row.version, .silent)
  | .read id version =>
    match db.deleteCurrentSecret .host id with
    | .ok after => (after, .unbound id version (db.bindings.get (hostScope id)), .unbound id)
    | .error .notFound => (db, .unbound id version none, .unbound id)
    | .error error => (db, .deleted id none (.error error), .silent)
  | .unbound id version removed =>
    match db.deleteAsset id version with
    | .ok after =>
      (after, .deleted id removed (.ok ()),
        .returned id (.ok ()) (after.assets.get id) (after.bindings.get (hostScope id)))
    | .error error =>
      (db, .deleted id removed (.error error),
        .returned id (.error error) (db.assets.get id) (db.bindings.get (hostScope id)))
  | .deleted id removed outcome => (db, .deleted id removed outcome, .silent)
  | .putCredential credential =>
    match db.putCurrentSecret (hostBinding times installation credential) with
    | .error error => (db, .answered (.error error), .silent)
    | .ok after => (after, .answered (.ok ()), .silent)
  | .updateHost host expectedVersion =>
    match db.updateAsset times (hostToAsset installation host) expectedVersion with
    | .error error => (db, .answered (.error error), .silent)
    | .ok after => (after, .answered (.ok ()), .silent)
  | .answered outcome => (db, .answered outcome, .silent)

inductive Call.Begins : Call → Prop
  | deleteHost (id : String) : Call.Begins (.deleteHost id)
  | putCredential (credential : StoredCredential) : Call.Begins (.putCredential credential)
  | updateHost (host : Host) (expectedVersion : UInt64) :
      Call.Begins (.updateHost host expectedVersion)

def hostCalls (times : TimeText) (installation : InstallationID) : System Database Call Event where
  begins := Call.Begins
  step db call event after next :=
    ∃ decoded, advance times installation decoded db call = (after, next, event)
  outside _ _ _ := False

/-- A `DeleteHost` has removed the host's secret and has not tried to remove its asset. -/
def Locked (id : String) : List Event → Prop
  | [] => False
  | .unbound other :: earlier => other = id ∨ Locked id earlier
  | .returned other _ _ _ :: earlier => other ≠ id ∧ Locked id earlier
  | .silent :: earlier => Locked id earlier

/-- No call touches a host between the two removals of a `DeleteHost`, and a secret is
removed only if the asset still has the version that was read and no job refers to it. -/
def Undisturbed (db : Database) (trace : List Event) : Call → Event → Prop
  | .read id version, _ =>
    ¬ Locked id trace ∧
      ((db.bindings.get (hostScope id)).isSome = true → Deletable db id version)
  | .putCredential credential, _ => ¬ Locked credential.metadata.hostID trace
  | .updateHost host _, _ => ¬ Locked host.id trace
  | _, _ => True

def NoneDangling (db : Database) : Prop :=
  ∀ id binding, db.bindings.get (hostScope id) = some binding →
    ∃ row, db.assets.get id = some row

/-- The host whose secret a call has removed and whose asset it has not. -/
def Call.removing? : Call → Option String
  | .unbound id _ _ => some id
  | _ => none

def Call.Apart (one other : Call) : Prop :=
  ∀ id, one.removing? = some id → other.removing? ≠ some id

def Call.Sound (db : Database) (trace : List Event) : Call → Prop
  | .read id _ => nulFree id = true
  | .unbound id version removed =>
    nulFree id = true ∧ Locked id trace ∧ db.bindings.get (hostScope id) = none ∧
      (removed ≠ none → Deletable db id version)
  | .deleted _ removed outcome => ∀ error, outcome = .error error → removed = none
  | _ => True

def Event.succeeds : Event → Bool
  | .returned _ (.ok _) _ _ => true
  | _ => false

/-- The host that a success leaves has no rows. -/
def CleanReturns (trace : List Event) : Prop :=
  ∀ id asset binding, .returned id (.ok ()) asset binding ∈ trace → asset = none ∧ binding = none

section Steps

variable {db after : Database} {trace later : List Event} {call : Call}

theorem Call.Sound.locked (sound : call.Sound db trace) (removing : call.removing? = some id) :
    Locked id trace := by
  cases call with
  | unbound other =>
    cases removing
    exact sound.2.1
  | deleteHost | read | deleted | putCredential | updateHost | answered => cases removing

/-- A call between its removals depends on the rows of its host. -/
theorem Call.Sound.frame (sound : call.Sound db trace) (jobs : after.jobs = db.jobs)
    (same : ∀ id, call.removing? = some id →
      after.assets.get id = db.assets.get id ∧
        after.bindings.get (hostScope id) = db.bindings.get (hostScope id) ∧
        (Locked id trace → Locked id later)) : call.Sound after later := by
  cases call with
  | unbound id version removed =>
    obtain ⟨clean, locked, unbound, deletable⟩ := sound
    obtain ⟨assets, bindings, stays⟩ := same id rfl
    refine ⟨clean, stays locked, bindings.trans unbound, ?_⟩
    intro removes
    obtain ⟨⟨row, found, version⟩, unused⟩ := deletable removes
    exact ⟨⟨row, assets.trans found, version⟩, by rwa [jobs]⟩
  | read => exact sound
  | deleted => exact sound
  | deleteHost | putCredential | updateHost | answered => trivial

theorem apart_of_removing {other : Call} (none : call.removing? = none) : call.Apart other := by
  intro id removing
  rw [none] at removing
  cases removing

theorem cleanReturns_nil : CleanReturns [] := by
  intro id asset binding member
  cases member

variable {event : Event}

theorem cleanReturns_cons (clean : CleanReturns trace)
    (newest : event.succeeds = true → ∃ id, event = .returned id (.ok ()) none none) :
    CleanReturns (event :: trace) := by
  intro id asset binding member
  rcases List.mem_cons.mp member with rfl | old
  · obtain ⟨_, same⟩ := newest rfl
    cases same
    exact ⟨rfl, rfl⟩
  · exact clean id asset binding old

theorem cleanReturns_quiet (clean : CleanReturns trace) (quiet : event.succeeds = false) :
    CleanReturns (event :: trace) := by
  refine cleanReturns_cons clean ?_
  intro succeeds
  rw [quiet] at succeeds
  cases succeeds

theorem NoneDangling.putCredential (dangling : NoneDangling db)
    (done : db.putCurrentSecret (hostBinding times installation credential) = .ok after) :
    NoneDangling after := by
  obtain ⟨present, assets, -, binding, scope, bindings⟩ := Database.putCredential_ok done
  intro id other found
  rw [bindings, Keyed.get_put] at found
  rw [assets]
  split at found
  · rename_i same
    obtain rfl : id = credential.metadata.hostID := congrArg Prod.snd (same.trans scope)
    exact present
  · exact dangling id other found

theorem NoneDangling.updateHost (dangling : NoneDangling db)
    (done : db.updateAsset times asset expectedVersion = .ok after) : NoneDangling after := by
  obtain ⟨written, -, rfl⟩ := Database.updateAsset_ok done
  intro id binding found
  obtain ⟨row, present⟩ := dangling id binding found
  rw [Keyed.get_put]
  split
  · exact ⟨written, rfl⟩
  · exact ⟨row, present⟩

theorem NoneDangling.erase (dangling : NoneDangling db) :
    NoneDangling { db with bindings := db.bindings.erase (hostScope id) } := by
  intro other binding found
  rw [Keyed.get_erase] at found
  split at found
  · cases found
  · exact dangling other binding found

theorem NoneDangling.eraseAsset (dangling : NoneDangling db)
    (unbound : db.bindings.get (hostScope id) = none) :
    NoneDangling { db with assets := db.assets.erase id } := by
  intro other binding found
  have differs : other ≠ id := by
    rintro rfl
    rw [unbound] at found
    cases found
  obtain ⟨row, present⟩ := dangling other binding found
  refine ⟨row, ?_⟩
  rw [Keyed.get_erase, if_neg differs, present]

end Steps

structure Kept (db : Database) (trace : List Event) (call : Call) (after : Database)
    (event : Event) (next : Call) : Prop where
  dangling : NoneDangling after
  clean : CleanReturns (event :: trace)
  sound : next.Sound after (event :: trace)
  others : ∀ other : Call, other.Sound db trace → call.Apart other →
    other.Sound after (event :: trace) ∧ next.Apart other

section Kept

variable {db after : Database} {trace : List Event} {call next : Call} {event : Event}

theorem kept_of_silent (dangling : NoneDangling db) (clean : CleanReturns trace)
    (sound : next.Sound db (.silent :: trace)) (none : next.removing? = none) :
    Kept db trace call db .silent next where
  dangling := dangling
  clean := cleanReturns_quiet clean rfl
  sound := sound
  others _ held _ := ⟨held.frame rfl fun _ _ => ⟨rfl, rfl, id⟩, apart_of_removing none⟩

variable {version : Int}

theorem kept_of_read (dangling : NoneDangling db) (clean : CleanReturns trace)
    (sound : (Call.read id version).Sound db trace)
    (admitted : Undisturbed db trace (.read id version) event)
    (moved : (after = { db with bindings := db.bindings.erase (hostScope id) } ∧
        next = .unbound id version (db.bindings.get (hostScope id))) ∨
      after = db ∧ db.bindings.get (hostScope id) = none ∧ next = .unbound id version none) :
    Kept db trace (.read id version) after (.unbound id) next := by
  obtain ⟨unlocked, deletable⟩ := admitted
  have others : ∀ other : Call, other.Sound db trace → ∀ name, other.removing? = some name →
      name ≠ id := by
    rintro other held name removing rfl
    exact unlocked (held.locked removing)
  have separate : ∀ other : Call, other.Sound db trace → ∀ version removed,
      (Call.unbound id version removed).Apart other := by
    rintro other held version removed name same removing
    cases same
    exact others other held id removing rfl
  rcases moved with ⟨rfl, rfl⟩ | ⟨rfl, missing, rfl⟩
  · refine ⟨dangling.erase, cleanReturns_quiet clean rfl, ?_, ?_⟩
    · refine ⟨sound, .inl rfl, ?_, ?_⟩
      · rw [Keyed.get_erase, if_pos rfl]
      · intro removed
        exact deletable (Option.isSome_iff_ne_none.mpr removed)
    · intro other held _
      refine ⟨held.frame rfl ?_, separate other held _ _⟩
      intro name removing
      have differs : hostScope name ≠ hostScope id := by
        intro same
        exact others other held name removing (congrArg Prod.snd same)
      exact ⟨rfl, by rw [Keyed.get_erase, if_neg differs], .inr⟩
  · refine ⟨dangling, cleanReturns_quiet clean rfl, ?_, ?_⟩
    · exact ⟨sound, .inl rfl, missing, fun removed => absurd rfl removed⟩
    · intro other held _
      exact ⟨held.frame rfl fun _ _ => ⟨rfl, rfl, .inr⟩, separate other held _ _⟩

theorem kept_of_unbound {removed : Option BindingRow} (dangling : NoneDangling db)
    (clean : CleanReturns trace) (sound : (Call.unbound id version removed).Sound db trace)
    (moved : (∃ asset, db.deleteAsset id version = .ok after ∧
        after.assets.get id = asset ∧ next = .deleted id removed (.ok ()) ∧
        event = .returned id (.ok ()) asset (after.bindings.get (hostScope id))) ∨
      ∃ error asset binding, db.deleteAsset id version = .error error ∧ after = db ∧
        next = .deleted id removed (.error error) ∧
        event = .returned id (.error error) asset binding) :
    Kept db trace (.unbound id version removed) after event next := by
  obtain ⟨nul, locked, unbound, deletable⟩ := sound
  rcases moved with ⟨asset, done, rfl, rfl, rfl⟩ | ⟨error, asset, binding, failed, rfl, rfl, rfl⟩
  · obtain ⟨-, -, rfl⟩ := Database.deleteAsset_eq_ok.mp done
    have gone : (db.assets.erase id).get id = none := by rw [Keyed.get_erase, if_pos rfl]
    refine ⟨dangling.eraseAsset unbound, cleanReturns_cons clean ?_, ?_, ?_⟩
    · intro _
      exact ⟨id, congr (congrArg (Event.returned id (.ok ())) gone) unbound⟩
    · intro error failed
      cases failed
    · intro other held apart
      refine ⟨held.frame rfl ?_, apart_of_removing rfl⟩
      intro name removing
      have differs : name ≠ id := by
        rintro rfl
        exact apart name rfl removing
      exact ⟨by rw [Keyed.get_erase, if_neg differs], rfl, fun lock => ⟨differs.symm, lock⟩⟩
  · refine ⟨dangling, cleanReturns_quiet clean rfl, ?_, ?_⟩
    · intro _ _
      -- A removed secret means that the asset could be removed as well.
      by_contra removes
      have possible := Database.deleteAsset_eq_ok.mpr ⟨nul, deletable removes, rfl⟩
      rw [failed] at possible
      cases possible
    · intro other held apart
      refine ⟨held.frame rfl ?_, apart_of_removing rfl⟩
      intro name removing
      have differs : name ≠ id := by
        rintro rfl
        exact apart name rfl removing
      exact ⟨rfl, rfl, fun lock => ⟨differs.symm, lock⟩⟩

theorem kept_of_answered {host : String} (dangling : NoneDangling after)
    (clean : CleanReturns trace) (unlocked : ¬ Locked host trace) (jobs : after.jobs = db.jobs)
    (assets : ∀ id, id ≠ host → after.assets.get id = db.assets.get id)
    (bindings : ∀ id, id ≠ host →
      after.bindings.get (hostScope id) = db.bindings.get (hostScope id)) :
    Kept db trace call after .silent (.answered (.ok ())) where
  dangling := dangling
  clean := cleanReturns_quiet clean rfl
  sound := trivial
  others := by
    intro other held _
    refine ⟨held.frame jobs ?_, apart_of_removing rfl⟩
    intro id removing
    have differs : id ≠ host := by
      rintro rfl
      exact unlocked (held.locked removing)
    exact ⟨assets id differs, bindings id differs, fun lock => lock⟩

theorem kept_of_advance (dangling : NoneDangling db) (clean : CleanReturns trace)
    (sound : call.Sound db trace)
    (step : advance times installation decoded db call = (after, next, event))
    (admitted : Undisturbed db trace call event) : Kept db trace call after event next := by
  cases call with
  | deleteHost id =>
    simp only [advance] at step
    split at step <;> cases step
    · exact kept_of_silent dangling clean (fun _ _ => rfl) rfl
    · rename_i read
      exact kept_of_silent dangling clean (Database.getAsset_ok read) rfl
  | read id version =>
    simp only [advance] at step
    split at step <;> cases step
    · rename_i done
      refine kept_of_read dangling clean sound admitted (.inl ⟨?_, rfl⟩)
      exact Database.deleteCurrentSecret_ok done
    · rename_i missing
      refine kept_of_read dangling clean sound admitted (.inr ⟨rfl, ?_, rfl⟩)
      exact Database.deleteCurrentSecret_notFound missing
    · exact kept_of_silent dangling clean (fun _ _ => rfl) rfl
  | unbound id version removed =>
    simp only [advance] at step
    split at step <;> cases step
    · rename_i done
      exact kept_of_unbound dangling clean sound (.inl ⟨_, done, rfl, rfl, rfl⟩)
    · rename_i failed
      exact kept_of_unbound dangling clean sound (.inr ⟨_, _, _, failed, rfl, rfl, rfl⟩)
  | deleted id removed outcome =>
    cases step
    exact kept_of_silent dangling clean sound rfl
  | putCredential credential =>
    simp only [advance] at step
    split at step <;> cases step
    · exact kept_of_silent dangling clean trivial rfl
    · rename_i done
      obtain ⟨-, assets, jobs, binding, scope, bindings⟩ := Database.putCredential_ok done
      refine kept_of_answered (dangling.putCredential done) clean admitted jobs
        (fun id _ => by rw [assets]) ?_
      intro id differs
      have other : hostScope id ≠ binding.scope := by
        rw [scope]
        exact fun same => differs (congrArg Prod.snd same)
      rw [bindings, Keyed.get_put_of_ne _ _ other]
  | updateHost host expectedVersion =>
    simp only [advance] at step
    split at step <;> cases step
    · exact kept_of_silent dangling clean trivial rfl
    · rename_i done
      have changed := dangling.updateHost done
      obtain ⟨written, key, rfl⟩ := Database.updateAsset_ok done
      refine kept_of_answered changed clean admitted rfl ?_ fun _ _ => rfl
      intro id differs
      have key : written.id = host.id := key
      exact Keyed.get_put_of_ne _ _ (by rwa [key])
  | answered outcome =>
    cases step
    exact kept_of_silent dangling clean trivial rfl

end Kept

theorem hostCalls_inductive (times : TimeText) (installation : InstallationID) (start : Database)
    (dangling : NoneDangling start) :
    Inductive (hostCalls times installation) Undisturbed start
      (fun db trace => NoneDangling db ∧ CleanReturns trace) Call.Sound Call.Apart where
  symmetric one other apart id ours theirs := apart id theirs ours
  initial := ⟨dangling, cleanReturns_nil⟩
  begun := by
    rintro db trace call - begins
    cases begins with
    | deleteHost | putCredential | updateHost => exact ⟨trivial, fun _ => apart_of_removing rfl⟩
  advanced := by
    rintro db trace call event after next ⟨dangling, clean⟩ sound ⟨decoded, step⟩ admitted
    have kept := kept_of_advance dangling clean sound step admitted
    exact ⟨⟨kept.dangling, kept.clean⟩, kept.sound, kept.others⟩
  disturbed := by
    rintro db trace event after - impossible
    exact impossible.elim

/-- If no call touches a host between the two removals of a `DeleteHost`, and secrets
are removed only of hosts whose assets can be removed, then a `DeleteHost` that fails has
removed no secret, one that succeeds leaves no row of its host, and no secret is without
its host at any time. -/
theorem deleteHost_whole (times : TimeText) (installation : InstallationID) (start : Database)
    (dangling : NoneDangling start) (config : Config Database Call Event)
    (reached : Reachable (hostCalls times installation) Undisturbed start config) :
    (∀ id removed error, .deleted id removed (.error error) ∈ config.calls → removed = none) ∧
      CleanReturns config.trace ∧ NoneDangling config.shared := by
  obtain ⟨⟨dangling, clean⟩, sound, -⟩ :=
    (hostCalls_inductive times installation start dangling).holds reached
  refine ⟨?_, clean, dangling⟩
  intro id removed error member
  exact sound _ member error rfl

def sampleAsset : AssetRow where
  installationID := "installation"
  id := "host_1"
  name := "web"
  address := "vps.example"
  port := 22
  username := "deploy"
  labels := .object []
  hostKey := none
  version := 1
  createdAt := 0
  updatedAt := 0

def sampleBinding : BindingRow where
  installationID := "installation"
  scopeType := "host"
  scopeID := "host_1"
  credentialID := "cred_1"
  credentialVersion := 1
  updatedAt := 0

def sampleJob : JobRow where
  installationID := "installation"
  id := "job_1"
  type := "runtime_snapshot"
  assetID := "host_1"
  state := "succeeded"
  requestedBy := "olga"
  requestID := none
  idempotencyKey := none
  parameters := .object []
  result := .object []
  errorCode := none
  errorMessage := none
  version := 3
  createdAt := 0
  startedAt := some 0
  finishedAt := some 0
  updatedAt := 0

def sampleRows (jobs : List JobRow) : Database where
  assets := .single sampleAsset
  workers := []
  envelopes := .empty
  bindings := .single sampleBinding
  jobs := jobs

def sampleCredential : StoredCredential where
  metadata := ⟨"cred_2", "host_1", "ssh_private_key", "SHA256:x", "key_1", 0, "olga"⟩
  envelope := ⟨"key_1", [1], [], [1], []⟩

theorem sampleRows_sound (jobs : List JobRow) : NoneDangling (sampleRows jobs) := by
  intro id binding found
  have bound : binding = sampleBinding := Keyed.eq_of_get_single found
  have scope : binding.scope = hostScope id := Keyed.key_of_get found
  obtain rfl : "host_1" = id := by
    rw [bound] at scope
    exact congrArg Prod.snd scope
  exact ⟨sampleAsset, rfl⟩

theorem sample_takes (db : Database) (call : Call) :
    (hostCalls plainTimes sampleInstallation).step db call
      (advance plainTimes sampleInstallation (.ok ()) db call).2.2
      (advance plainTimes sampleInstallation (.ok ()) db call).1
      (advance plainTimes sampleInstallation (.ok ()) db call).2.1 :=
  ⟨.ok (), rfl⟩

/-- A finished job keeps the asset but not the secret. -/
theorem secret_lost :
    ∃ config, Reachable (hostCalls plainTimes sampleInstallation) anyStep
        (sampleRows [sampleJob]) config ∧
      .deleted "host_1" (some sampleBinding) (.error operationFailed) ∈ config.calls := by
  have s0 : Reachable (hostCalls plainTimes sampleInstallation) anyStep
    (sampleRows [sampleJob]) _ := .start
  have s1 := s0.call (.deleteHost "host_1") (by exact .deleteHost _)
  have s2 := s1.ahead _ sample_takes 3 0 rfl
  exact ⟨_, s2, .head _⟩

def unboundRows : Database :=
  { sampleRows [] with bindings := (sampleRows []).bindings.erase (hostScope "host_1") }

theorem sampleCredential_stored :
    ∃ after, unboundRows.putCurrentSecret
      (hostBinding plainTimes sampleInstallation sampleCredential) = .ok after := by
  have valid : validateSecretBinding
      (hostBinding plainTimes sampleInstallation sampleCredential) = .ok () := by decide +kernel
  exact ⟨_, Database.putCurrentSecret_eq_ok.mpr
    ⟨valid, rfl, _, rfl, by decide +kernel, rfl, by decide +kernel, rfl⟩⟩

def Call.Ended (call : Call) : Prop :=
  (∃ outcome, call = .answered outcome) ∨ ∃ id removed outcome, call = .deleted id removed outcome

/-- A credential that is stored between the two removals is left without its host. -/
theorem secret_left :
    ∃ config asset binding, Reachable (hostCalls plainTimes sampleInstallation) anyStep
        (sampleRows []) config ∧
      (∀ call ∈ config.calls, call.Ended) ∧
      .returned "host_1" (.ok ()) asset (some binding) ∈ config.trace ∧
      config.shared.assets.get "host_1" = none ∧
      config.shared.bindings.get (hostScope "host_1") = some binding := by
  obtain ⟨stored, done⟩ := sampleCredential_stored
  obtain ⟨-, assets, jobs, binding, scope, bindings⟩ := Database.putCredential_ok done
  have bound : stored.bindings.get (hostScope "host_1") = some binding := by
    rw [bindings, ← show binding.scope = hostScope "host_1" from scope]
    exact Keyed.get_put_self _ binding
  have deletes : stored.deleteAsset "host_1" 1 =
      .ok { stored with assets := stored.assets.erase "host_1" } := by
    refine Database.deleteAsset_eq_ok.mpr ⟨by decide, ⟨⟨sampleAsset, ?_, rfl⟩, ?_⟩, rfl⟩
    · rw [assets]
      rfl
    · rw [jobs]
      intro job member
      cases member
  have s0 : Reachable (hostCalls plainTimes sampleInstallation) anyStep (sampleRows []) _ := .start
  have s1 := s0.call (.deleteHost "host_1") (by exact .deleteHost _)
  have s2 := s1.ahead _ sample_takes 2 0 rfl
  have s3 := s2.call (.putCredential sampleCredential) (by exact .putCredential _)
  have puts : advance plainTimes sampleInstallation (.ok ()) unboundRows
      (.putCredential sampleCredential) = (stored, .answered (.ok ()), .silent) := by
    rw [advance, done]
  have s4 := s3.advance 1 rfl ⟨.ok (), puts⟩ trivial
  have removes : advance plainTimes sampleInstallation (.ok ()) stored
      (.unbound "host_1" 1 (some sampleBinding)) =
        ({ stored with assets := stored.assets.erase "host_1" },
          .deleted "host_1" (some sampleBinding) (.ok ()),
          .returned "host_1" (.ok ()) ((stored.assets.erase "host_1").get "host_1")
            (some binding)) := by
    rw [advance, deletes]
    exact congrArg (fun left => (_, _, Event.returned _ _ _ left)) bound
  have s5 := s4.advance 0 rfl ⟨.ok (), removes⟩ trivial
  refine ⟨_, _, binding, s5, ?_, .head _, ?_, bound⟩
  · intro call member
    rcases List.mem_cons.mp member with rfl | member
    · exact .inr ⟨_, _, _, rfl⟩
    · rw [List.mem_singleton.mp member]
      exact .inl ⟨_, rfl⟩
  · rw [Keyed.get_erase, if_pos rfl]

/-- None of the three parts holds of every run: a failure may have removed the secret, a
success may leave one, and a secret may be without its host when no call is running. -/
theorem deleteHost_in_parts :
    (¬ ∀ (start : Database) (config : Config Database Call Event), NoneDangling start →
        Reachable (hostCalls plainTimes sampleInstallation) anyStep start config →
        ∀ id removed error, .deleted id removed (.error error) ∈ config.calls → removed = none) ∧
      (¬ ∀ (start : Database) (config : Config Database Call Event), NoneDangling start →
        Reachable (hostCalls plainTimes sampleInstallation) anyStep start config →
        CleanReturns config.trace) ∧
      ¬ ∀ (start : Database) (config : Config Database Call Event), NoneDangling start →
        Reachable (hostCalls plainTimes sampleInstallation) anyStep start config →
        (∀ call ∈ config.calls, call.Ended) → NoneDangling config.shared := by
  obtain ⟨failed, reached, lost⟩ := secret_lost
  obtain ⟨config, asset, binding, reached', ended, returned, gone, bound⟩ := secret_left
  refine ⟨?_, ?_, ?_⟩
  · intro always
    cases always _ _ (sampleRows_sound _) reached _ _ _ lost
  · intro always
    cases (always _ _ (sampleRows_sound _) reached' _ _ _ returned).2
  · intro always
    obtain ⟨row, found⟩ := always _ _ (sampleRows_sound _) reached' ended _ _ bound
    rw [gone] at found
    cases found

theorem sample_deleted :
    ∃ config, Reachable (hostCalls plainTimes sampleInstallation) Undisturbed (sampleRows [])
        config ∧
      .deleted "host_1" (some sampleBinding) (.ok ()) ∈ config.calls ∧
      CleanReturns config.trace ∧ NoneDangling config.shared := by
  have s0 : Reachable (hostCalls plainTimes sampleInstallation) Undisturbed (sampleRows []) _ :=
    .start
  have s1 := s0.call (.deleteHost "host_1") (by exact .deleteHost _)
  have s2 := s1.advance 0 rfl (sample_takes _ _) trivial
  have deletable : Deletable (sampleRows []) "host_1" 1 := by
    refine ⟨⟨sampleAsset, rfl, rfl⟩, ?_⟩
    intro job member
    cases member
  have s3 := s2.advance 0 rfl (sample_takes _ _) ⟨id, fun _ => deletable⟩
  have s4 := s3.advance 0 rfl (sample_takes _ _) trivial
  obtain ⟨-, clean, dangling⟩ := deleteHost_whole plainTimes sampleInstallation _
    (sampleRows_sound []) _ s4
  exact ⟨_, s4, .head _, clean, dangling⟩

end VpsManager.Store
