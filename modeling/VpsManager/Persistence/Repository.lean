import VpsManager.Go.Runes
import VpsManager.Lib.Decimal
import VpsManager.Lib.Joined
import VpsManager.Lib.Machine
import VpsManager.Lib.Paging
import VpsManager.Persistence.Schema
import VpsManager.Persistence.Types

/- The repository of the persistence package that keeps its records in the process. The
records of all installations are in the same maps, under keys made of their IDs. -/
namespace VpsManager.Persistence.Repository

open Go Checks

/-- One round of the loop of `composite`. -/
def writePart (result part : Bytes) : Bytes :=
  result ++ bytes (toString part.length) ++ [58] ++ part ++ [124]

/-- A string is any sequence of bytes here. -/
def composite (parts : List Bytes) : Bytes := parts.foldl writePart []

example : composite [bytes "1:a|", bytes "b"] = bytes "4:1:a||1:b|" := by decide +kernel

/-- `strconv.FormatUint(version, 10)`. -/
def formatUint (version : UInt64) : Bytes := bytes (toString version.toNat)

structure AuditFilter where
  installationID : String
  before : Int
  beforeID : String
  limit : Int

def defaultListLimit : Int := 100

def maxListLimit : Int := 500

def normalizeLimit (limit : Int) : Int :=
  if limit ≤ 0 then defaultListLimit
  else if maxListLimit < limit then maxListLimit
  else limit

def assetParts (asset : Asset) : List Bytes := [bytes asset.installationID, bytes asset.id]

def credentialParts (envelope : CredentialEnvelope) : List Bytes :=
  [bytes envelope.installationID, bytes envelope.credentialID, formatUint envelope.version]

def jobParts (job : Job) : List Bytes := [bytes job.installationID, bytes job.id]

/-- The copy has labels even if the asset has none. -/
def cloneAsset (asset : Asset) : Asset := { asset with labels := some (asset.labels.getD ∅) }

@[simp] theorem installationID_cloneAsset (asset : Asset) :
    (cloneAsset asset).installationID = asset.installationID := rfl

@[simp] theorem id_cloneAsset (asset : Asset) : (cloneAsset asset).id = asset.id := rfl

/-- A map whose keys are made of parts of the records. -/
abbrev Records {α : Type} (parts : α → List Bytes) := Keyed fun record => composite (parts record)

/-- `MemoryRepository`. What the other clone functions make is equal to the record, so that
they do not occur. -/
structure MemoryRepository where
  assets : Records assetParts
  credentials : Records credentialParts
  jobs : Records jobParts
  audits : List AuditEvent

inductive Failure
  | notFound
  | conflict
  | invalid (message : String)
  deriving DecidableEq, Repr

def newMemoryRepository : MemoryRepository := ⟨.empty, .empty, .empty, []⟩

section Tables

variable {α : Type} {parts : α → List Bytes}

/-- A record is stored if there is none under its key. -/
def create (record : α) (table : Records parts) : Except Failure (Records parts) := do
  ensure ((table.get (composite (parts record))).isNone = true) .conflict
  return table.put record

def find (asked : List Bytes) (table : Records parts) : Except Failure α :=
  orError (table.get (composite asked)) .notFound

/-- The next version of a record takes the place of the expected one. -/
def replace (version : α → UInt64) (record : α) (expectedVersion : UInt64)
    (table : Records parts) : Except Failure (Records parts) := do
  let current ← find (parts record) table
  ensure (¬ (version current ≠ expectedVersion ∨ version record ≠ expectedVersion + 1)) .conflict
  return table.put record

/-- The records of one installation behind an ID, from a loop over them in any order. -/
def listAfter (installation id : α → String) (clone : α → α) (ranged : List α)
    (installationID : String) (limit : Int) (afterID : String) : Except Failure (List α) := do
  (validateIdentifier "installation id" installationID).mapError .invalid
  let items := (ranged.filter fun record =>
    installation record == installationID && decide (afterID < id record)).map clone
  return (Paging.sorted (fun one other => decide (id one < id other)) items).take
    (normalizeLimit limit).toNat

end Tables

namespace MemoryRepository

variable (m : MemoryRepository)

def createAsset (asset : Asset) : Except Failure MemoryRepository := do
  (validateAsset asset).mapError .invalid
  let assets ← create (cloneAsset asset) m.assets
  return { m with assets := assets }

def getAsset (installationID id : Bytes) : Except Failure Asset :=
  (find [installationID, id] m.assets).map cloneAsset

/-- The order in which the loop meets the assets is given. -/
def listAssets (ranged : List Asset) : String → Int → String → Except Failure (List Asset) :=
  listAfter Asset.installationID Asset.id cloneAsset ranged

def updateAsset (asset : Asset) (expectedVersion : UInt64) : Except Failure MemoryRepository := do
  (validateAsset asset).mapError .invalid
  let assets ← replace Asset.version (cloneAsset asset) expectedVersion m.assets
  return { m with assets := assets }

def deleteAsset (installationID id : Bytes) (expectedVersion : UInt64) :
    Except Failure MemoryRepository := do
  let current ← find [installationID, id] m.assets
  ensure (current.version = expectedVersion) .conflict
  return { m with assets := m.assets.erase (composite [installationID, id]) }

def putCredentialEnvelope (envelope : CredentialEnvelope) :
    Except Failure MemoryRepository := do
  (validateCredential envelope).mapError .invalid
  let credentials ← create envelope m.credentials
  return { m with credentials := credentials }

def getCredentialEnvelope (installationID credentialID : Bytes) (version : UInt64) :
    Except Failure CredentialEnvelope :=
  find [installationID, credentialID, formatUint version] m.credentials

def createJob (job : Job) : Except Failure MemoryRepository := do
  (validateJob job).mapError .invalid
  let jobs ← create job m.jobs
  return { m with jobs := jobs }

def getJob (installationID id : Bytes) : Except Failure Job := find [installationID, id] m.jobs

/-- The order in which the loop meets the jobs is given. -/
def listJobs (ranged : List Job) : String → Int → String → Except Failure (List Job) :=
  listAfter Job.installationID Job.id id ranged

def updateJob (job : Job) (expectedVersion : UInt64) : Except Failure MemoryRepository := do
  (validateJob job).mapError .invalid
  let jobs ← replace Job.version job expectedVersion m.jobs
  return { m with jobs := jobs }

def appendAudit (event : AuditEvent) : Except Failure MemoryRepository := do
  (validateAudit event).mapError .invalid
  ensure (∀ existing ∈ m.audits,
    ¬ (existing.installationID = event.installationID ∧ existing.id = event.id)) .conflict
  return { m with audits := m.audits ++ [event] }

end MemoryRepository

/-- The cursor of a filter; a zero time is none. -/
def beforeCursor (before : Int) (beforeID : String) (event : AuditEvent) : Bool :=
  before == zeroTime ||
    !(decide (before < event.timestamp) ||
      event.timestamp == before && decide (beforeID ≤ event.id))

def auditLess (one other : AuditEvent) : Bool :=
  if one.timestamp = other.timestamp then decide (other.id < one.id)
  else decide (other.timestamp < one.timestamp)

def MemoryRepository.listAudit (m : MemoryRepository) (filter : AuditFilter) :
    Except Failure (List AuditEvent) := do
  (validateIdentifier "installation id" filter.installationID).mapError .invalid
  let beforeID := if filter.beforeID = "" then "~" else filter.beforeID
  if filter.beforeID ≠ "" then
    (validateIdentifier "audit cursor id" beforeID).mapError .invalid
  let items := m.audits.filter fun event =>
    event.installationID == filter.installationID && beforeCursor filter.before beforeID event
  return (Paging.sorted auditLess items).take (normalizeLimit filter.limit).toNat

inductive Action
  | createAsset (asset : Asset)
  | updateAsset (asset : Asset) (expectedVersion : UInt64)
  | deleteAsset (installationID id : Bytes) (expectedVersion : UInt64)
  | putCredentialEnvelope (envelope : CredentialEnvelope)
  | createJob (job : Job)
  | updateJob (job : Job) (expectedVersion : UInt64)
  | appendAudit (event : AuditEvent)

def MemoryRepository.call (m : MemoryRepository) : Action → Except Failure MemoryRepository
  | .createAsset asset => m.createAsset asset
  | .updateAsset asset expectedVersion => m.updateAsset asset expectedVersion
  | .deleteAsset installationID id expectedVersion =>
    m.deleteAsset installationID id expectedVersion
  | .putCredentialEnvelope envelope => m.putCredentialEnvelope envelope
  | .createJob job => m.createJob job
  | .updateJob job expectedVersion => m.updateJob job expectedVersion
  | .appendAudit event => m.appendAudit event

/-- A call that succeeds; one that fails changes nothing. -/
def Step (m : MemoryRepository) (action : Action) (next : MemoryRepository) : Prop :=
  m.call action = .ok next

/-- What each call changes, and what it has checked before. -/
inductive Move (m : MemoryRepository) : Action → MemoryRepository → Prop
  | createAsset {asset : Asset} (valid : validateAsset asset = .ok ()) :
      Move m (.createAsset asset) { m with assets := m.assets.put (cloneAsset asset) }
  | updateAsset {asset : Asset} {expectedVersion : UInt64} (valid : validateAsset asset = .ok ()) :
      Move m (.updateAsset asset expectedVersion)
        { m with assets := m.assets.put (cloneAsset asset) }
  | deleteAsset {installationID id : Bytes} {expectedVersion : UInt64} :
      Move m (.deleteAsset installationID id expectedVersion)
        { m with assets := m.assets.erase (composite [installationID, id]) }
  | putCredentialEnvelope {envelope : CredentialEnvelope} :
      Move m (.putCredentialEnvelope envelope)
        { m with credentials := m.credentials.put envelope }
  | createJob {job : Job} (valid : validateJob job = .ok ()) :
      Move m (.createJob job) { m with jobs := m.jobs.put job }
  | updateJob {job : Job} {expectedVersion : UInt64} (valid : validateJob job = .ok ()) :
      Move m (.updateJob job expectedVersion) { m with jobs := m.jobs.put job }
  | appendAudit {event : AuditEvent} (valid : validateAudit event = .ok ())
      (fresh : ∀ existing ∈ m.audits,
        ¬ (existing.installationID = event.installationID ∧ existing.id = event.id)) :
      Move m (.appendAudit event) { m with audits := m.audits ++ [event] }

theorem create_ok {α : Type} {parts : α → List Bytes} {record : α} {table after : Records parts}
    (done : create record table = .ok after) : after = table.put record := by
  simp only [create, bind_eq_ok, pure_eq_ok] at done
  obtain ⟨-, -, rfl⟩ := done
  rfl

theorem replace_ok {α : Type} {parts : α → List Bytes} {version : α → UInt64} {record : α}
    {expectedVersion : UInt64} {table after : Records parts}
    (done : replace version record expectedVersion table = .ok after) :
    after = table.put record := by
  simp only [replace, bind_eq_ok, pure_eq_ok] at done
  obtain ⟨-, -, -, -, rfl⟩ := done
  rfl

variable {next : MemoryRepository} {action : Action} {installationID : Bytes}

theorem Step.move {m : MemoryRepository} (stepped : Step m action next) : Move m action next := by
  unfold Step at stepped
  cases action with
  | createAsset asset =>
    simp only [MemoryRepository.call, MemoryRepository.createAsset, bind_eq_ok, mapError_eq_ok,
      pure_eq_ok] at stepped
    obtain ⟨⟨⟩, valid, assets, created, rfl⟩ := stepped
    rw [create_ok created]
    exact .createAsset valid
  | updateAsset asset expectedVersion =>
    simp only [MemoryRepository.call, MemoryRepository.updateAsset, bind_eq_ok, mapError_eq_ok,
      pure_eq_ok] at stepped
    obtain ⟨⟨⟩, valid, assets, replaced, rfl⟩ := stepped
    rw [replace_ok replaced]
    exact .updateAsset valid
  | deleteAsset installationID id expectedVersion =>
    simp only [MemoryRepository.call, MemoryRepository.deleteAsset, bind_eq_ok,
      pure_eq_ok] at stepped
    obtain ⟨-, -, -, -, rfl⟩ := stepped
    exact .deleteAsset
  | putCredentialEnvelope envelope =>
    simp only [MemoryRepository.call, MemoryRepository.putCredentialEnvelope, bind_eq_ok,
      pure_eq_ok] at stepped
    obtain ⟨-, -, credentials, created, rfl⟩ := stepped
    rw [create_ok created]
    exact .putCredentialEnvelope
  | createJob job =>
    simp only [MemoryRepository.call, MemoryRepository.createJob, bind_eq_ok, mapError_eq_ok,
      pure_eq_ok] at stepped
    obtain ⟨⟨⟩, valid, jobs, created, rfl⟩ := stepped
    rw [create_ok created]
    exact .createJob valid
  | updateJob job expectedVersion =>
    simp only [MemoryRepository.call, MemoryRepository.updateJob, bind_eq_ok, mapError_eq_ok,
      pure_eq_ok] at stepped
    obtain ⟨⟨⟩, valid, jobs, replaced, rfl⟩ := stepped
    rw [replace_ok replaced]
    exact .updateJob valid
  | appendAudit event =>
    simp only [MemoryRepository.call, MemoryRepository.appendAudit, bind_eq_ok, mapError_eq_ok,
      ensure_eq_ok, pure_eq_ok] at stepped
    obtain ⟨⟨⟩, valid, -, fresh, rfl⟩ := stepped
    exact .appendAudit valid fresh

theorem foldl_writePart (parts : List Bytes) : ∀ result : Bytes,
    parts.foldl writePart result =
      result ++ Joined.framed (fun n => bytes (toString n)) 58 124 parts := by
  induction parts with
  | nil => simp [Joined.framed]
  | cons part parts ih =>
    intro result
    rw [List.foldl_cons, ih, Joined.framed_cons, writePart]
    simp only [List.append_assoc, List.cons_append, List.nil_append]

theorem colon_notMem_digits (n : Nat) : 58 ∉ bytes (toString n) := by
  intro inside
  rw [bytes_eq_flatMap, List.mem_flatMap] at inside
  obtain ⟨c, member, encoded⟩ := inside
  have digit := Decimal.nat_chars n c member
  have range : 48 ≤ c.toNat ∧ c.toNat ≤ 57 := Char.isDigit_iff_toNat.mp digit
  have one : c.utf8Size = 1 := by
    rw [Char.utf8Size_eq_one_iff, UInt32.le_iff_toNat_le]
    exact range.2.trans (by decide)
  rw [String.utf8EncodeChar_eq_singleton one] at encoded
  have code := congrArg UInt8.toNat (List.mem_singleton.mp encoded)
  rw [UInt32.toNat_toUInt8] at code
  change 58 = c.toNat % 256 at code
  omega

theorem composite_injective : Function.Injective composite := by
  have same : composite = Joined.framed (fun n => bytes (toString n)) 58 124 := by
    funext parts
    exact foldl_writePart parts []
  rw [same]
  refine Joined.framed_injective ?_ colon_notMem_digits
  intro n m equal
  exact Decimal.toString_nat_injective (bytes_injective equal)

theorem formatUint_injective : Function.Injective formatUint := by
  intro one other same
  exact UInt64.toNat_inj.mp (Decimal.toString_nat_injective (bytes_injective same))

section Tables

variable {α : Type} {parts : α → List Bytes} {asked : List Bytes} {record : α}
  {table : Records parts}

theorem parts_of_find (found : find asked table = .ok record) : parts record = asked := by
  rw [find, orError_eq_ok] at found
  have same : composite (parts record) = composite asked := table.own _ record found
  exact composite_injective same

theorem find_put_of_ne (other : parts record ≠ asked) :
    find asked (table.put record) = find asked table := by
  have apart : composite asked ≠ composite (parts record) :=
    fun same => other (composite_injective same).symm
  rw [find, find, Keyed.get_put_of_ne table record apart]

theorem find_erase_of_ne {gone : List Bytes} (other : gone ≠ asked) :
    find asked (table.erase (composite gone)) = find asked table := by
  have apart : composite asked ≠ composite gone :=
    fun same => other (composite_injective same).symm
  rw [find, find, Keyed.get_erase, if_neg apart]

end Tables

/-- The IDs that name one record. -/
inductive Name
  | asset (installationID id : Bytes)
  | credential (installationID credentialID : Bytes) (version : UInt64)
  | job (installationID id : Bytes)
  deriving DecidableEq

/-- The record that a call writes or removes; an audit event has no key. -/
def Action.name : Action → Option Name
  | .createAsset asset => some (.asset (bytes asset.installationID) (bytes asset.id))
  | .updateAsset asset _ => some (.asset (bytes asset.installationID) (bytes asset.id))
  | .deleteAsset installationID id _ => some (.asset installationID id)
  | .putCredentialEnvelope envelope =>
    some (.credential (bytes envelope.installationID) (bytes envelope.credentialID)
      envelope.version)
  | .createJob job => some (.job (bytes job.installationID) (bytes job.id))
  | .updateJob job _ => some (.job (bytes job.installationID) (bytes job.id))
  | .appendAudit _ => none

theorem Move.getAsset_other {m : MemoryRepository} (moved : Move m action next) {id : Bytes}
    (other : action.name ≠ some (.asset installationID id)) :
    next.getAsset installationID id = m.getAsset installationID id := by
  cases moved with
  | createAsset _ | updateAsset _ =>
    simp only [MemoryRepository.getAsset]
    rw [find_put_of_ne]
    intro same
    simp only [assetParts, cloneAsset, List.cons.injEq, and_true] at same
    exact other (by rw [Action.name, same.1, same.2])
  | deleteAsset =>
    simp only [MemoryRepository.getAsset]
    rw [find_erase_of_ne]
    intro same
    simp only [List.cons.injEq, and_true] at same
    exact other (by rw [Action.name, same.1, same.2])
  | putCredentialEnvelope | createJob _ | updateJob _ | appendAudit _ _ => rfl

theorem Move.getCredentialEnvelope_other {m : MemoryRepository} (moved : Move m action next)
    {credentialID : Bytes} {version : UInt64}
    (other : action.name ≠ some (.credential installationID credentialID version)) :
    next.getCredentialEnvelope installationID credentialID version =
      m.getCredentialEnvelope installationID credentialID version := by
  cases moved with
  | putCredentialEnvelope =>
    simp only [MemoryRepository.getCredentialEnvelope]
    rw [find_put_of_ne]
    intro same
    simp only [credentialParts, List.cons.injEq, and_true] at same
    exact other (by rw [Action.name, same.1, same.2.1, formatUint_injective same.2.2])
  | createAsset _ | updateAsset _ | deleteAsset | createJob _ | updateJob _ | appendAudit _ _ =>
    rfl

theorem Move.getJob_other {m : MemoryRepository} (moved : Move m action next) {id : Bytes}
    (other : action.name ≠ some (.job installationID id)) :
    next.getJob installationID id = m.getJob installationID id := by
  cases moved with
  | createJob _ | updateJob _ =>
    simp only [MemoryRepository.getJob]
    rw [find_put_of_ne]
    intro same
    simp only [jobParts, List.cons.injEq, and_true] at same
    exact other (by rw [Action.name, same.1, same.2])
  | createAsset _ | updateAsset _ | deleteAsset | putCredentialEnvelope | appendAudit _ _ => rfl

/-- Equal keys are made of equal parts. So a record is found by its own installation, ID and
version only, and a call leaves every record as it is whose name is another. -/
theorem composite_unambiguous :
    (∀ parts others : List Bytes, composite parts = composite others → parts = others) ∧
    (∀ m : MemoryRepository,
      (∀ installationID id asset, m.getAsset installationID id = .ok asset →
        bytes asset.installationID = installationID ∧ bytes asset.id = id) ∧
      (∀ installationID credentialID version envelope,
        m.getCredentialEnvelope installationID credentialID version = .ok envelope →
        bytes envelope.installationID = installationID ∧
          bytes envelope.credentialID = credentialID ∧ envelope.version = version) ∧
      (∀ installationID id job, m.getJob installationID id = .ok job →
        bytes job.installationID = installationID ∧ bytes job.id = id)) ∧
    (∀ m action next, Step m action next →
      (∀ installationID id, action.name ≠ some (.asset installationID id) →
        next.getAsset installationID id = m.getAsset installationID id) ∧
      (∀ installationID credentialID version,
        action.name ≠ some (.credential installationID credentialID version) →
        next.getCredentialEnvelope installationID credentialID version =
          m.getCredentialEnvelope installationID credentialID version) ∧
      (∀ installationID id, action.name ≠ some (.job installationID id) →
        next.getJob installationID id = m.getJob installationID id)) := by
  refine ⟨fun _ _ same => composite_injective same, fun m => ⟨?_, ?_, ?_⟩, ?_⟩
  · intro installationID id asset found
    rw [MemoryRepository.getAsset] at found
    cases stored : find [installationID, id] m.assets with
    | error _ =>
      rw [stored] at found
      cases found
    | ok record =>
      rw [stored] at found
      cases found
      have same := parts_of_find stored
      simp only [assetParts, List.cons.injEq, and_true] at same
      exact same
  · intro installationID credentialID version envelope found
    have same := parts_of_find found
    simp only [credentialParts, List.cons.injEq, and_true] at same
    exact ⟨same.1, same.2.1, formatUint_injective same.2.2⟩
  · intro installationID id job found
    simpa [jobParts] using parts_of_find found
  · intro m action next stepped
    exact ⟨fun _ _ => stepped.move.getAsset_other,
      fun _ _ _ => stepped.move.getCredentialEnvelope_other, fun _ _ => stepped.move.getJob_other⟩

def Action.appended : Action → Option AuditEvent
  | .appendAudit event => some event
  | _ => none

def Action.updates (installationID id : Bytes) : Action → Bool
  | .updateJob job _ => bytes job.installationID == installationID && bytes job.id == id
  | _ => false

theorem audits_of_step {m : MemoryRepository} (stepped : Step m action next) :
    next.audits = m.audits ++ action.appended.toList := by
  cases stepped.move <;> simp [Action.appended]

theorem absent_of_create {α : Type} {parts : α → List Bytes} {record : α}
    {table after : Records parts} (done : create record table = .ok after) :
    ∀ found, find (parts record) table ≠ .ok found := by
  simp only [create, bind_eq_ok, ensure_eq_ok] at done
  obtain ⟨-, absent, -⟩ := done
  intro found there
  rw [find, orError_eq_ok] at there
  rw [there] at absent
  cases absent

theorem credential_of_step {m : MemoryRepository} (stepped : Step m action next)
    {credentialID : Bytes} {version : UInt64} {envelope : CredentialEnvelope}
    (found : m.getCredentialEnvelope installationID credentialID version = .ok envelope) :
    next.getCredentialEnvelope installationID credentialID version = .ok envelope := by
  rw [← found]
  apply stepped.move.getCredentialEnvelope_other
  intro named
  cases action with
  | putCredentialEnvelope written =>
    simp only [Step, MemoryRepository.call, MemoryRepository.putCredentialEnvelope,
      bind_eq_ok] at stepped
    obtain ⟨-, -, credentials, created, -⟩ := stepped
    cases named
    exact absent_of_create created envelope found
  | createAsset _ | updateAsset _ _ | deleteAsset _ _ _ | createJob _ | updateJob _ _
  | appendAudit _ => cases named

theorem job_of_step {m : MemoryRepository} (stepped : Step m action next) {id : Bytes} {job : Job}
    (found : m.getJob installationID id = .ok job) :
    ∃ later, next.getJob installationID id = .ok later ∧
      later.version = job.version + if action.updates installationID id then 1 else 0 := by
  by_cases named : action.name = some (.job installationID id)
  · cases action with
    | createJob written =>
      simp only [Step, MemoryRepository.call, MemoryRepository.createJob, bind_eq_ok] at stepped
      obtain ⟨-, -, jobs, created, -⟩ := stepped
      cases named
      exact absurd found (absent_of_create created job)
    | updateJob written expectedVersion =>
      simp only [Step, MemoryRepository.call, MemoryRepository.updateJob, replace, bind_eq_ok,
        ensure_eq_ok, pure_eq_ok] at stepped
      obtain ⟨-, -, jobs, ⟨current, present, -, agreed, rfl⟩, rfl⟩ := stepped
      cases named
      obtain rfl : current = job := Except.ok.inj (present.symm.trans found)
      obtain ⟨expected, raised⟩ := not_or.mp agreed
      rw [not_not] at expected raised
      refine ⟨written, ?_, ?_⟩
      · exact (orError_eq_ok _ _ _).mpr (Keyed.get_put_self m.jobs written)
      · simp [Action.updates, expected, raised]
    | createAsset _ | updateAsset _ _ | deleteAsset _ _ _ | putCredentialEnvelope _
    | appendAudit _ => cases named
  · refine ⟨job, (stepped.move.getJob_other named).trans found, ?_⟩
    have other : action.updates installationID id = false := by
      cases action <;> simp_all [Action.updates, Action.name]
    simp [other]

/-- Over any run the audit log is what it was, followed by the events appended, in order.
Stored credential envelopes are read back unchanged. Stored jobs stay, with a version that
has counted their updates. -/
theorem repository_remembers {m s : MemoryRepository} {actions : List Action}
    (ran : Machine.Run Step Machine.anyAction m actions s) :
    s.audits = m.audits ++ actions.filterMap Action.appended ∧
    (∀ installationID credentialID version envelope,
      m.getCredentialEnvelope installationID credentialID version = .ok envelope →
        s.getCredentialEnvelope installationID credentialID version = .ok envelope) ∧
    (∀ installationID id job, m.getJob installationID id = .ok job →
      ∃ later, s.getJob installationID id = .ok later ∧
        later.version = job.version +
          (actions.countP (Action.updates installationID id)).toUInt64) := by
  induction ran with
  | start => exact ⟨by simp, fun _ _ _ _ => id, fun _ _ job found => ⟨job, found, by simp⟩⟩
  | @take actions s next ran action _ stepped before =>
    obtain ⟨audits, credentials, jobs⟩ := before
    refine ⟨?_, ?_, ?_⟩
    · rw [audits_of_step stepped, audits]
      cases appended : action.appended <;> simp [appended]
    · intro installationID credentialID version envelope found
      exact credential_of_step stepped (credentials _ _ _ _ found)
    · intro installationID id job found
      obtain ⟨later, present, counted⟩ := jobs installationID id job found
      obtain ⟨last, present, raised⟩ := job_of_step stepped present
      refine ⟨last, present, ?_⟩
      rw [raised, counted, List.countP_append, List.countP_singleton]
      split <;> simp [UInt64.add_assoc]

def backup (version : UInt64) : Job where
  installationID := "inst_1"
  id := "job_1"
  type := "backup"
  assetID := "asset_1"
  state := "queued"
  requestedBy := "admin"
  requestID := ""
  idempotencyKey := ""
  parameters := none
  result := none
  errorCode := ""
  errorMessage := ""
  version := version
  createdAt := 0
  startedAt := none
  finishedAt := none
  updatedAt := 0

def withBackup (version : UInt64) (m : MemoryRepository) : MemoryRepository :=
  { m with jobs := m.jobs.put (backup version) }

theorem backup_updated_once :
    ∃ s later, Machine.Run Step Machine.anyAction (withBackup 1 newMemoryRepository)
        [.updateJob (backup 2) 1] s ∧
      s.getJob (bytes "inst_1") (bytes "job_1") = .ok later ∧ later.version = 2 := by
  have found : (withBackup 1 newMemoryRepository).getJob (bytes "inst_1") (bytes "job_1") =
      .ok (backup 1) :=
    (orError_eq_ok _ .notFound _).mpr (Keyed.get_put_self newMemoryRepository.jobs (backup 1))
  have valid : validateJob (backup 2) = .ok () := by
    simp only [validateJob, validateIdentifier, bind_eq_ok, ensure_eq_ok, mapError_eq_ok]
    exact ⟨(), by decide, (), by decide, (), by decide, (), by decide +kernel, (), .inl rfl, (),
      .inl rfl, (), rfl, (), rfl, by decide +kernel⟩
  have updated : Step (withBackup 1 newMemoryRepository) (.updateJob (backup 2) 1)
      (withBackup 2 (withBackup 1 newMemoryRepository)) := by
    simp only [Step, MemoryRepository.call, MemoryRepository.updateJob, replace, bind_eq_ok,
      mapError_eq_ok, ensure_eq_ok, pure_eq_ok]
    exact ⟨(), valid, _, ⟨_, found, (), by decide, rfl⟩, rfl⟩
  have ran : Machine.Run Step Machine.anyAction (withBackup 1 newMemoryRepository)
      [.updateJob (backup 2) 1] _ := Machine.Run.start.take _ trivial updated
  obtain ⟨later, present, counted⟩ := (repository_remembers ran).2.2 _ _ _ found
  exact ⟨_, later, ran, present, by rw [counted]; decide +kernel⟩

end VpsManager.Persistence.Repository
