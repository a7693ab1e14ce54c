import VpsManager.Control.Memory
import VpsManager.Lib.Sql
import VpsManager.Persistence.Types

namespace VpsManager.Persistence

open Go Control Checks Sql

/-- A `timestamptz` holds whole microseconds. -/
def timestamptz (t : Int) : Int := t / 1000

/-- A `bigint` has a sign, so half of the unsigned numbers do not fit. -/
def bigint (n : UInt64) : Option Int := if n.toNat < 2 ^ 63 then some n.toNat else none

/-- A `bigint` that is read into an unsigned number. -/
def ofBigint (n : Int) : Option UInt64 := if 0 ≤ n then some (UInt64.ofNat n.toNat) else none

/-- There is no NUL in a text of the database. -/
def nulFree (text : String) : Bool := !text.toList.contains '\x00'

def sqlText (text : String) : Option String := if nulFree text then some text else none

/-- A `jsonb`, whose strings are texts. -/
def jsonb (value : Json) : Option Json := if value.allStrings nulFree then some value else none

theorem sqlText_eq_some {text sent : String} :
    sqlText text = some sent ↔ nulFree text = true ∧ text = sent := by
  unfold sqlText
  split <;> simp_all

theorem jsonb_eq_some {value sent : Json} :
    jsonb value = some sent ↔ value.allStrings nulFree = true ∧ value = sent := by
  unfold jsonb
  split <;> simp_all

theorem bigint_eq_some {n : UInt64} {sent : Int} :
    bigint n = some sent ↔ n.toNat < 2 ^ 63 ∧ (n.toNat : Int) = sent := by
  unfold bigint
  split <;> simp_all

@[simp] theorem ofBigint_toNat (n : UInt64) : ofBigint (n.toNat : Int) = some n := by
  rw [ofBigint, if_pos (Int.natCast_nonneg _), Int.toNat_natCast, UInt64.ofNat_toNat]

theorem nulFree_of_forall {text : String} (positive : ∀ c ∈ text.toList, 0 < c.toNat) :
    nulFree text = true := by
  simp only [nulFree, Bool.not_eq_true', List.contains_eq_mem, decide_eq_false_iff_not]
  intro member
  exact absurd (positive _ member) (by decide)

theorem nulFree_append (opening closing : String) :
    nulFree (opening ++ closing) = (nulFree opening && nulFree closing) := by
  simp [nulFree, String.toList_append]

theorem nulFree_toString (n : Nat) : nulFree (toString n) = true := by
  refine nulFree_of_forall ?_
  intro c digit
  rw [Nat.toString_eq_repr, Nat.toList_repr] at digit
  have isDigit := Nat.isDigit_of_mem_toDigits (by decide) (by decide) digit
  simp only [Char.isDigit, ge_iff_le, Bool.and_eq_true, decide_eq_true_eq,
    UInt32.le_iff_toNat_le] at isDigit
  change 48 ≤ c.toNat ∧ c.toNat ≤ 57 at isDigit
  omega

def nullString (text : String) : Option String := if text = "" then none else some text

/-- `char_length(text) BETWEEN least AND most`. -/
def lengthBetween (least most : Nat) (text : String) : Bool :=
  least ≤ text.length && text.length ≤ most

@[simp] theorem lengthBetween_iff (least most : Nat) (text : String) :
    lengthBetween least most text = true ↔ least ≤ text.length ∧ text.length ≤ most := by
  simp [lengthBetween]

theorem timestamptz_mono {t later : Int} (forward : t ≤ later) :
    timestamptz t ≤ timestamptz later :=
  Int.ediv_le_ediv (by decide) forward

/-- Any error of the database that is neither a missing row nor a conflict. -/
def operationFailed : StoreError := .other "PostgreSQL operation failed"

/-- The texts of a statement can be sent. -/
def sendTexts (texts : List String) : Except StoreError Unit :=
  ensure (∀ text ∈ texts, nulFree text = true) operationFailed

structure AssetRow where
  installationID : String
  id : String
  name : String
  address : String
  port : Int
  username : String
  labels : Json
  hostKey : Option Json
  version : Int
  createdAt : Int
  updatedAt : Int

def assetsChecks : List (AssetRow → Truth) :=
  [fun row => test (lengthBetween 1 200 row.name = true),
    fun row => test (lengthBetween 1 255 row.address = true),
    fun row => test (1 ≤ row.port ∧ row.port ≤ 65535),
    fun row => test (lengthBetween 1 128 row.username = true),
    fun row => test (row.labels.typeName = "object"),
    fun row => test (row.version ≥ 0),
    fun row => test (row.updatedAt ≥ row.createdAt)]

structure EnvelopeRow where
  installationID : String
  credentialID : String
  version : Int
  kind : String
  keyID : String
  ciphertext : Bytes
  cipherNonce : Bytes
  wrappedKey : Bytes
  wrappedKeyNonce : Bytes
  metadata : Json
  createdAt : Int

def EnvelopeRow.key (row : EnvelopeRow) : String × Int := (row.credentialID, row.version)

def credentialEnvelopesChecks : List (EnvelopeRow → Truth) :=
  [fun row => test (row.version > 0),
    fun row => test (lengthBetween 1 128 row.kind = true),
    fun row => test (lengthBetween 1 512 row.keyID = true),
    fun row => test (row.ciphertext.length > 0),
    fun row => test (row.wrappedKey.length > 0),
    fun row => test (row.metadata.typeName = "object")]

structure JobRow where
  installationID : String
  id : String
  type : String
  assetID : String
  state : String
  requestedBy : String
  requestID : Option String
  idempotencyKey : Option String
  parameters : Json
  result : Json
  errorCode : Option String
  errorMessage : Option String
  version : Int
  createdAt : Int
  startedAt : Option Int
  finishedAt : Option Int
  updatedAt : Int

def jobsChecks : List (JobRow → Truth) :=
  [fun row => test (lengthBetween 1 128 row.type = true),
    fun row => test (row.state ∈ jobStates),
    fun row => test (lengthBetween 1 256 row.requestedBy = true),
    fun row => either (isNull row.errorMessage)
      (test₁ (fun message => message.length ≤ 4096) row.errorMessage),
    fun row => test (row.version ≥ 0),
    fun row => test (row.parameters.typeName = "object"),
    fun row => test (row.result.typeName = "object"),
    fun row => test (row.updatedAt ≥ row.createdAt),
    fun row => either (isNull row.startedAt) (test₁ (fun t => t ≥ row.createdAt) row.startedAt),
    fun row => either (isNull row.finishedAt) (isNotNull row.startedAt)]

/-- A row of `current_secret_bindings`. Its only foreign key is to its envelope. -/
structure BindingRow where
  installationID : String
  scopeType : String
  scopeID : String
  credentialID : String
  credentialVersion : Int
  updatedAt : Int
  deriving DecidableEq, Repr

def BindingRow.scope (row : BindingRow) : String × String := (row.scopeType, row.scopeID)

def currentSecretBindingsChecks : List (BindingRow → Truth) :=
  [fun row => test (row.scopeType ∈ ["host", "cloudflare_worker"]),
    fun row => test (row.credentialVersion > 0)]

structure DeploymentRow where
  installationID : String
  id : String
  workerID : String
  versionID : String
  previousDesiredVersionID : Option String
  kind : String
  state : String
  providerExecutionAllowed : Bool
  providerVersionID : Option String
  providerDeploymentID : Option String
  providerState : Option String
  errorCode : Option String
  startedAt : Option Int
  finishedAt : Option Int
  createdAt : Int
  createdBy : String
  deriving DecidableEq, Repr

def isErrorCodeChar (c : Char) : Bool := isLowerASCII c || isDigitASCII c || c == '_'

/-- `error_code ~ '^[a-z0-9_]{1,128}$'`. -/
def errorCodePattern (text : String) : Bool :=
  lengthBetween 1 128 text && text.toList.all isErrorCodeChar

/-- `cloudflare_deployments_execution_lifecycle_check`. -/
def executionLifecycleCheck (row : DeploymentRow) : Truth :=
  let ready := both (test (row.state = "ready_for_provider")) <|
    both (test (row.providerExecutionAllowed = false)) <|
    both (isNull row.startedAt) <| both (isNull row.finishedAt) (isNull row.errorCode)
  let running := both (test (row.state = "running")) <|
    both (test (row.providerExecutionAllowed = true)) <|
    both (isNotNull row.startedAt) <| both (isNull row.finishedAt) (isNull row.errorCode)
  let succeeded := both (test (row.state = "succeeded")) <|
    both (test (row.providerExecutionAllowed = true)) <|
    both (isNotNull row.startedAt) <| both (isNotNull row.finishedAt) <|
    both (isNotNull row.providerVersionID) <| both (isNotNull row.providerDeploymentID) <|
    both (test₁ (fun state => state = "active") row.providerState) (isNull row.errorCode)
  let failed := both (test (row.state = "failed")) <|
    both (test (row.providerExecutionAllowed = true)) <|
    both (isNotNull row.startedAt) <| both (isNotNull row.finishedAt) (isNotNull row.errorCode)
  either ready (either running (either succeeded failed))

/-- `cloudflare_deployments_provider_identifiers_check`. -/
def providerIdentifiersCheck (row : DeploymentRow) : Truth :=
  both (either (isNull row.providerVersionID)
    (test₁ (lengthBetween 1 128) row.providerVersionID)) <|
  both (either (isNull row.providerDeploymentID)
    (test₁ (lengthBetween 1 128) row.providerDeploymentID)) <|
  both (either (isNull row.providerState)
    (test₁ (fun state => ["pending", "active"].contains state) row.providerState))
  (either (isNull row.errorCode) (test₁ errorCodePattern row.errorCode))

/-- `cloudflare_deployments_execution_time_check`. -/
def executionTimeCheck (row : DeploymentRow) : Truth :=
  both (either (isNull row.startedAt) (test₁ (fun t => row.createdAt ≤ t) row.startedAt))
  (either (isNull row.finishedAt)
    (both (isNotNull row.startedAt)
      (test₂ (fun started finished => started ≤ finished) row.startedAt row.finishedAt)))

def cloudflareDeploymentsChecks : List (DeploymentRow → Truth) :=
  [fun row => test (row.kind ∈ ["deploy", "rollback"]),
    fun row => test (lengthBetween 1 256 row.createdBy = true),
    fun row => test (row.state ∈ ["ready_for_provider", "running", "succeeded", "failed"]),
    executionLifecycleCheck, providerIdentifiersCheck, executionTimeCheck]

/-- The constraint on the details of an audit event. -/
def auditDetailsCheck (details : Json) : Truth := test (details.typeName = "object")

end VpsManager.Persistence
