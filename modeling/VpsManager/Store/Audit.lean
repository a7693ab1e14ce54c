import VpsManager.Control.Audit
import VpsManager.Store.Hosts

namespace VpsManager.Store

open Go Control Persistence Checks Sql

/-- A number that is not finite and a complex one have no text. The text of a
finite float is left to `floatText`. -/
def scalarJson (floatText : Float64 → String) : Scalar → Option Json
  | .bool value => some (.bool value)
  | .int value => some (.number (toString value))
  | .float value => if value.isFinite then some (.number (floatText value)) else none
  | .complex _ _ => none
  | .string text => some (.string text)

mutual

def plainJson (floatText : Float64 → String) : Plain → Json
  | .nil => .null
  | .scalar value => (scalarJson floatText value).getD .null
  | .slice items => .array (itemsJson floatText items)
  | .map entries => .object (entriesJson floatText entries)

def itemsJson (floatText : Float64 → String) : List Plain → List Json
  | [] => []
  | item :: items => plainJson floatText item :: itemsJson floatText items

def entriesJson (floatText : Float64 → String) : List (String × Plain) → List (String × Json)
  | [] => []
  | (key, value) :: entries => (key, plainJson floatText value) :: entriesJson floatText entries

end

def encodable (floatText : Float64 → String) (value : Scalar) : Bool :=
  (scalarJson floatText value).isSome

/-- `json.Marshal`, which fails if any value within has no text. -/
def marshal (floatText : Float64 → String) (value : Plain) : Option Json :=
  if value.all (fun _ => true) (encodable floatText) then some (plainJson floatText value)
  else none

/-- `json.Marshal` of sanitized details; the nil map is `null`. -/
def marshalDetails (floatText : Float64 → String) (details : Option (List (String × Plain))) :
    Option Json :=
  match details with
  | none => some .null
  | some entries => marshal floatText (.map entries)

/-- The event `AppendAudit` hands on, with its details sanitized once more. -/
def persistedAudit (floatText : Float64 → String) (installation : InstallationID)
    (event : Control.AuditEvent) : Option Persistence.AuditEvent := do
  let details ← marshalDetails floatText (sanitizeDetails event.details)
  return {
    installationID := installation.val
    id := event.id
    timestamp := event.timestamp
    actor := event.actor
    role := event.role.name
    action := event.action
    targetType := event.targetType
    targetID := event.targetID
    outcome := event.outcome
    requestID := event.requestID
    jobID := ""
    details := some details }

/-- Nothing refuses the event for its details: neither `json.Marshal`, nor
`validateAudit`, nor the column they go to. -/
def Appended (floatText : Float64 → String) (installation : InstallationID)
    (event : Control.AuditEvent) : Prop :=
  ∃ persisted, persistedAudit floatText installation event = some persisted ∧
    validateAudit persisted = .ok () ∧
    ∃ column, jsonb (normalizedJSON persisted.details) = some column ∧
      passes (auditDetailsCheck column)

def scalarNulFree : Scalar → Bool
  | .string text => nulFree text
  | _ => true

theorem scalarJson_leaf (floatText : Float64 → String) (value : Scalar) (depth : Nat) :
    containsSecretField depth ((scalarJson floatText value).getD .null) = decide (64 < depth) ∧
      ((scalarJson floatText value).getD .null).allStrings nulFree = scalarNulFree value := by
  cases value with
  | float x => by_cases finite : x.isFinite = true <;> simp [scalarJson, finite,
      containsSecretField, Json.allStrings, scalarNulFree]
  | _ => simp [scalarJson, containsSecretField, Json.allStrings, scalarNulFree]

mutual

/-- Within the depth that is searched, a secret is found by its name. -/
theorem containsSecretField_json (floatText : Float64 → String) :
    ∀ (value : Plain) (depth : Nat), depth + value.height ≤ 64 →
      containsSecretField depth (plainJson floatText value) =
        !value.all (fun key => !isSecretField key) (fun _ => true)
  | .nil, depth, shallow => by
    simp only [Plain.height] at shallow
    have here : ¬ 64 < depth := by omega
    simp [plainJson, containsSecretField, Plain.all, here]
  | .scalar value, depth, shallow => by
    simp only [Plain.height] at shallow
    have here : ¬ 64 < depth := by omega
    simp [plainJson, (scalarJson_leaf floatText value depth).1, Plain.all, here]
  | .slice items, depth, shallow => by
    simp only [Plain.height] at shallow
    have here : ¬ 64 < depth := by omega
    simp only [plainJson, containsSecretField, Plain.all, here,
      itemsContainSecret_json floatText items (depth + 1) (by omega), decide_false,
      Bool.false_or]
  | .map entries, depth, shallow => by
    simp only [Plain.height] at shallow
    have here : ¬ 64 < depth := by omega
    simp only [plainJson, containsSecretField, Plain.all, here,
      membersContainSecret_json floatText entries (depth + 1) (by omega), decide_false,
      Bool.false_or]

theorem itemsContainSecret_json (floatText : Float64 → String) :
    ∀ (items : List Plain) (depth : Nat), depth + itemsHeight items ≤ 64 →
      itemsContainSecret depth (itemsJson floatText items) =
        !itemsAll (fun key => !isSecretField key) (fun _ => true) items
  | [], depth, shallow => rfl
  | item :: items, depth, shallow => by
    simp only [itemsHeight] at shallow
    simp only [itemsJson, itemsContainSecret, itemsAll,
      containsSecretField_json floatText item depth (by omega),
      itemsContainSecret_json floatText items depth (by omega), Bool.not_and]

theorem membersContainSecret_json (floatText : Float64 → String) :
    ∀ (entries : List (String × Plain)) (depth : Nat), depth + entriesHeight entries ≤ 64 →
      membersContainSecret depth (entriesJson floatText entries) =
        !entriesAll (fun key => !isSecretField key) (fun _ => true) entries
  | [], depth, shallow => rfl
  | (key, value) :: entries, depth, shallow => by
    simp only [entriesHeight] at shallow
    simp only [entriesJson, membersContainSecret, entriesAll,
      containsSecretField_json floatText value depth (by omega),
      membersContainSecret_json floatText entries depth (by omega), Bool.not_and, Bool.not_not]

end

mutual

theorem allStrings_json (floatText : Float64 → String) :
    ∀ value : Plain,
      (plainJson floatText value).allStrings nulFree = value.all nulFree scalarNulFree
  | .nil => rfl
  | .scalar value => (scalarJson_leaf floatText value 0).2
  | .slice items => allItems_json floatText items
  | .map entries => allMembers_json floatText entries

theorem allItems_json (floatText : Float64 → String) :
    ∀ items : List Plain,
      Json.allItems nulFree (itemsJson floatText items) = itemsAll nulFree scalarNulFree items
  | [] => rfl
  | item :: items => by
    simp only [itemsJson, Json.allItems, itemsAll, allStrings_json floatText item,
      allItems_json floatText items]

theorem allMembers_json (floatText : Float64 → String) :
    ∀ entries : List (String × Plain),
      Json.allMembers nulFree (entriesJson floatText entries) =
        entriesAll nulFree scalarNulFree entries
  | [] => rfl
  | (key, value) :: entries => by
    simp only [entriesJson, Json.allMembers, entriesAll, allStrings_json floatText value,
      allMembers_json floatText entries]

end

theorem validateSafeJSONObject_iff (floatText : Float64 → String) (entries : List (String × Plain))
    (shallow : entriesHeight entries ≤ 13) :
    validateSafeJSONObject (some (plainJson floatText (.map entries))) = .ok () ↔
      len (plainJson floatText (.map entries)).encode ≤ maxJSONBytes ∧
        entriesAll (fun key => !isSecretField key) (fun _ => true) entries = true := by
  have searched := containsSecretField_json floatText (.map entries) 0
    (by simp only [Plain.height]; omega)
  simp only [Plain.all] at searched
  simp only [validateSafeJSONObject, validateSafeJSON, bind_eq_ok, ensure_eq_ok, searched,
    Bool.not_eq_false']
  constructor
  · rintro ⟨_, ⟨_, size, names⟩, -⟩
    exact ⟨size, names⟩
  · rintro ⟨size, names⟩
    exact ⟨(), ⟨(), size, names⟩, rfl⟩

/-- The nil map is written as `null`, which is no object. -/
theorem validateSafeJSONObject_null : validateSafeJSONObject (some .null) ≠ .ok () := by
  intro valid
  simp only [validateSafeJSONObject, bind_eq_ok, ensure_eq_ok] at valid
  obtain ⟨_, -, object⟩ := valid
  exact absurd object (by decide)

theorem marshalDetails_eq_some {floatText : Float64 → String}
    {details : Option (List (String × Plain))} {value : Json} :
    marshalDetails floatText details = some value ↔
      (details = none ∧ .null = value) ∨
        ∃ entries, details = some entries ∧
          entriesAll (fun _ => true) (encodable floatText) entries = true ∧
          plainJson floatText (.map entries) = value := by
  cases details with
  | none => simp [marshalDetails]
  | some entries =>
    by_cases all : entriesAll (fun _ => true) (encodable floatText) entries = true <;>
      simp [marshalDetails, marshal, Plain.all, all]

section Append

variable {floatText : Float64 → String} {installation : InstallationID} {raw : Bytes} {now : Int}
  {requestID : String} {principal : Principal} {action targetType targetID outcome : String}

/-- What is left to decide about a complete event is in its details. -/
theorem appended_details_iff (details : Details) (drawn : raw.length = 16)
    (complete : principal.subject ≠ "" ∧ action ≠ "" ∧ targetType ≠ "" ∧ outcome ≠ "") :
    Appended floatText installation
        (auditWithRequestID raw now requestID principal action targetType targetID outcome
          details) ↔
      ∃ value, marshalDetails floatText (sanitizeDetails details) = some value ∧
        validateSafeJSONObject (some value) = .ok () ∧ value.allStrings nulFree = true ∧
        value.typeName = "object" := by
  have identifier : identifierPattern (newID "audit" raw) = true :=
    identifierPattern_newID (by decide) (by decide) drawn
  have whole : ¬ (principal.subject = "" ∨ action = "" ∨ targetType = "" ∨ outcome = "") := by
    tauto
  simp only [Appended, persistedAudit, auditWithRequestID, sanitizeDetails_again, bind,
    Option.bind_eq_some_iff, pure, Option.some.injEq]
  constructor
  · rintro ⟨_, ⟨value, marshalled, rfl⟩, valid, column, sent, object⟩
    simp only [validateAudit, bind_eq_ok, mapError_eq_ok] at valid
    obtain ⟨_, -, _, -, _, -, safe⟩ := valid
    obtain ⟨clean, rfl⟩ := jsonb_eq_some.mp sent
    exact ⟨value, marshalled, safe, clean, (passes_test _).mp object⟩
  · rintro ⟨value, marshalled, safe, clean, object⟩
    refine ⟨_, ⟨value, marshalled, rfl⟩, ?_, value, jsonb_eq_some.mpr ⟨clean, rfl⟩,
      (passes_test _).mpr object⟩
    simp only [validateAudit, validateIdentifier, bind_eq_ok, ensure_eq_ok, mapError_eq_ok]
    exact ⟨(), installation.property, (), identifier, (), whole, safe⟩

end Append

/-- Details that can be stored, by the keys and scalars the sanitizer shows. -/
structure SafeDetails (floatText : Float64 → String) (entries : List (String × Value)) : Prop where
  /-- No key is the name of a secret. -/
  names : entriesShow (fun key => !isSecretField key) (fun _ => true) 0 entries = true
  numbers : entriesShow (fun _ => true) (encodable floatText) 0 entries = true
  texts : entriesShow nulFree scalarNulFree 0 entries = true

/-- The text of the sanitized details is within the limit. -/
def WithinSize (floatText : Float64 → String) (details : Details) : Prop :=
  ∀ value, marshalDetails floatText (sanitizeDetails details) = some value →
    len value.encode ≤ maxJSONBytes

theorem allowsPlaceholders_encodable (floatText : Float64 → String) :
    AllowsPlaceholders (encodable floatText) :=
  fun _ _ => rfl

theorem allowsPlaceholders_nulFree : AllowsPlaceholders scalarNulFree := by
  intro text placeholder
  cases placeholder with
  | binary length =>
    rw [scalarNulFree, nulFree_append, nulFree_append, nulFree_toString]
    decide
  | _ => decide

/-- A complete event whose details are not too long is appended exactly if they are
present and no key the sanitizer shows is the name of a secret, no number without a
text is shown and no NUL. -/
theorem appended_iff (floatText : Float64 → String) (installation : InstallationID) (raw : Bytes)
    (now : Int) (requestID : String) (principal : Principal)
    (action targetType targetID outcome : String) (details : Details) (drawn : raw.length = 16)
    (complete : principal.subject ≠ "" ∧ action ≠ "" ∧ targetType ≠ "" ∧ outcome ≠ "")
    (size : WithinSize floatText details) :
    Appended floatText installation
        (auditWithRequestID raw now requestID principal action targetType targetID outcome
          details) ↔
      ∃ entries, details = some entries ∧ SafeDetails floatText entries := by
  rw [appended_details_iff details drawn complete]
  constructor
  · rintro ⟨value, marshalled, safe, clean, -⟩
    rcases marshalDetails_eq_some.mp marshalled with ⟨-, rfl⟩ | ⟨sanitized, same, numbers, rfl⟩
    · exact absurd safe validateSafeJSONObject_null
    · obtain ⟨entries, rfl, rfl⟩ := Option.map_eq_some_iff.mp same
      obtain ⟨-, names⟩ :=
        (validateSafeJSONObject_iff floatText _ (sanitizeEntries_height 0 entries)).mp safe
      rw [allStrings_json, Plain.all, sanitizeEntries_all allowsPlaceholders_nulFree] at clean
      rw [sanitizeEntries_all (allowsPlaceholders_encodable floatText)] at numbers
      rw [sanitizeEntries_all fun _ _ => rfl] at names
      exact ⟨entries, rfl, names, numbers, clean⟩
  · rintro ⟨entries, rfl, safe⟩
    have marshalled : marshalDetails floatText (sanitizeDetails (some entries)) =
        some (plainJson floatText (.map (sanitizeEntries 0 entries))) := by
      refine marshalDetails_eq_some.mpr (.inr ⟨_, rfl, ?_, rfl⟩)
      rw [sanitizeEntries_all (allowsPlaceholders_encodable floatText)]
      exact safe.numbers
    refine ⟨_, marshalled, ?_, ?_, rfl⟩
    · refine (validateSafeJSONObject_iff floatText _ (sanitizeEntries_height 0 entries)).mpr
        ⟨size _ marshalled, ?_⟩
      rw [sanitizeEntries_all fun _ _ => rfl]
      exact safe.names
    · rw [allStrings_json, Plain.all, sanitizeEntries_all allowsPlaceholders_nulFree]
      exact safe.texts

theorem sessionCreated_lost :
    ¬ ∀ (floatText : Float64 → String) (installation : InstallationID) (raw : Bytes) (now : Int)
        (requestID : String) (principal : Principal) (action targetType targetID outcome : String)
        (details : Details), raw.length = 16 →
      (principal.subject ≠ "" ∧ action ≠ "" ∧ targetType ≠ "" ∧ outcome ≠ "") →
      WithinSize floatText details →
      Appended floatText installation
        (auditWithRequestID raw now requestID principal action targetType targetID outcome
          details) := by
  intro always
  have complete : sampleOperator.subject ≠ "" ∧ "session.created" ≠ "" ∧ "session" ≠ "" ∧
      "success" ≠ "" := by
    decide
  have size : WithinSize (fun _ => "0") none := by
    intro value marshalled
    cases marshalled
    decide
  have appended := always (fun _ => "0") sampleInstallation (List.replicate 16 7) 0 "req_1"
    sampleOperator "session.created" "session" "" "success" none rfl complete size
  obtain ⟨value, marshalled, safe, -⟩ := (appended_details_iff none rfl complete).mp appended
  cases marshalled
  exact validateSafeJSONObject_null safe

theorem hostCreated_appended :
    Appended (fun _ => "0") sampleInstallation
      (auditWithRequestID (List.replicate 16 7) 0 "req_1" sampleOperator "host.created" "host"
        "host_1" "success" (some [("name", .scalar (.string "web"))])) := by
  have size : WithinSize (fun _ => "0") (some [("name", .scalar (.string "web"))]) := by
    intro value marshalled
    cases marshalled
    decide +kernel
  refine (appended_iff _ _ _ _ _ _ _ _ _ _ _ rfl (by decide) size).mpr ⟨_, rfl, ?_⟩
  exact ⟨by decide +kernel, by decide +kernel, by decide +kernel⟩

end VpsManager.Store
