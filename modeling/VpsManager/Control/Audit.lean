import VpsManager.Control.Model

namespace VpsManager.Control

open Go

inductive Scalar
  | bool (value : Bool)
  | int (value : Int)
  | float (value : Float64)
  | complex (real imaginary : Float64)
  | string (text : String)
  deriving DecidableEq, Repr

/-- A value a handler may pass: any nesting of maps, slices, pointers and scalars.
The entries of a map are in the order of their keys. -/
inductive Value
  | nil
  | scalar (value : Scalar)
  | bytes (raw : Bytes)
  | slice (items : List Value)
  | map (entries : List (String × Value))
  /-- A map whose keys are no strings. -/
  | otherMap
  | pointer (target : Option Value)

/-- A value the sanitizer leaves. -/
inductive Plain
  | nil
  | scalar (value : Scalar)
  | slice (items : List Plain)
  | map (entries : List (String × Plain))

def sensitiveFragments : List String :=
  ["secret", "token", "password", "passphrase", "privatekey", "private_key", "authorization",
    "cookie", "ciphertext", "wrappedkey", "wrapped_key"]

def sensitiveKey (key : String) : Bool :=
  let normalized := toLower (removeAll (removeAll key '-') '_')
  sensitiveFragments.any fun fragment => contains normalized (removeAll fragment '_')

def Plain.text (text : String) : Plain := .scalar (.string text)

mutual

def sanitizeValue (depth : Nat) : Value → Plain
  | .nil => .nil
  | .scalar value => if 12 < depth then .text "[maximum depth]" else .scalar value
  | .bytes raw =>
    if 12 < depth then .text "[maximum depth]"
    else .text ("[binary:" ++ toString raw.length ++ " bytes]")
  | .otherMap => if 12 < depth then .text "[maximum depth]" else .text "[unsupported map]"
  | .map entries =>
    if 12 < depth then .text "[maximum depth]" else .map (sanitizeEntries (depth + 1) entries)
  | .slice items =>
    if 12 < depth then .text "[maximum depth]" else .slice (sanitizeItems (depth + 1) items)
  | .pointer none => if 12 < depth then .text "[maximum depth]" else .nil
  | .pointer (some target) =>
    if 12 < depth then .text "[maximum depth]" else sanitizeValue (depth + 1) target

def sanitizeItems (depth : Nat) : List Value → List Plain
  | [] => []
  | item :: items => sanitizeValue depth item :: sanitizeItems depth items

/-- The value of a sensitive key is left out, the key itself is kept. -/
def sanitizeEntries (depth : Nat) : List (String × Value) → List (String × Plain)
  | [] => []
  | (key, value) :: entries =>
    (key, if sensitiveKey key then .text "[redacted]" else sanitizeValue depth value) ::
      sanitizeEntries depth entries

end

/-- The details of an event; absent ones are the nil map. -/
abbrev Details := Option (List (String × Value))

def sanitizeDetails (details : Details) : Option (List (String × Plain)) :=
  details.map (sanitizeEntries 0)

mutual

/-- What the sanitizer left, as any value. -/
def Plain.toValue : Plain → Value
  | .nil => .nil
  | .scalar value => .scalar value
  | .slice items => .slice (itemsToValue items)
  | .map entries => .map (entriesToValue entries)

def itemsToValue : List Plain → List Value
  | [] => []
  | item :: items => item.toValue :: itemsToValue items

def entriesToValue : List (String × Plain) → List (String × Value)
  | [] => []
  | (key, value) :: entries => (key, value.toValue) :: entriesToValue entries

end

/-- Beyond the greatest depth nothing but a nil value is left. -/
theorem sanitizeValue_deep (value : Value) (depth : Nat) (deep : 12 < depth) :
    sanitizeValue depth value = .nil ∨ sanitizeValue depth value = .text "[maximum depth]" := by
  cases value with
  | nil => exact .inl rfl
  | pointer target => cases target <;> simp [sanitizeValue, deep]
  | _ => simp [sanitizeValue, deep]

theorem sanitizeValue_text (depth : Nat) (text : String)
    (kept : depth ≤ 12 ∨ text = "[maximum depth]") :
    sanitizeValue depth (Plain.text text).toValue = .text text := by
  simp only [Plain.text, Plain.toValue, sanitizeValue]
  split
  · rename_i deep
    rcases kept with shallow | rfl
    · omega
    · rfl
  · rfl

mutual

/-- Sanitizing what is sanitized already changes nothing, at no greater depth. -/
theorem sanitizeValue_again (depth again : Nat) (shallower : again ≤ depth) :
    ∀ value : Value,
      sanitizeValue again (sanitizeValue depth value).toValue = sanitizeValue depth value := by
  intro value
  by_cases deep : 12 < depth
  · rcases sanitizeValue_deep value depth deep with empty | maximum
    · rw [empty]
      rfl
    · rw [maximum]
      exact sanitizeValue_text again _ (.inr rfl)
  · have shallow : ¬ 12 < again := by omega
    match value with
    | .nil => rfl
    | .scalar value => simp only [sanitizeValue, deep, shallow, ↓reduceIte, Plain.toValue]
    | .bytes raw =>
      simp only [sanitizeValue, deep, ↓reduceIte]
      exact sanitizeValue_text again _ (.inl (Nat.not_lt.mp shallow))
    | .otherMap =>
      simp only [sanitizeValue, deep, ↓reduceIte]
      exact sanitizeValue_text again _ (.inl (Nat.not_lt.mp shallow))
    | .pointer none =>
      simp only [sanitizeValue, deep, ↓reduceIte]
      rfl
    | .pointer (some target) =>
      simp only [sanitizeValue, deep, ↓reduceIte]
      exact sanitizeValue_again (depth + 1) again (by omega) target
    | .slice items =>
      simp only [sanitizeValue, deep, shallow, ↓reduceIte, Plain.toValue]
      rw [sanitizeItems_again (depth + 1) (again + 1) (by omega) items]
    | .map entries =>
      simp only [sanitizeValue, deep, shallow, ↓reduceIte, Plain.toValue]
      rw [sanitizeEntries_again (depth + 1) (again + 1) (by omega) entries]

theorem sanitizeItems_again (depth again : Nat) (shallower : again ≤ depth) :
    ∀ items : List Value,
      sanitizeItems again (itemsToValue (sanitizeItems depth items)) = sanitizeItems depth items
  | [] => rfl
  | item :: items => by
    simp only [sanitizeItems, itemsToValue, sanitizeValue_again depth again shallower item,
      sanitizeItems_again depth again shallower items]

theorem sanitizeEntries_again (depth again : Nat) (shallower : again ≤ depth) :
    ∀ entries : List (String × Value),
      sanitizeEntries again (entriesToValue (sanitizeEntries depth entries)) =
        sanitizeEntries depth entries
  | [] => rfl
  | (key, value) :: entries => by
    simp only [sanitizeEntries, entriesToValue,
      sanitizeEntries_again depth again shallower entries]
    by_cases sensitive : sensitiveKey key = true
    · simp only [sensitive, ↓reduceIte]
    · simp only [sensitive, Bool.false_eq_true, ↓reduceIte,
        sanitizeValue_again depth again shallower value]

end

theorem sanitizeDetails_again (details : Details) :
    sanitizeDetails ((sanitizeDetails details).map entriesToValue) = sanitizeDetails details := by
  cases details with
  | none => rfl
  | some entries => exact congrArg some (sanitizeEntries_again 0 0 (Nat.le_refl 0) entries)

mutual

/-- How many maps and slices are nested. -/
def Plain.height : Plain → Nat
  | .nil | .scalar _ => 0
  | .slice items => itemsHeight items + 1
  | .map entries => entriesHeight entries + 1

def itemsHeight : List Plain → Nat
  | [] => 0
  | item :: items => max item.height (itemsHeight items)

def entriesHeight : List (String × Plain) → Nat
  | [] => 0
  | (_, value) :: entries => max value.height (entriesHeight entries)

end

mutual

theorem sanitizeValue_height (depth : Nat) :
    ∀ value : Value, (sanitizeValue depth value).height ≤ 13 - depth := by
  intro value
  by_cases deep : 12 < depth
  · rcases sanitizeValue_deep value depth deep with empty | maximum
    · rw [empty]
      exact Nat.zero_le _
    · rw [maximum]
      exact Nat.zero_le _
  · match value with
    | .nil | .pointer none => simp [sanitizeValue, deep, Plain.height]
    | .scalar _ | .bytes _ | .otherMap => simp [sanitizeValue, deep, Plain.text, Plain.height]
    | .pointer (some target) =>
      have bound := sanitizeValue_height (depth + 1) target
      simp only [sanitizeValue, deep, ↓reduceIte]
      omega
    | .slice items =>
      have bound := sanitizeItems_height (depth + 1) items
      simp only [sanitizeValue, deep, ↓reduceIte, Plain.height]
      omega
    | .map entries =>
      have bound := sanitizeEntries_height (depth + 1) entries
      simp only [sanitizeValue, deep, ↓reduceIte, Plain.height]
      omega

theorem sanitizeItems_height (depth : Nat) :
    ∀ items : List Value, itemsHeight (sanitizeItems depth items) ≤ 13 - depth
  | [] => Nat.zero_le _
  | item :: items => by
    have first := sanitizeValue_height depth item
    have rest := sanitizeItems_height depth items
    simp only [sanitizeItems, itemsHeight]
    omega

theorem sanitizeEntries_height (depth : Nat) :
    ∀ entries : List (String × Value),
      entriesHeight (sanitizeEntries depth entries) ≤ 13 - depth
  | [] => Nat.zero_le _
  | (key, value) :: entries => by
    have first := sanitizeValue_height depth value
    have rest := sanitizeEntries_height depth entries
    simp only [sanitizeEntries, entriesHeight]
    by_cases sensitive : sensitiveKey key = true
    · simp only [sensitive, ↓reduceIte, Plain.text, Plain.height]
      omega
    · simp only [sensitive, Bool.false_eq_true, ↓reduceIte]
      omega

end

mutual

/-- Every key of a map and every scalar satisfies a condition. -/
def Plain.all (key : String → Bool) (scalar : Scalar → Bool) : Plain → Bool
  | .nil => true
  | .scalar value => scalar value
  | .slice items => itemsAll key scalar items
  | .map entries => entriesAll key scalar entries

def itemsAll (key : String → Bool) (scalar : Scalar → Bool) : List Plain → Bool
  | [] => true
  | item :: items => item.all key scalar && itemsAll key scalar items

def entriesAll (key : String → Bool) (scalar : Scalar → Bool) : List (String × Plain) → Bool
  | [] => true
  | (name, value) :: entries =>
    key name && value.all key scalar && entriesAll key scalar entries

end

mutual

/-- Every key and every scalar that the sanitizer shows satisfies a condition. -/
def Value.shows (key : String → Bool) (scalar : Scalar → Bool) (depth : Nat) : Value → Bool
  | .nil | .bytes _ | .otherMap | .pointer none => true
  | .scalar value => 12 < depth || scalar value
  | .slice items => 12 < depth || itemsShow key scalar (depth + 1) items
  | .map entries => 12 < depth || entriesShow key scalar (depth + 1) entries
  | .pointer (some target) => 12 < depth || target.shows key scalar (depth + 1)

def itemsShow (key : String → Bool) (scalar : Scalar → Bool) (depth : Nat) : List Value → Bool
  | [] => true
  | item :: items => item.shows key scalar depth && itemsShow key scalar depth items

def entriesShow (key : String → Bool) (scalar : Scalar → Bool) (depth : Nat) :
    List (String × Value) → Bool
  | [] => true
  | (name, value) :: entries =>
    key name && (sensitiveKey name || value.shows key scalar depth) &&
      entriesShow key scalar depth entries

end

/-- A text that stands for what is not shown. -/
inductive Placeholder : String → Prop
  | maximum : Placeholder "[maximum depth]"
  | redacted : Placeholder "[redacted]"
  | unsupported : Placeholder "[unsupported map]"
  | binary (length : Nat) : Placeholder ("[binary:" ++ toString length ++ " bytes]")

/-- A condition on scalars that every placeholder satisfies. -/
def AllowsPlaceholders (scalar : Scalar → Bool) : Prop :=
  ∀ text, Placeholder text → scalar (.string text) = true

section Shown

variable {key : String → Bool} {scalar : Scalar → Bool}

mutual

theorem sanitizeValue_all (placeholder : AllowsPlaceholders scalar) (depth : Nat) :
    ∀ value : Value, (sanitizeValue depth value).all key scalar = value.shows key scalar depth := by
  intro value
  have maximum := placeholder _ .maximum
  by_cases deep : 12 < depth
  · match value with
    | .nil => rfl
    | .pointer none | .pointer (some _) =>
      simp [sanitizeValue, Value.shows, deep, Plain.text, Plain.all, maximum]
    | .scalar _ | .bytes _ | .otherMap | .slice _ | .map _ =>
      simp [sanitizeValue, Value.shows, deep, Plain.text, Plain.all, maximum]
  · match value with
    | .nil => rfl
    | .pointer none => simp [sanitizeValue, Value.shows, deep, Plain.all]
    | .scalar _ => simp [sanitizeValue, Value.shows, deep, Plain.all]
    | .bytes raw =>
      simp only [sanitizeValue, Value.shows, deep, ↓reduceIte, Plain.text, Plain.all]
      exact placeholder _ (.binary raw.length)
    | .otherMap =>
      simp [sanitizeValue, Value.shows, deep, Plain.text, Plain.all, placeholder _ .unsupported]
    | .pointer (some target) =>
      simp [sanitizeValue, Value.shows, deep, sanitizeValue_all placeholder (depth + 1) target]
    | .slice items =>
      simp [sanitizeValue, Value.shows, deep, Plain.all,
        sanitizeItems_all placeholder (depth + 1) items]
    | .map entries =>
      simp [sanitizeValue, Value.shows, deep, Plain.all,
        sanitizeEntries_all placeholder (depth + 1) entries]

theorem sanitizeItems_all (placeholder : AllowsPlaceholders scalar) (depth : Nat) :
    ∀ items : List Value,
      itemsAll key scalar (sanitizeItems depth items) = itemsShow key scalar depth items
  | [] => rfl
  | item :: items => by
    simp only [sanitizeItems, itemsAll, itemsShow, sanitizeValue_all placeholder depth item,
      sanitizeItems_all placeholder depth items]

theorem sanitizeEntries_all (placeholder : AllowsPlaceholders scalar) (depth : Nat) :
    ∀ entries : List (String × Value),
      entriesAll key scalar (sanitizeEntries depth entries) = entriesShow key scalar depth entries
  | [] => rfl
  | (name, value) :: entries => by
    simp only [sanitizeEntries, entriesAll, entriesShow,
      sanitizeEntries_all placeholder depth entries]
    by_cases sensitive : sensitiveKey name = true
    · simp [sensitive, Plain.text, Plain.all, placeholder _ .redacted]
    · simp [sensitive, sanitizeValue_all placeholder depth value]

end

end Shown

def Role.name : Role → String
  | .viewer => "viewer"
  | .operator => "operator"
  | .admin => "admin"
  | .auditor => "auditor"
  | .other name => name

structure AuditEvent where
  id : String
  timestamp : Int
  actor : String
  role : Role
  action : String
  targetType : String
  targetID : String
  outcome : String
  requestID : String
  details : Details

/-- The event `auditWithRequestID` appends, for the random bytes drawn for its ID. -/
def auditWithRequestID (raw : Bytes) (now : Int) (requestID : String) (principal : Principal)
    (action targetType targetID outcome : String) (details : Details) : AuditEvent where
  id := newID "audit" raw
  timestamp := now
  actor := principal.subject
  role := principal.role
  action := action
  targetType := targetType
  targetID := targetID
  outcome := outcome
  requestID := requestID
  details := (sanitizeDetails details).map entriesToValue

end VpsManager.Control
