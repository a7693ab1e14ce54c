import VpsManager.Go.JsonText
import VpsManager.Go.LowerCase
import VpsManager.Persistence.Types

/- The text that is stored as JSON, and the names of secrets in it. The check runs on
the decoded value, in which the last of the members with one name has replaced the
others, and it compares whole names with a list. -/
namespace VpsManager.Persistence

open Go Checks

mutual

/-- A value decoded into `any`: an object becomes a map. -/
def decodeAny : Json → Json
  | .object members => .object (decodeMembers members)
  | .array items => .array (decodeItems items)
  | value => value

def decodeItems : List Json → List Json
  | [] => []
  | item :: items => decodeAny item :: decodeItems items

def decodeMembers : List (String × Json) → List (String × Json)
  | [] => []
  | (name, value) :: members =>
    if members.any (·.1 == name) then decodeMembers members
    else (name, decodeAny value) :: decodeMembers members

end

/-- `ValidateSafeJSON`, on the bytes of the message. -/
def validateSafeJSONText (raw : Bytes) : Except String Unit :=
  if raw = [] then .ok ()
  else match Json.parse raw with
    | none => .error "JSON payload is invalid or too large"
    | some value => do
      ensure (raw.length ≤ maxJSONBytes) "JSON payload is invalid or too large"
      ensure (containsSecretField 0 (decodeAny value) = false)
        "payload may contain secret material"

theorem validateSafeJSONText_eq_ok {raw : Bytes} {value : Json}
    (accepted : validateSafeJSONText raw = .ok ()) (parsed : Json.parse raw = some value) :
    containsSecretField 0 (decodeAny value) = false := by
  have present : raw ≠ [] := by
    rintro rfl
    cases parsed
  rw [validateSafeJSONText, if_neg present, parsed] at accepted
  simp only [bind_eq_ok, ensure_eq_ok] at accepted
  obtain ⟨_, -, clean⟩ := accepted
  exact clean

mutual

/-- The names of all members at any depth, each as often as it is written. -/
def memberNames : Json → List String
  | .object members => namesOfMembers members
  | .array items => namesOfItems items
  | _ => []

def namesOfItems : List Json → List String
  | [] => []
  | item :: items => memberNames item ++ namesOfItems items

def namesOfMembers : List (String × Json) → List String
  | [] => []
  | (name, value) :: members => name :: memberNames value ++ namesOfMembers members

end

mutual

/-- The names within the values that a later member with the same name replaces. -/
def replacedNames : Json → List String
  | .object members => replacedOfMembers members
  | .array items => replacedOfItems items
  | _ => []

def replacedOfItems : List Json → List String
  | [] => []
  | item :: items => replacedNames item ++ replacedOfItems items

def replacedOfMembers : List (String × Json) → List String
  | [] => []
  | (name, value) :: members =>
    (if members.any (·.1 == name) then memberNames value else replacedNames value) ++
      replacedOfMembers members

end

theorem mem_namesOfMembers {name : String} {members : List (String × Json)}
    (listed : members.any (·.1 == name) = true) : name ∈ namesOfMembers members := by
  induction members with
  | nil => cases listed
  | cons member members ih =>
    obtain ⟨other, value⟩ := member
    simp only [List.any_cons, Bool.or_eq_true, beq_iff_eq] at listed
    rcases listed with rfl | later
    · simp [namesOfMembers]
    · simp [namesOfMembers, ih later]

mutual

/-- Every name of the text is in the decoded value or was replaced. -/
theorem mem_memberNames_iff (name : String) (value : Json) :
    name ∈ memberNames value ↔
      name ∈ memberNames (decodeAny value) ∨ name ∈ replacedNames value := by
  match value with
  | .object members => exact mem_namesOfMembers_iff name members
  | .array items => exact mem_namesOfItems_iff name items
  | .null | .bool _ | .number _ | .string _ => simp [memberNames, decodeAny, replacedNames]

theorem mem_namesOfItems_iff (name : String) (items : List Json) :
    name ∈ namesOfItems items ↔
      name ∈ namesOfItems (decodeItems items) ∨ name ∈ replacedOfItems items := by
  match items with
  | [] => simp [namesOfItems, decodeItems, replacedOfItems]
  | item :: items =>
    simp only [namesOfItems, decodeItems, replacedOfItems, List.mem_append,
      mem_memberNames_iff name item, mem_namesOfItems_iff name items]
    grind

theorem mem_namesOfMembers_iff (name : String) (members : List (String × Json)) :
    name ∈ namesOfMembers members ↔
      name ∈ namesOfMembers (decodeMembers members) ∨ name ∈ replacedOfMembers members := by
  match members with
  | [] => simp [namesOfMembers, decodeMembers, replacedOfMembers]
  | (key, value) :: members =>
    have rest := mem_namesOfMembers_iff name members
    cases again : members.any (·.1 == key) with
    | false =>
      simp only [namesOfMembers, decodeMembers, replacedOfMembers, again, Bool.false_eq_true,
        if_false, List.mem_append, List.mem_cons, mem_memberNames_iff name value, rest]
      grind
    | true =>
      -- the member's own name stays, with the value of a later one
      have own : name = key → name ∈ namesOfMembers members := by
        rintro rfl
        exact mem_namesOfMembers again
      simp only [namesOfMembers, decodeMembers, replacedOfMembers, again, if_true,
        List.mem_append, List.mem_cons]
      grind

end

section Names

-- the recursion is on the value, not on the names in it
attribute [local irreducible] isSecretField

mutual

theorem names_of_containsSecretField (value : Json) (depth : Nat) :
    containsSecretField depth value = false →
      ∀ name ∈ memberNames value, isSecretField name = false := by
  intro clean
  match value with
  | .object members =>
    simp only [containsSecretField, Bool.or_eq_false_iff] at clean
    exact names_of_membersContainSecret members (depth + 1) clean.2
  | .array items =>
    simp only [containsSecretField, Bool.or_eq_false_iff] at clean
    exact names_of_itemsContainSecret items (depth + 1) clean.2
  | .null | .bool _ | .number _ | .string _ => simp [memberNames]

theorem names_of_itemsContainSecret (items : List Json) (depth : Nat) :
    itemsContainSecret depth items = false →
      ∀ name ∈ namesOfItems items, isSecretField name = false := by
  intro clean
  match items with
  | [] => exact List.forall_mem_nil _
  | item :: items =>
    simp only [itemsContainSecret, Bool.or_eq_false_iff] at clean
    exact List.forall_mem_append.mpr ⟨names_of_containsSecretField item depth clean.1,
      names_of_itemsContainSecret items depth clean.2⟩

theorem names_of_membersContainSecret (members : List (String × Json)) (depth : Nat) :
    membersContainSecret depth members = false →
      ∀ name ∈ namesOfMembers members, isSecretField name = false := by
  intro clean
  match members with
  | [] => exact List.forall_mem_nil _
  | (key, value) :: members =>
    simp only [membersContainSecret, Bool.or_eq_false_iff] at clean
    refine List.forall_mem_cons.mpr ⟨clean.1.1, List.forall_mem_append.mpr ⟨?_, ?_⟩⟩
    · exact names_of_containsSecretField value depth clean.1.2
    · exact names_of_membersContainSecret members depth clean.2

end

end Names

def isSeparator (c : Char) : Bool := c == '-' || c == '.' || c == ' ' || c == '_'

def unseparated (name : String) : List Char :=
  (name.toList.map lowerChar).filter fun c => !isSeparator c

def normalized (name : String) : String :=
  toLower (String.ofList (name.toList.map separated))

def exempt (name : String) : Bool :=
  hasSuffix (normalized name) "_id" || hasSuffix (normalized name) "_version" ||
    hasSuffix (normalized name) "_fingerprint"

/-- A name of a secret, whatever its separators and letter case. -/
def SecretName (name : String) : Prop :=
  unseparated name ∈ secretNames.map unseparated ∧ exempt name = false

instance (name : String) : Decidable (SecretName name) :=
  inferInstanceAs (Decidable (_ ∧ _))

/-- The words of a listed name, joined or parted in another way than in the list. -/
def Respelled (name : String) : Prop := SecretName name ∧ normalized name ∉ secretNames

instance (name : String) : Decidable (Respelled name) :=
  inferInstanceAs (Decidable (_ ∧ _))

theorem isSecretField_eq_true {name : String} :
    isSecretField name = true ↔ normalized name ∈ secretNames ∧ exempt name = false := by
  have shape : isSecretField name =
      if exempt name then false else secretNames.contains (normalized name) := rfl
  rw [shape]
  cases exempt name <;> simp

/-- Separators are the same in either spelling, and no letter becomes one. -/
theorem isSeparator_normalized (c : Char) :
    isSeparator (lowerChar (separated c)) = isSeparator (lowerChar c) := by
  unfold separated
  split
  · rename_i mark
    simp only [Bool.or_eq_true, beq_iff_eq] at mark
    rcases mark with (rfl | rfl) | rfl <;> decide
  · rfl

theorem unseparated_normalized (name : String) :
    unseparated (normalized name) = unseparated name := by
  have each : ∀ chars : List Char,
      (chars.map fun c => lowerChar (separated c)).filter (fun c => !isSeparator c) =
        (chars.map lowerChar).filter fun c => !isSeparator c := by
    intro chars
    induction chars with
    | nil => rfl
    | cons c chars ih =>
      rw [List.map_cons, List.map_cons, List.filter_cons, List.filter_cons, ih,
        isSeparator_normalized]
      cases mark : isSeparator (lowerChar c) with
      | true => rfl
      | false =>
        have kept : separated c = c := by
          unfold separated
          split
          · rename_i one
            simp only [Bool.or_eq_true, beq_iff_eq] at one
            rcases one with (rfl | rfl) | rfl <;> cases mark
          · rfl
        rw [kept]
  have twice : (lowerChar ∘ lowerChar) ∘ separated = fun c => lowerChar (separated c) :=
    funext fun c => lowerChar_lowerChar (separated c)
  rw [unseparated, normalized, toLower, String.toList_ofList, String.toList_ofList,
    List.map_map, List.map_map, twice, each, unseparated]

/-- The check finds the names that are spelled as in the list. -/
theorem secretName_iff {name : String} :
    SecretName name ↔ isSecretField name = true ∨ Respelled name := by
  have found : normalized name ∈ secretNames → unseparated name ∈ secretNames.map unseparated := by
    intro listed
    rw [← unseparated_normalized]
    exact List.mem_map_of_mem listed
  rw [isSecretField_eq_true]
  constructor
  · intro secret
    by_cases listed : normalized name ∈ secretNames
    · exact .inl ⟨listed, secret.2⟩
    · exact .inr ⟨secret, listed⟩
  · rintro (⟨listed, counted⟩ | ⟨secret, -⟩)
    · exact ⟨found listed, counted⟩
    · exact secret

/-- No member at any depth of the text has the name of a secret. -/
def SecretFree (raw : Bytes) : Prop :=
  ∀ value, Json.parse raw = some value → ∀ name ∈ memberNames value, ¬ SecretName name

/-- Names of secrets are written as in the list, and none is within a value that a
later member with the same name replaces. -/
def Plain (raw : Bytes) : Prop :=
  ∀ value, Json.parse raw = some value →
    (∀ name ∈ memberNames value, ¬ Respelled name) ∧
      ∀ name ∈ replacedNames value, isSecretField name = false

/-- An accepted text has no member with the name of a secret exactly if it is plain. -/
theorem accepted_secretFree_iff (raw : Bytes) (accepted : validateSafeJSONText raw = .ok ()) :
    SecretFree raw ↔ Plain raw := by
  constructor
  · intro free value parsed
    constructor
    · intro name member respelled
      exact free value parsed name member (secretName_iff.mpr (.inr respelled))
    · intro name replaced
      have member := (mem_memberNames_iff name value).mpr (.inr replaced)
      by_contra found
      rw [Bool.not_eq_false] at found
      exact free value parsed name member (secretName_iff.mpr (.inl found))
  · intro plain value parsed name member secret
    obtain ⟨spelled, clean⟩ := plain value parsed
    have found : isSecretField name = true :=
      (secretName_iff.mp secret).resolve_right (spelled name member)
    have kept := names_of_containsSecretField _ _ (validateSafeJSONText_eq_ok accepted parsed)
    rcases (mem_memberNames_iff name value).mp member with decoded | replaced
    · rw [kept name decoded] at found
      cases found
    · rw [clean name replaced] at found
      cases found

/-- A nested object with a repeated member and the name of a secret's identifier. -/
def plainText : Bytes := bytes "\x7b\"a\":[1],\"a\":\x7b\"Private-Key.id\":\"k\"\x7d\x7d"

theorem plain_text_free : SecretFree plainText := by
  refine (accepted_secretFree_iff plainText rfl).mpr ?_
  rintro value ⟨⟩
  decide

/-- The check accepts a joined spelling, and a secret in a value that is replaced. -/
theorem secrets_accepted :
    validateSafeJSONText (bytes "\x7b\"clientSecret\":\"x\"\x7d") = .ok () ∧
      ¬ SecretFree (bytes "\x7b\"clientSecret\":\"x\"\x7d") ∧
      validateSafeJSONText (bytes "\x7b\"a\":\x7b\"password\":\"x\"\x7d,\"a\":1\x7d") = .ok () ∧
      ¬ SecretFree (bytes "\x7b\"a\":\x7b\"password\":\"x\"\x7d,\"a\":1\x7d") := by
  refine ⟨rfl, ?_, rfl, ?_⟩
  · intro free
    exact free _ rfl "clientSecret" (by decide) (by decide)
  · intro free
    exact free _ rfl "password" (by decide) (by decide)

end VpsManager.Persistence
