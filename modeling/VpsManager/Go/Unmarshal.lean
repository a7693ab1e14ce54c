import VpsManager.Go.Json

/- What `json.Unmarshal` reads from a value. Names of members are compared as they
are written. -/
namespace VpsManager.Go.Json

/-- The members of a value that is read into a struct. -/
def fields : Json → Option (List (String × Json))
  | .object members => some members
  | .null => some []
  | _ => none

/-- The value of a member. One that is absent is read like `null`, which leaves the
zero value. -/
def field (name : String) (members : List (String × Json)) : Json :=
  (members.lookup name).getD .null

@[simp] theorem field_nil (name : String) : field name [] = .null := rfl

@[simp] theorem field_cons (name key : String) (value : Json) (members : List (String × Json)) :
    field name ((key, value) :: members) = if name = key then value else field name members := by
  by_cases same : name = key
  · simp [field, same]
  · simp [field, List.lookup_cons, same, beq_eq_false_iff_ne.mpr same]

def readString : Json → Option String
  | .string text => some text
  | .null => some ""
  | _ => none

def readOptional {α : Type} (read : Json → Option α) : Json → Option (Option α)
  | .null => some none
  | value => (read value).map some

/-- Members that are read into a map, where the last of one name stays. -/
def readMembers (entries : StringMap String) : List (String × Json) → Option (StringMap String)
  | [] => some entries
  | (name, value) :: members => do
    let text ← readString value
    readMembers (entries.insert name text) members

/-- A value that is read into a map of strings; `null` leaves it nil. -/
def readMap : Json → Option (Option (StringMap String))
  | .null => some none
  | .object members => (readMembers ∅ members).map some
  | _ => none

theorem readOptional_of_ne_null {α : Type} {read : Json → Option α} {value : Json}
    (present : value ≠ .null) : readOptional read value = (read value).map some := by
  cases value with
  | null => exact absurd rfl present
  | bool | number | string | array | object => rfl

end VpsManager.Go.Json
