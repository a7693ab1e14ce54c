import VpsManager.Go.JsonText
import VpsManager.Go.LowerCase

/- How `encoding/json` decodes a value into a struct. A member goes to the field with
its name or, if there is none, to one whose name differs in letter case; of several
members for one field the last stays, and `null` leaves a field as it was. -/
namespace VpsManager.Go.Json

def foldName (name : String) : List Char := name.toList.map foldChar

/-- A field of a struct: its name, and how a member is decoded into it. -/
structure Field (α : Type) where
  name : String
  assign : Json → α → Option α

def Field.of {α β : Type} (name : String) (get : α → β) (set : α → β → α)
    (read : β → Json → Option β) : Field α :=
  ⟨name, fun member value => (read (get value) member).map (set value)⟩

def fieldNamed {α : Type} (fields : List (Field α)) (name : String) : Option (Field α) :=
  (fields.find? fun field => field.name == name).or
    (fields.find? fun field => foldName field.name == foldName name)

/-- The members are decoded one after another. With `DisallowUnknownFields` a member for
no field is an error. -/
def decodeFields {α : Type} (strict : Bool) (fields : List (Field α)) :
    List (String × Json) → α → Option α
  | [], value => some value
  | (name, member) :: members, value =>
    match fieldNamed fields name with
    | some field => do decodeFields strict fields members (← field.assign member value)
    | none => if strict then none else decodeFields strict fields members value

def decodeStruct {α : Type} (strict : Bool) (fields : List (Field α)) (value : α) :
    Json → Option α
  | .object members => decodeFields strict fields members value
  | .null => some value
  | _ => none

def decodeString (current : String) : Json → Option String
  | .string text => some text
  | .null => some current
  | _ => none

def decodeBool (current : Bool) : Json → Option Bool
  | .bool value => some value
  | .null => some current
  | _ => none

def decodeInt (current : Int) : Json → Option Int
  | .number text => parseInt64 text
  | .null => some current
  | _ => none

/-- `strconv.ParseUint` in base ten. -/
def parseUint (bits : Nat) (text : String) : Option Nat :=
  if text.isEmpty then none else (decimal text.toList).filter (· < 2 ^ bits)

def decodeUint (bits : Nat) (current : Nat) : Json → Option Nat
  | .number text => parseUint bits text
  | .null => some current
  | _ => none

def decodeItems {α : Type} (decode : Json → Option α) : Json → Option (List α)
  | .array items => items.mapM decode
  | .null => some []
  | _ => none

end VpsManager.Go.Json
