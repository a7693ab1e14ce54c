import Mathlib.Data.Finset.Sort
import Mathlib.Data.String.Basic
import VpsManager.Go.Text

namespace VpsManager.Go

/-- A value; a number is the text it is written as, and the members of an object
are in the order they are written in. -/
inductive Json
  | null
  | bool (value : Bool)
  | number (text : String)
  | string (text : String)
  | array (items : List Json)
  | object (members : List (String × Json))

namespace Json

/-- The members of a struct, without those that `omitempty` leaves out. -/
def struct (members : List (Option (String × Json))) : Json := .object members.reduceOption

def optional {α : Type} (name : String) (encode : α → Json) (value : Option α) :
    Option (String × Json) :=
  value.map fun value => (name, encode value)

def nonEmpty (name text : String) : Option (String × Json) :=
  if text = "" then none else some (name, .string text)

/-- A map with string keys and values, written with its keys in order. -/
def ofMap (entries : StringMap String) : Json :=
  .object ((entries.keys.sort (· ≤ ·)).map fun key =>
    (key, .string ((entries.lookup key).getD "")))

/-- `jsonb_typeof`. -/
def typeName : Json → String
  | .null => "null"
  | .bool _ => "boolean"
  | .number _ => "number"
  | .string _ => "string"
  | .array _ => "array"
  | .object _ => "object"

def hex4 (n : Nat) : String :=
  String.ofList [hexDigit (n / 4096), hexDigit (n / 256 % 16), hexDigit (n / 16 % 16),
    hexDigit (n % 16)]

/-- One character within a string; those that mean something to HTML are escaped. -/
def escapeChar (c : Char) : String :=
  if c = '"' then "\\\""
  else if c = '\\' then "\\\\"
  else if c.toNat = 8 then "\\b"
  else if c.toNat = 12 then "\\f"
  else if c = '\n' then "\\n"
  else if c = '\r' then "\\r"
  else if c = '\t' then "\\t"
  else if c.toNat < 0x20 || c = '<' || c = '>' || c = '&' || c.toNat = 0x2028 ||
      c.toNat = 0x2029 then
    "\\u" ++ hex4 c.toNat
  else String.singleton c

def quote (text : String) : String := "\"" ++ String.join (text.toList.map escapeChar) ++ "\""

mutual

def encode : Json → String
  | .null => "null"
  | .bool value => if value then "true" else "false"
  | .number text => text
  | .string text => quote text
  | .array items => "[" ++ encodeItems items ++ "]"
  | .object members => "\x7b" ++ encodeMembers members ++ "\x7d"

def encodeItems : List Json → String
  | [] => ""
  | [item] => encode item
  | item :: items => encode item ++ "," ++ encodeItems items

def encodeMembers : List (String × Json) → String
  | [] => ""
  | [(name, value)] => quote name ++ ":" ++ encode value
  | (name, value) :: members => quote name ++ ":" ++ encode value ++ "," ++ encodeMembers members

end

example : encode (.object [("a", .array [.null, .number "1"]), ("<", .string "x\ny")]) =
    "\x7b\"a\":[null,1],\"\\u003c\":\"x\\ny\"\x7d" := by decide +kernel

mutual

/-- Every string in the value, and every name of a member, satisfies the
predicate. -/
def allStrings (holds : String → Bool) : Json → Bool
  | .string text => holds text
  | .array items => allItems holds items
  | .object members => allMembers holds members
  | _ => true

def allItems (holds : String → Bool) : List Json → Bool
  | [] => true
  | item :: items => allStrings holds item && allItems holds items

def allMembers (holds : String → Bool) : List (String × Json) → Bool
  | [] => true
  | (name, value) :: members =>
    holds name && allStrings holds value && allMembers holds members

end

theorem allMembers_eq_true (holds : String → Bool) (members : List (String × Json)) :
    allMembers holds members = true ↔
      ∀ member ∈ members, holds member.1 = true ∧ allStrings holds member.2 = true := by
  induction members with
  | nil => simp [allMembers]
  | cons member members ih =>
    obtain ⟨name, value⟩ := member
    simp [allMembers, ih]

theorem allStrings_ofMap (holds : String → Bool) (entries : StringMap String) :
    allStrings holds (ofMap entries) = true ↔
      ∀ entry ∈ entries.entries, holds entry.1 = true ∧ holds entry.2 = true := by
  simp only [ofMap, allStrings, allMembers_eq_true, List.mem_map, Finset.mem_sort,
    Finmap.mem_keys]
  constructor
  · rintro all ⟨key, value⟩ member
    have found : entries.lookup key = some value := Finmap.mem_lookup_iff.mpr member
    have present : key ∈ entries := Finmap.mem_of_lookup_eq_some found
    simpa [allStrings, found] using all _ ⟨key, present, rfl⟩
  · rintro all _ ⟨key, present, rfl⟩
    obtain ⟨value, found⟩ := Finmap.mem_iff.mp present
    have entry := all ⟨key, value⟩ (Finmap.mem_lookup_iff.mp found)
    simpa [allStrings, found] using entry

end Json

end VpsManager.Go
