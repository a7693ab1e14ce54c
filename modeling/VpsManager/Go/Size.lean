import Mathlib.Data.List.ReduceOption
import Mathlib.Data.Nat.Digits.Defs
import VpsManager.Go.Json

namespace VpsManager.Go

theorem len_append (left right : String) : len (left ++ right) = len left + len right :=
  String.utf8ByteSize_append

theorem hex_alnum (raw : Bytes) : ∀ c ∈ (hex raw).toList, isAlnumASCII c = true := by
  have digits : ∀ digit < 16, isAlnumASCII (hexDigit digit) = true := by decide
  intro c member
  rw [hex, String.toList_ofList, List.mem_flatMap] at member
  obtain ⟨b, -, digit⟩ := member
  have byte := b.toNat_lt
  simp only [List.mem_cons, List.not_mem_nil, or_false] at digit
  rcases digit with rfl | rfl
  · exact digits _ (by omega)
  · exact digits _ (Nat.mod_lt _ (by decide))

theorem length_hex (raw : Bytes) : (hex raw).length = 2 * raw.length := by
  rw [hex, String.length_ofList, List.length_flatMap]
  simp [Nat.mul_comm]

theorem len_hex (raw : Bytes) : len (hex raw) = 2 * raw.length := by
  rw [len_of_ascii _ fun c member => ?_, length_hex]
  have range := isAlnumASCII_range (hex_alnum raw c member)
  omega

/-- `base64.StdEncoding`: the character of six bits. -/
def stdSextetChar (n : Nat) : Char :=
  if n = 62 then '+' else if n = 63 then '/' else sextetChar n

/-- `base64.StdEncoding.EncodeToString`, which pads to groups of four. -/
def stdEncode (raw : Bytes) : String :=
  String.ofList ((sextets raw).map stdSextetChar ++ List.replicate ((3 - raw.length % 3) % 3) '=')

def base64Len (n : Nat) : Nat := 4 * ((n + 2) / 3)

theorem stdEncode_chars (raw : Bytes) :
    ∀ c ∈ (stdEncode raw).toList,
      isAlnumASCII c = true ∨ c = '+' ∨ c = '/' ∨ c = '=' := by
  have chars : ∀ n < 64, isAlnumASCII (stdSextetChar n) = true ∨ stdSextetChar n = '+' ∨
      stdSextetChar n = '/' ∨ stdSextetChar n = '=' := by decide
  intro c member
  rw [stdEncode, String.toList_ofList, List.mem_append] at member
  rcases member with digit | padding
  · obtain ⟨n, isSextet, rfl⟩ := List.mem_map.mp digit
    exact chars n (sextets_lt raw n isSextet)
  · exact .inr (.inr (.inr (List.eq_of_mem_replicate padding)))

theorem length_stdEncode (raw : Bytes) : (stdEncode raw).length = base64Len raw.length := by
  rw [stdEncode, ← String.length_toList, String.toList_ofList, List.length_append, List.length_map,
    List.length_replicate, length_sextets, base64Len]
  omega

namespace Json

/-- A byte slice made by appending to nil, so that an empty one is nil. -/
def ofBytes (raw : Bytes) : Json := if raw = [] then .null else .string (stdEncode raw)

def ofNat (n : Nat) : Json := .number (toString n)

def ofInt (n : Int) : Json := .number (toString n)

def nonZero (name : String) (n : Nat) : Option (String × Json) :=
  if n = 0 then none else some (name, ofNat n)

/-- The bytes of a string within its quotes. -/
def escapedLen (text : String) : Nat := (text.toList.map fun c => len (escapeChar c)).sum

theorem len_join (parts : List String) : len (String.join parts) = (parts.map len).sum := by
  induction parts with
  | nil => rfl
  | cons part parts ih => rw [String.join_cons, len_append, ih, List.map_cons, List.sum_cons]

theorem len_quote (text : String) : len (quote text) = escapedLen text + 2 := by
  rw [quote, len_append, len_append, len_join, List.map_map]
  change 1 + escapedLen text + 1 = _
  omega

def Unescaped (c : Char) : Prop :=
  0x20 ≤ c.toNat ∧ c.toNat < 0x80 ∧ c ≠ '"' ∧ c ≠ '\\' ∧ c ≠ '<' ∧ c ≠ '>' ∧ c ≠ '&'

theorem len_escapeChar_of_unescaped {c : Char} (plain : Unescaped c) : len (escapeChar c) = 1 := by
  obtain ⟨printable, ascii, quote, backslash, less, greater, ampersand⟩ := plain
  have newline : c ≠ '\n' := by rintro rfl; exact absurd printable (by decide)
  have return' : c ≠ '\r' := by rintro rfl; exact absurd printable (by decide)
  have tab : c ≠ '\t' := by rintro rfl; exact absurd printable (by decide)
  have single : escapeChar c = String.singleton c := by
    simp only [escapeChar, quote, backslash, newline, return', tab, less, greater, ampersand,
      if_false, decide_false, Bool.or_false, Bool.or_eq_true, decide_eq_true_eq]
    rw [if_neg (by omega), if_neg (by omega), if_neg (by omega)]
  rw [single, len_of_ascii, String.length_singleton]
  intro d member
  rw [String.toList_singleton, List.mem_singleton] at member
  rwa [member]

theorem escapedLen_of_unescaped {text : String} (plain : ∀ c ∈ text.toList, Unescaped c) :
    escapedLen text = text.length := by
  rw [escapedLen, List.map_congr_left fun c member => len_escapeChar_of_unescaped (plain c member),
    List.map_const', List.sum_replicate_nat, ← String.length_toList, Nat.mul_one]

theorem len_escapeChar_le (c : Char) : len (escapeChar c) ≤ 6 := by
  have single : len (String.singleton c) ≤ 6 := by
    rw [len, String.utf8ByteSize_singleton]
    exact Nat.le_trans c.utf8Size_le_four (by decide)
  have escape (small : c.toNat < 65536) : len ("\\u" ++ hex4 c.toNat) ≤ 6 := by
    have ascii : ∀ digit < 16, (hexDigit digit).toNat < 128 := by decide
    have digits : len (hex4 c.toNat) = 4 := by
      rw [hex4, len_of_ascii, String.length_ofList]
      · rfl
      · simp only [String.toList_ofList, List.forall_mem_cons]
        exact ⟨ascii _ (by omega), ascii _ (by omega), ascii _ (by omega), ascii _ (by omega),
          List.forall_mem_nil _⟩
    rw [len_append, digits]
    decide
  unfold escapeChar
  split_ifs with quote backslash backspace feed newline return' tab special
  any_goals decide
  · apply escape
    simp only [Bool.or_eq_true, decide_eq_true_eq] at special
    rcases special with ((((control | rfl) | rfl) | rfl) | line) | paragraph
    all_goals first | omega | decide
  · exact single

/-- No character takes more than six bytes. -/
theorem escapedLen_le (text : String) : escapedLen text ≤ 6 * len text := by
  have bound : escapedLen text ≤ text.toList.length * 6 := by
    rw [escapedLen]
    induction text.toList with
    | nil => exact Nat.le_refl 0
    | cons c rest ih =>
      have one := len_escapeChar_le c
      rw [List.map_cons, List.sum_cons, List.length_cons]
      omega
  have characters := length_le_len text
  rw [String.length_toList] at bound
  omega

theorem unescaped_of_alnum {c : Char} (alnum : isAlnumASCII c = true) : Unescaped c := by
  have range := isAlnumASCII_range alnum
  refine ⟨by omega, by omega, ?_, ?_, ?_, ?_, ?_⟩ <;> rintro rfl <;> exact absurd alnum (by decide)

theorem escapedLen_hex (raw : Bytes) : escapedLen (hex raw) = 2 * raw.length := by
  rw [escapedLen_of_unescaped fun c member => unescaped_of_alnum (hex_alnum raw c member),
    length_hex]

theorem escapedLen_stdEncode (raw : Bytes) :
    escapedLen (stdEncode raw) = base64Len raw.length := by
  rw [escapedLen_of_unescaped, length_stdEncode]
  intro c member
  rcases stdEncode_chars raw c member with alnum | rfl | rfl | rfl
  · exact unescaped_of_alnum alnum
  all_goals exact ⟨by decide, by decide, by decide, by decide, by decide, by decide, by decide⟩

mutual

def size : Json → Nat
  | .null => 4
  | .bool value => if value then 4 else 5
  | .number text => len text
  | .string text => escapedLen text + 2
  | .array items => sizeItems items + 2
  | .object members => sizeMembers members + 2

def sizeItems : List Json → Nat
  | [] => 0
  | [item] => size item
  | item :: items => size item + 1 + sizeItems items

def sizeMembers : List (String × Json) → Nat
  | [] => 0
  | [(name, value)] => escapedLen name + 3 + size value
  | (name, value) :: members => escapedLen name + 3 + size value + 1 + sizeMembers members

end

mutual

theorem len_encode : ∀ value : Json, len value.encode = value.size
  | .null => rfl
  | .bool true => rfl
  | .bool false => rfl
  | .number _ => rfl
  | .string text => len_quote text
  | .array items => by
    rw [encode, len_append, len_append, len_encodeItems items, size]
    change 1 + sizeItems items + 1 = _
    omega
  | .object members => by
    rw [encode, len_append, len_append, len_encodeMembers members, size]
    change 1 + sizeMembers members + 1 = _
    omega

theorem len_encodeItems : ∀ items : List Json, len (encodeItems items) = sizeItems items
  | [] => rfl
  | [item] => by rw [encodeItems, sizeItems, len_encode item]
  | item :: second :: items => by
    rw [encodeItems, sizeItems, len_append, len_append, len_encode item,
      len_encodeItems (second :: items)]
    · rfl
    · simp
    · simp

theorem len_encodeMembers :
    ∀ members : List (String × Json), len (encodeMembers members) = sizeMembers members
  | [] => rfl
  | [(name, value)] => by
    rw [encodeMembers, sizeMembers, len_append, len_append, len_quote, len_encode value]
    rfl
  | (name, value) :: second :: members => by
    rw [encodeMembers, sizeMembers, len_append, len_append, len_append, len_append, len_quote,
      len_encode value, len_encodeMembers (second :: members)]
    · rfl
    · simp
    · simp

end

theorem size_ofBytes (raw : Bytes) : (ofBytes raw).size = 4 + (base64Len raw.length - 2) := by
  by_cases empty : raw = []
  · rw [empty]
    rfl
  · have one : 1 ≤ raw.length := List.length_pos_of_ne_nil empty
    have group : 4 ≤ base64Len raw.length := by
      rw [base64Len]
      omega
    rw [ofBytes, if_neg empty, size, escapedLen_stdEncode]
    omega

theorem sizeItems_eq (items : List Json) :
    sizeItems items = (items.map fun item => item.size + 1).sum - 1 := by
  induction items with
  | nil => rfl
  | cons item items ih =>
    cases items with
    | nil => rfl
    | cons second items =>
      simp only [sizeItems, List.map_cons, List.sum_cons] at ih ⊢
      omega

theorem sizeMembers_eq (members : List (String × Json)) : sizeMembers members =
    (members.map fun member => escapedLen member.1 + 4 + member.2.size).sum - 1 := by
  induction members with
  | nil => rfl
  | cons member members ih =>
    cases members with
    | nil =>
      simp only [sizeMembers, List.map_cons, List.map_nil, List.sum_cons, List.sum_nil]
      omega
    | cons second members =>
      simp only [sizeMembers, List.map_cons, List.sum_cons] at ih ⊢
      omega

def memberLen : Option (String × Json) → Nat
  | none => 0
  | some (name, value) => escapedLen name + 4 + value.size

theorem size_struct (members : List (Option (String × Json))) :
    (struct members).size = (members.map memberLen).sum - 1 + 2 := by
  have present : (members.reduceOption.map fun member =>
      escapedLen member.1 + 4 + member.2.size).sum = (members.map memberLen).sum := by
    induction members with
    | nil => rfl
    | cons member members ih =>
      cases member with
      | none => simpa [memberLen] using ih
      | some => simp [memberLen, ih]
  rw [struct, size, sizeMembers_eq, present]

theorem len_toString_nat_le (n e : Nat) (positive : 0 < e) (small : n < 10 ^ e) :
    len (toString n) ≤ e := by
  rw [len_of_ascii (toString n) fun c member => ?_]
  · rw [← String.length_toList, Nat.toString_eq_repr, Nat.toList_repr]
    exact Nat.toDigits_length 10 n e positive small
  · rw [Nat.toString_eq_repr, Nat.toList_repr] at member
    have isDigit := Nat.isDigit_of_mem_toDigits (by decide) (by decide) member
    simp only [Char.isDigit, ge_iff_le, Bool.and_eq_true, decide_eq_true_eq,
      UInt32.le_iff_toNat_le] at isDigit
    change 48 ≤ c.toNat ∧ c.toNat ≤ 57 at isDigit
    omega

theorem len_toString_int_le (n : Int) (e : Nat) (positive : 0 < e) (small : n.natAbs < 10 ^ e) :
    len (toString n) ≤ e + 1 := by
  cases n with
  | ofNat m => exact (len_toString_nat_le m e positive small).trans (Nat.le_succ e)
  | negSucc m =>
    have text : toString (Int.negSucc m) = "-" ++ toString (m + 1) := rfl
    rw [text, len_append]
    have bound := len_toString_nat_le (m + 1) e positive small
    change 1 + _ ≤ _
    omega

end Json

end VpsManager.Go
