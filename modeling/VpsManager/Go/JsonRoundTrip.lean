import VpsManager.Go.JsonText
import VpsManager.Go.Runes

namespace VpsManager.Go.Json

/-- The byte of a hexadecimal digit. -/
def hexByte (n : Nat) : UInt8 := if n < 10 then UInt8.ofNat (48 + n) else UInt8.ofNat (87 + n)

theorem hexByte_digit : ∀ n < 16, String.utf8EncodeChar (hexDigit n) = [hexByte n] ∧
    hexValue (hexByte n) = some n ∧ hexByte n ≠ 0x22 ∧ hexByte n ≠ 0x5C := by
  decide

theorem bytes_hex4 {n : Nat} (small : n < 65536) :
    bytes (hex4 n) = [hexByte (n / 4096), hexByte (n / 256 % 16), hexByte (n / 16 % 16),
      hexByte (n % 16)] := by
  have first := (hexByte_digit (n / 4096) (by omega)).1
  have second := (hexByte_digit (n / 256 % 16) (by omega)).1
  have third := (hexByte_digit (n / 16 % 16) (by omega)).1
  have fourth := (hexByte_digit (n % 16) (by omega)).1
  simp [bytes_eq_flatMap, hex4, first, second, third, fourth]

theorem getu4_hex4 {n : Nat} (small : n < 65536) (rest : Bytes) :
    getu4 (bytes (hex4 n) ++ rest) = some n := by
  have first := (hexByte_digit (n / 4096) (by omega)).2.1
  have second := (hexByte_digit (n / 256 % 16) (by omega)).2.1
  have third := (hexByte_digit (n / 16 % 16) (by omega)).2.1
  have fourth := (hexByte_digit (n % 16) (by omega)).2.1
  rw [bytes_hex4 small]
  simp only [List.cons_append, List.nil_append, getu4, first, second, third, fourth,
    Option.bind_eq_bind, Option.bind_some, Option.some.injEq]
  omega

/-- A character is written as a letter after a backslash, as the number of its code, or as
it is. -/
theorem escapeChar_cases (c : Char) :
    (∃ b, bytes (escapeChar c) = [0x5C, b] ∧ b ≠ 0x75 ∧ unescape b = some c) ∨
      (c.toNat < 0xD800 ∧ bytes (escapeChar c) = 0x5C :: 0x75 :: bytes (hex4 c.toNat)) ∨
      (bytes (escapeChar c) = String.utf8EncodeChar c ∧ c ≠ '"' ∧ c ≠ '\\' ∧ 0x20 ≤ c.toNat) := by
  have known : ∀ n, c.toNat = n → c = Char.ofNat n := by
    rintro _ rfl
    exact (Char.ofNat_toNat c).symm
  unfold escapeChar
  split
  · subst c
    exact .inl ⟨0x22, by decide, by decide, by decide⟩
  split
  · subst c
    exact .inl ⟨0x5C, by decide, by decide, by decide⟩
  split
  · rename_i code
    obtain rfl := known 8 code
    exact .inl ⟨0x62, by decide, by decide, by decide⟩
  split
  · rename_i code
    obtain rfl := known 12 code
    exact .inl ⟨0x66, by decide, by decide, by decide⟩
  split
  · subst c
    exact .inl ⟨0x6E, by decide, by decide, by decide⟩
  split
  · subst c
    exact .inl ⟨0x72, by decide, by decide, by decide⟩
  split
  · subst c
    exact .inl ⟨0x74, by decide, by decide, by decide⟩
  split
  · rename_i special
    refine .inr (.inl ⟨?_, ?_⟩)
    · simp only [Bool.or_eq_true, decide_eq_true_eq] at special
      rcases special with ((((low | rfl) | rfl) | rfl) | code) | code
      · omega
      · decide
      · decide
      · decide
      · omega
      · omega
    · rw [bytes_append]
      rfl
  · rename_i quote backslash _ _ _ _ _ special
    simp only [Bool.or_eq_true, decide_eq_true_eq, not_or, not_lt] at special
    refine .inr (.inr ⟨?_, quote, backslash, special.1.1.1.1.1⟩)
    rw [bytes_eq_flatMap]
    simp

variable {rest : Bytes} {c : Char} {b : UInt8} {value : Json}

theorem nextChar_of_decoded {first : UInt8} {after : Bytes} (plain : first ≠ 0x5C)
    (printed : ¬ first < 0x20) (read : decodeRune (first :: rest) = some (c, after)) :
    nextChar first rest = some (c, c.utf8Size - 1) := by
  unfold nextChar
  rw [if_neg plain, if_neg printed, read]

/-- No byte of a character that is written as it is ends the string or begins an escape. -/
theorem utf8EncodeChar_ne (quote : c ≠ '"') (backslash : c ≠ '\\') (printed : 0x20 ≤ c.toNat) :
    ∀ b ∈ String.utf8EncodeChar c, b ≠ 0x22 ∧ b ≠ 0x5C ∧ ¬ b < 0x20 := by
  have other : c.toNat ≠ 0x22 ∧ c.toNat ≠ 0x5C :=
    ⟨fun same => quote (Char.toNat_inj.mp same), fun same => backslash (Char.toNat_inj.mp same)⟩
  have apart : ∀ n < 256, n ≠ 0x22 → n ≠ 0x5C → 0x20 ≤ n →
      UInt8.ofNat n ≠ 0x22 ∧ UInt8.ofNat n ≠ 0x5C ∧ ¬ UInt8.ofNat n < 0x20 := by
    intro n small first second third
    have code := toNat_byte small
    refine ⟨?_, ?_, ?_⟩
    · intro same
      rw [same] at code
      exact first code.symm
    · intro same
      rw [same] at code
      exact second code.symm
    · rw [UInt8.lt_iff_toNat_lt, code]
      exact Nat.not_lt.mpr third
  have code : c.val.toNat = c.toNat := rfl
  rw [String.utf8EncodeChar]
  simp only [code]
  generalize c.toNat = v at *
  split
  · intro b inside
    obtain rfl := List.mem_singleton.mp inside
    exact apart v (by omega) other.1 other.2 printed
  split
  · intro b inside
    simp only [List.mem_cons, List.not_mem_nil, or_false] at inside
    rcases inside with rfl | rfl <;>
      exact apart _ (by omega) (by omega) (by omega) (by omega)
  split
  · intro b inside
    simp only [List.mem_cons, List.not_mem_nil, or_false] at inside
    rcases inside with rfl | rfl | rfl <;>
      exact apart _ (by omega) (by omega) (by omega) (by omega)
  · intro b inside
    simp only [List.mem_cons, List.not_mem_nil, or_false] at inside
    rcases inside with rfl | rfl | rfl | rfl <;>
      exact apart _ (by omega) (by omega) (by omega) (by omega)

/-- A character is read from the bytes it is written as. -/
theorem nextChar_escaped (c : Char) :
    ∃ first tail, bytes (escapeChar c) = first :: tail ∧
      ∀ rest, nextChar first (tail ++ rest) = some (c, tail.length) := by
  rcases escapeChar_cases c with ⟨b, written, other, read⟩ | ⟨small, written⟩ |
    ⟨written, quote, backslash, printed⟩
  · refine ⟨_, _, written, ?_⟩
    intro rest
    simp [nextChar, other, read]
  · refine ⟨_, _, written, ?_⟩
    intro rest
    have unit := getu4_hex4 (n := c.toNat) (by omega) rest
    have length : (bytes (hex4 c.toNat)).length = 4 := by
      rw [bytes_hex4 (by omega)]
      rfl
    have read : unicodeEscape (bytes (hex4 c.toNat) ++ rest) = some (c, 5) := by
      rw [unicodeEscape, unit, Option.bind_eq_bind, Option.bind_some, if_pos (.inl small),
        Char.ofNat_toNat]
    simp [nextChar, read, length]
  · have unread := utf8EncodeChar_ne quote backslash printed
    have size := String.length_utf8EncodeChar c
    rcases encoded : String.utf8EncodeChar c with _ | ⟨first, tail⟩
    · rw [encoded] at size
      have positive := c.utf8Size_pos
      rw [List.length_nil] at size
      omega
    · rw [encoded] at unread size
      refine ⟨first, tail, written.trans encoded, ?_⟩
      intro rest
      have here := unread first List.mem_cons_self
      have read := decodeRune_utf8EncodeChar c rest
      rw [encoded, List.cons_append] at read
      rw [nextChar_of_decoded here.2.1 here.2.2 read, ← size, List.length_cons,
        Nat.add_sub_cancel]

theorem unquoteFrom_length (skipped rest : Bytes) :
    unquoteFrom skipped.length (skipped ++ rest) = unquoteFrom 0 rest := by
  induction skipped with
  | nil => rfl
  | cons b skipped ih =>
    rw [List.length_cons, List.cons_append, unquoteFrom]
    exact ih

def escaped (chars : List Char) : Bytes := chars.flatMap fun c => bytes (escapeChar c)

theorem unquoteFrom_escaped (chars : List Char) :
    unquoteFrom 0 (escaped chars) = some chars := by
  induction chars with
  | nil => rfl
  | cons c chars ih =>
    obtain ⟨first, tail, written, read⟩ := nextChar_escaped c
    rw [escaped, List.flatMap_cons, written, List.cons_append, unquoteFrom, read]
    simp only [Option.bind_eq_bind, Option.bind_some]
    rw [unquoteFrom_length]
    change (unquoteFrom 0 (escaped chars)).bind _ = _
    rw [ih]
    rfl

theorem bytes_quote (text : String) :
    bytes (quote text) = 0x22 :: (escaped text.toList ++ [0x22]) := by
  have joined : ∀ parts : List String, bytes (String.join parts) = parts.flatMap bytes := by
    intro parts
    induction parts with
    | nil => rfl
    | cons part parts ih => rw [String.join_cons, bytes_append, ih, List.flatMap_cons]
  rw [quote, bytes_append, bytes_append, joined, List.flatMap_map]
  rfl

theorem lex_nil (mode : Mode) : lex mode [] = lexEnd mode := by rw [lex]

theorem lex_step {mode next : Mode} {found : List Token} (rest : Bytes)
    (step : lexStep mode b = some (found, next)) :
    lex mode (b :: rest) = (lex next rest).map (found ++ ·) := by
  simp only [lex, step, Option.bind_eq_bind, Option.bind_some]
  cases lex next rest <;> rfl

theorem lex_silent {mode next : Mode} (rest : Bytes) (step : lexStep mode b = some ([], next)) :
    lex mode (b :: rest) = lex next rest := by
  rw [lex_step rest step]
  cases lex next rest <;> rfl

/-- Bytes within a string that neither end it nor begin an escape. -/
theorem lex_quoted (text plain rest : Bytes) (unread : ∀ b ∈ plain, b ≠ 0x22 ∧ b ≠ 0x5C) :
    lex (.quoted text) (plain ++ rest) = lex (.quoted (plain.reverse ++ text)) rest := by
  induction plain generalizing text with
  | nil => rfl
  | cons b plain ih =>
    rw [List.forall_mem_cons] at unread
    have step : lexStep (.quoted text) b = some ([], .quoted (b :: text)) := by
      rw [lexStep, if_neg unread.1.1, if_neg unread.1.2]
    rw [List.cons_append, lex_silent _ step, ih (b :: text) unread.2, List.reverse_cons,
      List.append_assoc, List.singleton_append]

theorem lex_escape (text rest : Bytes) (b : UInt8) :
    lex (.quoted text) (0x5C :: b :: rest) = lex (.quoted (b :: 0x5C :: text)) rest := by
  have first : lexStep (.quoted text) 0x5C = some ([], .escaped text) := by
    rw [lexStep, if_neg (by decide), if_pos rfl]
  have second : lexStep (.escaped text) b = some ([], .quoted (b :: 0x5C :: text)) := rfl
  rw [lex_silent _ first, lex_silent _ second]

theorem lex_escapeChar (c : Char) (text rest : Bytes) :
    lex (.quoted text) (bytes (escapeChar c) ++ rest) =
      lex (.quoted ((bytes (escapeChar c)).reverse ++ text)) rest := by
  rcases escapeChar_cases c with ⟨b, written, -, -⟩ | ⟨small, written⟩ |
    ⟨written, quote, backslash, printed⟩
  · rw [written]
    exact lex_escape text rest b
  · have digits : ∀ b ∈ bytes (hex4 c.toNat), b ≠ 0x22 ∧ b ≠ 0x5C := by
      rw [bytes_hex4 (by omega)]
      simp only [List.mem_cons, List.not_mem_nil, or_false]
      rintro b (rfl | rfl | rfl | rfl)
      · exact (hexByte_digit _ (by omega)).2.2
      · exact (hexByte_digit _ (by omega)).2.2
      · exact (hexByte_digit _ (by omega)).2.2
      · exact (hexByte_digit _ (by omega)).2.2
    rw [written, List.cons_append, List.cons_append, lex_escape, lex_quoted _ _ _ digits]
    simp
  · rw [written]
    apply lex_quoted
    intro b inside
    exact ⟨(utf8EncodeChar_ne quote backslash printed b inside).1,
      (utf8EncodeChar_ne quote backslash printed b inside).2.1⟩

theorem lex_escaped (chars : List Char) (text rest : Bytes) :
    lex (.quoted text) (escaped chars ++ rest) =
      lex (.quoted ((escaped chars).reverse ++ text)) rest := by
  induction chars generalizing text with
  | nil => rfl
  | cons c chars ih =>
    have split : escaped (c :: chars) = bytes (escapeChar c) ++ escaped chars :=
      List.flatMap_cons
    rw [split, List.append_assoc, lex_escapeChar, ih, List.reverse_append, List.append_assoc]

theorem lex_quote (text : String) (rest : Bytes) :
    lex .between (bytes (quote text) ++ rest) =
      (lex .between rest).map ([.scalar (.string text)] ++ ·) := by
  have opened : lexStep .between 0x22 = some ([], .quoted []) := rfl
  have closed : lexStep (.quoted (escaped text.toList).reverse) 0x22 =
      some ([.scalar (.string text)], .between) := by
    rw [lexStep, if_pos rfl, List.reverse_reverse, unquote, unquoteFrom_escaped]
    simp
  rw [bytes_quote, List.cons_append, List.append_assoc, List.singleton_append,
    lex_silent _ opened, lex_escaped, List.append_nil, lex_step _ closed]

def isWordChar (c : Char) : Bool := isAlnumASCII c || c == '+' || c == '-' || c == '.'

/-- No number or literal goes on with these bytes. -/
def Delimited (rest : Bytes) : Prop := ∀ b ∈ rest.head?, isWordByte b = false

theorem utf8EncodeChar_word (inside : isWordChar c = true) :
    ∃ b, String.utf8EncodeChar c = [b] ∧ isWordByte b = true ∧ Char.ofNat b.toNat = c ∧
      isBlank b = false ∧ b ≠ 0x22 := by
  have table : ∀ n < 128, isWordChar (Char.ofNat n) = true →
      String.utf8EncodeChar (Char.ofNat n) = [UInt8.ofNat n] ∧ isWordByte (UInt8.ofNat n) = true ∧
        isBlank (UInt8.ofNat n) = false ∧ UInt8.ofNat n ≠ 0x22 := by
    decide
  have range : c.toNat < 128 := by
    simp only [isWordChar, Bool.or_eq_true, beq_iff_eq] at inside
    rcases inside with ((alnum | rfl) | rfl) | rfl
    · have bound := isAlnumASCII_range alnum
      omega
    · decide
    · decide
    · decide
  have whole : Char.ofNat c.toNat = c := Char.ofNat_toNat c
  rw [← whole] at inside ⊢
  obtain ⟨encoded, kept, blank, quote⟩ := table c.toNat range inside
  refine ⟨_, encoded, kept, ?_, blank, quote⟩
  rw [toNat_byte (by omega)]

theorem lex_word_end {text : List Char} (delimited : Delimited rest)
    (read : word text.reverse = some value) :
    lex (.word text) rest = (lex .between rest).map ([.scalar value] ++ ·) := by
  cases rest with
  | nil => simp [lex_nil, lexEnd, read]
  | cons b rest =>
    have ended : isWordByte b = false := delimited b rfl
    have step : lexStep (.word text) b =
        (lexStep .between b).map fun next => (.scalar value :: next.1, next.2) := by
      simp only [lexStep, ended, Bool.false_eq_true, ↓reduceIte, read]
      cases startToken b <;> rfl
    rcases between : lexStep .between b with _ | ⟨found, next⟩
    · rw [between] at step
      simp [lex, step, between]
    · rw [between] at step
      rw [lex_step rest step, lex_step rest between, Option.map_map]
      rfl

theorem lex_word {text : String} (filled : text.toList ≠ [])
    (inside : text.toList.all isWordChar = true) (read : word text.toList = some value)
    (delimited : Delimited rest) :
    lex .between (bytes text ++ rest) = (lex .between rest).map ([.scalar value] ++ ·) := by
  have goesOn : ∀ chars before : List Char, (∀ c ∈ chars, isWordChar c = true) →
      lex (.word before) (chars.flatMap String.utf8EncodeChar ++ rest) =
        lex (.word (chars.reverse ++ before)) rest := by
    intro chars
    induction chars with
    | nil => exact fun _ _ => rfl
    | cons c chars ih =>
      intro before all
      rw [List.forall_mem_cons] at all
      obtain ⟨b, encoded, kept, same, -⟩ := utf8EncodeChar_word all.1
      have step : lexStep (.word before) b = some ([], .word (c :: before)) := by
        rw [lexStep, if_pos kept, same]
      rw [List.flatMap_cons, encoded, List.append_assoc, List.singleton_append,
        lex_silent _ step, ih _ all.2, List.reverse_cons, List.append_assoc,
        List.singleton_append]
  obtain ⟨c, chars, shape⟩ := List.exists_cons_of_ne_nil filled
  rw [List.all_eq_true, shape, List.forall_mem_cons] at inside
  obtain ⟨b, encoded, kept, same, blank, quote⟩ := utf8EncodeChar_word inside.1
  have step : lexStep .between b = some ([], .word [c]) := by
    rw [lexStep, startToken, if_neg (by simp [blank]), if_neg quote, if_pos kept, same]
  have ended : word (chars.reverse ++ [c]).reverse = some value := by
    rw [List.reverse_append, List.reverse_reverse, List.reverse_singleton, List.singleton_append,
      ← shape, read]
  rw [bytes_eq_flatMap, shape, List.flatMap_cons, encoded, List.append_assoc,
    List.singleton_append, lex_silent _ step, goesOn _ _ inside.2, lex_word_end delimited ended]

mutual

/-- A value that can be written and read: its numbers are numbers, and it is nested no
deeper than the bound. -/
def Written : Nat → Json → Prop
  | _, .null => True
  | _, .bool _ => True
  | _, .string _ => True
  | _, .number text => (∀ c ∈ text.toList, isWordChar c = true) ∧ isValidNumber text.toList = true
  | depth, .array items => 0 < depth ∧ WrittenItems (depth - 1) items
  | depth, .object members => 0 < depth ∧ WrittenMembers (depth - 1) members

def WrittenItems : Nat → List Json → Prop
  | _, [] => True
  | depth, item :: items => Written depth item ∧ WrittenItems depth items

def WrittenMembers : Nat → List (String × Json) → Prop
  | _, [] => True
  | depth, (_, value) :: members => Written depth value ∧ WrittenMembers depth members

end

mutual

def spelled : Json → List Token
  | .array items => .beginArray :: (spelledItems items ++ [Token.endArray])
  | .object members => .beginObject :: (spelledMembers members ++ [Token.endObject])
  | value => [.scalar value]

def spelledItems : List Json → List Token
  | [] => []
  | [item] => spelled item
  | item :: items => spelled item ++ .comma :: spelledItems items

def spelledMembers : List (String × Json) → List Token
  | [] => []
  | [(name, value)] => .scalar (.string name) :: .colon :: spelled value
  | (name, value) :: members =>
    .scalar (.string name) :: .colon :: (spelled value ++ .comma :: spelledMembers members)

end

/-- Bytes that are cut into these tokens, if no number or literal goes on after them. -/
def Lexed (text : Bytes) (found : List Token) : Prop :=
  ∀ rest, Delimited rest → lex .between (text ++ rest) = (lex .between rest).map (found ++ ·)

theorem Lexed.nil : Lexed [] [] := by
  intro rest _
  rw [List.nil_append]
  cases lex .between rest <;> rfl

theorem Lexed.joined {text more : Bytes} {found others : List Token} {token : Token}
    (first : Lexed text found) (step : lexStep .between b = some ([token], .between))
    (ends : isWordByte b = false) (second : Lexed more others) :
    Lexed (text ++ b :: more) (found ++ token :: others) := by
  intro rest delimited
  have between : Delimited (b :: (more ++ rest)) := by
    rintro _ ⟨⟩
    exact ends
  rw [List.append_assoc, List.cons_append, first _ between, lex_step _ step, second rest delimited,
    Option.map_map, Option.map_map]
  congr 1
  funext last
  simp

theorem Lexed.number {text : String} (inside : ∀ c ∈ text.toList, isWordChar c = true)
    (valid : isValidNumber text.toList = true) :
    Lexed (bytes text) [.scalar (.number text)] := by
  have digits : ∀ name ∈ ["null", "true", "false", ""], text.toList ≠ name.toList := by
    have invalid : ∀ name ∈ ["null", "true", "false", ""], isValidNumber name.toList = false := by
      decide
    intro name listed same
    rw [same, invalid name listed] at valid
    cases valid
  have read : word text.toList = some (.number text) := by
    rw [word, if_neg (digits "null" (by decide)), if_neg (digits "true" (by decide)),
      if_neg (digits "false" (by decide)), if_pos valid, String.ofList_toList]
  intro rest delimited
  exact lex_word (digits "" (by decide)) (List.all_eq_true.mpr inside) read delimited

mutual

theorem lexed_encode (depth : Nat) : ∀ value : Json, Written depth value →
    Lexed (bytes value.encode) value.spelled
  | .null, _ => fun _ delimited => lex_word (by decide) (by decide) rfl delimited
  | .bool true, _ => fun _ delimited => lex_word (by decide) (by decide) rfl delimited
  | .bool false, _ => fun _ delimited => lex_word (by decide) (by decide) rfl delimited
  | .number _, written => Lexed.number written.1 written.2
  | .string text, _ => fun rest _ => lex_quote text rest
  | .array items, written => by
    rw [encode, bytes_append, bytes_append, List.append_assoc]
    exact Lexed.nil.joined rfl rfl
      ((lexed_encodeItems (depth - 1) items written.2).joined rfl rfl .nil)
  | .object members, written => by
    rw [encode, bytes_append, bytes_append, List.append_assoc]
    exact Lexed.nil.joined rfl rfl
      ((lexed_encodeMembers (depth - 1) members written.2).joined rfl rfl .nil)

theorem lexed_encodeItems (depth : Nat) : ∀ items : List Json, WrittenItems depth items →
    Lexed (bytes (encodeItems items)) (spelledItems items)
  | [], _ => .nil
  | [item], written => lexed_encode depth item written.1
  | item :: second :: items, written => by
    rw [encodeItems, bytes_append, bytes_append, List.append_assoc]
    · exact (lexed_encode depth item written.1).joined rfl rfl
        (lexed_encodeItems depth (second :: items) written.2)
    · exact List.cons_ne_nil _ _

theorem lexed_encodeMembers (depth : Nat) : ∀ members : List (String × Json),
    WrittenMembers depth members → Lexed (bytes (encodeMembers members)) (spelledMembers members)
  | [], _ => .nil
  | [(name, value)], written => by
    have named : Lexed (bytes (quote name)) [.scalar (.string name)] :=
      fun rest _ => lex_quote name rest
    rw [encodeMembers, bytes_append, bytes_append, List.append_assoc]
    exact named.joined rfl rfl (lexed_encode depth value written.1)
  | (name, value) :: second :: members, written => by
    have named : Lexed (bytes (quote name)) [.scalar (.string name)] :=
      fun rest _ => lex_quote name rest
    rw [encodeMembers, bytes_append, bytes_append, bytes_append, bytes_append, List.append_assoc,
      List.append_assoc, List.append_assoc]
    · exact named.joined rfl rfl ((lexed_encode depth value written.1).joined rfl rfl
        (lexed_encodeMembers depth (second :: members) written.2))
    · exact List.cons_ne_nil _ _

end

/-- A value is no closing bracket, so it begins an array that may have been empty. -/
theorem read_first (value : Json) (frames : List Frame) (rest : List Token) :
    (value.spelled ++ rest).foldlM readToken (.valueOrEnd frames) =
      (value.spelled ++ rest).foldlM readToken (.value (.array [] :: frames)) := by
  cases value <;> rfl

theorem read_member {name : String} {before : List (String × Json)} {frames : List Frame}
    (rest : List Token)
    (read : value.spelled.foldlM readToken (.value (.object before name :: frames)) =
      some (.ended (.object before name :: frames) value)) :
    (Token.scalar (.string name) :: .colon :: (value.spelled ++ rest)).foldlM readToken
        (.name frames before) =
      rest.foldlM readToken (.ended (.object before name :: frames) value) := by
  have named : readToken (.name frames before) (.scalar (.string name)) =
      some (.colon frames before name) := rfl
  have colon : readToken (.colon frames before name) .colon =
      some (.value (.object before name :: frames)) := rfl
  rw [List.foldlM_cons, named, Option.bind_eq_bind, Option.bind_some, List.foldlM_cons, colon,
    Option.bind_eq_bind, Option.bind_some, List.foldlM_append, read, Option.bind_eq_bind,
    Option.bind_some]

mutual

/-- A value is read from its tokens, within what has begun. -/
theorem read_spelled (depth : Nat) : ∀ (value : Json) (frames : List Frame),
    Written depth value → frames.length + depth ≤ maxNestingDepth →
      value.spelled.foldlM readToken (.value frames) = some (.ended frames value)
  | .null, _, _, _ => rfl
  | .bool _, _, _, _ => rfl
  | .number _, _, _, _ => rfl
  | .string _, _, _, _ => rfl
  | .array [], frames, written, room => by
    have deep : frames.length < maxNestingDepth := by
      have positive : 0 < depth := written.1
      omega
    simp [spelled, spelledItems, readToken, beginValue, deep]
  | .array (item :: items), frames, written, room => by
    have positive : 0 < depth := written.1
    have deep : frames.length < maxNestingDepth := by omega
    have inner := read_spelledItems (depth - 1) (item :: items) [] frames (List.cons_ne_nil _ _)
      written.2 (by omega)
    rw [spelled, List.foldlM_cons]
    simp only [readToken, beginValue, if_pos deep, Option.bind_eq_bind, Option.bind_some]
    refine Eq.trans ?_ inner
    cases items with
    | nil => exact read_first item frames _
    | cons second items =>
      simp only [spelledItems, List.append_assoc]
      exact read_first item frames _
  | .object [], frames, written, room => by
    have deep : frames.length < maxNestingDepth := by
      have positive : 0 < depth := written.1
      omega
    simp [spelled, spelledMembers, readToken, beginValue, deep]
  | .object ((name, value) :: members), frames, written, room => by
    have positive : 0 < depth := written.1
    have deep : frames.length < maxNestingDepth := by omega
    have inner := read_spelledMembers (depth - 1) ((name, value) :: members) [] frames
      (List.cons_ne_nil _ _) written.2 (by omega)
    rw [spelled, List.foldlM_cons]
    simp only [readToken, beginValue, if_pos deep, Option.bind_eq_bind, Option.bind_some]
    refine Eq.trans ?_ inner
    cases members <;> rfl

theorem read_spelledItems (depth : Nat) : ∀ (items before : List Json) (frames : List Frame),
    items ≠ [] → WrittenItems depth items → frames.length + 1 + depth ≤ maxNestingDepth →
      (spelledItems items ++ [Token.endArray]).foldlM readToken (.value (.array before :: frames)) =
        some (.ended frames (.array (before.reverse ++ items)))
  | [item], before, frames, _, written, room => by
    rw [spelledItems, List.foldlM_append,
      read_spelled depth item (.array before :: frames) written.1 room]
    simp [readToken, endValue]
  | item :: second :: items, before, frames, _, written, room => by
    have rest := read_spelledItems depth (second :: items) (item :: before) frames
      (List.cons_ne_nil _ _) written.2 room
    rw [spelledItems, List.append_assoc, List.cons_append, List.foldlM_append,
      read_spelled depth item (.array before :: frames) written.1 room]
    · simp only [Option.bind_eq_bind, Option.bind_some, List.foldlM_cons, readToken, endValue]
      rw [rest]
      simp
    · exact List.cons_ne_nil _ _

theorem read_spelledMembers (depth : Nat) : ∀ (members before : List (String × Json))
    (frames : List Frame), members ≠ [] → WrittenMembers depth members →
      frames.length + 1 + depth ≤ maxNestingDepth →
      (spelledMembers members ++ [Token.endObject]).foldlM readToken (.name frames before) =
        some (.ended frames (.object (before.reverse ++ members)))
  | [(name, value)], before, frames, _, written, room => by
    have read := read_spelled depth value (.object before name :: frames) written.1 room
    rw [spelledMembers, List.cons_append, List.cons_append, read_member _ read]
    simp [readToken, endValue]
  | (name, value) :: second :: members, before, frames, _, written, room => by
    have read := read_spelled depth value (.object before name :: frames) written.1 room
    have rest := read_spelledMembers depth (second :: members) ((name, value) :: before) frames
      (List.cons_ne_nil _ _) written.2 room
    rw [spelledMembers, List.cons_append, List.cons_append, List.append_assoc,
      read_member _ read, List.cons_append, List.foldlM_cons]
    · simp only [readToken, endValue, Option.bind_eq_bind, Option.bind_some]
      rw [rest]
      simp
    · exact List.cons_ne_nil _ _

end

theorem parse_encode (written : Written maxNestingDepth value) :
    parse (bytes value.encode) = some value := by
  have lexed := lexed_encode _ value written [] (by rintro _ ⟨⟩)
  have read := read_spelled _ value [] written (by simp)
  rw [List.append_nil, lex_nil] at lexed
  simp only [lexEnd, Option.map_some, List.append_nil] at lexed
  rw [parse, lexed, Option.bind_eq_bind, Option.bind_some, read]
  rfl

end VpsManager.Go.Json
