import VpsManager.Go.JsonRoundTrip
import VpsManager.Go.JsonStruct
import VpsManager.Go.Numbers

/- How a `json.Decoder` decodes the next value of a stream into a struct. It reads no
further than to the end of the value, whatever follows. -/
namespace VpsManager.Go.Json

/-- The object at the start of the bytes, or the array or text. -/
def readNext : Mode → Reader → Bytes → Option Json
  | _, _, [] => none
  | mode, reader, b :: rest => do
    let (found, mode) ← lexStep mode b
    match ← found.foldlM readToken reader with
    | .ended [] value => some value
    | reader => readNext mode reader rest

/-- `Decode` into a struct. Of the numbers and literals only `null` can be decoded into one;
it ends with its last letter. -/
def decodeNext {α : Type} (strict : Bool) (fields : List (Field α)) (zero : α) (stream : Bytes) :
    Option α :=
  let text := stream.dropWhile isBlank
  if (bytes "null").isPrefixOf text then some zero
  else do decodeStruct strict fields zero (← readNext .between (.value []) text)

theorem foldlM_ended {value : Json} {found : List Token} {last : Reader}
    (read : found.foldlM readToken (.ended [] value) = some last) : last = .ended [] value := by
  cases found with
  | nil => exact (Option.some.inj read).symm
  | cons token found => cases read

/-- A scalar is complete by itself only if it is the whole value. -/
theorem readToken_scalar {reader : Reader} {scalar value : Json}
    (read : readToken reader (.scalar scalar) = some (.ended [] value)) : scalar = value := by
  cases reader with
  | value frames =>
    obtain ⟨-, same⟩ := Reader.ended.inj (Option.some.inj read)
    exact same
  | valueOrEnd frames => cases read
  | name frames members => cases scalar <;> cases read
  | nameOrEnd frames => cases scalar <;> cases read
  | colon frames members name => cases read
  | ended frames value =>
    cases frames with
    | nil => cases read
    | cons frame frames => cases frame <;> cases read

/-- Where a text is one object, it is the object at its start. -/
theorem readNext_of_lex {mode : Mode} {text : Bytes} {found : List Token} {reader : Reader}
    {members : List (String × Json)} (lexed : lex mode text = some found)
    (read : found.foldlM readToken reader = some (.ended [] (.object members)))
    (begun : ∀ value, reader ≠ .ended [] value) :
    readNext mode reader text = some (.object members) := by
  induction text generalizing mode found reader with
  | nil =>
    rw [lex_nil] at lexed
    cases mode with
    | between =>
      cases lexed
      exact absurd (Option.some.inj read) (begun _)
    | word text =>
      simp only [lexEnd, Option.bind_eq_bind, Option.bind_eq_some_iff, Option.some.injEq]
        at lexed
      obtain ⟨value, literal, rfl⟩ := lexed
      have plain := plain_of_word literal
      rw [List.foldlM_cons, Option.bind_eq_bind, Option.bind_eq_some_iff] at read
      obtain ⟨last, token, done⟩ := read
      cases done
      rw [readToken_scalar token] at plain
      exact plain.elim
    | quoted text => cases lexed
    | escaped text => cases lexed
  | cons b text ih =>
    simp only [lex, Option.bind_eq_bind, Option.bind_eq_some_iff, Option.some.injEq] at lexed
    obtain ⟨⟨first, next⟩, step, more, lexed, rfl⟩ := lexed
    rw [List.foldlM_append, Option.bind_eq_bind, Option.bind_eq_some_iff] at read
    obtain ⟨between, begins, ends⟩ := read
    simp only [readNext, step, begins, Option.bind_eq_bind, Option.bind_some]
    split
    · rename_i value
      cases foldlM_ended ends
      rfl
    · rename_i other
      exact ih lexed ends fun value same => other value same

/-- The next value of a stream that is the text of an object is this object. -/
theorem decodeNext_encode {α : Type} {strict : Bool} {fields : List (Field α)} {zero : α}
    {members : List (String × Json)} (written : Written maxNestingDepth (.object members)) :
    decodeNext strict fields zero (bytes (encode (.object members))) =
      decodeFields strict fields members zero := by
  have opened : bytes (encode (.object members)) =
      0x7B :: (bytes (encodeMembers members) ++ bytes "\x7d") := by
    rw [encode, bytes_append, bytes_append]
    rfl
  have lexed := lexed_encode _ _ written [] (by rintro _ ⟨⟩)
  have read := read_spelled _ _ [] written (by simp)
  simp only [List.append_nil, lex_nil, lexEnd, Option.map_some] at lexed
  have next := readNext_of_lex lexed read (by rintro _ ⟨⟩)
  have filled : (bytes (encode (.object members))).dropWhile isBlank =
      bytes (encode (.object members)) := by
    rw [opened, List.dropWhile_cons_of_neg (by decide)]
  have null : (bytes "null").isPrefixOf (bytes (encode (.object members))) = false := by
    rw [opened]
    rfl
  simp only [decodeNext, filled, null, next, Option.bind_eq_bind, Option.bind_some]
  rfl

theorem decodeFields_read {α β : Type} {strict : Bool} {fields : List (Field α)} {name : String}
    {get : α → β} {set : α → β → α} {read : β → Json → Option β} {member : Json} {value : α}
    {new : β} (members : List (String × Json))
    (named : fieldNamed fields name = some (.of name get set read))
    (found : read (get value) member = some new) :
    decodeFields strict fields ((name, member) :: members) value =
      decodeFields strict fields members (set value new) := by
  rw [decodeFields, named]
  simp [Field.of, found]

theorem parseUint_toString {bits n : Nat} (small : n < 2 ^ bits) :
    parseUint bits (toString n) = some n := by
  have filled : (toString n).isEmpty = false := by
    have digits := Decimal.nat_ne_nil n
    rw [Bool.eq_false_iff]
    intro empty
    rw [String.isEmpty_iff] at empty
    rw [empty] at digits
    exact digits rfl
  rw [parseUint, filled, decimal_toString]
  simp [small]

theorem isValidNumber_nat (n : Nat) : isValidNumber (toString n).toList = true := by
  rcases Nat.eq_zero_or_pos n with rfl | positive
  · decide
  · have head := Decimal.nat_head positive
    have digits := Decimal.nat_chars n
    rcases shape : (toString n).toList with _ | ⟨c, rest⟩
    · exact absurd shape (Decimal.nat_ne_nil n)
    · rw [shape] at head digits
      rw [List.forall_mem_cons] at digits
      have lead : isDigitASCII c = true := digits.1
      have tail : rest.dropWhile isDigitASCII = [] := List.dropWhile_eq_nil_iff.mpr digits.2
      have zero : c ≠ '0' := by
        rintro rfl
        exact head rfl
      have minus : c ≠ '-' := by
        rintro rfl
        cases lead
      have integer : integerPart (c :: rest) = some [] := by
        rw [integerPart, someDigits, if_pos lead, tail]
        rintro _ ⟨⟩
        exact zero rfl
      unfold isValidNumber
      extract_lets unsigned
      have same : unsigned = c :: rest := by
        simp only [unsigned]
        split
        · rename_i sign
          cases sign
          exact absurd rfl minus
        · rfl
      rw [same, integer]
      rfl

theorem written_nat (depth n : Nat) : Written depth (.number (toString n)) := by
  refine ⟨?_, isValidNumber_nat n⟩
  intro c inside
  have digit : isDigitASCII c = true := Decimal.nat_chars n c inside
  simp [isWordChar, isAlnumASCII, digit]

end VpsManager.Go.Json
