import Mathlib.Data.Finmap
import Mathlib.Data.List.DropRight

/- Strings, maps and instants of the language the services are written in.
A string is Unicode text, its length the number of bytes of its encoding. An
instant is the integer of nanoseconds since the Unix epoch. -/
namespace VpsManager.Go

abbrev Bytes := List UInt8

/-- A map with string keys; iteration visits the entries in any order. -/
abbrev StringMap (α : Type) := Finmap (fun _ : String => α)

/-- A `float64`, by its bits. -/
structure Float64 where
  bits : UInt64
  deriving DecidableEq, Repr

/-- Neither an infinity nor not a number: the exponent is not all ones. -/
def Float64.isFinite (x : Float64) : Bool := x.bits.toNat / 2 ^ 52 % 2 ^ 11 != 2 ^ 11 - 1

abbrev second : Int := 1000000000
abbrev minute : Int := 60 * second

/-- `time.Unix(seconds, 0)`. -/
def unix (seconds : Int) : Int := seconds * second

/-- The zero `time.Time`: midnight of the first day of year one. -/
def zeroTime : Int := unix (-62135596800)

/-- `time.Duration.String` of a whole number of seconds below an hour. -/
def durationString (duration : Int) : String :=
  let seconds := (duration / second).toNat
  if seconds < 60 then toString seconds ++ "s"
  else toString (seconds / 60) ++ "m" ++ toString (seconds % 60) ++ "s"

/-- `len` of a string. -/
def len (text : String) : Nat := text.utf8ByteSize

theorem len_ofList_cons (c : Char) (rest : List Char) :
    len (String.ofList (c :: rest)) = c.utf8Size + len (String.ofList rest) := by
  rw [← List.singleton_append, String.ofList_append]
  simp [len, String.utf8ByteSize_append]

theorem length_le_len (text : String) : text.length ≤ len text := by
  have counted : ∀ chars : List Char, chars.length ≤ len (String.ofList chars) := by
    intro chars
    induction chars with
    | nil => exact Nat.zero_le _
    | cons c rest ih =>
      rw [len_ofList_cons, List.length_cons]
      have positive := c.utf8Size_pos
      omega
  have bound := counted text.toList
  rwa [String.ofList_toList, String.length_toList] at bound

theorem len_of_ascii (text : String) (ascii : ∀ c ∈ text.toList, c.toNat < 128) :
    len text = text.length := by
  have counted : ∀ chars : List Char, (∀ c ∈ chars, c.toNat < 128) →
      len (String.ofList chars) = chars.length := by
    intro chars plain
    induction chars with
    | nil => rfl
    | cons c rest ih =>
      have one : c.utf8Size = 1 := by
        rw [Char.utf8Size_eq_one_iff, UInt32.le_iff_toNat_le]
        exact Nat.le_of_lt_succ (plain c (by simp))
      rw [len_ofList_cons, ih fun d member => plain d (List.mem_cons_of_mem c member), one,
        List.length_cons, Nat.add_comm]
  have same := counted text.toList ascii
  rwa [String.ofList_toList, String.length_toList] at same

/-- `[]byte(text)`. -/
def bytes (text : String) : Bytes := text.toUTF8.data.toList

theorem bytes_injective {one other : String} (same : bytes one = bytes other) : one = other := by
  apply String.toByteArray_inj.mp
  exact ByteArray.ext (Array.toList_inj.mp same)

theorem length_bytes (text : String) : (bytes text).length = len text := rfl

def isSpace (c : Char) : Bool :=
  let code := c.toNat
  (9 ≤ code && code ≤ 13) || code == 0x20 || code == 0x85 || code == 0xA0 || code == 0x1680 ||
    (0x2000 ≤ code && code ≤ 0x200A) || code == 0x2028 || code == 0x2029 || code == 0x202F ||
    code == 0x205F || code == 0x3000

def isControl (c : Char) : Bool :=
  let code := c.toNat
  code ≤ 0x1F || (0x7F ≤ code && code ≤ 0x9F)

/-- The characters of ASCII between the blank and the delete character. -/
theorem printable_of_range {c : Char} (range : 33 ≤ c.toNat ∧ c.toNat ≤ 126) :
    isSpace c = false ∧ isControl c = false := by
  simp only [isSpace, isControl, Bool.or_eq_false_iff, Bool.and_eq_false_iff, beq_eq_false_iff_ne,
    decide_eq_false_iff_not]
  omega

def trimSpace (text : String) : String :=
  String.ofList ((text.toList.dropWhile isSpace).reverse.dropWhile isSpace).reverse

theorem trimSpace_of_none (text : String) (none : ∀ c ∈ text.toList, isSpace c = false) :
    trimSpace text = text := by
  have kept : ∀ chars : List Char, (∀ c ∈ chars, isSpace c = false) →
      chars.dropWhile isSpace = chars := by
    intro chars plain
    cases chars with
    | nil => rfl
    | cons c rest => simp [List.dropWhile, plain c (by simp)]
  have backwards : ∀ c ∈ text.toList.reverse, isSpace c = false := by simpa using none
  rw [trimSpace, kept _ none, kept _ backwards, List.reverse_reverse, String.ofList_toList]

theorem trimSpace_trimSpace (text : String) : trimSpace (trimSpace text) = trimSpace text := by
  -- what is left of the text still begins with a character that is no space
  have front : ∀ chars : List Char,
      ((chars.dropWhile isSpace).rdropWhile isSpace).dropWhile isSpace =
        (chars.dropWhile isSpace).rdropWhile isSpace := by
    intro chars
    obtain ⟨cut, joined⟩ := List.rdropWhile_prefix isSpace (chars.dropWhile isSpace)
    have kept := List.dropWhile_idempotent isSpace chars
    cases left : (chars.dropWhile isSpace).rdropWhile isSpace with
    | nil => rfl
    | cons c rest =>
      rw [left] at joined
      rw [← joined] at kept
      cases space : isSpace c with
      | false => simp [List.dropWhile, space]
      | true =>
        have shorter := (List.dropWhile_suffix isSpace (l := rest ++ cut)).length_le
        simp only [List.cons_append, List.dropWhile, space] at kept
        rw [kept, List.length_cons] at shorter
        omega
  have twice := List.rdropWhile_idempotent isSpace (text.toList.dropWhile isSpace)
  have trimmed : ∀ text, trimSpace text =
      String.ofList ((text.toList.dropWhile isSpace).rdropWhile isSpace) := fun _ => rfl
  rw [trimmed (trimSpace text), trimmed text, String.toList_ofList, front, twice]

theorem mem_trimSpace {text : String} {c : Char} (member : c ∈ text.toList)
    (kept : isSpace c = false) : c ∈ (trimSpace text).toList := by
  have stays : ∀ chars : List Char, c ∈ chars → c ∈ chars.dropWhile isSpace := by
    intro chars member
    rw [← List.takeWhile_append_dropWhile (p := isSpace) (l := chars), List.mem_append] at member
    rcases member with dropped | member
    · rw [List.mem_takeWhile_imp dropped] at kept
      cases kept
    · exact member
  have front := stays _ member
  have back := stays _ (List.mem_reverse.mpr front)
  rw [trimSpace, String.toList_ofList]
  exact List.mem_reverse.mpr back

/-- `strings.Split` at a one-character separator. -/
def split (text : String) (separator : Char) : List String :=
  (text.toList.splitOn separator).map String.ofList

theorem split_of_absent (text : String) (separator : Char) (absent : separator ∉ text.toList) :
    split text separator = [text] := by
  rw [split, List.splitOn_eq_singleton absent, List.map_singleton, String.ofList_toList]

theorem split_append (first rest : String) (separator : Char)
    (absent : separator ∉ first.toList) :
    split (first ++ (String.singleton separator ++ rest)) separator =
      first :: split rest separator := by
  simp only [split, String.toList_append, String.toList_singleton, List.cons_append,
    List.nil_append]
  rw [List.splitOn_append_cons_self_of_not_mem absent, List.map_cons, String.ofList_toList]

def containsAny (text chars : String) : Bool :=
  text.toList.any fun c => chars.toList.contains c

def contains (text fragment : String) : Bool :=
  text.toList.tails.any fun rest => fragment.toList.isPrefixOf rest

/-- `strings.ReplaceAll` of one character by nothing. -/
def removeAll (text : String) (char : Char) : String :=
  String.ofList (text.toList.filter (· != char))

def hasPrefix (text lead : String) : Bool := lead.toList.isPrefixOf text.toList

def hasSuffix (text tail : String) : Bool := tail.toList.isSuffixOf text.toList

/-- `strings.ToLower` on the characters whose lower case is ASCII: the dotted
capital I and the Kelvin sign are the only two outside ASCII. Any other
character keeps its place, which no caller here can tell from its lower case. -/
def lowerChar (c : Char) : Char :=
  if c.toNat = 0x130 then 'i' else if c.toNat = 0x212A then 'k' else c.toLower

def toLower (text : String) : String := String.ofList (text.toList.map lowerChar)

theorem toLower_eq_self {c : Char} (other : ¬ (65 ≤ c.toNat ∧ c.toNat ≤ 90)) : c.toLower = c := by
  delta Char.toLower
  exact dif_neg other

def isLowerASCII (c : Char) : Bool := 'a' ≤ c && c ≤ 'z'
def isUpperASCII (c : Char) : Bool := 'A' ≤ c && c ≤ 'Z'
def isDigitASCII (c : Char) : Bool := '0' ≤ c && c ≤ '9'
def isAlnumASCII (c : Char) : Bool := isLowerASCII c || isUpperASCII c || isDigitASCII c

theorem isAlnumASCII_range {c : Char} (alnum : isAlnumASCII c = true) :
    48 ≤ c.toNat ∧ c.toNat ≤ 122 := by
  simp only [isAlnumASCII, isLowerASCII, isUpperASCII, isDigitASCII, Bool.or_eq_true,
    Bool.and_eq_true, decide_eq_true_eq, Char.le_def, UInt32.le_iff_toNat_le] at alnum
  change ((97 ≤ c.toNat ∧ c.toNat ≤ 122 ∨ 65 ≤ c.toNat ∧ c.toNat ≤ 90) ∨
    48 ≤ c.toNat ∧ c.toNat ≤ 57) at alnum
  omega

/-- A text that matches `^[first][rest]{0,bound}$` for two classes of characters. -/
def anchored (first rest : Char → Bool) (bound : Nat) (text : String) : Bool :=
  match text.toList with
  | [] => false
  | c :: chars => first c && chars.length ≤ bound && chars.all rest

section Anchored

variable {first rest : Char → Bool} {bound : Nat} {text : String}

theorem anchored_iff :
    anchored first rest bound text = true ↔
      ∃ c chars, text.toList = c :: chars ∧ first c = true ∧ chars.length ≤ bound ∧
        ∀ d ∈ chars, rest d = true := by
  unfold anchored
  split
  · rename_i empty
    simp [empty]
  · rename_i c chars shape
    simp [shape, and_assoc]

theorem length_of_anchored (matched : anchored first rest bound text = true) :
    1 ≤ text.length ∧ text.length ≤ bound + 1 := by
  obtain ⟨c, chars, shape, -, short, -⟩ := anchored_iff.mp matched
  rw [← String.length_toList, shape, List.length_cons]
  omega

theorem chars_of_anchored (matched : anchored first rest bound text = true)
    (wider : ∀ c, first c = true → rest c = true) : ∀ c ∈ text.toList, rest c = true := by
  obtain ⟨c, chars, shape, lead, -, tail⟩ := anchored_iff.mp matched
  intro d member
  rw [shape, List.mem_cons] at member
  rcases member with rfl | member
  · exact wider d lead
  · exact tail d member

end Anchored

def isContinuation (b : UInt8) : Bool := 0x80 ≤ b && b < 0xC0

/-- The first character of a UTF-8 text and the bytes after it; `none` if there is
no valid encoding at its start. -/
def decodeRune : Bytes → Option (Char × Bytes)
  | [] => none
  | a :: rest =>
    if a < 0x80 then some (Char.ofNat a.toNat, rest)
    else match rest with
    | [] => none
    | b :: rest =>
      if 0xC2 ≤ a && a < 0xE0 && isContinuation b then
        some (Char.ofNat (a.toNat % 32 * 64 + b.toNat % 64), rest)
      else match rest with
      | [] => none
      | c :: rest =>
        let three := a.toNat % 16 * 4096 + b.toNat % 64 * 64 + c.toNat % 64
        if 0xE0 ≤ a && a < 0xF0 && isContinuation b && isContinuation c && 0x800 ≤ three &&
            (three < 0xD800 || 0xE000 ≤ three) then
          some (Char.ofNat three, rest)
        else match rest with
        | [] => none
        | d :: rest =>
          let four := a.toNat % 8 * 262144 + b.toNat % 64 * 4096 + c.toNat % 64 * 64 +
            d.toNat % 64
          if 0xF0 ≤ a && a < 0xF8 && isContinuation b && isContinuation c &&
              isContinuation d && 0x10000 ≤ four && four < 0x110000 then
            some (Char.ofNat four, rest)
          else none

/-- `strings.ToValidUTF8(text, "\uFFFD")`: each run of bytes that decode to
nothing becomes one replacement character. The first argument bounds the number of
characters. -/
def validChars : Nat → Bytes → Bool → List Char
  | 0, _, _ => []
  | fuel + 1, text, invalid =>
    match text, decodeRune text with
    | [], _ => []
    | _, some (c, rest) => c :: validChars fuel rest false
    | _ :: rest, none =>
      if invalid then validChars fuel rest true else '\uFFFD' :: validChars fuel rest true

def toValidUTF8 (text : Bytes) : String := String.ofList (validChars text.length text false)

example : toValidUTF8 [0x61, 0xFF, 0xC0, 0xC3, 0xA9] = "a\uFFFDé" := by decide

/-- Value of a string of decimal digits, `none` if there is any other character. -/
def decimal (digits : List Char) : Option Nat :=
  digits.foldl (fun value c =>
    value.bind fun n => if isDigitASCII c then some (10 * n + (c.toNat - 48)) else none) (some 0)

/-- `strconv.ParseInt(text, 10, 64)`. -/
def parseInt64 (text : String) : Option Int :=
  let signed : Int × List Char :=
    match text.toList with
    | '-' :: digits => (-1, digits)
    | '+' :: digits => (1, digits)
    | digits => (1, digits)
  if signed.2.isEmpty then none
  else match decimal signed.2 with
    | none => none
    | some n =>
      let value := signed.1 * (n : Int)
      if -(2 ^ 63 : Int) ≤ value ∧ value < 2 ^ 63 then some value else none

def hexDigit (n : Nat) : Char :=
  if n < 10 then Char.ofNat (48 + n) else Char.ofNat (87 + n)

/-- `hex.EncodeToString`. -/
def hex (bytes : Bytes) : String :=
  String.ofList (bytes.flatMap fun b => [hexDigit (b.toNat / 16), hexDigit (b.toNat % 16)])

theorem hexDigit_injective : ∀ n < 16, ∀ m < 16, hexDigit n = hexDigit m → n = m := by decide

theorem hex_injective {one other : Bytes} (same : hex one = hex other) : one = other := by
  have digits := String.ofList_injective same
  clear same
  induction one generalizing other with
  | nil =>
    cases other with
    | nil => rfl
    | cons b rest => simp at digits
  | cons a one ih =>
    cases other with
    | nil => simp at digits
    | cons b other =>
      simp only [List.flatMap_cons, List.cons_append, List.nil_append,
        List.cons.injEq] at digits
      obtain ⟨high, low, later⟩ := digits
      have first := a.toNat_lt
      have second := b.toNat_lt
      have quotients := hexDigit_injective _ (by omega) _ (by omega) high
      have remainders := hexDigit_injective _ (by omega) _ (by omega) low
      have bytes : a = b := UInt8.toNat_inj.mp (by omega)
      rw [bytes, ih later]

/-- `base64.RawURLEncoding`: the six bits of one character. -/
def sextet (c : Char) : Option Nat :=
  if isUpperASCII c then some (c.toNat - 65)
  else if isLowerASCII c then some (c.toNat - 71)
  else if isDigitASCII c then some (c.toNat + 4)
  else if c = '-' then some 62
  else if c = '_' then some 63
  else none

/-- Groups of four characters are three bytes; a last group of two or three is
one or two. In strict mode the unused bits of that group must be zero. -/
def octets (strict : Bool) : List Nat → Option Bytes
  | [] => some []
  | [_] => none
  | [a, b] =>
    if strict && b % 16 != 0 then none else some [UInt8.ofNat (4 * a + b / 16)]
  | [a, b, c] =>
    if strict && c % 4 != 0 then none
    else some [UInt8.ofNat (4 * a + b / 16), UInt8.ofNat (16 * (b % 16) + c / 4)]
  | a :: b :: c :: d :: rest =>
    (octets strict rest).map fun bytes =>
      UInt8.ofNat (4 * a + b / 16) :: UInt8.ofNat (16 * (b % 16) + c / 4) ::
        UInt8.ofNat (64 * (c % 4) + d) :: bytes

/-- `base64.RawURLEncoding.DecodeString`, which skips line breaks. -/
def rawURLDecode (strict : Bool) (text : String) : Option Bytes :=
  let chars := text.toList.filter fun c => c != '\n' && c != '\r'
  (chars.mapM sextet).bind (octets strict)

def sextetChar (n : Nat) : Char :=
  if n < 26 then Char.ofNat (65 + n)
  else if n < 52 then Char.ofNat (71 + n)
  else if n < 62 then Char.ofNat (n - 4)
  else if n = 62 then '-' else '_'

def sextets : Bytes → List Nat
  | [] => []
  | [a] => [a.toNat / 4, 16 * (a.toNat % 4)]
  | [a, b] => [a.toNat / 4, 16 * (a.toNat % 4) + b.toNat / 16, 4 * (b.toNat % 16)]
  | a :: b :: c :: rest =>
    a.toNat / 4 :: (16 * (a.toNat % 4) + b.toNat / 16) ::
      (4 * (b.toNat % 16) + c.toNat / 64) :: c.toNat % 64 :: sextets rest

/-- `base64.RawURLEncoding.EncodeToString`. -/
def rawURLEncode (raw : Bytes) : String := String.ofList ((sextets raw).map sextetChar)

theorem sextets_lt (raw : Bytes) : ∀ n ∈ sextets raw, n < 64 := by
  fun_induction sextets raw with
  | case1 => simp
  | case2 a => have := a.toNat_lt; simp; omega
  | case3 a b => have := a.toNat_lt; have := b.toNat_lt; simp; omega
  | case4 a b c rest ih =>
    have := a.toNat_lt
    have := b.toNat_lt
    have := c.toNat_lt
    simp only [List.mem_cons]
    rintro n (rfl | rfl | rfl | rfl | later)
    · omega
    · omega
    · omega
    · omega
    · exact ih n later

theorem length_sextets (raw : Bytes) : (sextets raw).length = (4 * raw.length + 2) / 3 := by
  fun_induction sextets raw with
  | case1 | case2 | case3 => simp
  | case4 a b c rest ih => simp only [List.length_cons, ih]; omega

theorem rawURLEncode_chars (raw : Bytes) :
    ∀ c ∈ (rawURLEncode raw).toList, isAlnumASCII c = true ∨ c = '-' ∨ c = '_' := by
  have chars : ∀ n < 64, isAlnumASCII (sextetChar n) = true ∨ sextetChar n = '-' ∨
      sextetChar n = '_' := by decide
  intro c member
  rw [rawURLEncode, String.toList_ofList] at member
  obtain ⟨n, isSextet, rfl⟩ := List.mem_map.mp member
  exact chars n (sextets_lt raw n isSextet)

theorem rawURLEncode_range (raw : Bytes) :
    ∀ c ∈ (rawURLEncode raw).toList, 45 ≤ c.toNat ∧ c.toNat ≤ 122 := by
  intro c member
  rcases rawURLEncode_chars raw c member with alnum | rfl | rfl
  · have range := isAlnumASCII_range alnum
    omega
  all_goals decide

theorem sextet_sextetChar : ∀ n < 64, sextet (sextetChar n) = some n := by decide

theorem mapM_sextet {l : List Nat} (small : ∀ n ∈ l, n < 64) :
    (l.map sextetChar).mapM sextet = some l := by
  induction l with
  | nil => rfl
  | cons n rest ih =>
    rw [List.forall_mem_cons] at small
    rw [List.map_cons, List.mapM_cons, sextet_sextetChar n small.1, ih small.2]
    rfl

/-- Encoding leaves the unused bits zero, so that both modes read it. -/
theorem octets_sextets (strict : Bool) (raw : Bytes) :
    octets strict (sextets raw) = some raw := by
  have whole (b : UInt8) : UInt8.ofNat b.toNat = b := UInt8.ofNat_toNat
  fun_induction sextets raw with
  | case1 => rfl
  | case2 a =>
    have := a.toNat_lt
    have first : 4 * (a.toNat / 4) + 16 * (a.toNat % 4) / 16 = a.toNat := by omega
    have unused : 16 * (a.toNat % 4) % 16 = 0 := by omega
    simp only [octets, unused, bne_self_eq_false, Bool.and_false, Bool.false_eq_true, ↓reduceIte,
      first, whole]
  | case3 a b =>
    have := a.toNat_lt
    have := b.toNat_lt
    have first : 4 * (a.toNat / 4) + (16 * (a.toNat % 4) + b.toNat / 16) / 16 = a.toNat := by
      omega
    have second : 16 * ((16 * (a.toNat % 4) + b.toNat / 16) % 16) + 4 * (b.toNat % 16) / 4 =
        b.toNat := by omega
    have unused : 4 * (b.toNat % 16) % 4 = 0 := by omega
    simp only [octets, unused, bne_self_eq_false, Bool.and_false, Bool.false_eq_true, ↓reduceIte,
      first, second, whole]
  | case4 a b c rest ih =>
    have := a.toNat_lt
    have := b.toNat_lt
    have := c.toNat_lt
    have first : 4 * (a.toNat / 4) + (16 * (a.toNat % 4) + b.toNat / 16) / 16 = a.toNat := by
      omega
    have second : 16 * ((16 * (a.toNat % 4) + b.toNat / 16) % 16) +
        (4 * (b.toNat % 16) + c.toNat / 64) / 4 = b.toNat := by omega
    have third : 64 * ((4 * (b.toNat % 16) + c.toNat / 64) % 4) + c.toNat % 64 = c.toNat := by
      omega
    simp only [octets, ih, Option.map_some, first, second, third, whole]

theorem rawURLDecode_rawURLEncode (strict : Bool) (raw : Bytes) :
    rawURLDecode strict (rawURLEncode raw) = some raw := by
  have kept : (rawURLEncode raw).toList.filter (fun c => c != '\n' && c != '\r') =
      (rawURLEncode raw).toList := by
    rw [List.filter_eq_self]
    intro c member
    have range := rawURLEncode_range raw c member
    simp only [Bool.and_eq_true, bne_iff_ne]
    constructor <;> rintro rfl <;> revert range <;> decide
  unfold rawURLDecode
  rw [kept, rawURLEncode, String.toList_ofList]
  simp only [mapM_sextet (sextets_lt raw), Option.bind_some]
  exact octets_sextets strict raw

example : rawURLEncode [1, 2, 3, 255] = "AQID_w" := by decide

example : rawURLDecode true "AQID_w" = some [1, 2, 3, 255] := by decide

/-- The 32 bytes of a digest that is given as a number. -/
def digestBytes (n : Nat) : Bytes := (List.range 32).map fun i => UInt8.ofNat (n / 256 ^ (31 - i))

/-- A function without collisions that has the known digests, for samples. -/
def digestsOn (known : List (Bytes × Nat)) (data : Bytes) : Bytes :=
  match known.find? fun entry => entry.1 = data with
  | some entry => digestBytes entry.2
  | none => List.replicate 33 0 ++ data

theorem digestsOn_injective {known : List (Bytes × Nat)}
    (distinct : (known.map fun entry => digestBytes entry.2).Nodup) :
    Function.Injective (digestsOn known) := by
  have size (n : Nat) (data : Bytes) : digestBytes n ≠ List.replicate 33 0 ++ data := by
    intro same
    have lengths := congrArg List.length same
    simp [digestBytes] at lengths
  intro one other same
  unfold digestsOn at same
  split at same <;> split at same
  · rename_i first found _ second alsoFound
    have entries := List.inj_on_of_nodup_map distinct (List.mem_of_find?_eq_some found)
      (List.mem_of_find?_eq_some alsoFound) same
    have keys := And.intro (List.find?_some found) (List.find?_some alsoFound)
    simp only [decide_eq_true_eq] at keys
    rw [← keys.1, ← keys.2, entries]
  · exact absurd same (size _ _)
  · exact absurd same.symm (size _ _)
  · exact List.append_cancel_left same

end VpsManager.Go
