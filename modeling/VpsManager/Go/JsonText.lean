import VpsManager.Go.Json

/- How `encoding/json` reads the text of a value. The bytes are cut into tokens, and
the tokens are put together on a stack of the arrays and objects that have begun. -/
namespace VpsManager.Go.Json

inductive Token
  | beginObject
  | endObject
  | beginArray
  | endArray
  | colon
  | comma
  | scalar (value : Json)

/-- Commas and colons are not returned. -/
def Token.returned : Token → Bool
  | .comma => false
  | .colon => false
  | _ => true

/-- A scalar token is neither an array nor an object. -/
def Token.Plain : Token → Prop
  | .scalar (.array _) => False
  | .scalar (.object _) => False
  | _ => True

def someDigits : List Char → Option (List Char)
  | [] => none
  | c :: rest => if isDigitASCII c then some (rest.dropWhile isDigitASCII) else none

def integerPart : List Char → Option (List Char)
  | '0' :: rest => some rest
  | rest => someDigits rest

def fractionPart : List Char → Option (List Char)
  | '.' :: rest => someDigits rest
  | rest => some rest

def exponentPart : List Char → Option (List Char)
  | [] => some []
  | c :: rest =>
    if c == 'e' || c == 'E' then
      match rest with
      | '+' :: digits => someDigits digits
      | '-' :: digits => someDigits digits
      | digits => someDigits digits
    else some (c :: rest)

def isValidNumber (text : List Char) : Bool :=
  let unsigned := match text with
    | '-' :: rest => rest
    | rest => rest
  match integerPart unsigned >>= fractionPart >>= exponentPart with
  | some [] => true
  | _ => false

/-- A number, or one of the three names. -/
def word (text : List Char) : Option Json :=
  if text = "null".toList then some .null
  else if text = "true".toList then some (.bool true)
  else if text = "false".toList then some (.bool false)
  else if isValidNumber text then some (.number (String.ofList text))
  else none

theorem plain_of_word {text : List Char} {value : Json} (read : word text = some value) :
    (Token.scalar value).Plain := by
  unfold word at read
  split at read
  · cases read; trivial
  · split at read
    · cases read; trivial
    · split at read
      · cases read; trivial
      · split at read
        · cases read; trivial
        · cases read

def hexValue (b : UInt8) : Option Nat :=
  let code := b.toNat
  if 48 ≤ code ∧ code ≤ 57 then some (code - 48)
  else if 97 ≤ code ∧ code ≤ 102 then some (code - 87)
  else if 65 ≤ code ∧ code ≤ 70 then some (code - 55)
  else none

/-- The number written in four hexadecimal digits. -/
def getu4 : Bytes → Option Nat
  | a :: b :: c :: d :: _ => do
    some (4096 * (← hexValue a) + 256 * (← hexValue b) + 16 * (← hexValue c) + (← hexValue d))
  | _ => none

/-- The character that a backslash and this byte stand for. -/
def unescape (b : UInt8) : Option Char :=
  if b = 0x22 then some '"'
  else if b = 0x5C then some '\\'
  else if b = 0x2F then some '/'
  else if b = 0x62 then some (Char.ofNat 8)
  else if b = 0x66 then some (Char.ofNat 12)
  else if b = 0x6E then some '\n'
  else if b = 0x72 then some '\r'
  else if b = 0x74 then some '\t'
  else none

/-- The other half of a surrogate pair, if the bytes begin with one. -/
def lowSurrogate : Bytes → Option Nat
  | 0x5C :: 0x75 :: rest => do
    let unit ← getu4 rest
    if 0xDC00 ≤ unit ∧ unit < 0xE000 then some unit else none
  | _ => none

/-- The character after a backslash and `u`, and how many of its bytes come after the
backslash. Half of a surrogate pair becomes the replacement character. -/
def unicodeEscape (rest : Bytes) : Option (Char × Nat) := do
  let unit ← getu4 rest
  if unit < 0xD800 ∨ 0xE000 ≤ unit then some (Char.ofNat unit, 5)
  else if 0xDC00 ≤ unit then some ('\uFFFD', 5)
  else match lowSurrogate (rest.drop 4) with
    | some low => some (Char.ofNat (0x10000 + (unit - 0xD800) * 1024 + (low - 0xDC00)), 11)
    | none => some ('\uFFFD', 5)

/-- The first character of a string, and how many of its bytes come after the first
one. A byte that begins no valid encoding becomes the replacement character. -/
def nextChar (first : UInt8) (rest : Bytes) : Option (Char × Nat) :=
  if first = 0x5C then
    match rest with
    | [] => none
    | b :: more => if b = 0x75 then unicodeEscape more else (unescape b).map fun c => (c, 1)
  else if first < 0x20 then none
  else match decodeRune (first :: rest) with
    | some (c, _) => some (c, c.utf8Size - 1)
    | none => some ('\uFFFD', 0)

/-- The characters of a string after the number of bytes that belong to the character
before. -/
def unquoteFrom : Nat → Bytes → Option (List Char)
  | _, [] => some []
  | skip + 1, _ :: rest => unquoteFrom skip rest
  | 0, b :: rest => do
    let (c, size) ← nextChar b rest
    let chars ← unquoteFrom size rest
    some (c :: chars)

def unquote (text : Bytes) : Option String := (unquoteFrom 0 text).map String.ofList

/-- What the reader is within; what was read of it is kept, the last first. -/
inductive Mode
  | between
  | word (text : List Char)
  | quoted (text : Bytes)
  | escaped (text : Bytes)

def isBlank (b : UInt8) : Bool := b = 0x20 ∨ b = 0x09 ∨ b = 0x0D ∨ b = 0x0A

def isWordByte (b : UInt8) : Bool :=
  let c := Char.ofNat b.toNat
  isAlnumASCII c || c == '+' || c == '-' || c == '.'

def delimiter (b : UInt8) : Option Token :=
  if b = 0x7B then some .beginObject
  else if b = 0x7D then some .endObject
  else if b = 0x5B then some .beginArray
  else if b = 0x5D then some .endArray
  else if b = 0x3A then some .colon
  else if b = 0x2C then some .comma
  else none

def startToken (b : UInt8) : Option (List Token × Mode) :=
  if isBlank b then some ([], .between)
  else if b = 0x22 then some ([], .quoted [])
  else if isWordByte b then some ([], .word [Char.ofNat b.toNat])
  else (delimiter b).map fun token => ([token], .between)

def lexStep (mode : Mode) (b : UInt8) : Option (List Token × Mode) :=
  match mode with
  | .between => startToken b
  | .word text =>
    if isWordByte b then some ([], .word (Char.ofNat b.toNat :: text))
    else do
      let value ← word text.reverse
      let (tokens, next) ← startToken b
      some (.scalar value :: tokens, next)
  | .quoted text =>
    if b = 0x22 then do
      let value ← unquote text.reverse
      some ([.scalar (.string value)], .between)
    else if b = 0x5C then some ([], .escaped text)
    else some ([], .quoted (b :: text))
  | .escaped text => some ([], .quoted (b :: 0x5C :: text))

def lexEnd : Mode → Option (List Token)
  | .between => some []
  | .word text => do some [.scalar (← word text.reverse)]
  | .quoted _ => none
  | .escaped _ => none

def lex : Mode → Bytes → Option (List Token)
  | mode, [] => lexEnd mode
  | mode, b :: rest => do
    let (tokens, next) ← lexStep mode b
    let more ← lex next rest
    some (tokens ++ more)

/-- An array or object that has begun, with what was read of it, the last first. Of an
object it is the member with this name whose value is being read. -/
inductive Frame
  | array (items : List Json)
  | object (members : List (String × Json)) (name : String)

/-- What is to come, within what has begun. -/
inductive Reader
  | value (frames : List Frame)
  | valueOrEnd (frames : List Frame)
  | name (frames : List Frame) (members : List (String × Json))
  | nameOrEnd (frames : List Frame)
  | colon (frames : List Frame) (members : List (String × Json)) (name : String)
  | ended (frames : List Frame) (value : Json)

def maxNestingDepth : Nat := 10000

def beginValue (frames : List Frame) : Token → Option Reader
  | .scalar value => some (.ended frames value)
  | .beginArray => if frames.length < maxNestingDepth then some (.valueOrEnd frames) else none
  | .beginObject => if frames.length < maxNestingDepth then some (.nameOrEnd frames) else none
  | _ => none

def readName (frames : List Frame) (members : List (String × Json)) : Token → Option Reader
  | .scalar (.string name) => some (.colon frames members name)
  | _ => none

def endValue (value : Json) : List Frame → Token → Option Reader
  | .array items :: frames, .comma => some (.value (.array (value :: items) :: frames))
  | .array items :: frames, .endArray => some (.ended frames (.array (value :: items).reverse))
  | .object members name :: frames, .comma => some (.name frames ((name, value) :: members))
  | .object members name :: frames, .endObject =>
    some (.ended frames (.object ((name, value) :: members).reverse))
  | _, _ => none

def readToken : Reader → Token → Option Reader
  | .value frames, token => beginValue frames token
  | .valueOrEnd frames, .endArray => some (.ended frames (.array []))
  | .valueOrEnd frames, token => beginValue (.array [] :: frames) token
  | .name frames members, token => readName frames members token
  | .nameOrEnd frames, .endObject => some (.ended frames (.object []))
  | .nameOrEnd frames, token => readName frames [] token
  | .colon frames members name, .colon => some (.value (.object members name :: frames))
  | .colon _ _ _, _ => none
  | .ended frames value, token => endValue value frames token

/-- The value with this text; `none` if `json.Valid` is false. -/
def parse (text : Bytes) : Option Json := do
  let tokens ← lex .between text
  match ← tokens.foldlM readToken (.value []) with
  | .ended [] value => some value
  | _ => none

example : parse (bytes " \x7b\"a\\u00e9\\n\" : [1.5e+3, true ,\x7b\x7d]\x7d\n") =
    some (.object [("aé\n", .array [.number "1.5e+3", .bool true, .object []])]) := by rfl

example : (parse (bytes "[1,]")).isNone ∧ (parse (bytes "01")).isNone ∧
    (parse (bytes "\x7b\"a\":1\x7d 2")).isNone := by decide

end VpsManager.Go.Json
