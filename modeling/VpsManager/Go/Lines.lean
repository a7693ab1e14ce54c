import VpsManager.Go.Text

namespace VpsManager.Go

def newline : UInt8 := 10

def tab : UInt8 := 9

/-- The text cut at each line break; what follows the last one is a line if it is not
empty. -/
def lines (input : Bytes) : List Bytes :=
  let parts := input.splitOn newline
  if parts.getLast? = some [] then parts.dropLast else parts

/-- A line without the carriage return at its end. -/
def dropCR (line : Bytes) : Bytes := if line.getLast? = some 13 then line.dropLast else line

/-- A `bufio.Scanner` over the lines with a buffer of that size: the lines up to the first
that does not fit into it with its line break, and whether there is one. -/
def scanLines (buffer : Nat) (input : Bytes) : List Bytes × Bool :=
  (((lines input).takeWhile fun line => line.length < buffer).map dropCR,
    (lines input).any fun line => buffer ≤ line.length)

/-- The encodings of the characters of `unicode.IsSpace`. -/
def spaces : List Bytes :=
  [[9], [10], [11], [12], [13], [32], [0xC2, 0x85], [0xC2, 0xA0], [0xE1, 0x9A, 0x80],
   [0xE2, 0x80, 0x80], [0xE2, 0x80, 0x81], [0xE2, 0x80, 0x82], [0xE2, 0x80, 0x83],
   [0xE2, 0x80, 0x84], [0xE2, 0x80, 0x85], [0xE2, 0x80, 0x86], [0xE2, 0x80, 0x87],
   [0xE2, 0x80, 0x88], [0xE2, 0x80, 0x89], [0xE2, 0x80, 0x8A], [0xE2, 0x80, 0xA8],
   [0xE2, 0x80, 0xA9], [0xE2, 0x80, 0xAF], [0xE2, 0x81, 0x9F], [0xE3, 0x80, 0x80]]

/-- The text from its first character on that is not among the blanks, which are looked
for at most as often as the fuel says. -/
def trimStart (blanks : List Bytes) : Nat → Bytes → Bytes
  | 0, text => text
  | fuel + 1, text =>
    match blanks.find? (·.isPrefixOf text) with
    | none => text
    | some blank => trimStart blanks fuel (text.drop blank.length)

/-- `strings.TrimSpace` of text that may be invalid. A blank at the end is found by its
bytes, as no encoding of a character ends another one. -/
def trimSpaceBytes (text : Bytes) : Bytes :=
  let front := trimStart spaces text.length text
  (trimStart (spaces.map List.reverse) front.length front.reverse).reverse

example : trimSpaceBytes [32, 0xC2, 0xA0, 97, 32, 98, 0x85, 0xE3, 0x80, 0x80, 10] =
    [97, 32, 98, 0x85] := by decide

def isDigitByte (b : UInt8) : Bool := 48 ≤ b && b ≤ 57

def digitsValue (text : Bytes) : Nat := text.foldl (fun value b => 10 * value + (b.toNat - 48)) 0

/-- `strconv.ParseUint(text, 10, bits)`. -/
def parseUint (bits : Nat) (text : Bytes) : Option Nat :=
  if text ≠ [] ∧ text.all isDigitByte = true ∧ digitsValue text < 2 ^ bits then
    some (digitsValue text)
  else none

example : parseUint 64 [49, 48, 50] = some 102 := by decide

end VpsManager.Go
