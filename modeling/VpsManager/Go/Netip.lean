import VpsManager.Go.Text

namespace VpsManager.Go

inductive Addr
  | v4 (value : BitVec 32)
  | v6 (value : BitVec 128) (zone : String)
  deriving DecidableEq, Repr

def ipv4 (a b c d : Nat) : Addr := .v4 (BitVec.ofNat 32 (((a * 256 + b) * 256 + c) * 256 + d))

/-- The loop of `parseIPv4Fields`: the fields before, the value of the current
one and its number of digits. -/
def ipv4Fields : List Char → List Nat → Nat → Nat → Option (List Nat)
  | [], fields, value, _ => if fields.length < 3 then none else some (fields ++ [value])
  | c :: rest, fields, value, digits =>
    if isDigitASCII c then
      if digits = 1 ∧ value = 0 then none
      else
        let next := value * 10 + (c.toNat - 48)
        if 255 < next then none else ipv4Fields rest fields next (digits + 1)
    else if c = '.' then
      if digits = 0 ∨ rest = [] then none
      else if fields.length = 3 then none
      else ipv4Fields rest (fields ++ [value]) 0 0
    else none

def parseIPv4 (chars : List Char) : Option Addr :=
  match ipv4Fields chars [] 0 0 with
  | some [a, b, c, d] => some (ipv4 a b c d)
  | _ => none

def hexValue (c : Char) : Option Nat :=
  if isDigitASCII c then some (c.toNat - 48)
  else if 'a' ≤ c && c ≤ 'f' then some (c.toNat - 87)
  else if 'A' ≤ c && c ≤ 'F' then some (c.toNat - 55)
  else none

/-- A run of hexadecimal digits: how many, their value and what follows. More
than four fail. -/
def hexRun : List Char → Nat → Nat → Option (Nat × Nat × List Char)
  | [], digits, value => some (digits, value, [])
  | c :: rest, digits, value =>
    match hexValue c with
    | none => some (digits, value, c :: rest)
    | some digit => if 3 < digits then none else hexRun rest (digits + 1) (value * 16 + digit)

/-- The loop of `parseIPv6` over at most `room` more groups: the groups, the
position of the ellipsis and the text left over. -/
def ipv6Groups : Nat → List Char → List Nat → Option Nat →
    Option (List Nat × Option Nat × List Char)
  | 0, text, groups, ellipsis => some (groups, ellipsis, text)
  | room + 1, text, groups, ellipsis =>
    match hexRun text 0 0 with
    | none => none
    | some (0, _, _) => none
    | some (_, value, rest) =>
      match rest with
      | [] => some (groups ++ [value], ellipsis, [])
      | '.' :: _ =>
        if ellipsis = none ∧ groups.length ≠ 6 then none
        else if 8 < groups.length + 2 then none
        else match ipv4Fields text [] 0 0 with
          | some [a, b, c, d] => some (groups ++ [a * 256 + b, c * 256 + d], ellipsis, [])
          | _ => none
      | ':' :: ':' :: more =>
        if ellipsis ≠ none then none
        else
          let position := some (groups.length + 1)
          if more = [] then some (groups ++ [value], position, [])
          else ipv6Groups room more (groups ++ [value]) position
      | [':'] => none
      | ':' :: more => ipv6Groups room more (groups ++ [value]) ellipsis
      | _ => none

def expandGroups (groups : List Nat) (ellipsis : Option Nat) : Option (List Nat) :=
  match ellipsis with
  | none => if groups.length < 8 then none else some groups
  | some position =>
    if groups.length < 8 then
      some (groups.take position ++ List.replicate (8 - groups.length) 0 ++ groups.drop position)
    else none

def ipv6Value (groups : List Nat) : BitVec 128 :=
  BitVec.ofNat 128 (groups.foldl (fun value group => value * 65536 + group) 0)

def parseIPv6 (chars : List Char) : Option Addr :=
  let address := chars.takeWhile (· != '%')
  let after := chars.dropWhile (· != '%')
  if after = ['%'] then none
  else
    let zone := String.ofList (after.drop 1)
    match address with
    | [':', ':'] => some (.v6 0 zone)
    | _ =>
      let start : List Char × Option Nat :=
        match address with
        | ':' :: ':' :: rest => (rest, some 0)
        | text => (text, none)
      match ipv6Groups 8 start.1 [] start.2 with
      | some (groups, ellipsis, []) =>
        (expandGroups groups ellipsis).map fun all => .v6 (ipv6Value all) zone
      | _ => none

/-- `netip.ParseAddr`: the first of these characters decides. -/
def parseAddr (text : String) : Option Addr :=
  match text.toList.find? fun c => c == '.' || c == ':' || c == '%' with
  | some '.' => parseIPv4 text.toList
  | some ':' => parseIPv6 text.toList
  | _ => none

/-- `net.ParseIP` takes no zone. -/
def parseIP (text : String) : Option Addr :=
  match parseAddr text with
  | some (.v6 value zone) => if zone = "" then some (.v6 value zone) else none
  | other => other

namespace Addr

def unmap : Addr → Addr
  | .v6 value zone => if value >>> 32 = 0xffff then .v4 (value.setWidth 32) else .v6 value zone
  | address => address

def isUnspecified (address : Addr) : Bool := address = .v4 0 ∨ address = .v6 0 ""

def isMulticast : Addr → Bool
  | .v4 value => value >>> 28 = 0xe
  | .v6 value _ => value >>> 120 = 0xff

def isLinkLocalUnicast : Addr → Bool
  | .v4 value => value >>> 16 = 0xa9fe
  | .v6 value _ => value >>> 118 = 0x3fa

def isLoopback : Addr → Bool
  | .v4 value => value >>> 24 = 127
  | .v6 value _ => value = 1

def isPrivate : Addr → Bool
  | .v4 value => value >>> 24 = 10 ∨ value >>> 20 = 0xac1 ∨ value >>> 16 = 0xc0a8
  | .v6 value _ => value >>> 121 = 0x7e

def isGlobalUnicast (address : Addr) : Bool :=
  ¬ (address = .v4 0 ∨ address = .v4 0xffffffff ∨ address = .v6 0 "") ∧
    address.isLoopback = false ∧ address.isMulticast = false ∧ address.isLinkLocalUnicast = false

end Addr

structure Prefix where
  addr : Addr
  bits : Nat

/-- `Prefix.Contains`: an address with a zone is in no prefix. -/
def Prefix.contains (range : Prefix) (address : Addr) : Bool :=
  match range.addr, address with
  | .v4 base, .v4 value => value >>> (32 - range.bits) = base >>> (32 - range.bits)
  | .v6 base _, .v6 value zone =>
    zone = "" ∧ value >>> (128 - range.bits) = base >>> (128 - range.bits)
  | _, _ => false

example : parseAddr "2001:db8::10.0.0.1" =
    some (.v6 (ipv6Value [0x2001, 0xdb8, 0, 0, 0, 0, 0xa00, 1]) "") := by
  decide

example : parseAddr "10.01.0.1" = none ∧ parseAddr "fe80::1%" = none ∧
    parseAddr "1:2::3::4" = none := by
  decide

end VpsManager.Go
