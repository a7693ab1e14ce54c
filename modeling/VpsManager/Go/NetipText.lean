import VpsManager.Go.Netip

namespace VpsManager.Go

def isAddrChar (c : Char) : Bool := (hexValue c).isSome || c == '.' || c == ':'

theorem isAddrChar_of_digit {c : Char} (digit : isDigitASCII c = true) : isAddrChar c = true := by
  simp [isAddrChar, hexValue, digit]

variable {text rest address : List Char} {value digits x : Nat} {groups : List Nat}
  {fields all after : List Nat} {count room : Nat} {chars : List Char}

theorem ipv4Fields_chars (parsed : ipv4Fields text fields value digits = some all) :
    ∀ c ∈ text, isAddrChar c = true := by
  induction text generalizing fields value digits with
  | nil => exact List.forall_mem_nil _
  | cons c rest ih =>
    rw [ipv4Fields] at parsed
    refine List.forall_mem_cons.mpr ?_
    by_cases digit : isDigitASCII c = true
    · simp only [digit, if_true, ite_eq_iff, reduceCtorEq, and_false, false_or] at parsed
      exact ⟨isAddrChar_of_digit digit, ih parsed.2.2⟩
    · by_cases dot : c = '.'
      · rw [if_neg digit, if_pos dot] at parsed
        simp only [ite_eq_iff, reduceCtorEq, and_false, false_or] at parsed
        exact ⟨by simp [isAddrChar, dot], ih parsed.2.2⟩
      · simp [digit, dot] at parsed

theorem hexRun_chars {read : Nat} (run : hexRun text digits value = some (count, read, rest)) :
    ∃ used, text = used ++ rest ∧ ∀ c ∈ used, isAddrChar c = true := by
  induction text generalizing digits value with
  | nil =>
    simp only [hexRun, Option.some.injEq, Prod.mk.injEq] at run
    exact ⟨[], by simp [run.2.2.symm], List.forall_mem_nil _⟩
  | cons c text ih =>
    rw [hexRun] at run
    cases hex : hexValue c with
    | none =>
      simp only [hex, Option.some.injEq, Prod.mk.injEq] at run
      exact ⟨[], by simp [run.2.2.symm], List.forall_mem_nil _⟩
    | some digit =>
      simp only [hex, ite_eq_iff, reduceCtorEq, and_false, false_or] at run
      obtain ⟨used, rfl, chars⟩ := ih run.2
      exact ⟨c :: used, rfl, List.forall_mem_cons.mpr ⟨by simp [isAddrChar, hex], chars⟩⟩

theorem ipv6Groups_chars {ellipsis position : Option Nat}
    (parsed : ipv6Groups room text groups ellipsis = some (all, position, rest)) :
    ∃ used, text = used ++ rest ∧ ∀ c ∈ used, isAddrChar c = true := by
  have colon : isAddrChar ':' = true := by decide
  induction room generalizing text groups ellipsis with
  | zero =>
    simp only [ipv6Groups, Option.some.injEq, Prod.mk.injEq] at parsed
    exact ⟨[], by simp [parsed.2.2], List.forall_mem_nil _⟩
  | succ room ih =>
    rw [ipv6Groups] at parsed
    split at parsed
    · cases parsed
    · cases parsed
    · rename_i count value left nonzero run
      obtain ⟨used, rfl, chars⟩ := hexRun_chars run
      split at parsed
      · simp only [Option.some.injEq, Prod.mk.injEq] at parsed
        exact ⟨used, by rw [← parsed.2.2], chars⟩
      · -- the rest is an IPv4 address
        simp only [ite_eq_iff, reduceCtorEq, and_false, false_or] at parsed
        obtain ⟨-, -, embedded⟩ := parsed
        split at embedded
        · rename_i fields
          simp only [Option.some.injEq, Prod.mk.injEq] at embedded
          exact ⟨_, by rw [← embedded.2.2, List.append_nil], ipv4Fields_chars fields⟩
        · cases embedded
      · rename_i more
        simp only [ite_eq_iff, reduceCtorEq, and_false, false_or, Option.some.injEq,
          Prod.mk.injEq] at parsed
        rcases parsed.2 with ⟨rfl, -, -, rfl⟩ | ⟨-, later⟩
        · exact ⟨used ++ [':', ':'], by simp, by simpa [colon, or_imp, forall_and] using chars⟩
        · obtain ⟨tail, rfl, tailChars⟩ := ih later
          refine ⟨used ++ ':' :: ':' :: tail, by simp, ?_⟩
          simp only [List.forall_mem_append, List.forall_mem_cons]
          exact ⟨chars, colon, colon, tailChars⟩
      · cases parsed
      · obtain ⟨tail, rfl, tailChars⟩ := ih parsed
        refine ⟨used ++ ':' :: tail, by simp, ?_⟩
        simp only [List.forall_mem_append, List.forall_mem_cons]
        exact ⟨chars, colon, tailChars⟩
      · cases parsed

theorem parseIPv4_chars {address : Addr} (parsed : parseIPv4 chars = some address) :
    ∀ c ∈ chars, isAddrChar c = true := by
  unfold parseIPv4 at parsed
  split at parsed
  · rename_i fields
    exact ipv4Fields_chars fields
  · cases parsed

/-- What is before the zone has the characters of an address. -/
theorem parseIPv6_spec {address : Addr} (parsed : parseIPv6 chars = some address) :
    (∃ value, address = .v6 value (String.ofList ((chars.dropWhile (· != '%')).drop 1))) ∧
      chars.dropWhile (· != '%') ≠ ['%'] ∧
      ∀ c ∈ chars.takeWhile (· != '%'), isAddrChar c = true := by
  have colon : isAddrChar ':' = true := by decide
  unfold parseIPv6 at parsed
  dsimp only at parsed
  split at parsed
  · cases parsed
  · rename_i zoned
    split at parsed
    · rename_i unspecified
      rw [unspecified]
      exact ⟨⟨_, (Option.some.inj parsed).symm⟩, zoned, by simp [colon]⟩
    · split at parsed
      · rename_i groups ellipsis read
        obtain ⟨all, -, rfl⟩ := Option.map_eq_some_iff.mp parsed
        obtain ⟨used, consumed, chars⟩ := ipv6Groups_chars read
        refine ⟨⟨_, rfl⟩, zoned, ?_⟩
        rw [List.append_nil] at consumed
        rw [← consumed] at chars
        split at chars
        · rename_i rest whole
          rw [whole]
          exact List.forall_mem_cons.mpr ⟨colon, List.forall_mem_cons.mpr ⟨colon, chars⟩⟩
        · exact chars
      · cases parsed

/-- An address without a zone is made of hexadecimal digits, dots and colons. -/
theorem parseIP_chars {text : String} (parsed : (parseIP text).isSome = true) :
    ∀ c ∈ text.toList, isAddrChar c = true := by
  unfold parseIP at parsed
  cases read : parseAddr text with
  | none => rw [read] at parsed; cases parsed
  | some address =>
    rw [read] at parsed
    unfold parseAddr at read
    split at read
    · exact parseIPv4_chars read
    · obtain ⟨⟨value, rfl⟩, zoned, chars⟩ := parseIPv6_spec read
      have whole := List.takeWhile_append_dropWhile (p := (· != '%')) (l := text.toList)
      cases after : text.toList.dropWhile (· != '%') with
      | nil =>
        rw [after, List.append_nil] at whole
        rw [whole] at chars
        exact chars
      | cons sign zone =>
        -- the zone after the sign is not empty, so the address is refused
        have percent : sign = '%' := by
          have stop := List.head?_dropWhile_not (· != '%') text.toList
          rw [after] at stop
          simpa using stop
        subst percent
        have named : String.ofList zone ≠ "" := by
          intro empty
          exact zoned (by rw [after, String.ofList_injective empty])
        simp [after, named] at parsed
    · cases read

/-- The digits of a number in a base, the highest one first. -/
def places (base : Nat) : Nat → Nat → List Nat
  | 0, _ => []
  | count + 1, n => places base count (n / base) ++ [n % base]

/-- `appendDecimal`. -/
def decimalText (x : Nat) : List Char :=
  (if 100 ≤ x then [hexDigit (x / 100)] else []) ++
    (if 10 ≤ x then [hexDigit (x / 10 % 10)] else []) ++ [hexDigit (x % 10)]

/-- `appendHex`. -/
def hexText (x : Nat) : List Char :=
  (if 0x1000 ≤ x then [hexDigit (x / 0x1000)] else []) ++
    (if 0x100 ≤ x then [hexDigit (x / 0x100 % 16)] else []) ++
    (if 0x10 ≤ x then [hexDigit (x / 0x10 % 16)] else []) ++ [hexDigit (x % 16)]

def string4 (value : BitVec 32) : List Char :=
  decimalText (value.toNat / 2 ^ 24) ++ '.' :: (decimalText (value.toNat / 2 ^ 16 % 256) ++
    '.' :: (decimalText (value.toNat / 2 ^ 8 % 256) ++ '.' :: decimalText (value.toNat % 256)))

def zeros : List Nat → Nat
  | 0 :: groups => zeros groups + 1
  | _ => 0

/-- The run that begins at `i` if it has at least two zero groups and is longer than
the best one so far. -/
def longerRun (groups : List Nat) (best : Nat × Nat) (i : Nat) : Nat × Nat :=
  let count := zeros (groups.drop i)
  if 2 ≤ count ∧ best.2 - best.1 < count then (i, i + count) else best

/-- Where the longest run of zero groups begins and ends. -/
def zeroRun (groups : List Nat) : Nat × Nat := (List.range 8).foldl (longerRun groups) (255, 255)

def joinGroups : List Nat → List Char
  | [] => []
  | [group] => hexText group
  | group :: next :: groups => hexText group ++ ':' :: joinGroups (next :: groups)

def string6 (groups : List Nat) : List Char :=
  let run := zeroRun groups
  if run.1 = 255 then joinGroups groups
  else joinGroups (groups.take run.1) ++ ':' :: ':' :: joinGroups (groups.drop run.2)

def Addr.string : Addr → String
  | .v4 value => String.ofList (string4 value)
  | .v6 value zone =>
    let address :=
      if value >>> 32 = 0xffff then "::ffff:".toList ++ string4 (value.setWidth 32)
      else string6 (places 65536 8 value.toNat)
    String.ofList (address ++ if zone = "" then [] else '%' :: zone.toList)

example : (Addr.v6 (ipv6Value [0x2001, 0xdb8, 0, 0, 1, 0, 0, 1]) "eth0").string =
    "2001:db8::1:0:0:1%eth0" := by
  decide

theorem hexDigit_decimal : ∀ d < 10,
    isDigitASCII (hexDigit d) = true ∧ (hexDigit d).toNat - 48 = d := by
  decide

theorem hexValue_hexDigit : ∀ d < 16, hexValue (hexDigit d) = some d := by
  decide

theorem ipv4Fields_digit {d : Nat} (rest : List Char) (fields : List Nat) (digit : d < 10)
    (leading : ¬ (digits = 1 ∧ value = 0)) (small : value * 10 + d ≤ 255) :
    ipv4Fields (hexDigit d :: rest) fields value digits =
      ipv4Fields rest fields (value * 10 + d) (digits + 1) := by
  obtain ⟨isDigit, worth⟩ := hexDigit_decimal d digit
  rw [ipv4Fields, if_pos isDigit, if_neg leading]
  simp only [worth]
  rw [if_neg (by omega)]

theorem ipv4Fields_octet (rest : List Char) (fields : List Nat) (octet : x < 256) :
    ∃ digits, 0 < digits ∧
      ipv4Fields (decimalText x ++ rest) fields 0 0 = ipv4Fields rest fields x digits := by
  by_cases hundreds : 100 ≤ x
  · refine ⟨3, by decide, ?_⟩
    have tens : 10 ≤ x := by omega
    simp only [decimalText, hundreds, tens, if_true, List.cons_append, List.nil_append]
    rw [ipv4Fields_digit _ _ (by omega) (by omega) (by omega),
      ipv4Fields_digit _ _ (by omega) (by omega) (by omega),
      ipv4Fields_digit _ _ (by omega) (by omega) (by omega)]
    congr 1
    omega
  · by_cases tens : 10 ≤ x
    · refine ⟨2, by decide, ?_⟩
      simp only [decimalText, hundreds, tens, if_true, if_false, List.cons_append, List.nil_append]
      rw [ipv4Fields_digit _ _ (by omega) (by omega) (by omega),
        ipv4Fields_digit _ _ (by omega) (by omega) (by omega)]
      congr 1
      omega
    · refine ⟨1, by decide, ?_⟩
      simp only [decimalText, hundreds, tens, if_false, List.cons_append, List.nil_append]
      rw [ipv4Fields_digit _ _ (by omega) (by omega) (by omega)]
      congr 1
      omega

theorem ipv4Fields_octet_dot (octet : x < 256) (more : rest ≠ []) (few : fields.length < 3) :
    ipv4Fields (decimalText x ++ '.' :: rest) fields 0 0 =
      ipv4Fields rest (fields ++ [x]) 0 0 := by
  obtain ⟨digits, some', read⟩ := ipv4Fields_octet ('.' :: rest) fields octet
  have notDigit : isDigitASCII '.' = false := by decide
  rw [read, ipv4Fields]
  simp only [notDigit, Bool.false_eq_true, if_false, if_true]
  rw [if_neg (by simp [more]; omega), if_neg (by omega)]

theorem decimalText_ne_nil (x : Nat) : decimalText x ≠ [] := by
  simp [decimalText]

theorem ipv4Fields_string4 (value : BitVec 32) :
    ipv4Fields (string4 value) [] 0 0 = some [value.toNat / 2 ^ 24, value.toNat / 2 ^ 16 % 256,
      value.toNat / 2 ^ 8 % 256, value.toNat % 256] := by
  have bound := value.isLt
  obtain ⟨digits, -, last⟩ := ipv4Fields_octet [] [value.toNat / 2 ^ 24,
    value.toNat / 2 ^ 16 % 256, value.toNat / 2 ^ 8 % 256] (Nat.mod_lt value.toNat (by decide))
  rw [List.append_nil] at last
  rw [string4, ipv4Fields_octet_dot (by omega) (by simp [decimalText_ne_nil]) (by simp),
    ipv4Fields_octet_dot (by omega) (by simp [decimalText_ne_nil]) (by simp),
    ipv4Fields_octet_dot (by omega) (by simp [decimalText_ne_nil]) (by simp)]
  exact last

theorem parseIPv4_string4 (value : BitVec 32) : parseIPv4 (string4 value) = some (.v4 value) := by
  have bound := value.isLt
  simp only [parseIPv4, ipv4Fields_string4, ipv4, Option.some.injEq, Addr.v4.injEq]
  apply BitVec.eq_of_toNat_eq
  rw [BitVec.toNat_ofNat]
  omega

/-- A run of hexadecimal digits ends before any other character. -/
def Ends : List Char → Prop
  | [] => True
  | c :: _ => hexValue c = none

theorem hexRun_ends (ends : Ends rest) (digits value : Nat) :
    hexRun rest digits value = some (digits, value, rest) := by
  cases rest with
  | nil => rfl
  | cons c rest =>
    have other : hexValue c = none := ends
    rw [hexRun, other]

theorem hexRun_digits (ends : Ends rest) (ds : List Nat) (hexadecimal : ∀ d ∈ ds, d < 16)
    (digits value : Nat) (few : digits + ds.length ≤ 4) :
    hexRun (ds.map hexDigit ++ rest) digits value =
      some (digits + ds.length, ds.foldl (fun value d => value * 16 + d) value, rest) := by
  induction ds generalizing digits value with
  | nil => exact hexRun_ends ends digits value
  | cons d ds ih =>
    rw [List.length_cons] at few
    obtain ⟨first, others⟩ := List.forall_mem_cons.mp hexadecimal
    rw [List.map_cons, List.cons_append, hexRun, hexValue_hexDigit d first]
    simp only
    rw [if_neg (by omega), ih others (digits + 1) (value * 16 + d) (by omega),
      List.length_cons, List.foldl_cons]
    congr 2
    omega

theorem hexText_digits (group : x < 65536) :
    ∃ d ds, hexText x = (d :: ds).map hexDigit ∧ ds.length ≤ 3 ∧ (∀ e ∈ d :: ds, e < 16) ∧
      (d :: ds).foldl (fun value d => value * 16 + d) 0 = x := by
  unfold hexText
  by_cases four : 0x1000 ≤ x
  · have three : 0x100 ≤ x := by omega
    have two : 0x10 ≤ x := by omega
    refine ⟨x / 0x1000, [x / 0x100 % 16, x / 0x10 % 16, x % 16], by simp [four, three, two],
      by simp, ?_, ?_⟩
    · intro e member
      simp only [List.mem_cons, List.not_mem_nil, or_false] at member
      omega
    · simp only [List.foldl_cons, List.foldl_nil]
      omega
  · by_cases three : 0x100 ≤ x
    · have two : 0x10 ≤ x := by omega
      refine ⟨x / 0x100 % 16, [x / 0x10 % 16, x % 16], by simp [four, three, two], by simp, ?_, ?_⟩
      · intro e member
        simp only [List.mem_cons, List.not_mem_nil, or_false] at member
        omega
      · simp only [List.foldl_cons, List.foldl_nil]
        omega
    · by_cases two : 0x10 ≤ x
      · refine ⟨x / 0x10 % 16, [x % 16], by simp [four, three, two], by simp, ?_, ?_⟩
        · intro e member
          simp only [List.mem_cons, List.not_mem_nil, or_false] at member
          omega
        · simp only [List.foldl_cons, List.foldl_nil]
          omega
      · refine ⟨x % 16, [], by simp [four, three, two], by simp, ?_, ?_⟩
        · intro e member
          simp only [List.mem_cons, List.not_mem_nil, or_false] at member
          omega
        · simp only [List.foldl_cons, List.foldl_nil]
          omega

theorem hexRun_hexText (group : x < 65536) (ends : Ends rest) :
    ∃ digits, hexRun (hexText x ++ rest) 0 0 = some (digits + 1, x, rest) := by
  obtain ⟨d, ds, written, few, hexadecimal, worth⟩ := hexText_digits group
  refine ⟨ds.length, ?_⟩
  have read := hexRun_digits ends (d :: ds) hexadecimal 0 0 (by simp; omega)
  rw [written, read, worth, List.length_cons, Nat.zero_add]

def StartsHex (text : List Char) : Prop := ∃ c rest, text = c :: rest ∧ (hexValue c).isSome = true

theorem startsHex_joinGroups {group : Nat} (groups : List Nat) (small : group < 65536) :
    StartsHex (joinGroups (group :: groups)) := by
  obtain ⟨d, ds, written, -, hexadecimal, -⟩ := hexText_digits small
  have digit : (hexValue (hexDigit d)).isSome = true := by
    rw [hexValue_hexDigit d (hexadecimal d List.mem_cons_self)]
    rfl
  cases groups with
  | nil => exact ⟨hexDigit d, _, by rw [joinGroups, written, List.map_cons], digit⟩
  | cons next groups =>
    exact ⟨hexDigit d, _, by rw [joinGroups, written, List.map_cons, List.cons_append], digit⟩

theorem ipv6Groups_colon {more : List Char} (groups : List Nat) (ellipsis : Option Nat)
    (group : x < 65536) (starts : StartsHex more) :
    ipv6Groups (room + 1) (hexText x ++ ':' :: more) groups ellipsis =
      ipv6Groups room more (groups ++ [x]) ellipsis := by
  have ends : Ends (':' :: more) := rfl
  obtain ⟨digits, read⟩ := hexRun_hexText group ends
  obtain ⟨c, rest, rfl, digit⟩ := starts
  have other : c ≠ ':' := by
    rintro rfl
    revert digit
    decide
  rw [ipv6Groups, read]
  simp [other]

theorem ipv6Groups_joinGroups (rest : List Nat) :
    ∀ (x room : Nat) (groups : List Nat) (ellipsis : Option Nat),
      (∀ group ∈ x :: rest, group < 65536) → rest.length < room →
      ipv6Groups room (joinGroups (x :: rest)) groups ellipsis =
        some (groups ++ x :: rest, ellipsis, []) := by
  induction rest with
  | nil =>
    intro x room groups ellipsis small space
    obtain ⟨room, rfl⟩ := Nat.exists_eq_succ_of_ne_zero (Nat.ne_of_gt space)
    have ends : Ends [] := trivial
    obtain ⟨digits, read⟩ := hexRun_hexText (small x List.mem_cons_self) ends
    rw [List.append_nil] at read
    simp only [joinGroups, ipv6Groups, read]
  | cons next rest ih =>
    intro x room groups ellipsis small space
    obtain ⟨room, rfl⟩ := Nat.exists_eq_succ_of_ne_zero (Nat.ne_of_gt (Nat.zero_lt_of_lt space))
    obtain ⟨first, others⟩ := List.forall_mem_cons.mp small
    rw [List.length_cons] at space
    rw [joinGroups, ipv6Groups_colon groups ellipsis first
        (startsHex_joinGroups rest (others next List.mem_cons_self)),
      ih next room (groups ++ [x]) ellipsis others (by omega), List.append_assoc,
      List.singleton_append]

theorem StartsHex.append (starts : StartsHex text) (more : List Char) :
    StartsHex (text ++ more) := by
  obtain ⟨c, rest, rfl, digit⟩ := starts
  exact ⟨c, rest ++ more, rfl, digit⟩

theorem StartsHex.ne_nil (starts : StartsHex text) : text ≠ [] := by
  obtain ⟨c, rest, rfl, -⟩ := starts
  exact List.cons_ne_nil c rest

theorem ipv6Groups_ellipsis (smallAfter : ∀ group ∈ after, group < 65536) (before : List Nat) :
    ∀ (x room : Nat) (groups : List Nat), (∀ group ∈ x :: before, group < 65536) →
      before.length + after.length < room →
      ipv6Groups room (joinGroups (x :: before) ++ ':' :: ':' :: joinGroups after) groups none =
        some (groups ++ x :: before ++ after, some (groups.length + before.length + 1), []) := by
  induction before with
  | nil =>
    intro x room groups small space
    obtain ⟨room, rfl⟩ := Nat.exists_eq_succ_of_ne_zero (Nat.ne_of_gt (Nat.zero_lt_of_lt space))
    have ends : Ends (':' :: ':' :: joinGroups after) := rfl
    obtain ⟨digits, read⟩ := hexRun_hexText (small x List.mem_cons_self) ends
    simp only [joinGroups, ipv6Groups, read]
    cases after with
    | nil => simp [joinGroups]
    | cons next after =>
      have starts := startsHex_joinGroups after (smallAfter next List.mem_cons_self)
      rw [List.length_nil, List.length_cons] at space
      simp only [ne_eq, not_true_eq_false, if_false, starts.ne_nil]
      rw [ipv6Groups_joinGroups after next room _ _ smallAfter (by omega)]
      simp
  | cons next before ih =>
    intro x room groups small space
    obtain ⟨room, rfl⟩ := Nat.exists_eq_succ_of_ne_zero (Nat.ne_of_gt (Nat.zero_lt_of_lt space))
    obtain ⟨first, others⟩ := List.forall_mem_cons.mp small
    rw [List.length_cons] at space
    have starts := (startsHex_joinGroups before (others next List.mem_cons_self)).append
      (':' :: ':' :: joinGroups after)
    rw [joinGroups, List.append_assoc, List.cons_append,
      ipv6Groups_colon groups none first starts,
      ih next room (groups ++ [x]) others (by omega)]
    simp
    omega

theorem zeros_spec (groups : List Nat) :
    groups = List.replicate (zeros groups) 0 ++ groups.drop (zeros groups) := by
  induction groups with
  | nil => rfl
  | cons group groups ih =>
    cases group with
    | zero =>
      rw [zeros, List.replicate_succ, List.cons_append, List.drop_succ_cons, ← ih]
    | succ group => rfl

/-- The groups that are left out are zeros. -/
structure ZeroRun (groups : List Nat) (start stop : Nat) : Prop where
  nonempty : start < stop
  inside : stop ≤ groups.length
  zero : groups = groups.take start ++ List.replicate (stop - start) 0 ++ groups.drop stop

theorem longerRun_cases {best : Nat × Nat} (i : Nat)
    (sound : best = (255, 255) ∨ ZeroRun groups best.1 best.2) :
    longerRun groups best i = (255, 255) ∨
      ZeroRun groups (longerRun groups best i).1 (longerRun groups best i).2 := by
  unfold longerRun
  dsimp only
  split
  · rename_i run
    right
    have here := zeros_spec (groups.drop i)
    have length := congrArg List.length here
    rw [List.length_append, List.length_replicate, List.length_drop, List.length_drop,
      List.length_drop] at length
    refine ⟨by simp only; omega, by simp only; omega, ?_⟩
    rw [List.drop_drop] at here
    simp only [Nat.add_sub_cancel_left]
    rw [List.append_assoc, ← here, List.take_append_drop]
  · exact sound

theorem zeroRun_cases (groups : List Nat) :
    zeroRun groups = (255, 255) ∨ ZeroRun groups (zeroRun groups).1 (zeroRun groups).2 := by
  have all : ∀ (positions : List Nat) (best : Nat × Nat),
      (best = (255, 255) ∨ ZeroRun groups best.1 best.2) →
      positions.foldl (longerRun groups) best = (255, 255) ∨
        ZeroRun groups (positions.foldl (longerRun groups) best).1
          (positions.foldl (longerRun groups) best).2 := by
    intro positions
    induction positions with
    | nil => exact fun best sound => sound
    | cons i positions ih => exact fun best sound => ih _ (longerRun_cases i sound)
  exact all (List.range 8) (255, 255) (.inl rfl)

theorem joinGroups_cons_ne_colon (rest : List Nat) (more : List Char) (small : x < 65536)
    (tail : List Char) : joinGroups (x :: rest) ++ more ≠ ':' :: tail := by
  obtain ⟨c, text, written, digit⟩ := startsHex_joinGroups rest small
  rw [written]
  intro same
  obtain ⟨rfl, -⟩ := List.cons.inj same
  revert digit
  decide

theorem joinGroups_eq_nil (groups : List Nat) : joinGroups groups = [] ↔ groups = [] := by
  cases groups with
  | nil => simp [joinGroups]
  | cons x rest => cases rest <;> simp [joinGroups, hexText]

/-- What `parseIPv6` does after the zone is split off. -/
def readGroups (address : List Char) : Option (List Nat) :=
  let start : List Char × Option Nat :=
    match address with
    | ':' :: ':' :: rest => (rest, some 0)
    | text => (text, none)
  match ipv6Groups 8 start.1 [] start.2 with
  | some (groups, ellipsis, []) => expandGroups groups ellipsis
  | _ => none

theorem readGroups_of_digit (starts : StartsHex address) :
    readGroups address =
      match ipv6Groups 8 address [] none with
      | some (groups, ellipsis, []) => expandGroups groups ellipsis
      | _ => none := by
  obtain ⟨c, rest, rfl, digit⟩ := starts
  have other : c ≠ ':' := by
    rintro rfl
    revert digit
    decide
  simp [readGroups, other]

theorem readGroups_joinGroups (eight : groups.length = 8)
    (small : ∀ group ∈ groups, group < 65536) : readGroups (joinGroups groups) = some groups := by
  obtain ⟨x, rest, rfl⟩ := List.exists_cons_of_length_eq_add_one eight
  rw [List.length_cons] at eight
  rw [readGroups_of_digit (startsHex_joinGroups rest (small x List.mem_cons_self)),
    ipv6Groups_joinGroups rest x 8 [] none small (by omega)]
  simp [expandGroups, eight]

theorem readGroups_elided {before : List Nat} (some' : 0 < count)
    (eight : before.length + count + after.length = 8)
    (smallBefore : ∀ group ∈ before, group < 65536) (smallAfter : ∀ group ∈ after, group < 65536)
    (written : before ≠ [] ∨ after ≠ []) :
    readGroups (joinGroups before ++ ':' :: ':' :: joinGroups after) =
      some (before ++ List.replicate count 0 ++ after) := by
  have missing : 8 - (before.length + after.length) = count := by omega
  have expanded : expandGroups (before ++ after) (some before.length) =
      some (before ++ List.replicate count 0 ++ after) := by
    rw [expandGroups, List.length_append, if_pos (by omega), missing, List.take_left,
      List.drop_left]
  cases before with
  | nil =>
    obtain ⟨y, rest, rfl⟩ := List.exists_cons_of_ne_nil (by simpa using written)
    rw [List.length_nil, List.length_cons] at eight
    have read := ipv6Groups_joinGroups rest y 8 [] (some 0) smallAfter (by omega)
    simp only [joinGroups, List.nil_append, readGroups, read]
    exact expanded
  | cons x before =>
    have starts := (startsHex_joinGroups before (smallBefore x List.mem_cons_self)).append
      (':' :: ':' :: joinGroups after)
    rw [List.length_cons] at eight
    rw [readGroups_of_digit starts,
      ipv6Groups_ellipsis smallAfter before x 8 [] smallBefore (by omega)]
    simpa using expanded

/-- The text of an address is read back, unless all groups are left out. -/
theorem readGroups_string6 (eight : groups.length = 8) (small : ∀ group ∈ groups, group < 65536) :
    (string6 groups = [':', ':'] ∧ groups = List.replicate 8 0) ∨
      (string6 groups ≠ [':', ':'] ∧ readGroups (string6 groups) = some groups) := by
  rcases zeroRun_cases groups with none | run
  · right
    have whole : string6 groups = joinGroups groups := by simp [string6, none]
    rw [whole]
    refine ⟨?_, readGroups_joinGroups eight small⟩
    obtain ⟨x, rest, rfl⟩ := List.exists_cons_of_length_eq_add_one eight
    have other := joinGroups_cons_ne_colon rest [] (small x List.mem_cons_self) [':']
    rwa [List.append_nil] at other
  · have first : (zeroRun groups).1 ≠ 255 := by
      have := run.nonempty
      have := run.inside
      omega
    have elided : string6 groups = joinGroups (groups.take (zeroRun groups).1) ++
        ':' :: ':' :: joinGroups (groups.drop (zeroRun groups).2) := by
      simp [string6, first]
    generalize zeroRun groups = bounds at run elided
    obtain ⟨start, stop⟩ := bounds
    obtain ⟨nonempty, inside, zero⟩ := run
    simp only at nonempty inside zero elided
    rw [elided]
    by_cases written : groups.take start ≠ [] ∨ groups.drop stop ≠ []
    · right
      have eight' :
          (groups.take start).length + (stop - start) + (groups.drop stop).length = 8 := by
        rw [List.length_take, List.length_drop]
        omega
      have read := readGroups_elided (Nat.sub_pos_of_lt nonempty) eight'
        (fun group member => small group (List.mem_of_mem_take member))
        (fun group member => small group (List.mem_of_mem_drop member)) written
      rw [← zero] at read
      refine ⟨?_, read⟩
      cases before : groups.take start with
      | nil => simpa [before, joinGroups, joinGroups_eq_nil] using written
      | cons x rest =>
        have member : x ∈ groups := List.mem_of_mem_take (before ▸ List.mem_cons_self)
        exact joinGroups_cons_ne_colon rest _ (small x member) [':']
    · left
      simp only [ne_eq, not_or, not_not] at written
      obtain ⟨before, after⟩ := written
      rw [before, after, List.nil_append, List.append_nil] at zero
      have all : stop - start = 8 := by
        rw [zero, List.length_replicate] at eight
        exact eight
      rw [before, after]
      exact ⟨rfl, all ▸ zero⟩

theorem places_lt {base : Nat} (positive : 0 < base) (count n : Nat) :
    ∀ digit ∈ places base count n, digit < base := by
  induction count generalizing n with
  | zero => exact List.forall_mem_nil _
  | succ count ih =>
    intro digit member
    rcases List.mem_append.mp member with higher | lowest
    · exact ih (n / base) digit higher
    · rw [List.mem_singleton.mp lowest]
      exact Nat.mod_lt n positive

theorem length_places (base count n : Nat) : (places base count n).length = count := by
  induction count generalizing n with
  | zero => rfl
  | succ count ih => simp [places, ih]

theorem foldl_places (base count n : Nat) :
    (places base count n).foldl (fun value digit => value * base + digit) 0 = n % base ^ count := by
  induction count generalizing n with
  | zero => simp [places, Nat.mod_one]
  | succ count ih =>
    rw [places, List.foldl_append, ih, List.foldl_cons, List.foldl_nil, Nat.pow_succ',
      Nat.mod_mul, Nat.mul_comm base, Nat.add_comm]

theorem ipv6Value_places (value : BitVec 128) :
    ipv6Value (places 65536 8 value.toNat) = value := by
  apply BitVec.eq_of_toNat_eq
  have bound := value.isLt
  rw [ipv6Value, foldl_places, BitVec.toNat_ofNat]
  omega

def zoneText (zone : String) : List Char := if zone = "" then [] else '%' :: zone.toList

theorem parseIPv6_zone (zone : String) (plain : '%' ∉ address) :
    parseIPv6 (address ++ zoneText zone) =
      if address = [':', ':'] then some (.v6 0 zone)
      else (readGroups address).map fun all => .v6 (ipv6Value all) zone := by
  have kept : ∀ c ∈ address, (c != '%') = true := by
    intro c member
    rw [bne_iff_ne]
    rintro rfl
    exact plain member
  have front : (address ++ zoneText zone).takeWhile (· != '%') = address := by
    rw [List.takeWhile_append_of_pos kept, zoneText]
    split <;> simp
  have back : (address ++ zoneText zone).dropWhile (· != '%') = zoneText zone := by
    rw [List.dropWhile_append_of_pos kept, zoneText]
    split <;> simp
  have named : zoneText zone ≠ ['%'] ∧ String.ofList ((zoneText zone).drop 1) = zone := by
    by_cases empty : zone = ""
    · simp [zoneText, empty]
    · simp [zoneText, empty]
  unfold parseIPv6
  simp only [front, back, named, if_false]
  split
  · simp
  · rename_i specified
    rw [if_neg specified]
    unfold readGroups
    dsimp only
    generalize ipv6Groups 8 _ [] _ = read
    rcases read with _ | ⟨groups, ellipsis, rest⟩
    · rfl
    · cases rest <;> rfl

theorem hexText_chars (group : x < 65536) : ∀ c ∈ hexText x, (hexValue c).isSome = true := by
  obtain ⟨d, ds, written, -, hexadecimal, -⟩ := hexText_digits group
  intro c member
  rw [written] at member
  obtain ⟨e, digit, rfl⟩ := List.mem_map.mp member
  rw [hexValue_hexDigit e (hexadecimal e digit)]
  rfl

theorem joinGroups_chars (small : ∀ group ∈ groups, group < 65536) :
    ∀ c ∈ joinGroups groups, c = ':' ∨ (hexValue c).isSome = true := by
  induction groups with
  | nil => exact List.forall_mem_nil _
  | cons x groups ih =>
    obtain ⟨first, others⟩ := List.forall_mem_cons.mp small
    intro c member
    cases groups with
    | nil => exact .inr (hexText_chars first c member)
    | cons next groups =>
      rw [joinGroups, List.mem_append, List.mem_cons] at member
      rcases member with digit | rfl | later
      · exact .inr (hexText_chars first c digit)
      · exact .inl rfl
      · exact ih others c later

theorem string6_chars (small : ∀ group ∈ groups, group < 65536) :
    ∀ c ∈ string6 groups, c = ':' ∨ (hexValue c).isSome = true := by
  intro c member
  unfold string6 at member
  dsimp only at member
  split at member
  · exact joinGroups_chars small c member
  · simp only [List.mem_append, List.mem_cons] at member
    rcases member with before | colon | colon | after
    · exact joinGroups_chars (fun group part => small group (List.mem_of_mem_take part)) c before
    · exact .inl colon
    · exact .inl colon
    · exact joinGroups_chars (fun group part => small group (List.mem_of_mem_drop part)) c after

theorem colon_mem_string6 (several : 2 ≤ groups.length) : ':' ∈ string6 groups := by
  unfold string6
  dsimp only
  split
  · obtain ⟨x, y, rest, rfl⟩ : ∃ x y rest, groups = x :: y :: rest := by
      match groups, several with
      | x :: y :: rest, _ => exact ⟨x, y, rest, rfl⟩
    simp [joinGroups]
  · simp

/-- Which parser reads an address is decided by its first colon. -/
theorem parseAddr_colon {after : List Char} (colon : ':' ∈ address)
    (chars : ∀ c ∈ address, c = ':' ∨ (hexValue c).isSome = true) :
    parseAddr (String.ofList (address ++ after)) = parseIPv6 (address ++ after) := by
  have found : address.find? (fun c => c == '.' || c == ':' || c == '%') = some ':' := by
    cases first : address.find? fun c => c == '.' || c == ':' || c == '%' with
    | none => exact absurd (List.find?_eq_none.mp first ':' colon) (by decide)
    | some c =>
      rcases chars c (List.mem_of_find?_eq_some first) with rfl | digit
      · rfl
      · have stops := List.find?_some first
        simp only [Bool.or_eq_true, beq_iff_eq] at stops
        rcases stops with (rfl | rfl) | rfl
        · revert digit; decide
        · rfl
        · revert digit; decide
  rw [parseAddr, String.toList_ofList, List.find?_append, found]
  rfl

theorem hexDigit_no_separator : ∀ d < 10,
    ¬ (hexDigit d == '.' || hexDigit d == ':' || hexDigit d == '%') = true := by
  decide

theorem decimalText_chars (octet : x < 256) : ∀ c ∈ decimalText x, ∃ d < 10, c = hexDigit d := by
  intro c member
  simp only [decimalText, List.mem_append, List.mem_ite_nil_right, List.mem_singleton] at member
  rcases member with (⟨-, rfl⟩ | ⟨-, rfl⟩) | rfl
  · exact ⟨x / 100, by omega, rfl⟩
  · exact ⟨x / 10 % 10, by omega, rfl⟩
  · exact ⟨x % 10, by omega, rfl⟩

theorem parseAddr_string4 (value : BitVec 32) :
    parseAddr (String.ofList (string4 value)) = some (.v4 value) := by
  have bound := value.isLt
  have front : (decimalText (value.toNat / 2 ^ 24)).find?
      (fun c => c == '.' || c == ':' || c == '%') = none := by
    rw [List.find?_eq_none]
    intro c member
    obtain ⟨d, digit, rfl⟩ := decimalText_chars (show value.toNat / 2 ^ 24 < 256 by omega) c member
    exact hexDigit_no_separator d digit
  have first : (string4 value).find? (fun c => c == '.' || c == ':' || c == '%') = some '.' := by
    rw [string4, List.find?_append, front]
    rfl
  rw [parseAddr, String.toList_ofList, first]
  exact parseIPv4_string4 value

/-- A printed address is read back, unless it is an IPv4 address mapped to IPv6. -/
theorem parseAddr_string {address : Addr} (unmapped : address.unmap = address) :
    parseAddr address.string = some address := by
  cases address with
  | v4 value => exact parseAddr_string4 value
  | v6 value zone =>
    have own : ¬ value >>> 32 = 0xffff := by
      intro mapped
      rw [Addr.unmap, if_pos mapped] at unmapped
      cases unmapped
    have eight := length_places 65536 8 value.toNat
    have small := places_lt (show 0 < 65536 by decide) 8 value.toNat
    have chars := string6_chars small
    have plain : '%' ∉ string6 (places 65536 8 value.toNat) := by
      intro member
      rcases chars '%' member with colon | digit
      · cases colon
      · revert digit
        decide
    have printed : (Addr.v6 value zone).string =
        String.ofList (string6 (places 65536 8 value.toNat) ++ zoneText zone) := by
      rw [Addr.string, if_neg own, zoneText]
    rw [printed, parseAddr_colon (colon_mem_string6 (by omega)) chars, parseIPv6_zone zone plain]
    rcases readGroups_string6 eight small with ⟨unspecified, zeroes⟩ | ⟨specified, read⟩
    · have value_zero : value = 0 := by
        rw [← ipv6Value_places value, zeroes]
        decide
      rw [if_pos unspecified, value_zero]
    · rw [if_neg specified, read, Option.map_some, ipv6Value_places]

end VpsManager.Go
