import VpsManager.Go.LowerCase
import VpsManager.Go.NetipText
import VpsManager.Lib.Joined
import VpsManager.Store.Hosts

namespace VpsManager.Control

open Go Checks

def bracketed (text : String) : Bool := hasPrefix text "[" && hasSuffix text "]"

def unbracket (text : String) : String :=
  if bracketed text then String.ofList (text.toList.drop 1).dropLast else text

theorem normalizeAddress_eq (text : String) :
    normalizeAddress text = toLower (unbracket (trimSpace text)) := rfl

theorem bracketed_iff (text : String) :
    bracketed text = true ↔ text.toList.head? = some '[' ∧ text.toList.getLast? = some ']' := by
  have starts : ∀ (c : Char) (chars : List Char),
      [c].isPrefixOf chars = true ↔ chars.head? = some c := by
    intro c chars
    rw [List.isPrefixOf_iff_prefix, List.head?_eq_some_iff]
    exact exists_congr fun rest => eq_comm
  have opening : hasPrefix text "[" = true ↔ text.toList.head? = some '[' :=
    starts '[' text.toList
  have closing : hasSuffix text "]" = true ↔ text.toList.getLast? = some ']' := by
    rw [← List.head?_reverse]
    exact starts ']' text.toList.reverse
  rw [bracketed, Bool.and_eq_true, opening, closing]

theorem bracketed_toLower (text : String) : bracketed (toLower text) = bracketed text := by
  have same : bracketed (toLower text) = true ↔ bracketed text = true := by
    simp only [bracketed_iff, toLower, String.toList_ofList, List.head?_map, List.getLast?_map,
      Option.map_eq_some_iff,
      lowerChar_eq_iff (show isLowerASCII '[' = false by decide) (by decide),
      lowerChar_eq_iff (show isLowerASCII ']' = false by decide) (by decide), exists_eq_right]
  exact Bool.eq_iff_iff.mpr same

theorem unbracket_toLower (text : String) :
    unbracket (toLower text) = toLower (unbracket text) := by
  unfold unbracket
  rw [bracketed_toLower]
  split
  · simp only [toLower, String.toList_ofList, ← List.map_drop, ← List.map_dropLast]
  · rfl

theorem normalizeAddress_twice (text : String) :
    normalizeAddress (normalizeAddress text) =
      toLower (unbracket (trimSpace (unbracket (trimSpace text)))) := by
  rw [normalizeAddress_eq (normalizeAddress text), normalizeAddress_eq text, trimSpace_toLower,
    unbracket_toLower, toLower_toLower]

theorem isDNSLabel_chars {chars : List Char} (label : isDNSLabel chars = true) :
    ∀ c ∈ chars, (isDNSAlnum c || c == '-') = true := by
  simp only [isDNSLabel, Bool.and_eq_true] at label
  exact List.all_eq_true.mp label.2

theorem dnsPattern_chars {text : String} (name : dnsPattern text = true) :
    ∀ c ∈ text.toList, (isDNSAlnum c || c == '-' || c == '.') = true := by
  intro c member
  have joined : ['.'].intercalate (text.toList.splitOn '.') = text.toList :=
    List.intercalate_splitOn '.'
  rw [← joined] at member
  rcases Joined.mem_of_mem_intercalate member with rfl | ⟨part, label, inside⟩
  · decide
  · have valid := List.all_eq_true.mp name (String.ofList part) (List.mem_map_of_mem label)
    rw [String.toList_ofList] at valid
    simp [isDNSLabel_chars valid c inside]

/-- Neither white space nor a bracket. -/
def Unwrapped (c : Char) : Prop := isSpace c = false ∧ c ≠ '[' ∧ c ≠ ']'

theorem unwrapped_of_isDNSAlnum {c : Char} (alnum : isDNSAlnum c = true) : Unwrapped c := by
  refine ⟨Store.isDNSAlnum_not_space alnum, ?_, ?_⟩
  · rintro rfl
    revert alnum
    decide
  · rintro rfl
    revert alnum
    decide

theorem unwrapped_of_isAddrChar {c : Char} (char : isAddrChar c = true) : Unwrapped c := by
  have digit : (hexValue c).isSome = true → isDNSAlnum c = true := by
    intro value
    unfold hexValue at value
    split at value
    · rename_i decimal
      simp [isDNSAlnum, isAlnumASCII, decimal]
    · split at value
      · rename_i small
        simp only [Bool.and_eq_true, decide_eq_true_eq] at small
        have letter : isLowerASCII c = true := by
          simp only [isLowerASCII, Bool.and_eq_true, decide_eq_true_eq]
          exact ⟨small.1, le_trans small.2 (by decide)⟩
        simp [isDNSAlnum, isAlnumASCII, letter]
      · split at value
        · rename_i capital
          simp only [Bool.and_eq_true, decide_eq_true_eq] at capital
          have letter : isUpperASCII c = true := by
            simp only [isUpperASCII, Bool.and_eq_true, decide_eq_true_eq]
            exact ⟨capital.1, le_trans capital.2 (by decide)⟩
          simp [isDNSAlnum, isAlnumASCII, letter]
        · cases value
  simp only [isAddrChar, Bool.or_eq_true, beq_iff_eq] at char
  rcases char with (hexadecimal | rfl) | rfl
  · exact unwrapped_of_isDNSAlnum (digit hexadecimal)
  · exact ⟨by decide, by decide, by decide⟩
  · exact ⟨by decide, by decide, by decide⟩

theorem unwrapped_of_parsed {text : String}
    (parsed : (parseIP text).isSome = true ∨ dnsPattern text = true) :
    ∀ c ∈ text.toList, Unwrapped c := by
  intro c member
  rcases parsed with address | name
  · exact unwrapped_of_isAddrChar (parseIP_chars address c member)
  · have char := dnsPattern_chars name c member
    simp only [Bool.or_eq_true, beq_iff_eq] at char
    rcases char with (alnum | rfl) | rfl
    · exact unwrapped_of_isDNSAlnum alnum
    · exact ⟨by decide, by decide, by decide⟩
    · exact ⟨by decide, by decide, by decide⟩

theorem bracketed_of_unwrapped {text : String} (unwrapped : ∀ c ∈ text.toList, Unwrapped c) :
    bracketed text = false := by
  refine Bool.eq_false_iff.mpr fun wrapped => ?_
  have opening := List.mem_of_head? ((bracketed_iff text).mp wrapped).1
  exact (unwrapped '[' opening).2.1 rfl

/-- What a stored address should be: normalised, valid and allowed as it is. -/
structure ValidatedAddress (allowPrivateTargets : Bool) (address : String) : Prop where
  normal : normalizeAddress address = address
  unwrapped : ∀ c ∈ address.toList, Unwrapped c
  valid : validAddress address = true
  parsed : (parseIP address).isSome = true ∨ dnsPattern address = true
  permitted : Ssh.validateTargetLiteral address allowPrivateTargets = .ok ()

/-- The address that `validateHost` hands to `ValidateTargetLiteral`. -/
def checkedAddress (address : String) : String := normalizeAddress (trimSpace address)

/-- Validation vouches for the address it checked, not for the one it was given. -/
theorem validatedAddress_checked {name address username : String} {port : Int}
    {labels : Option (StringMap String)} {allowPrivateTargets : Bool}
    (valid : validateHost name address port username labels allowPrivateTargets = .ok ()) :
    ValidatedAddress allowPrivateTargets (checkedAddress address) := by
  obtain ⟨-, reached, ⟨target, permitted⟩, -⟩ := validateHost_eq_ok.mp valid
  obtain ⟨-, -, -, parsed⟩ := Store.validAddress_parts reached
  have unwrapped : ∀ c ∈ (checkedAddress address).toList, Unwrapped c := unwrapped_of_parsed parsed
  have normal : normalizeAddress (checkedAddress address) = checkedAddress address := by
    have trimmed := trimSpace_of_none (checkedAddress address) fun c member =>
      (unwrapped c member).1
    have plain : unbracket (checkedAddress address) = checkedAddress address := by
      rw [unbracket, bracketed_of_unwrapped unwrapped]
      rfl
    rw [normalizeAddress_eq, trimmed, plain, checkedAddress, normalizeAddress_eq, toLower_toLower]
  refine ⟨normal, unwrapped, ?_, parsed, permitted⟩
  have same : validAddress (checkedAddress address) = validAddress (trimSpace address) := by
    rw [validAddress, validAddress, normal, checkedAddress]
  rw [same, reached]

def Memory.createHost (m : Memory) (host : Host) : Except StoreError Memory := do
  ensure (m.hosts.get host.id = none) .conflict
  return { m with hosts := m.hosts.put host }

def createHost (server : Server) (m : Memory) (principal : Principal)
    (body : Except String CreateHostRequest) (raw : Bytes) (now : Int) :
    Except ApiError (Host × Memory) := do
  require principal .hostsWrite
  let host ← prepareCreate server principal body raw now
  let after ← (m.createHost host).mapError fun _ =>
    ⟨409, "conflict", "host could not be created"⟩
  return (host, after)

/-- Trimmed and freed of one pair of brackets, an address has neither white space nor
a pair of brackets around it any more. -/
def WrappedOnce (address : String) : Prop :=
  trimSpace (unbracket (trimSpace address)) = unbracket (trimSpace address) ∧
    bracketed (unbracket (trimSpace address)) = false

theorem trimSpace_sublist (text : String) : (trimSpace text).toList.Sublist text.toList := by
  have front := (List.dropWhile_suffix isSpace (l := text.toList)).sublist
  have back :=
    (List.dropWhile_suffix isSpace (l := (text.toList.dropWhile isSpace).reverse)).sublist
  rw [trimSpace, String.toList_ofList]
  have kept := back.reverse
  rw [List.reverse_reverse] at kept
  exact kept.trans front

theorem unbracket_sublist (text : String) : (unbracket text).toList.Sublist text.toList := by
  unfold unbracket
  split
  · rw [String.toList_ofList]
    exact (List.dropLast_sublist _).trans (List.drop_sublist 1 _)
  · exact .refl _

theorem unbracket_eq_iff (text : String) : unbracket text = text ↔ bracketed text = false := by
  constructor
  · intro same
    by_contra wrapped
    rw [Bool.not_eq_false] at wrapped
    have opening := ((bracketed_iff text).mp wrapped).1
    have shorter := congrArg (fun text : String => text.toList.length) same
    simp only [unbracket, wrapped, if_true, String.toList_ofList, List.length_dropLast,
      List.length_drop] at shorter
    obtain ⟨rest, front⟩ := List.head?_eq_some_iff.mp opening
    rw [front, List.length_cons] at shorter
    omega
  · intro open'
    rw [unbracket, open']
    rfl

/-- An address is checked as it is stored exactly if it is wrapped once. -/
theorem checkedAddress_normalizeAddress_iff (address : String) :
    checkedAddress (normalizeAddress address) = normalizeAddress address ↔ WrappedOnce address := by
  rw [checkedAddress, Store.normalizeAddress_trimSpace, normalizeAddress_twice,
    normalizeAddress_eq address, WrappedOnce]
  generalize unbracket (trimSpace address) = inner
  constructor
  · intro same
    have length : (unbracket (trimSpace inner)).toList.length = inner.toList.length := by
      have lengths := congrArg (fun text : String => text.toList.length) same
      simpa only [toLower, String.toList_ofList, List.length_map] using lengths
    have trimmed := trimSpace_sublist inner
    have whole := (unbracket_sublist (trimSpace inner)).trans trimmed
    have kept : trimSpace inner = inner := by
      have least := (unbracket_sublist (trimSpace inner)).length_le
      refine String.toList_inj.mp (trimmed.eq_of_length_le ?_)
      rwa [length] at least
    refine ⟨kept, (unbracket_eq_iff inner).mp ?_⟩
    rw [kept] at whole length
    exact String.toList_inj.mp (whole.eq_of_length length)
  · rintro ⟨trimmed, open'⟩
    rw [trimmed, (unbracket_eq_iff inner).mpr open']

/-- A created host always has the validated address. An updated one has it exactly if
the address that was sent is wrapped once. -/
theorem stored_address_validated_iff (server : Server) (m after : Memory) (principal : Principal)
    (now : Int) :
    (∀ (input : CreateHostRequest) (raw : Bytes) (host : Host),
      createHost server m principal (.ok input) raw now = .ok (host, after) →
        after.hosts.get host.id = some host ∧ host.address = checkedAddress input.address ∧
          ValidatedAddress server.allowPrivateTargets host.address) ∧
    ∀ (hostID : String) (input : UpdateHostRequest) (sent : String) (written : Host),
      input.address = some sent →
      updateHost server m principal hostID (.ok input) now = .ok (written, after) →
        after.hosts.get written.id = some written ∧
          (written.address = checkedAddress (normalizeAddress sent) ∧
              ValidatedAddress server.allowPrivateTargets written.address ↔
            WrappedOnce sent) := by
  constructor
  · intro input raw host done
    simp only [createHost, Memory.createHost, prepareCreate, bind_eq_ok, mapError_eq_ok,
      ensure_eq_ok, pure_eq_ok, Prod.mk.injEq] at done
    obtain ⟨_, -, _, ⟨_, -, _, decoded, _, valid, rfl⟩, _, ⟨_, -, rfl⟩, rfl, rfl⟩ := done
    cases decoded
    have same : normalizeAddress input.address = checkedAddress input.address :=
      (Store.normalizeAddress_trimSpace input.address).symm
    refine ⟨Keyed.get_put_self _ _, same, ?_⟩
    rw [same]
    exact validatedAddress_checked valid
  · intro hostID input sent written addressed done
    obtain ⟨host, expected, -, prepared, rfl⟩ := editHost_ok done
    obtain ⟨_, decoded, -, valid, rfl, -⟩ := prepareUpdate_eq_ok.mp prepared
    cases decoded
    refine ⟨Keyed.get_put_self _ _, ?_⟩
    have stored : (input.patch host).address = normalizeAddress sent := by
      simp [UpdateHostRequest.patch, addressed]
    have checked := validatedAddress_checked valid
    simp only [stored] at checked ⊢
    rw [← checkedAddress_normalizeAddress_iff]
    constructor
    · rintro ⟨same, -⟩
      exact same.symm
    · intro same
      rw [same] at checked
      exact ⟨same.symm, checked⟩

/-- An update of the first version of a host that changes its address only. -/
def moveTo (address : String) : UpdateHostRequest := ⟨1, none, some address, none, none, none⟩

theorem blanks_in_brackets_stored :
    ∃ written after,
      updateHost (sampleServer id) sampleMemory sampleOperator "host_1"
          (.ok (moveTo "[ 8.8.8.8 ]")) 5 = .ok (written, after) ∧
        after.hosts.get "host_1" = some written ∧ written.address = " 8.8.8.8 " ∧
        checkedAddress (normalizeAddress "[ 8.8.8.8 ]") = "8.8.8.8" ∧
        normalizeAddress written.address ≠ written.address ∧
        ¬ ValidatedAddress false written.address := by
  refine ⟨_, _, rfl, rfl, by decide, by decide, by decide, ?_⟩
  intro validated
  have blank := (validated.unwrapped ' ' (by decide)).1
  revert blank
  decide

theorem brackets_validated :
    (∃ written after,
      updateHost (sampleServer id) sampleMemory sampleOperator "host_1"
          (.ok (moveTo " [2606:4700::1111] ")) 5 = .ok (written, after) ∧
        WrappedOnce " [2606:4700::1111] " ∧ ValidatedAddress false written.address) ∧
    ∃ host after,
      createHost (sampleServer id) sampleMemory sampleOperator (.ok (Store.sampleRequest none))
          (List.replicate 16 7) 5 = .ok (host, after) ∧ ValidatedAddress false host.address := by
  have once : WrappedOnce " [2606:4700::1111] " := ⟨by decide, by decide⟩
  refine ⟨⟨_, _, rfl, once, ?_⟩, _, _, rfl, ?_⟩
  · exact (((stored_address_validated_iff (sampleServer id) sampleMemory _ sampleOperator 5).2
      "host_1" (moveTo " [2606:4700::1111] ") _ _ rfl rfl).2.mpr once).2
  · exact ((stored_address_validated_iff (sampleServer id) sampleMemory _ sampleOperator 5).1
      (Store.sampleRequest none) (List.replicate 16 7) _ rfl).2.2

end VpsManager.Control
