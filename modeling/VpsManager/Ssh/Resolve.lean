import VpsManager.Go.NetipText
import VpsManager.Ssh.Connector

namespace VpsManager.Go.Addr

/-- `Addr.Less`: IPv4 before IPv6, then by value and zone. -/
def less : Addr → Addr → Bool
  | .v4 one, .v4 other => one < other
  | .v4 _, .v6 _ _ => true
  | .v6 _ _, .v4 _ => false
  | .v6 one zone, .v6 other otherZone => one < other || (one == other && zone < otherZone)

/-- `Addr.WithZone("")`. -/
def withoutZone : Addr → Addr
  | .v6 value _ => .v6 value ""
  | address => address

def zone : Addr → String
  | .v4 _ => ""
  | .v6 _ zone => zone

theorem unmap_unmap (address : Addr) : address.unmap.unmap = address.unmap := by
  cases address with
  | v4 value => rfl
  | v6 value zone =>
    by_cases mapped : value >>> 32 = 0xffff
    · rw [unmap, if_pos mapped]
      rfl
    · rw [unmap, if_neg mapped, unmap, if_neg mapped]

end VpsManager.Go.Addr

namespace VpsManager.Ssh

open Go Checks

/-- `sort.Slice` by `Less`, which puts only equal addresses in no order. -/
def sortAddresses (candidates : List Addr) : List Addr :=
  candidates.mergeSort fun one other => !other.less one

/-- `candidates[0]`; there is one. -/
def firstAddress (candidates : List Addr) : Except String Addr :=
  orError candidates.head? "index out of range"

/-- `resolveTarget` of the SSH connector. `lookup` is what the resolver answers, none
if it fails. -/
def resolveTarget (lookup : String → Option (List Addr)) (address : String)
    (allowPrivate : Bool) : Except String Addr := do
  let candidates ←
    match parseAddr address with
    | some parsed => pure [parsed.unmap]
    | none => do
      let resolved ← orError (lookup address) "resolve ssh target"
      pure (resolved.map Addr.unmap)
  ensure (candidates ≠ []) "ssh target resolved to no addresses"
  ensure (∀ candidate ∈ candidates, targetAllowed candidate allowPrivate = true)
    "ssh target is denied by network policy: resolved address is not permitted"
  firstAddress (sortAddresses candidates)

/-- `resolveTarget` of the terminal, which prints each address and has the policy read
it again. -/
def resolveWebTarget (lookup : String → Option (List Addr)) (address : String)
    (allowPrivate : Bool) : Except String Addr := do
  let candidates ←
    match parseAddr address with
    | some parsed => pure [parsed.unmap]
    | none => do
      let resolved ← orError (lookup address) "resolve web SSH target"
      pure (resolved.map Addr.unmap)
  ensure (candidates ≠ []) "web SSH target resolved to no addresses"
  ensure (∀ candidate ∈ candidates, validateTargetLiteral candidate.string allowPrivate = .ok ())
    "ssh target is denied by network policy: resolved address is not permitted"
  firstAddress (sortAddresses candidates)

/-- The addresses that are to be judged: a literal is its own answer. -/
def answers (lookup : String → Option (List Addr)) (address : String) : List Addr :=
  match parseAddr address with
  | some parsed => [parsed]
  | none => (lookup address).getD []

theorem validateTargetLiteral_string (address : Addr) (allowPrivate : Bool) :
    validateTargetLiteral address.unmap.string allowPrivate = .ok () ↔
      targetAllowed address.unmap allowPrivate = true := by
  rw [validateTargetLiteral, parseAddr_string address.unmap_unmap]
  simp

/-- The address a resolver gives for the answers, if it gives one. -/
def Chosen (allowPrivate : Bool) (found : List Addr) (address : Addr) : Prop :=
  (∀ answer ∈ found, targetAllowed answer.unmap allowPrivate = true) ∧
    (sortAddresses (found.map Addr.unmap)).head? = some address

variable {allowPrivate : Bool} {found : List Addr} {address : Addr}

theorem Chosen.ne_nil (chosen : Chosen allowPrivate found address) : found ≠ [] := by
  rintro rfl
  have first := chosen.2
  simp [sortAddresses] at first

theorem Chosen.mem (chosen : Chosen allowPrivate found address) :
    ∃ answer ∈ found, answer.unmap = address := by
  have member := List.mem_of_head? chosen.2
  rw [sortAddresses, List.mem_mergeSort] at member
  exact List.mem_map.mp member

theorem exists_chosen (some' : found ≠ [])
    (allowed : ∀ answer ∈ found, targetAllowed answer.unmap allowPrivate = true) :
    ∃ address, Chosen allowPrivate found address := by
  obtain ⟨answer, member⟩ := List.exists_mem_of_ne_nil found some'
  have sorted : answer.unmap ∈ sortAddresses (found.map Addr.unmap) := by
    rw [sortAddresses, List.mem_mergeSort]
    exact List.mem_map_of_mem member
  obtain ⟨first, rest, listed⟩ := List.exists_cons_of_ne_nil (List.ne_nil_of_mem sorted)
  exact ⟨first, allowed, by rw [listed, List.head?_cons]⟩

theorem resolveTarget_eq_ok {lookup : String → Option (List Addr)} {address : String}
    {chosen : Addr} :
    resolveTarget lookup address allowPrivate = .ok chosen ↔
      Chosen allowPrivate (answers lookup address) chosen := by
  rw [← and_iff_right_of_imp Chosen.ne_nil]
  unfold resolveTarget answers Chosen firstAddress
  cases parseAddr address with
  | some parsed => simp
  | none => cases lookup address <;> simp

theorem resolveWebTarget_eq_ok {lookup : String → Option (List Addr)} {address : String}
    {chosen : Addr} :
    resolveWebTarget lookup address allowPrivate = .ok chosen ↔
      Chosen allowPrivate (answers lookup address) chosen := by
  rw [← and_iff_right_of_imp Chosen.ne_nil]
  unfold resolveWebTarget answers Chosen firstAddress
  cases parseAddr address with
  | some parsed => simp [validateTargetLiteral_string]
  | none => cases lookup address <;> simp [validateTargetLiteral_string]

/-- Refused with a zone or without one. -/
def Internal (address : Addr) : Prop :=
  address.isLoopback = true ∨ address.isLinkLocalUnicast = true ∨ address.isMulticast = true ∨
    address.isPrivate = true

/-- Refused only without a zone: the checks compare whole addresses or look them up in
a range, which takes none with a zone. -/
def Reserved (address : Addr) : Prop :=
  address.isUnspecified = true ∨ ∃ range ∈ deniedPublicPrefixes, range.contains address = true

/-- What the policy is to keep out, whatever the spelling. -/
def Denied (address : Addr) : Prop :=
  Internal address.unmap.withoutZone ∨ Reserved address.unmap.withoutZone

theorem internal_withoutZone (address : Addr) :
    Internal address.withoutZone ↔ Internal address := by
  cases address <;> rfl

theorem broadcast_reserved : Reserved (.v4 0xffffffff) := by
  refine .inr ⟨⟨ipv4 240 0 0 0, 4⟩, ?_, ?_⟩
  · simp [deniedPublicPrefixes]
  · decide

theorem not_reserved_zoned (value : BitVec 128) {zone : String} (zoned : zone ≠ "") :
    ¬ Reserved (.v6 value zone) := by
  rintro (unspecified | ⟨range, -, inside⟩)
  · simp [Addr.isUnspecified, zoned] at unspecified
  · unfold Prefix.contains at inside
    split at inside
    · rename_i same
      cases same
    · rename_i same
      cases same
      simp [zoned] at inside
    · cases inside

theorem isGlobalUnicast_iff (address : Addr) :
    address.isGlobalUnicast = true ↔
      address ≠ .v4 0xffffffff ∧ address.isUnspecified = false ∧ address.isLoopback = false ∧
        address.isMulticast = false ∧ address.isLinkLocalUnicast = false := by
  simp only [Addr.isGlobalUnicast, Addr.isUnspecified, decide_eq_true_eq, decide_eq_false_iff_not,
    not_or]
  constructor
  · rintro ⟨⟨zero, broadcast, unspecified⟩, others⟩
    exact ⟨broadcast, ⟨zero, unspecified⟩, others⟩
  · rintro ⟨broadcast, ⟨zero, unspecified⟩, others⟩
    exact ⟨⟨zero, broadcast, unspecified⟩, others⟩

theorem targetAllowed_unmapped (unmapped : address.unmap = address) :
    targetAllowed address false = true ↔ ¬ Internal address ∧ ¬ Reserved address := by
  have broadcast : ¬ Reserved address → address ≠ .v4 0xffffffff := by
    rintro free rfl
    exact free broadcast_reserved
  have global := isGlobalUnicast_iff address
  have outside : (!deniedPublicPrefixes.any fun range => range.contains address) = true ↔
      ¬ ∃ range ∈ deniedPublicPrefixes, range.contains address = true := by
    rw [Bool.not_eq_true', ← Bool.not_eq_true, List.any_eq_true]
  simp only [targetAllowed, unmapped, Bool.or_eq_true, Bool.false_eq_true, if_false,
    Bool.not_eq_true', ite_eq_iff, and_false, false_or, outside]
  rw [← Bool.not_eq_true, global]
  simp only [Internal, Reserved, ← Bool.not_eq_true, not_or, not_not] at broadcast ⊢
  constructor
  · rintro ⟨⟨⟨⟨specified, multicast⟩, linkLocal⟩, loopback⟩, ⟨-, isPublic⟩, free⟩
    exact ⟨⟨loopback, linkLocal, multicast, isPublic⟩, specified, free⟩
  · rintro ⟨⟨loopback, linkLocal, multicast, isPublic⟩, specified, free⟩
    exact ⟨⟨⟨⟨specified, multicast⟩, linkLocal⟩, loopback⟩,
      ⟨⟨broadcast ⟨specified, free⟩, specified, loopback, multicast, linkLocal⟩, isPublic⟩, free⟩

/-- A zone makes the policy overlook that an address is reserved. -/
theorem targetAllowed_iff (address : Addr) :
    targetAllowed address.unmap false = true ↔
      ¬ Internal address.unmap.withoutZone ∧
        (address.unmap.zone ≠ "" ∨ ¬ Reserved address.unmap.withoutZone) := by
  rw [targetAllowed_unmapped address.unmap_unmap, internal_withoutZone]
  refine and_congr_right fun _ => ?_
  generalize address.unmap = plain
  cases plain with
  | v4 value => simp [Addr.zone, Addr.withoutZone]
  | v6 value zone =>
    by_cases zoned : zone = ""
    · subst zoned
      simp [Addr.zone, Addr.withoutZone]
    · simp [Addr.zone, zoned, not_reserved_zoned value zoned]

/-- No denied address is given, and none is given where any answer is denied. -/
structure KeepsPolicy (found : List Addr) (resolved : Except String Addr) : Prop where
  permitted : ∀ address, resolved = .ok address → ¬ Denied address
  refused : (∃ answer ∈ found, Denied answer) → ∀ address, resolved ≠ .ok address

/-- No answer is reserved behind its zone, or there is one that is refused in spite of
all zones. -/
def ZonesHarmless (found : List Addr) : Prop :=
  (∀ answer ∈ found, answer.unmap.zone ≠ "" → ¬ Reserved answer.unmap.withoutZone) ∨
    ∃ answer ∈ found, Internal answer.unmap.withoutZone ∨
      (answer.unmap.zone = "" ∧ Reserved answer.unmap.withoutZone)

theorem denied_unmap (address : Addr) : Denied address.unmap ↔ Denied address := by
  rw [Denied, Denied, address.unmap_unmap]

/-- The policy is kept exactly if not all answers pass while one of them is denied. -/
theorem keepsPolicy_iff {resolved : Except String Addr}
    (chooses : ∀ address, resolved = .ok address ↔ Chosen false found address) :
    KeepsPolicy found resolved ↔ ZonesHarmless found := by
  constructor
  · intro keeps
    by_contra harmful
    simp only [ZonesHarmless, not_or, not_forall, not_exists, not_and, exists_prop, not_not]
      at harmful
    obtain ⟨⟨answer, member, -, reserved⟩, passes⟩ := harmful
    have allowed : ∀ answer ∈ found, targetAllowed answer.unmap false = true := by
      intro answer member
      obtain ⟨outside, unreserved⟩ := passes answer member
      refine (targetAllowed_iff answer).mpr ⟨outside, ?_⟩
      by_cases zoned : answer.unmap.zone = ""
      · exact .inr (unreserved zoned)
      · exact .inl zoned
    obtain ⟨address, chosen⟩ := exists_chosen (List.ne_nil_of_mem member) allowed
    exact keeps.refused ⟨answer, member, .inr reserved⟩ address ((chooses address).mpr chosen)
  · intro harmless
    have clean : ∀ address, resolved = .ok address → ∀ answer ∈ found, ¬ Denied answer := by
      intro address given
      have chosen := (chooses address).mp given
      have passes := fun answer member => (targetAllowed_iff answer).mp (chosen.1 answer member)
      rcases harmless with plain | ⟨refused, member, cause⟩
      · rintro answer member (internal | reserved)
        · exact (passes answer member).1 internal
        · rcases (passes answer member).2 with zoned | free
          · exact plain answer member zoned reserved
          · exact free reserved
      · exfalso
        obtain ⟨outside, zoned | free⟩ := passes refused member
        · exact cause.elim outside fun unzoned => zoned unzoned.1
        · exact cause.elim outside fun unzoned => free unzoned.2
    constructor
    · intro address given
      obtain ⟨answer, member, rfl⟩ := ((chooses address).mp given).mem
      rw [denied_unmap]
      exact clean _ given answer member
    · rintro ⟨answer, member, denied⟩ address given
      exact clean address given answer member denied

/-- For every spelling of an address and all answers of the resolver: both resolvers
give the same address or none, and the policy is kept exactly if zones hide nothing. -/
theorem resolvers_policy_iff (lookup : String → Option (List Addr)) (address : String) :
    (∀ allowPrivate, (resolveTarget lookup address allowPrivate).toOption =
      (resolveWebTarget lookup address allowPrivate).toOption) ∧
    (KeepsPolicy (answers lookup address) (resolveTarget lookup address false) ∧
        KeepsPolicy (answers lookup address) (resolveWebTarget lookup address false) ↔
      ZonesHarmless (answers lookup address)) := by
  constructor
  · intro allowPrivate
    have toOption : ∀ (result : Except String Addr) (chosen : Addr),
        result.toOption = some chosen ↔ result = .ok chosen := by
      intro result chosen
      cases result <;> simp [Except.toOption]
    apply Option.ext
    intro chosen
    rw [toOption, toOption, resolveTarget_eq_ok, resolveWebTarget_eq_ok]
  · rw [keepsPolicy_iff fun _ => resolveTarget_eq_ok,
      keepsPolicy_iff fun _ => resolveWebTarget_eq_ok,
      and_self]

def noAnswers (_ : String) : Option (List Addr) := none

/-- With a zone, both resolvers give the unspecified address and one of a documentation
range. -/
theorem zone_hides_reserved :
    resolveTarget noAnswers "::%lo" false = .ok (.v6 0 "lo") ∧
      resolveWebTarget noAnswers "::%lo" false = .ok (.v6 0 "lo") ∧
      Denied (.v6 0 "lo") ∧
      resolveTarget noAnswers "2001:db8::1%eth0" false =
        .ok (.v6 (ipv6Value [0x2001, 0xdb8, 0, 0, 0, 0, 0, 1]) "eth0") ∧
      Denied (.v6 (ipv6Value [0x2001, 0xdb8, 0, 0, 0, 0, 0, 1]) "eth0") := by
  refine ⟨by decide +kernel, by decide +kernel, .inr (.inl (by decide)), by decide +kernel,
    .inr (.inr ⟨⟨.v6 (ipv6Value [0x2001, 0xdb8, 0, 0, 0, 0, 0, 0]) "", 32⟩, ?_, by decide⟩)⟩
  simp [deniedPublicPrefixes]

end VpsManager.Ssh
