import VpsManager.Connector.Ledger
import VpsManager.Lib.Decimal
import VpsManager.Lib.Joined

namespace VpsManager.Connector

open Go Checks Protocol Decimal

/-- A text that is one line. -/
def OneLine (text : String) : Prop := '\n' ∉ text.toList

instance (text : String) : Decidable (OneLine text) := inferInstanceAs (Decidable (_ ∉ _))

theorem oneLine_of_all {text : String} {allowed : Char → Bool} (break_ : allowed '\n' = false)
    (all : ∀ c ∈ text.toList, allowed c = true) : OneLine text := by
  intro inside
  rw [all _ inside] at break_
  cases break_

theorem oneLine_hex (raw : Bytes) : OneLine (hex raw) := by
  have digits : ∀ n < 16, hexDigit n ≠ '\n' := by decide
  intro inside
  rw [hex, String.toList_ofList] at inside
  obtain ⟨b, -, digit⟩ := List.mem_flatMap.mp inside
  have small := b.toNat_lt
  simp only [List.mem_cons, List.not_mem_nil, or_false] at digit
  rcases digit with same | same
  · exact digits _ (by omega) same.symm
  · exact digits _ (Nat.mod_lt _ (by decide)) same.symm

theorem oneLine_int (n : Int) : OneLine (toString n) := by
  intro inside
  rcases Decimal.int_chars n _ inside with minus | digit
  · cases minus
  · revert digit
    decide

theorem oneLine_nat (n : Nat) : OneLine (toString n) := by
  intro inside
  have digit := Decimal.nat_chars n _ inside
  revert digit
  decide

section Lines

variable {binding other : RunbookBinding}

theorem oneLine_identifier {value : String} {max : Nat}
    (valid : validIdentifier value max = true) : OneLine value := by
  simp only [validIdentifier, Bool.and_eq_true] at valid
  have chars := valid.2
  unfold identifierChars at chars
  intro inside
  split at chars
  · rename_i empty
    rw [empty] at inside
    cases inside
  · rename_i first rest text
    rw [Bool.and_eq_true] at chars
    rw [text, List.mem_cons] at inside
    rcases inside with same | later
    · rw [← same] at chars
      exact absurd chars.1 (by decide)
    · exact absurd (List.all_eq_true.mp chars.2 _ later) (by decide)

theorem oneLine_fingerprint {value : String} (valid : validSSHFingerprint value = true) :
    OneLine value := by
  simp only [validSSHFingerprint, Bool.and_eq_true, hasPrefix] at valid
  obtain ⟨⟨⟨lead, -⟩, -⟩, chars⟩ := valid
  obtain ⟨rest, text⟩ := List.isPrefixOf_iff_prefix.mp lead
  rw [← text] at chars
  intro inside
  rw [← text, List.mem_append] at inside
  rcases inside with marked | later
  · revert marked
    decide
  · have dropped : ("SHA256:".toList ++ rest).drop 7 = rest := rfl
    rw [dropped] at chars
    exact absurd (List.all_eq_true.mp chars _ later) (by decide)

theorem oneLine_target (valid : validateBoundTarget binding = .ok ()) :
    OneLine binding.target.address ∧ OneLine binding.target.user ∧
      OneLine binding.pinnedHostKeySHA256 ∧ OneLine binding.credentialPublicKeySHA256 := by
  simp only [validateBoundTarget, bind_eq_ok, ensure_eq_ok, exists_const] at valid
  obtain ⟨⟨-, -, -, -, -, -, -, -, pinned, credential⟩, printable⟩ := valid
  have plain : ∀ c ∈ binding.target.address.toList ++ binding.target.user.toList,
      (!isControl c) = true := by
    intro c inside
    rw [String.toList_append] at printable
    exact List.all_eq_true.mp printable c inside
  refine ⟨?_, ?_, oneLine_fingerprint pinned, oneLine_fingerprint credential⟩
  · exact oneLine_of_all (by decide) fun c inside => plain c (List.mem_append_left _ inside)
  · exact oneLine_of_all (by decide) fun c inside => plain c (List.mem_append_right _ inside)

theorem oneLine_service {name : String} {service : Runbook.Service}
    (known : Runbook.service? name = some service) : OneLine name := by
  have same : service.name = name := by simpa using List.find?_some known
  rw [← same]
  cases service <;> decide

theorem oneLine_timezone {name : String} {timezone : Runbook.Timezone}
    (known : Runbook.timezone? name = some timezone) : OneLine name := by
  have same : timezone.name = name := by simpa using List.find?_some known
  rw [← same]
  cases timezone <;> decide

/-- The catalog takes the parameters as they are, and its services and zones are lines. -/
theorem buildSteps_parameters {action : Runbook.ActionID} {p normalized : Runbook.Parameters}
    {steps : List Runbook.Step} (built : Runbook.buildSteps action p = .ok (steps, normalized)) :
    normalized = p ∧ OneLine p.service ∧ OneLine p.timezone := by
  have empty : OneLine "" := by decide
  cases action with
  | capabilities | updateCheck | hostRebootPlan =>
    simp only [Runbook.buildSteps, bind_eq_ok, ensure_eq_ok, pure_eq_ok, Prod.mk.injEq] at built
    obtain ⟨_, rfl, -, rfl⟩ := built
    exact ⟨rfl, empty, empty⟩
  | serviceStatus | serviceRestart =>
    simp only [Runbook.buildSteps, bind_eq_ok, ensure_eq_ok, orError_eq_ok, pure_eq_ok,
      Prod.mk.injEq] at built
    obtain ⟨service, known, _, ⟨timezone, -⟩, -, rfl⟩ := built
    exact ⟨rfl, oneLine_service known, timezone ▸ empty⟩
  | timezoneSet =>
    simp only [Runbook.buildSteps, bind_eq_ok, ensure_eq_ok, orError_eq_ok, pure_eq_ok,
      Prod.mk.injEq] at built
    obtain ⟨timezone, known, _, ⟨service, -⟩, -, rfl⟩ := built
    exact ⟨rfl, service ▸ empty, oneLine_timezone known⟩
  | processSIGTERM =>
    simp only [Runbook.buildSteps, bind_eq_ok, ensure_eq_ok, pure_eq_ok, Prod.mk.injEq,
      not_or, not_not] at built
    obtain ⟨_, ⟨service, timezone, -⟩, -, rfl⟩ := built
    exact ⟨rfl, service ▸ empty, timezone ▸ empty⟩

theorem build_parameters {sha256 : Bytes → Bytes} {action : String} {version : Int}
    {parameters : Runbook.Parameters} {plan : Runbook.Plan}
    (built : Runbook.build sha256 action version parameters = .ok plan) :
    plan.definition.id.name = action ∧ plan.definition.version = version ∧
      plan.parameters = parameters ∧ OneLine action ∧ OneLine parameters.service ∧
      OneLine parameters.timezone := by
  obtain ⟨definition, steps, known, sameVersion, success, sameDefinition, -⟩ :=
    Runbook.build_inversion sha256 action version parameters plan built
  obtain ⟨-, name⟩ := Runbook.name_of_definition? known
  obtain ⟨normalized, service, timezone⟩ := buildSteps_parameters success
  have line : OneLine action := by
    rw [← name]
    cases definition.id <;> decide
  rw [sameDefinition]
  exact ⟨name, sameVersion.symm, normalized, line, service, timezone⟩

end Lines

def scopeLines (binding : RunbookBinding) : List String :=
  [Runbook.catalogVersion, binding.action.id, toString binding.action.version, binding.hostID,
    binding.jobID, binding.parameters.service, binding.parameters.timezone,
    toString binding.parameters.pid, toString binding.parameters.processStartTicks]

/-- The lines of the outer text, the first of which is the digest of the inner one. -/
def boundLines (sha256 : Bytes → Bytes) (binding : RunbookBinding) : List String :=
  [hex (sha256 (bytes ("\n".intercalate (scopeLines binding)))), binding.target.address,
    toString binding.target.port, binding.target.user, binding.pinnedHostKeySHA256,
    binding.credentialPublicKeySHA256]

section Digest

variable {sha256 : Bytes → Bytes} {version : String} {binding other : RunbookBinding}
  {plan : Runbook.Plan} {digest : String}

theorem buildBoundPlan_digest
    (built : buildBoundPlan sha256 version binding = .ok (plan, digest)) :
    digest = hex (sha256 (bytes ("\n".intercalate (boundLines sha256 binding)))) := by
  simp only [buildBoundPlan, Runbook.scopeDigest, bind_eq_ok, ensure_eq_ok, pure_eq_ok,
    Prod.mk.injEq] at built
  obtain ⟨_, -, _, -, _, planned, _, ⟨_, -, rfl⟩, rfl, rfl⟩ := built
  obtain ⟨name, sameVersion, parameters, -⟩ := build_parameters planned
  rw [name, sameVersion, parameters]
  rfl

theorem scopeLines_oneLine
    (built : buildBoundPlan sha256 version binding = .ok (plan, digest)) :
    ∀ line ∈ scopeLines binding, OneLine line := by
  obtain ⟨host, job, -, planned, -⟩ := buildBoundPlan_ok built
  obtain ⟨-, -, -, action, service, timezone⟩ := build_parameters planned
  have catalog : OneLine Runbook.catalogVersion := by decide
  simp only [scopeLines, List.forall_mem_cons]
  exact ⟨catalog, action, oneLine_int _, oneLine_identifier host, oneLine_identifier job, service,
    timezone, oneLine_int _, oneLine_nat _, List.forall_mem_nil _⟩

theorem boundLines_oneLine
    (built : buildBoundPlan sha256 version binding = .ok (plan, digest)) :
    ∀ line ∈ boundLines sha256 binding, OneLine line := by
  obtain ⟨-, -, target, -⟩ := buildBoundPlan_ok built
  obtain ⟨address, user, pinned, credential⟩ := oneLine_target target
  simp only [boundLines, List.forall_mem_cons]
  exact ⟨oneLine_hex _, address, oneLine_int _, user, pinned, credential, List.forall_mem_nil _⟩

theorem binding_eq_of_lines (scope : scopeLines binding = scopeLines other)
    (bound : boundLines sha256 binding = boundLines sha256 other) : binding = other := by
  obtain ⟨⟨id, number⟩, hostID, jobID, ⟨address, port, user⟩, pinned, credential,
    ⟨service, timezone, pid, ticks⟩⟩ := binding
  obtain ⟨⟨id', number'⟩, hostID', jobID', ⟨address', port', user'⟩, pinned', credential',
    ⟨service', timezone', pid', ticks'⟩⟩ := other
  simp only [scopeLines, List.cons.injEq, and_true, true_and] at scope
  simp only [boundLines, List.cons.injEq, and_true] at bound
  obtain ⟨rfl, numbers, rfl, rfl, rfl, rfl, pids, starts⟩ := scope
  obtain ⟨-, rfl, ports, rfl, rfl, rfl⟩ := bound
  obtain rfl : number = number' := toString_int_injective numbers
  obtain rfl : pid = pid' := toString_int_injective pids
  obtain rfl : port = port' := toString_int_injective ports
  obtain rfl : ticks = ticks' := UInt64.toNat_inj.mp (toString_nat_injective starts)
  rfl

theorem lines_eq_of_digest {lines others : List String} (injective : Function.Injective sha256)
    (nonempty : lines ≠ []) (single : ∀ line ∈ lines, OneLine line)
    (length : lines.length = others.length)
    (same : hex (sha256 (bytes ("\n".intercalate lines))) =
      hex (sha256 (bytes ("\n".intercalate others)))) : lines = others := by
  have joined := bytes_injective (injective (hex_injective same))
  exact Joined.join_injective rfl nonempty single length joined

/-- Bindings with a plan that have the same digest are the same, and so are their plans. -/
theorem scopeDigest_binds {otherVersion : String} {otherPlan : Runbook.Plan}
    (injective : Function.Injective sha256)
    (built : buildBoundPlan sha256 version binding = .ok (plan, digest))
    (otherBuilt : buildBoundPlan sha256 otherVersion other = .ok (otherPlan, digest)) :
    binding = other ∧ plan = otherPlan := by
  have outer : boundLines sha256 binding = boundLines sha256 other := by
    apply lines_eq_of_digest injective (by simp [boundLines]) (boundLines_oneLine built)
      (by simp [boundLines])
    rw [← buildBoundPlan_digest built, ← buildBoundPlan_digest otherBuilt]
  -- the digest of the inner text is the first line of the outer one
  have first : hex (sha256 (bytes ("\n".intercalate (scopeLines binding)))) =
      hex (sha256 (bytes ("\n".intercalate (scopeLines other)))) := (List.cons.inj outer).1
  have inner : scopeLines binding = scopeLines other :=
    lines_eq_of_digest injective (by simp [scopeLines]) (scopeLines_oneLine built)
      (by simp [scopeLines]) first
  obtain rfl := binding_eq_of_lines inner outer
  obtain ⟨-, -, -, planned, -⟩ := buildBoundPlan_ok built
  obtain ⟨-, -, -, otherPlanned, -⟩ := buildBoundPlan_ok otherBuilt
  exact ⟨rfl, Except.ok.inj (planned.symm.trans otherPlanned)⟩

/-- SHA-256 of what is hashed for the capabilities: the two texts and the two steps. -/
def capabilitiesDigests : List (Bytes × Nat) :=
  [(bytes ("\n".intercalate (scopeLines (capabilitiesBinding "job_1"))),
      0x8054c8afb98a9950d99cec57f28e93921014091584f79d6f15e202c7bac7f2d8),
    (bytes ("\n".intercalate
        ("8054c8afb98a9950d99cec57f28e93921014091584f79d6f15e202c7bac7f2d8" ::
          (boundLines id (capabilitiesBinding "job_1")).tail)),
      0xede0a88cedda972e63d92a38c98d1b5835b0ac21da1fb024d6d7007451aca560)] ++
    (((Runbook.buildSteps .capabilities .empty).toOption.elim [] Prod.fst).map
      (Runbook.sealStep id)).zip
      [0xe32d71eba053dbb3c457323b012912a5b09eb12f6e8b57fa12886db5702d25b9,
        0x3b50270d8e2b63b5bce28fc2d3cbba0efe26a5536abfd388eb04cfcd01f083dc]

theorem capabilities_digest_binds : ∃ plan digest,
    buildBoundPlan (digestsOn capabilitiesDigests) protocolVersion (capabilitiesBinding "job_1") =
      .ok (plan, digest) ∧
    ∀ other otherPlan,
      buildBoundPlan (digestsOn capabilitiesDigests) protocolVersion other =
        .ok (otherPlan, digest) → capabilitiesBinding "job_1" = other ∧ plan = otherPlan := by
  have valid : validIdentifier "job_1" 128 = true := by decide +kernel
  have injective : Function.Injective (digestsOn capabilitiesDigests) :=
    digestsOn_injective (by decide +kernel)
  obtain ⟨plan, canonical, -, built, -⟩ := capabilities_built (digestsOn capabilitiesDigests) valid
  exact ⟨plan, _, built, fun _ _ => scopeDigest_binds injective built⟩

end Digest

end VpsManager.Connector
