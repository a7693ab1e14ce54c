import VpsManager.Control.Model
import VpsManager.Go.Float
import VpsManager.Go.LowerCase
import VpsManager.Lib.Pattern

namespace VpsManager.Ai

open Go Checks

open Control (Analysis RankedFinding HumanVerificationStep Recommendation)

def schemaVersion : String := "vpsmanager.ai-analysis.v1"

def maxFindings : Nat := 128

structure Evidence where
  pid : Int
  parentPID : Int
  user : String
  processName : String
  cpuPercent : Float64
  elapsedSeconds : UInt64
  deriving DecidableEq, Repr

structure Finding where
  id : String
  ruleID : String
  title : String
  severity : String
  confidence : Float64
  evidence : Evidence
  falsePositiveNote : String
  deriving DecidableEq, Repr

def isFormat (c : Char) : Bool :=
  let code := c.toNat
  code == 0xAD || (0x600 ≤ code && code ≤ 0x605) || code == 0x61C || code == 0x6DD ||
    code == 0x70F || (0x890 ≤ code && code ≤ 0x891) || code == 0x8E2 || code == 0x180E ||
    (0x200B ≤ code && code ≤ 0x200F) || (0x202A ≤ code && code ≤ 0x202E) ||
    (0x2060 ≤ code && code ≤ 0x2064) || (0x2066 ≤ code && code ≤ 0x206F) || code == 0xFEFF ||
    (0xFFF9 ≤ code && code ≤ 0xFFFB) || code == 0x110BD || code == 0x110CD ||
    (0x13430 ≤ code && code ≤ 0x1343F) || (0x1BCA0 ≤ code && code ≤ 0x1BCA3) ||
    (0x1D173 ≤ code && code ≤ 0x1D17A) || code == 0xE0001 || (0xE0020 ≤ code && code ≤ 0xE007F)

def isPrivateUse (c : Char) : Bool :=
  let code := c.toNat
  (0xE000 ≤ code && code ≤ 0xF8FF) || (0xF0000 ≤ code && code ≤ 0xFFFFD) ||
    (0x100000 ≤ code && code ≤ 0x10FFFD)

/-- Some characters that every version of the standard in use has: the first blocks,
common ideographs with their punctuation and the replacement character. -/
def isCommon (c : Char) : Bool :=
  let code := c.toNat
  code ≤ 0x377 || (0x3000 ≤ code && code ≤ 0x3020) || (0x4E00 ≤ code && code ≤ 0x9FA5) ||
    (0xFF01 ≤ code && code ≤ 0xFF5E) || code == 0xFFFD

/-- The tables of the Unicode version the program is built with. -/
structure Unicode where
  unassigned : Char → Bool
  common : ∀ c, isCommon c = true → unassigned c = false

variable (unicode : Unicode)

/-- `unicode.Is(unicode.C, r)`. -/
def Unicode.isOther (c : Char) : Bool :=
  isControl c || isFormat c || isPrivateUse c || unicode.unassigned c

def like (letter c : Char) : Bool := foldChar letter == foldChar c

def literal (text : String) : Pattern Char := .word like text.toList

/-- `\s`. -/
def isBlank (c : Char) : Bool := c == '\t' || c == '\n' || c.toNat == 12 || c == '\r' || c == ' '

/-- `\w`. -/
def isWordChar (c : Char) : Bool := isAlnumASCII c || c == '_'

/-- `\b`. -/
def boundary : Pattern Char :=
  .test fun before after => before.any isWordChar != after.any isWordChar

/-- `^`. -/
def textStart : Pattern Char := .test fun before _ => before.isNone

def isAlnumFolded (c : Char) : Bool := isLowerASCII (foldChar c) || isDigitASCII c

def privateKeyPattern : Pattern Char :=
  .seq (literal "-----BEGIN ")
    (.seq (.many fun c => isAlnumFolded c || c == ' ') (literal "PRIVATE KEY-----"))

def accessKeyPattern : Pattern Char :=
  .seq boundary (.seq (literal "AKIA") (.seq (.times isAlnumFolded 16) boundary))

def assignedNames : List (Pattern Char) :=
  [literal "password", literal "passwd",
    .seq (literal "api") (.seq (.optional (.one fun c => c == '_' || c == '-')) (literal "key")),
    literal "secret", literal "token", literal "authorization"]

def assignmentPattern : Pattern Char :=
  .seq (.any assignedNames) (.seq (.many isBlank) (.seq (.one fun c => c == ':' || c == '=')
    (.seq (.many isBlank) (.many1 fun c => !isBlank c))))

def secretPattern : Pattern Char := .any [privateKeyPattern, accessKeyPattern, assignmentPattern]

def commandNames : List String :=
  ["sudo", "bash", "sh", "zsh", "powershell", "cmd.exe", "rm", "kill", "pkill", "systemctl",
    "curl", "wget", "chmod", "chown"]

def commandPattern : Pattern Char :=
  .seq (.alt textStart (.one isBlank)) (.seq (.any (commandNames.map literal)) (.many1 isBlank))

def isIdentifierChar (c : Char) : Bool :=
  isAlnumASCII c || c == '.' || c == '_' || c == ':' || c == '-'

def identifierPattern (text : String) : Bool := anchored isAlnumASCII isIdentifierChar 127 text

example : secretPattern.found "api_Key =  x".toList = true ∧
    secretPattern.found "-----begin RSA PRIVATE KEY-----".toList = true ∧
    secretPattern.found "the token is x:".toList = false ∧
    commandPattern.found "run \tcurl x".toList = true ∧
    commandPattern.found "run curls".toList = false := by decide +kernel

/-- A string here is valid UTF-8, so that the first check of the source always
passes. -/
def validateText (value : String) (minimum maximum : Nat) (rejectSecrets : Bool) :
    Except String Unit := do
  ensure (minimum ≤ value.length ∧ value.length ≤ maximum ∧ len value ≤ maximum * 4)
    "text length outside bounds"
  ensure (value.toList.all (fun c => !unicode.isOther c) = true)
    "control or format character is forbidden"
  ensure ((rejectSecrets && secretPattern.found value.toList) = false)
    "probable secret is forbidden"

def validateOptionalText (value : String) (limit : Nat) : Except String Unit :=
  if value = "" then .ok () else validateText unicode value 1 limit true

def validateOutputText (value : String) (minimum maximum : Nat) : Except String Unit := do
  validateText unicode value minimum maximum true
  ensure ((containsAny value "\x60|;<>" || contains value "&&" || contains value "||" ||
    contains value "$(" || commandPattern.found value.toList) = false)
    "execution syntax is forbidden"

def validSeverity (value : String) : Bool :=
  ["critical", "high", "medium", "low"].contains value

def validPriority (value : String) : Bool := ["urgent", "high", "normal", "low"].contains value

def invalidFindings : String := "invalid redacted findings"

def tenThousand : Float64 := ⟨0x40C3880000000000⟩

/-- The checks on one finding before its identifier is looked up. -/
def validateFindingTexts (finding : Finding) : Except String Unit := do
  ensure (identifierPattern finding.id = true) invalidFindings
  ensure (identifierPattern finding.ruleID = true) invalidFindings
  (validateText unicode finding.title 1 256 true).mapError fun _ => invalidFindings
  (validateText unicode finding.falsePositiveNote 1 1024 true).mapError fun _ => invalidFindings

def validateFindingValues (finding : Finding) : Except String Unit := do
  ensure (validSeverity finding.severity = true) invalidFindings
  ensure (finding.confidence.isNaN = false ∧ finding.confidence.isInf = false ∧
    finding.confidence.less .zero = false ∧ Float64.one.less finding.confidence = false)
    invalidFindings
  ensure (0 ≤ finding.evidence.pid ∧ 0 ≤ finding.evidence.parentPID ∧
    finding.evidence.cpuPercent.isNaN = false ∧ finding.evidence.cpuPercent.isInf = false ∧
    finding.evidence.cpuPercent.less .zero = false ∧
    tenThousand.less finding.evidence.cpuPercent = false) invalidFindings
  (validateOptionalText unicode finding.evidence.user 64).mapError fun _ => invalidFindings
  (validateOptionalText unicode finding.evidence.processName 128).mapError fun _ => invalidFindings

/-- The loop over the findings, with the identifiers seen so far. -/
def validateFindingsFrom (seen : List String) : List Finding → Except String Unit
  | [] => .ok ()
  | finding :: findings => do
    validateFindingTexts unicode finding
    ensure (finding.id ∉ seen) invalidFindings
    validateFindingValues unicode finding
    validateFindingsFrom (finding.id :: seen) findings

def validateFindings (findings : List Finding) : Except String Unit := do
  ensure (findings.length ≤ maxFindings) invalidFindings
  validateFindingsFrom unicode [] findings

/-- The loop over the ranked findings, with the ranks and identifiers seen so far. -/
def validateRanked (findings : List Finding) (ranks : List Int) (rankedIDs : List String) :
    List RankedFinding → Except String Unit
  | [] => .ok ()
  | item :: items => do
    ensure (item.findingID ∈ findings.map (·.id) ∧ 1 ≤ item.rank ∧
      item.rank ≤ findings.length ∧ validateOutputText unicode item.rationale 1 600 = .ok ())
      "invalid ranked finding"
    ensure (item.rank ∉ ranks) "duplicate rank"
    ensure (item.findingID ∉ rankedIDs) "duplicate ranked finding"
    validateRanked findings (item.rank :: ranks) (item.findingID :: rankedIDs) items

/-- One of the loops that collect the identifiers that are covered. -/
def validateItems {α : Type} (valid : α → Prop) [DecidablePred valid] (error : String) :
    List α → Except String Unit
  | [] => .ok ()
  | item :: items => do
    ensure (valid item) error
    validateItems valid error items

def validStep (findings : List Finding) (step : HumanVerificationStep) : Prop :=
  step.findingID ∈ findings.map (·.id) ∧
    validateOutputText unicode step.description 1 600 = .ok ()

def validRecommendation (findings : List Finding) (recommendation : Recommendation) : Prop :=
  recommendation.findingID ∈ findings.map (·.id) ∧
    validPriority recommendation.priority = true ∧
    validateOutputText unicode recommendation.advice 1 600 = .ok ()

instance (findings : List Finding) : DecidablePred (validStep unicode findings) :=
  fun _ => inferInstanceAs (Decidable (_ ∧ _))

instance (findings : List Finding) : DecidablePred (validRecommendation unicode findings) :=
  fun _ => inferInstanceAs (Decidable (_ ∧ _ ∧ _))

def coverage (ids : List String) : Nat := ids.dedup.length

def validateAnalysis (value : Analysis) (findings : List Finding) : Except String Unit := do
  ensure (value.schemaVersion = schemaVersion ∧ value.executionAllowed = false)
    "invalid analysis contract"
  (validateOutputText unicode value.summary 1 2000).mapError fun _ => "invalid analysis summary"
  ensure (value.rankedFindings.length = findings.length ∧
    value.humanVerificationSteps.length ≤ max 1 (findings.length * 3) ∧
    value.recommendations.length ≤ max 1 (findings.length * 2))
    "invalid analysis collection size"
  validateRanked unicode findings [] [] value.rankedFindings
  ensure (¬ (0 < findings.length ∧
    (value.humanVerificationSteps.length = 0 ∨ value.recommendations.length = 0)))
    "missing human guidance"
  validateItems (validStep unicode findings) "invalid verification step"
    value.humanVerificationSteps
  validateItems (validRecommendation unicode findings) "invalid recommendation"
    value.recommendations
  ensure (coverage (value.humanVerificationSteps.map (·.findingID)) = findings.length ∧
    coverage (value.recommendations.map (·.findingID)) = findings.length)
    "human guidance does not cover every finding"

section Accepted

variable {unicode}

theorem validateFindingsFrom_eq_ok (seen : List String) (findings : List Finding) :
    validateFindingsFrom unicode seen findings = .ok () ↔
      (∀ finding ∈ findings, validateFindingTexts unicode finding = .ok () ∧
        validateFindingValues unicode finding = .ok ()) ∧
      (findings.map (·.id)).Nodup ∧ ∀ finding ∈ findings, finding.id ∉ seen := by
  induction findings generalizing seen with
  | nil => simp [validateFindingsFrom]
  | cons finding findings ih =>
    simp only [validateFindingsFrom, bind_eq_ok, ensure_eq_ok, Unique.exists_iff,
      PUnit.default_eq_unit, ih, List.map_cons, List.nodup_cons, List.mem_map, List.mem_cons,
      not_or, not_exists, not_and]
    grind

/-- The findings that are accepted, each by itself and none twice. -/
theorem validateFindings_eq_ok (findings : List Finding) :
    validateFindings unicode findings = .ok () ↔
      findings.length ≤ maxFindings ∧
      (∀ finding ∈ findings, validateFindingTexts unicode finding = .ok () ∧
        validateFindingValues unicode finding = .ok ()) ∧
      (findings.map (·.id)).Nodup := by
  simp only [validateFindings, bind_eq_ok, ensure_eq_ok, Unique.exists_iff,
    validateFindingsFrom_eq_ok, List.not_mem_nil, not_false_eq_true, implies_true, and_true]

theorem validateRanked_eq_ok (findings : List Finding) (ranks : List Int)
    (rankedIDs : List String) (items : List RankedFinding) :
    validateRanked unicode findings ranks rankedIDs items = .ok () ↔
      (∀ item ∈ items, item.findingID ∈ findings.map (·.id) ∧ 1 ≤ item.rank ∧
        item.rank ≤ findings.length ∧
        validateOutputText unicode item.rationale 1 600 = .ok ()) ∧
      (items.map (·.rank)).Nodup ∧ (items.map (·.findingID)).Nodup ∧
      ∀ item ∈ items, item.rank ∉ ranks ∧ item.findingID ∉ rankedIDs := by
  induction items generalizing ranks rankedIDs with
  | nil => simp [validateRanked]
  | cons item items ih =>
    simp only [validateRanked, bind_eq_ok, ensure_eq_ok, Unique.exists_iff, ih,
      List.map_cons, List.nodup_cons, List.mem_map, List.mem_cons, not_or, not_exists, not_and]
    grind

theorem validateItems_eq_ok {α : Type} (valid : α → Prop) [DecidablePred valid] (error : String)
    (items : List α) :
    validateItems valid error items = .ok () ↔ ∀ item ∈ items, valid item := by
  induction items with
  | nil => simp [validateItems]
  | cons item items ih => simp [validateItems, ih]

structure Accepted (unicode : Unicode) (value : Analysis) (findings : List Finding) : Prop where
  version : value.schemaVersion = schemaVersion
  inert : value.executionAllowed = false
  summary : validateOutputText unicode value.summary 1 2000 = .ok ()
  rankedLength : value.rankedFindings.length = findings.length
  stepsLength : value.humanVerificationSteps.length ≤ max 1 (findings.length * 3)
  recommendationsLength : value.recommendations.length ≤ max 1 (findings.length * 2)
  ranked : ∀ item ∈ value.rankedFindings, item.findingID ∈ findings.map (·.id) ∧ 1 ≤ item.rank ∧
    item.rank ≤ findings.length ∧ validateOutputText unicode item.rationale 1 600 = .ok ()
  ranks : (value.rankedFindings.map (·.rank)).Nodup
  rankedIDs : (value.rankedFindings.map (·.findingID)).Nodup
  steps : ∀ step ∈ value.humanVerificationSteps, validStep unicode findings step
  recommendations : ∀ recommendation ∈ value.recommendations,
    validRecommendation unicode findings recommendation
  stepsCover : coverage (value.humanVerificationSteps.map (·.findingID)) = findings.length
  recommendationsCover : coverage (value.recommendations.map (·.findingID)) = findings.length

theorem validateAnalysis_eq_ok (value : Analysis) (findings : List Finding) :
    validateAnalysis unicode value findings = .ok () ↔ Accepted unicode value findings := by
  simp only [validateAnalysis, bind_eq_ok, ensure_eq_ok, mapError_eq_ok, Unique.exists_iff,
    PUnit.default_eq_unit, validateRanked_eq_ok, validateItems_eq_ok, List.not_mem_nil,
    not_false_eq_true, and_true, implies_true]
  constructor
  · rintro ⟨⟨version, inert⟩, summary, ⟨ranked, steps, recommendations⟩, ⟨items, ranks, ids⟩, -,
      validSteps, validRecommendations, covered⟩
    exact ⟨version, inert, summary, ranked, steps, recommendations, items, ranks, ids, validSteps,
      validRecommendations, covered.1, covered.2⟩
  · intro accepted
    refine ⟨⟨accepted.version, accepted.inert⟩, accepted.summary, ⟨accepted.rankedLength,
      accepted.stepsLength, accepted.recommendationsLength⟩, ⟨accepted.ranked, accepted.ranks,
      accepted.rankedIDs⟩, ?_, accepted.steps, accepted.recommendations, accepted.stepsCover,
      accepted.recommendationsCover⟩
    -- what covers a finding is not empty
    rintro ⟨positive, none | none⟩
    · have covered := accepted.stepsCover
      rw [List.length_eq_zero_iff.mp none] at covered
      exact absurd covered (by simpa [coverage] using positive.ne)
    · have covered := accepted.recommendationsCover
      rw [List.length_eq_zero_iff.mp none] at covered
      exact absurd covered (by simpa [coverage] using positive.ne)

def isPlain (c : Char) : Bool := isCommon c && !isControl c && !isFormat c && !isPrivateUse c

theorem isOther_of_isPlain {c : Char} (plain : isPlain c = true) : unicode.isOther c = false := by
  simp only [isPlain, Bool.and_eq_true, Bool.not_eq_true'] at plain
  obtain ⟨⟨⟨common, control⟩, format⟩, privateUse⟩ := plain
  simp [Unicode.isOther, control, format, privateUse, unicode.common c common]

theorem validateText_of_plain {value : String} {minimum maximum : Nat}
    (plain : value.toList.all isPlain = true)
    (bounds : minimum ≤ value.length ∧ value.length ≤ maximum ∧ len value ≤ maximum * 4)
    (harmless : secretPattern.found value.toList = false) :
    validateText unicode value minimum maximum true = .ok () := by
  have visible : value.toList.all (fun c => !unicode.isOther c) = true := by
    rw [List.all_eq_true]
    intro c inside
    simp [isOther_of_isPlain (List.all_eq_true.mp plain c inside)]
  simp only [validateText, bind_eq_ok, ensure_eq_ok, Bool.true_and]
  exact ⟨(), bounds, (), visible, harmless⟩

theorem validateOutputText_of_plain {value : String} {minimum maximum : Nat}
    (plain : value.toList.all isPlain = true)
    (bounds : minimum ≤ value.length ∧ value.length ≤ maximum ∧ len value ≤ maximum * 4)
    (harmless : secretPattern.found value.toList = false)
    (inert : (containsAny value "\x60|;<>" || contains value "&&" || contains value "||" ||
      contains value "$(" || commandPattern.found value.toList) = false) :
    validateOutputText unicode value minimum maximum = .ok () := by
  simp only [validateOutputText, bind_eq_ok, ensure_eq_ok]
  exact ⟨(), validateText_of_plain plain bounds harmless, inert⟩

end Accepted

end VpsManager.Ai
