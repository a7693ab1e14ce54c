import Mathlib.Data.List.Sort
import Mathlib.Data.Prod.Lex
import VpsManager.Ai.Validation
import VpsManager.Go.Size
import VpsManager.Lib.Decimal

namespace VpsManager.Ai

open Go Checks

open Control (Analysis RankedFinding HumanVerificationStep Recommendation)

def severityWeight (value : String) : Int :=
  if value = "critical" then 4
  else if value = "high" then 3
  else if value = "medium" then 2
  else if value = "low" then 1
  else 0

def priorityForSeverity (value : String) : String :=
  if value = "critical" then "urgent"
  else if value = "high" then "high"
  else if value = "medium" then "normal"
  else "low"

def compareFindings (left right : Finding) : Int :=
  let difference := severityWeight right.severity - severityWeight left.severity
  if difference ≠ 0 then difference
  else if right.confidence.less left.confidence then -1
  else if left.confidence.less right.confidence then 1
  else if left.ruleID < right.ruleID then -1
  else if right.ruleID < left.ruleID then 1
  else 0

/-- `slices.SortStableFunc`. -/
def orderedFindings (findings : List Finding) : List Finding :=
  findings.insertionSort fun left right => compareFindings left right ≤ 0

def summaryText (n : Nat) : String :=
  "按严重度和置信度整理了 " ++ toString n ++ " 个异常项。"

def rationaleText (finding : Finding) : String :=
  "严重度 " ++ finding.severity ++ "，置信度 " ++ finding.confidence.fixed2 ++ "。"

def rankedFrom (rank : Nat) : List Finding → List RankedFinding
  | [] => []
  | finding :: findings =>
    ⟨finding.id, rank, rationaleText finding⟩ :: rankedFrom (rank + 1) findings

def deterministicAnalysis (findings : List Finding) : Analysis :=
  let ordered := orderedFindings findings
  { schemaVersion := schemaVersion
    summary :=
      if ordered.length = 0 then "规则扫描未发现异常项。" else summaryText ordered.length
    rankedFindings := rankedFrom 1 ordered
    humanVerificationSteps := ordered.map fun finding =>
      ⟨finding.id, "核对进程所属服务、启动时间和近期变更。"⟩
    recommendations := ordered.map fun finding =>
      ⟨finding.id, priorityForSeverity finding.severity, "查看关联日志，确认进程是否符合预期。"⟩
    executionAllowed := false }

/-- The first finding comes before the second by its severity, its confidence or the
identifier of its rule. -/
def Outranks (left right : Finding) : Prop :=
  severityWeight right.severity < severityWeight left.severity ∨
    severityWeight left.severity = severityWeight right.severity ∧
      (right.confidence.less left.confidence = true ∨
        left.confidence.less right.confidence = false ∧ left.ruleID < right.ruleID)

def Tied (left right : Finding) : Prop := ¬ Outranks left right ∧ ¬ Outranks right left

/-- By this key findings with a number for their confidence are compared. -/
def sortKey (finding : Finding) : Int ×ₗ Int ×ₗ String :=
  toLex (-severityWeight finding.severity, toLex (-finding.confidence.rank, finding.ruleID))

variable {left right : Finding} {c : Char} {unicode : Unicode}

theorem compareFindings_le_iff (first : left.confidence.isNaN = false)
    (second : right.confidence.isNaN = false) :
    compareFindings left right ≤ 0 ↔ sortKey left ≤ sortKey right := by
  have fewer := Float64.less_iff second first
  have more := Float64.less_iff first second
  simp only [compareFindings, sortKey, Prod.Lex.toLex_le_toLex, fewer, more]
  split_ifs with difference lower higher earlier later
  all_goals grind

theorem outranks_iff (first : left.confidence.isNaN = false)
    (second : right.confidence.isNaN = false) :
    Outranks left right ↔ sortKey left < sortKey right := by
  have fewer := Float64.less_iff second first
  have more := Float64.less_iff first second
  simp only [Outranks, sortKey, Prod.Lex.toLex_lt_toLex, ← Bool.not_eq_true, fewer, more]
  grind

section Order

variable {findings : List Finding}
  (numbers : ∀ finding ∈ findings, finding.confidence.isNaN = false)

include numbers

theorem orderedFindings_eq :
    orderedFindings findings =
      findings.insertionSort fun left right => sortKey left ≤ sortKey right := by
  have same := List.map_insertionSort (fun left right => compareFindings left right ≤ 0)
    (fun left right => sortKey left ≤ sortKey right) id findings
    (fun left one right two => compareFindings_le_iff (numbers left one) (numbers right two))
  simpa [orderedFindings] using same

theorem orderedFindings_pairwise :
    (orderedFindings findings).Pairwise fun left right => ¬ Outranks right left := by
  have total : Std.Total fun left right => sortKey left ≤ sortKey right :=
    ⟨fun left right => le_total (sortKey left) (sortKey right)⟩
  have trans : IsTrans Finding fun left right => sortKey left ≤ sortKey right :=
    ⟨fun _ _ _ => le_trans⟩
  rw [orderedFindings_eq numbers]
  refine (List.pairwise_insertionSort _ findings).imp_of_mem ?_
  intro left right one two ordered
  rw [List.mem_insertionSort] at one two
  rw [outranks_iff (numbers right two) (numbers left one)]
  exact not_lt.mpr ordered

/-- Findings of which neither outranks the other keep their order. -/
theorem orderedFindings_stable (tied : Tied left right) (listed : [left, right].Sublist findings) :
    [left, right].Sublist (orderedFindings findings) := by
  have one : left ∈ findings := listed.subset List.mem_cons_self
  have two : right ∈ findings := listed.subset (List.mem_cons_of_mem left List.mem_cons_self)
  apply List.pair_sublist_insertionSort _ listed
  rw [compareFindings_le_iff (numbers left one) (numbers right two)]
  refine not_lt.mp fun less => tied.2 ?_
  exact (outranks_iff (numbers right two) (numbers left one)).mpr less

end Order

/-- A character that is in no secret, unless it stands among others, and in no execution
syntax, unless it is a letter before a blank. -/
def isHarmless (c : Char) : Bool :=
  isPlain c && !like 'b' c && !like 'k' c && !(":=\x60|;<>&$".toList.contains c)

/-- A character that the name of a command can end with. -/
def isLetter (c : Char) : Bool := isLowerASCII (foldChar c)

theorem not_isHarmless_of_mem {text : List Char} {bad : Char → Bool}
    (found : ∃ c ∈ text, bad c = true) (stops : ∀ c, bad c = true → isHarmless c = false) :
    ∃ c ∈ text, isHarmless c = false := by
  obtain ⟨c, inside, isBad⟩ := found
  exact ⟨c, inside, stops c isBad⟩

theorem secretPattern_shows :
    Pattern.Shows (fun text => ∃ c ∈ text, isHarmless c = false) secretPattern := by
  apply Pattern.Shows.any
  rw [List.forall_mem_cons, List.forall_mem_cons, List.forall_mem_singleton]
  refine ⟨Pattern.Shows.seq_first ?_, Pattern.Shows.seq_second (Pattern.Shows.seq_first ?_),
    Pattern.Shows.seq_second (Pattern.Shows.seq_second (Pattern.Shows.seq_first ?_))⟩
  · have listed : 'B' ∈ "-----BEGIN ".toList := by decide
    refine (Pattern.shows_word listed).mono fun text found => not_isHarmless_of_mem found ?_
    intro c same
    have letter : like 'b' c = true := same
    simp [isHarmless, letter]
  · have listed : 'K' ∈ "AKIA".toList := by decide
    refine (Pattern.shows_word listed).mono fun text found => not_isHarmless_of_mem found ?_
    intro c same
    have letter : like 'k' c = true := same
    simp [isHarmless, letter]
  · refine Pattern.shows_one.mono fun text found => not_isHarmless_of_mem found ?_
    intro c mark
    rw [Bool.or_eq_true, beq_iff_eq, beq_iff_eq] at mark
    rcases mark with rfl | rfl <;> decide

theorem secretPattern_of_harmless {text : List Char}
    (harmless : ∀ c ∈ text, isHarmless c = true) : secretPattern.found text = false := by
  rw [← Bool.not_eq_true]
  intro found
  obtain ⟨c, inside, other⟩ := Pattern.holds_of_found secretPattern_shows found
  rw [harmless c inside] at other
  cases other

theorem isPlain_of_isHarmless (harmless : isHarmless c = true) : isPlain c = true := by
  simp only [isHarmless, Bool.and_eq_true] at harmless
  exact harmless.1.1.1

theorem commandPattern_shows :
    Pattern.Shows (fun text => Pattern.adjacent isLetter isBlank text = true) commandPattern := by
  have letters : ∀ name ∈ commandNames, name.toList ≠ [] ∧
      name.toList.getLast?.all isLetter = true := by decide
  refine Pattern.Shows.seq_second (Pattern.shows_adjacent (Pattern.EndsWith.any ?_))
  intro pattern listed
  obtain ⟨name, inside, rfl⟩ := List.mem_map.mp listed
  obtain ⟨nonempty, each⟩ := letters name inside
  refine Pattern.endsWith_word nonempty ?_
  intro item member other same
  have folded : foldChar item = foldChar other := beq_iff_eq.mp same
  rw [Option.mem_def.mp member] at each
  have letter : isLetter item = true := each
  rwa [isLetter, folded] at letter

theorem mem_of_contains {text fragment : String} (found : contains text fragment = true)
    (inside : c ∈ fragment.toList) : c ∈ text.toList := by
  rw [contains, List.any_eq_true] at found
  obtain ⟨rest, tail, begins⟩ := found
  have start := (List.isPrefixOf_iff_prefix.mp begins).subset inside
  exact (List.mem_tails _ _ |>.mp tail).subset start

/-- A text of harmless characters in which no letter stands before a blank. -/
theorem validateOutputText_of_harmless {value : String} {minimum maximum : Nat}
    (harmless : value.toList.all isHarmless = true)
    (bounds : minimum ≤ value.length ∧ value.length ≤ maximum ∧ len value ≤ maximum * 4)
    (apart : Pattern.adjacent isLetter isBlank value.toList = false) :
    validateOutputText unicode value minimum maximum = .ok () := by
  rw [List.all_eq_true] at harmless
  have absent : ∀ c, isHarmless c = false → c ∉ value.toList := by
    intro c other inside
    rw [harmless c inside] at other
    cases other
  have noFragment : ∀ (fragment : String) (c : Char), c ∈ fragment.toList → isHarmless c = false →
      contains value fragment = false := by
    intro fragment c inside other
    rw [← Bool.not_eq_true]
    exact fun found => absent c other (mem_of_contains found inside)
  apply validateOutputText_of_plain _ bounds
  · exact secretPattern_of_harmless harmless
  · rw [noFragment "&&" '&' (by decide) (by decide), noFragment "||" '|' (by decide) (by decide),
      noFragment "$(" '$' (by decide) (by decide)]
    have noMark : containsAny value "\x60|;<>" = false := by
      rw [containsAny, List.any_eq_false]
      intro c inside found
      have member : c ∈ "\x60|;<>".toList := List.contains_iff_mem.mp found
      have marks : "\x60|;<>".toList.all (fun c => !isHarmless c) = true := by decide
      have mark := List.all_eq_true.mp marks c member
      rw [Bool.not_eq_true'] at mark
      exact absent c mark inside
    have noCommand : commandPattern.found value.toList = false := by
      rw [← Bool.not_eq_true]
      intro found
      have next := Pattern.holds_of_found commandPattern_shows found
      rw [apart] at next
      cases next
    rw [noMark, noCommand]
    rfl
  · exact List.all_eq_true.mpr fun c inside => isPlain_of_isHarmless (harmless c inside)

def isNumberChar (c : Char) : Bool := c.isDigit || c == '.' || c == '-'

theorem isHarmless_of_isNumberChar (number : isNumberChar c = true) :
    isHarmless c = true ∧ isLetter c = false ∧ c.toNat < 128 := by
  have small : c.toNat < 58 := by
    simp only [isNumberChar, Bool.or_eq_true, beq_iff_eq] at number
    rcases number with (digit | rfl) | rfl
    · have range := Char.isDigit_iff_toNat.mp digit
      exact Nat.lt_succ_of_le range.2
    · decide
    · decide
  have table : ∀ n < 58, isNumberChar (Char.ofNat n) = true →
      isHarmless (Char.ofNat n) = true ∧ isLetter (Char.ofNat n) = false := by decide +kernel
  have here := table c.toNat small
  rw [Char.ofNat_toNat] at here
  exact ⟨(here number).1, (here number).2, by omega⟩

theorem validateOutputText_of_number {front number back : String} {maximum : Nat}
    (numeric : ∀ c ∈ number.toList, isNumberChar c = true) (short : len number ≤ 16)
    (harmless : (front.toList ++ back.toList).all isHarmless = true)
    (room : 1 ≤ front.length ∧ front.length + back.length + 16 ≤ maximum ∧
      len front + len back + 16 ≤ maximum * 4)
    (apart : Pattern.adjacent isLetter isBlank front.toList = false ∧
      Pattern.adjacent isLetter isBlank back.toList = false)
    (border : front.toList.getLast?.any isLetter = false) :
    validateOutputText unicode (front ++ number ++ back) 1 maximum = .ok () := by
  rw [List.all_append, Bool.and_eq_true] at harmless
  have least := length_le_len number
  apply validateOutputText_of_harmless
  · have digits : number.toList.all isHarmless = true :=
      List.all_eq_true.mpr fun c inside => (isHarmless_of_isNumberChar (numeric c inside)).1
    simp only [String.toList_append, List.all_append, harmless.1, digits, harmless.2, Bool.and_self]
  · simp only [String.length_append, len_append]
    omega
  · simp only [String.toList_append]
    have middle : Pattern.adjacent isLetter isBlank (number.toList ++ back.toList) = false := by
      refine Pattern.adjacent_append ?_ ?_ apart.2
      · intro c last
        have inside := List.mem_of_mem_getLast? last
        exact .inl (isHarmless_of_isNumberChar (numeric c inside)).2.1
      · exact Pattern.adjacent_of_none fun c inside =>
          (isHarmless_of_isNumberChar (numeric c inside)).2.1
    rw [List.append_assoc]
    refine Pattern.adjacent_append (fun c last => .inl ?_) apart.1 middle
    rw [Option.mem_def.mp last] at border
    exact border

theorem summaryText_valid (unicode : Unicode) {n : Nat} (small : n ≤ maxFindings) :
    validateOutputText unicode (summaryText n) 1 2000 = .ok () := by
  have digits : ∀ c ∈ (toString n).toList, isNumberChar c = true := by
    intro c inside
    simp [isNumberChar, Decimal.nat_chars n c inside]
  have short := Json.len_toString_nat_le n 3 (by decide) (small.trans_lt (by decide))
  exact validateOutputText_of_number digits (by omega) (by decide) (by decide) (by decide)
    (by decide)

theorem hundredthsText_numeric {n : Nat} (small : n ≤ 100) :
    (∀ c ∈ (Float64.hundredthsText n).toList, isNumberChar c = true) ∧
      len (Float64.hundredthsText n) ≤ 4 := by
  have whole := Json.len_toString_nat_le (n / 100) 1 (by decide) (by omega)
  have tenths := Json.len_toString_nat_le (n / 10 % 10) 1 (by decide) (by omega)
  have last := Json.len_toString_nat_le (n % 10) 1 (by decide) (by omega)
  constructor
  · intro c inside
    simp only [Float64.hundredthsText, String.toList_append, List.mem_append] at inside
    rcases inside with ((digit | point) | digit) | digit
    · simp [isNumberChar, Decimal.nat_chars _ c digit]
    · rw [List.mem_singleton.mp point]
      decide
    · simp [isNumberChar, Decimal.nat_chars _ c digit]
    · simp [isNumberChar, Decimal.nat_chars _ c digit]
  · have point : len "." = 1 := by decide
    simp only [Float64.hundredthsText, len_append, point]
    omega

theorem rationale_valid (unicode : Unicode) {finding : Finding}
    (severity : validSeverity finding.severity = true)
    (number : finding.confidence.isNaN = false)
    (low : finding.confidence.less .zero = false)
    (high : Float64.one.less finding.confidence = false) :
    validateOutputText unicode (rationaleText finding) 1 600 = .ok () := by
  obtain ⟨sign, signed, n, small, text⟩ := Float64.fixed2_of_unit number low high
  obtain ⟨numeric, short⟩ := hundredthsText_numeric small
  have numbers : ∀ c ∈ (sign ++ Float64.hundredthsText n).toList, isNumberChar c = true := by
    have signs : ∀ sign ∈ ["", "-"], sign.toList.all isNumberChar = true := by decide
    simp only [String.toList_append, List.forall_mem_append]
    exact ⟨List.all_eq_true.mp (signs sign signed), numeric⟩
  have size : len (sign ++ Float64.hundredthsText n) ≤ 16 := by
    have signs : ∀ sign ∈ ["", "-"], len sign ≤ 1 := by decide
    have one := signs sign signed
    rw [len_append]
    omega
  rw [rationaleText, text]
  have listed : finding.severity ∈ ["critical", "high", "medium", "low"] :=
    List.contains_iff_mem.mp severity
  simp only [List.mem_cons, List.not_mem_nil, or_false] at listed
  rcases listed with same | same | same | same
  all_goals
    rw [same]
    exact validateOutputText_of_number numbers size (by decide) (by decide) (by decide) (by decide)

theorem guidance_valid (unicode : Unicode) :
    validateOutputText unicode "规则扫描未发现异常项。" 1 2000 = .ok () ∧
      validateOutputText unicode "核对进程所属服务、启动时间和近期变更。" 1 600 = .ok () ∧
      validateOutputText unicode "查看关联日志，确认进程是否符合预期。" 1 600 = .ok () := by
  refine ⟨?_, ?_, ?_⟩
  all_goals exact validateOutputText_of_harmless (by decide) (by decide) (by decide)

theorem validPriority_priorityForSeverity (severity : String) :
    validPriority (priorityForSeverity severity) = true := by
  unfold priorityForSeverity
  split_ifs <;> decide

theorem length_rankedFrom (rank : Nat) (findings : List Finding) :
    (rankedFrom rank findings).length = findings.length := by
  induction findings generalizing rank with
  | nil => rfl
  | cons finding findings ih => simp [rankedFrom, ih]

theorem map_findingID_rankedFrom (rank : Nat) (findings : List Finding) :
    (rankedFrom rank findings).map (·.findingID) = findings.map (·.id) := by
  induction findings generalizing rank with
  | nil => rfl
  | cons finding findings ih => simp [rankedFrom, ih]

theorem map_rank_rankedFrom (rank : Nat) (findings : List Finding) :
    (rankedFrom rank findings).map (·.rank) =
      (List.range' rank findings.length).map fun (n : Nat) => (n : Int) := by
  induction findings generalizing rank with
  | nil => rfl
  | cons finding findings ih => simp [rankedFrom, List.range'_succ, ih]

theorem mem_rankedFrom {rank : Nat} {findings : List Finding} {item : RankedFinding}
    (inside : item ∈ rankedFrom rank findings) :
    ∃ finding ∈ findings, item.findingID = finding.id ∧
      item.rationale = rationaleText finding ∧ (rank : Int) ≤ item.rank ∧
        item.rank < rank + findings.length := by
  induction findings generalizing rank with
  | nil => cases inside
  | cons finding findings ih =>
    rcases List.mem_cons.mp inside with rfl | later
    · refine ⟨finding, List.mem_cons_self, rfl, rfl, le_refl _, ?_⟩
      simp only [List.length_cons]
      omega
    · obtain ⟨other, listed, id, text, low, high⟩ := ih later
      refine ⟨other, List.mem_cons_of_mem finding listed, id, text, by omega, ?_⟩
      simp only [List.length_cons]
      omega

/-- The explanation without the gateway passes the checks on an answer. -/
theorem accepted_deterministicAnalysis {findings : List Finding}
    (valid : validateFindings unicode findings = .ok ()) :
    Accepted unicode (deterministicAnalysis findings) findings := by
  rw [validateFindings_eq_ok] at valid
  obtain ⟨short, each, distinct⟩ := valid
  have same : (orderedFindings findings).Perm findings := List.perm_insertionSort _ findings
  have size : (orderedFindings findings).length = findings.length := same.length_eq
  have ids : ((orderedFindings findings).map (·.id)).Perm (findings.map (·.id)) := same.map _
  have unique : ((orderedFindings findings).map (·.id)).Nodup := ids.nodup_iff.mpr distinct
  obtain ⟨empty, description, advice⟩ := guidance_valid unicode
  refine ⟨rfl, rfl, ?_, ?_, ?_, ?_, ?_, ?_, ?_, ?_, ?_, ?_, ?_⟩
  · simp only [deterministicAnalysis]
    split_ifs
    · exact empty
    · exact summaryText_valid unicode (size ▸ short)
  · exact (length_rankedFrom 1 _).trans size
  · simp only [deterministicAnalysis, List.length_map, size]
    omega
  · simp only [deterministicAnalysis, List.length_map, size]
    omega
  · intro item inside
    obtain ⟨finding, listed, id, text, low, high⟩ := mem_rankedFrom inside
    have member : finding ∈ findings := same.subset listed
    have values := (each finding member).2
    simp only [validateFindingValues, bind_eq_ok, ensure_eq_ok] at values
    obtain ⟨_, severity, _, ⟨number, -, positive, bounded⟩, -⟩ := values
    rw [size] at high
    refine ⟨?_, low, by omega, ?_⟩
    · rw [id]
      exact List.mem_map.mpr ⟨finding, member, rfl⟩
    · rw [text]
      exact rationale_valid unicode severity number positive bounded
  · have ranks := map_rank_rankedFrom 1 (orderedFindings findings)
    simp only [deterministicAnalysis]
    rw [ranks]
    exact (List.nodup_range').map fun _ _ equal => Int.ofNat_inj.mp equal
  · have named := map_findingID_rankedFrom 1 (orderedFindings findings)
    simp only [deterministicAnalysis]
    rw [named]
    exact unique
  · intro step inside
    obtain ⟨finding, listed, rfl⟩ := List.mem_map.mp inside
    exact ⟨List.mem_map.mpr ⟨finding, same.subset listed, rfl⟩, description⟩
  · intro recommendation inside
    obtain ⟨finding, listed, rfl⟩ := List.mem_map.mp inside
    exact ⟨List.mem_map.mpr ⟨finding, same.subset listed, rfl⟩,
      validPriority_priorityForSeverity finding.severity, advice⟩
  all_goals
    simp only [deterministicAnalysis, List.map_map, coverage]
    rw [← size, ← List.length_map (f := fun finding : Finding => finding.id)]
    exact congrArg List.length unique.dedup

end VpsManager.Ai
