import VpsManager.Ai.Fallback
import VpsManager.Go.Lines
import VpsManager.Lib.Joined

namespace VpsManager.Anomaly

open Go

open Control (ProcessFinding FindingEvidence AnomalyScanResult)

def maxProcesses : Nat := 4096

structure Process where
  pid : Int
  parentPID : Int
  user : String
  cpuPercent : Float64
  elapsedSeconds : UInt64
  name : String
  deriving DecidableEq, Repr

/-- `strings.Fields` of text that may be invalid, with the field that has begun. Bytes that
encode nothing are no blank. The first argument bounds the number of characters. -/
def fieldsFrom : Nat → Bytes → Bytes → List Bytes
  | 0, begun, _ => if begun = [] then [] else [begun]
  | _ + 1, begun, [] => if begun = [] then [] else [begun]
  | fuel + 1, begun, b :: text =>
    match decodeRune (b :: text) with
    | some (c, rest) =>
      if isSpace c then
        if begun = [] then fieldsFrom fuel [] rest else begun :: fieldsFrom fuel [] rest
      else fieldsFrom fuel (begun ++ (b :: text).take (text.length + 1 - rest.length)) rest
    | none => fieldsFrom fuel (begun ++ [b]) text

def fieldsBytes (text : Bytes) : List Bytes := fieldsFrom text.length [] text

example : fieldsBytes (bytes " a é  b" ++ [0xC2, 32]) =
    [bytes "a", bytes "é", [98, 0xC2]] := by decide

def atoi (text : Bytes) : Option Int :=
  match text with
  | 45 :: digits => ((parseUint 64 digits).filter (· ≤ 2 ^ 63)).map fun n : Nat => -(n : Int)
  | 43 :: digits => (parseUint 63 digits).map Int.ofNat
  | digits => (parseUint 63 digits).map Int.ofNat

/-- `strings.Join(strings.Fields(text), " ")`. -/
def joinFields (text : List Char) : List Char :=
  [' '].intercalate ((text.splitOnP isSpace).filter (· ≠ []))

/-- Characters are taken from the end, here the front of the reversed text, until the
text fits. -/
def shorten (limit : Nat) : List Char → List Char
  | [] => []
  | c :: rest =>
    if limit < len (String.ofList (c :: rest).reverse) then shorten limit rest
    else (c :: rest).reverse

def safeToken (value : Bytes) (limit : Nat) : String :=
  let value := (toValidUTF8 value).toList.map fun c => if isControl c then ' ' else c
  String.ofList (shorten limit (joinFields value).reverse)

section Inventory

-- `strconv.ParseFloat(text, 64)`, `none` if it returns an error
variable (parseFloat : Bytes → Option Float64)

def validPercent (cpu : Float64) : Bool :=
  !cpu.less .zero && !Ai.tenThousand.less cpu && !cpu.isNaN && !cpu.isInf

/-- The process in a line; lines that do not show one are skipped. -/
def parseProcess (line : Bytes) : Option Process :=
  match fieldsBytes line with
  | pid :: parentPID :: user :: cpu :: elapsed :: name :: words => do
    let pid ← (atoi pid).filter (1 ≤ ·)
    let parentPID ← (atoi parentPID).filter (0 ≤ ·)
    let cpu ← (parseFloat cpu).filter validPercent
    let elapsed ← parseUint 64 elapsed
    return ⟨pid, parentPID, safeToken user 64, cpu, UInt64.ofNat elapsed,
      safeToken ([32].intercalate (name :: words)) 128⟩
  | _ => none

/-- The loop over the lines, with the processes found so far. -/
def parseLines (found : List Process) : List Bytes → Except String (List Process)
  | [] => .ok found
  | line :: lines =>
    if maxProcesses ≤ found.length then .error "process inventory exceeds entry limit"
    else match parseProcess parseFloat line with
      | none => parseLines found lines
      | some process => parseLines (found ++ [process]) lines

def parseProcessInventory (output : Bytes) : Except String (List Process) := do
  Checks.ensure (output.length ≤ 262144) "process inventory exceeds size limit"
  let (lines, overlong) := scanLines 4096 output
  let processes ← parseLines parseFloat [] lines
  Checks.ensure (overlong = false) "process inventory is invalid or truncated"
  return processes

end Inventory

def Process.shownName (process : Process) : String := toLower (trimSpace process.name)

def knownMiner (name : String) : Bool :=
  ["xmrig", "minerd", "kinsing", "watchbog", "cryptonight"].contains name

def ninety : Float64 := ⟨0x4056800000000000⟩

structure Rule where
  id : String
  title : String
  severity : String
  confidence : Float64
  falsePositiveNote : String
  applies : Process → Bool

def knownMinerName : Rule where
  id := "known_miner_name"
  title := "进程名命中已知挖矿程序特征"
  severity := "critical"
  confidence := ⟨0x3FEF0A3D70A3D70A⟩
  falsePositiveNote :=
    "管理员可能为压测、研究或合规计算主动运行同名程序；处置前应核对软件来源、父进程和变更记录。"
  applies process := knownMiner process.shownName

/-- A percentage that is not a number does not reach ninety. -/
def sustainedHighCPU : Rule where
  id := "sustained_high_cpu"
  title := "进程持续占用高 CPU"
  severity := "high"
  confidence := ⟨0x3FEA3D70A3D70A3D⟩
  falsePositiveNote :=
    "编译、压缩、数据库维护和业务峰值可能产生相同行为；建议结合历史基线与业务窗口复核。"
  applies process := !process.cpuPercent.isNaN && !process.cpuPercent.less ninety &&
    120 ≤ process.elapsedSeconds

def hiddenProcessName : Rule where
  id := "hidden_process_name"
  title := "进程名称采用隐藏文件样式"
  severity := "medium"
  confidence := ⟨0x3FE5C28F5C28F5C3⟩
  falsePositiveNote :=
    "某些合法守护程序或运维脚本也会使用点号开头的名称；需检查软件包归属和启动方式。"
  applies process := hasPrefix process.shownName "." && process.shownName != "." &&
    process.shownName != ".."

def kernelWorkerImpersonation : Rule where
  id := "kernel_worker_impersonation"
  title := "非 root 进程疑似伪装为内核工作线程"
  severity := "high"
  confidence := ⟨0x3FECCCCCCCCCCCCD⟩
  falsePositiveNote := "容器用户映射或测试夹具可能造成非典型属主；应从宿主机命名空间复核。"
  applies process := hasPrefix process.shownName "kworker" && process.user != "root"

def rules : List Rule :=
  [knownMinerName, sustainedHighCPU, hiddenProcessName, kernelWorkerImpersonation]

def finding (process : Process) (rule : Rule) : ProcessFinding where
  id := rule.id ++ ":" ++ toString process.pid
  ruleID := rule.id
  title := rule.title
  severity := rule.severity
  confidence := rule.confidence
  evidence := ⟨process.pid, process.parentPID, process.user, process.name, process.cpuPercent,
    process.elapsedSeconds⟩
  falsePositiveNote := rule.falsePositiveNote

def scan (processes : List Process) (observedAt : Int) : AnomalyScanResult where
  observedAt := observedAt
  engine := "rules_v1"
  aiExecutionAllowed := false
  processesEvaluated := processes.length
  findings := processes.flatMap fun process =>
    (rules.filter fun rule => rule.applies process).map (finding process)
  aiAnalysis := none

def mapFinding (finding : ProcessFinding) : Ai.Finding where
  id := finding.id
  ruleID := finding.ruleID
  title := finding.title
  severity := finding.severity
  confidence := finding.confidence
  evidence := ⟨finding.evidence.pid, finding.evidence.parentPID, finding.evidence.user,
    finding.evidence.processName, finding.evidence.cpuPercent, finding.evidence.elapsedSeconds⟩
  falsePositiveNote := finding.falsePositiveNote

def mapFindings (findings : List ProcessFinding) : List Ai.Finding := findings.map mapFinding

theorem len_shorten (limit : Nat) (text : List Char) :
    len (String.ofList (shorten limit text)) ≤ limit := by
  induction text with
  | nil => exact Nat.zero_le limit
  | cons c rest ih =>
    unfold shorten
    split
    · exact ih
    · omega

theorem len_safeToken (value : Bytes) (limit : Nat) : len (safeToken value limit) ≤ limit :=
  len_shorten limit _

theorem lt_of_parseUint {bits n : Nat} {text : Bytes} (parsed : parseUint bits text = some n) :
    n < 2 ^ bits := by
  unfold parseUint at parsed
  split at parsed
  · rename_i valid
    cases parsed
    exact valid.2.2
  · cases parsed

theorem atoi_lt {text : Bytes} {n : Int} (parsed : atoi text = some n) : n < 2 ^ 63 := by
  unfold atoi at parsed
  split at parsed
  · obtain ⟨value, _, rfl⟩ := Option.map_eq_some_iff.mp parsed
    omega
  all_goals
    obtain ⟨value, small, rfl⟩ := Option.map_eq_some_iff.mp parsed
    exact Int.ofNat_lt.mpr (lt_of_parseUint small)

structure Process.Parsed (process : Process) : Prop where
  pid : 1 ≤ process.pid ∧ process.pid < 2 ^ 63
  parentPID : 0 ≤ process.parentPID
  user : len process.user ≤ 64
  cpuPercent : validPercent process.cpuPercent = true
  name : len process.name ≤ 128

variable {process : Process} {processes : List Process}

theorem parsed_of_parseProcess {parseFloat : Bytes → Option Float64} {line : Bytes}
    (read : parseProcess parseFloat line = some process) : process.Parsed := by
  unfold parseProcess at read
  split at read
  · simp only [bind, Option.bind_eq_some_iff, Option.filter_eq_some_iff, pure,
      Option.some.injEq, decide_eq_true_eq] at read
    obtain ⟨pid, ⟨number, positive⟩, parent, ⟨-, natural⟩, cpu, ⟨-, percent⟩, _, -, rfl⟩ := read
    exact ⟨⟨positive, atoi_lt number⟩, natural, len_safeToken _ 64, percent, len_safeToken _ 128⟩
  · cases read

theorem parsed_of_parseLines {parseFloat : Bytes → Option Float64} {found : List Process}
    {lines : List Bytes} (read : parseLines parseFloat found lines = .ok processes)
    (before : ∀ process ∈ found, process.Parsed) : ∀ process ∈ processes, process.Parsed := by
  induction lines generalizing found with
  | nil =>
    cases read
    exact before
  | cons line lines ih =>
    simp only [parseLines] at read
    split at read
    · cases read
    · split at read
      · exact ih read before
      · rename_i process line
        refine ih read fun other listed => ?_
        rcases List.mem_append.mp listed with old | new
        · exact before other old
        · rw [List.mem_singleton.mp new]
          exact parsed_of_parseProcess line

theorem parsed_of_parseProcessInventory {parseFloat : Bytes → Option Float64} {output : Bytes}
    (read : parseProcessInventory parseFloat output = .ok processes) :
    ∀ process ∈ processes, process.Parsed := by
  simp only [parseProcessInventory, Checks.bind_eq_ok, Checks.ensure_eq_ok, Checks.pure_eq_ok]
    at read
  obtain ⟨_, -, _, parsed, _, -, rfl⟩ := read
  exact parsed_of_parseLines parsed (List.forall_mem_nil _)

section Findings

variable {unicode : Ai.Unicode}

open Ai Checks

variable {rule : Rule}

/-- The texts of the rules pass the checks on findings. -/
theorem rule_valid (unicode : Unicode) (listed : rule ∈ rules) :
    identifierPattern rule.id = true ∧
      validateText unicode rule.title 1 256 true = .ok () ∧
      validateText unicode rule.falsePositiveNote 1 1024 true = .ok () ∧
      validSeverity rule.severity = true ∧ rule.confidence.isNaN = false ∧
      rule.confidence.isInf = false ∧ rule.confidence.less .zero = false ∧
      Float64.one.less rule.confidence = false := by
  have plain : ∀ rule ∈ rules, ∀ text ∈ [rule.title, rule.falsePositiveNote],
      text.toList.all isHarmless = true ∧
      (1 ≤ text.length ∧ text.length ≤ 256 ∧ len text ≤ 256 * 4) := by decide +kernel
  have values : ∀ rule ∈ rules, identifierPattern rule.id = true ∧
      validSeverity rule.severity = true ∧ rule.confidence.isNaN = false ∧
      rule.confidence.isInf = false ∧ rule.confidence.less .zero = false ∧
      Float64.one.less rule.confidence = false := by decide +kernel
  obtain ⟨id, severity, confidence⟩ := values rule listed
  have shown : ∀ text ∈ [rule.title, rule.falsePositiveNote], ∀ maximum, 256 ≤ maximum →
      validateText unicode text 1 maximum true = .ok () := by
    intro text member maximum room
    obtain ⟨all, size⟩ := plain rule listed text member
    have harmless := List.all_eq_true.mp all
    refine validateText_of_plain (List.all_eq_true.mpr ?_) (by omega)
      (secretPattern_of_harmless harmless)
    exact fun c inside => isPlain_of_isHarmless (harmless c inside)
  exact ⟨id, shown _ (by simp) 256 (by decide), shown _ (by simp) 1024 (by decide), severity,
    confidence⟩

/-- The identifier of a finding tells its rule and its process. -/
theorem finding_id_eq_iff {one other : Rule} (first : one ∈ rules) (second : other ∈ rules)
    {left right : Process} :
    (finding left one).id = (finding right other).id ↔ one = other ∧ left.pid = right.pid := by
  have plain : ∀ rule ∈ rules, ':' ∉ rule.id.toList := by decide +kernel
  constructor
  · intro same
    have parts : [one.id, toString left.pid] = [other.id, toString right.pid] := by
      refine Joined.join_injective (show ":".toList = [':'] from rfl) (by simp) ?_ rfl same
      intro part listed
      rcases List.mem_cons.mp listed with rfl | digits
      · exact plain one first
      · rw [List.mem_singleton.mp digits]
        intro inside
        rcases Decimal.int_chars left.pid ':' inside with minus | digit
        · cases minus
        · cases digit
    simp only [List.cons.injEq, and_true] at parts
    have distinct : (rules.map (·.id)).Nodup := by decide +kernel
    exact ⟨List.inj_on_of_nodup_map distinct first second parts.1,
      Decimal.toString_int_injective parts.2⟩
  · rintro ⟨rfl, process⟩
    simp only [finding, process]

theorem identifierPattern_finding (listed : rule ∈ rules) (parsed : process.Parsed) :
    identifierPattern (finding process rule).id = true := by
  have short : ∀ rule ∈ rules, rule.id.length ≤ 27 := by decide +kernel
  have plain : ∀ rule ∈ rules, identifierPattern rule.id = true := by decide +kernel
  obtain ⟨c, chars, shape, lead, -, tail⟩ := anchored_iff.mp (plain rule listed)
  obtain ⟨low, high⟩ := parsed.pid
  obtain ⟨pid, number⟩ := Int.eq_ofNat_of_zero_le (show 0 ≤ process.pid by omega)
  have digits : (toString pid).length ≤ 19 := by
    refine (length_le_len _).trans (Json.len_toString_nat_le pid 19 (by decide) ?_)
    omega
  have size := short rule listed
  rw [← String.length_toList, shape, List.length_cons] at size
  have text : (finding process rule).id.toList = c :: (chars ++ ':' :: (toString pid).toList) := by
    simp only [finding, number, String.toList_append, shape, List.cons_append, List.append_assoc]
    rfl
  refine anchored_iff.mpr ⟨c, _, text, lead, ?_, ?_⟩
  · rw [List.length_append, List.length_cons, String.length_toList]
    omega
  · intro d inside
    rcases List.mem_append.mp inside with front | back
    · exact tail d front
    · rcases List.mem_cons.mp back with rfl | digit
      · decide
      · have range : isDigitASCII d = true := Decimal.nat_chars pid d digit
        simp [isIdentifierChar, isAlnumASCII, range]

/-- The texts of a process that pass the checks on findings: no control, format or private
character, no unassigned one and nothing that looks like a secret. -/
def Showable (unicode : Unicode) (text : String) : Prop :=
  (∀ c ∈ text.toList, unicode.isOther c = false) ∧ secretPattern.found text.toList = false

theorem validateOptionalText_eq_ok {text : String} {limit : Nat} (short : len text ≤ limit) :
    validateOptionalText unicode text limit = .ok () ↔ Showable unicode text := by
  have size := length_le_len text
  unfold validateOptionalText Showable
  split
  · rename_i empty
    subst empty
    simp only [true_iff]
    exact ⟨nofun, by decide +kernel⟩
  · rename_i filled
    have some : 1 ≤ text.length := by
      rw [← String.length_toList]
      exact List.length_pos_iff.mpr fun none => filled (String.toList_eq_nil_iff.mp none)
    simp only [validateText, bind_eq_ok, ensure_eq_ok, Unique.exists_iff, Bool.true_and,
      List.all_eq_true, Bool.not_eq_true']
    constructor
    · exact fun valid => valid.2
    · exact fun valid => ⟨⟨some, by omega, by omega⟩, valid⟩

/-- A finding on a process that was read fails the checks by the texts of the process
only. -/
theorem validateFinding_eq_ok (listed : rule ∈ rules) (parsed : process.Parsed) :
    (validateFindingTexts unicode (mapFinding (finding process rule)) = .ok () ∧
      validateFindingValues unicode (mapFinding (finding process rule)) = .ok ()) ↔
      Showable unicode process.user ∧ Showable unicode process.name := by
  obtain ⟨id, title, note, severity, confidence⟩ := rule_valid unicode listed
  have percent := parsed.cpuPercent
  simp only [validPercent, Bool.and_eq_true, Bool.not_eq_true'] at percent
  obtain ⟨⟨⟨positive, bounded⟩, number⟩, finite⟩ := percent
  have whole : 0 ≤ process.pid := by
    have low := parsed.pid.1
    omega
  have named := identifierPattern_finding listed parsed
  have evidence : 0 ≤ process.pid ∧ 0 ≤ process.parentPID ∧ process.cpuPercent.isNaN = false ∧
      process.cpuPercent.isInf = false ∧ process.cpuPercent.less .zero = false ∧
      tenThousand.less process.cpuPercent = false :=
    ⟨whole, parsed.parentPID, number, finite, positive, bounded⟩
  rw [← validateOptionalText_eq_ok parsed.user, ← validateOptionalText_eq_ok parsed.name]
  simp only [validateFindingTexts, validateFindingValues, bind_eq_ok, ensure_eq_ok,
    mapError_eq_ok, Unique.exists_iff, PUnit.default_eq_unit]
  constructor
  · exact fun valid => valid.2.2.2.2
  · exact fun valid => ⟨⟨named, id, title, note⟩, severity, confidence, evidence, valid⟩

/-- What the rules find can be explained: it is not too much, no rule finds two processes
with the same identifier, and the texts of each process that is found can be shown. -/
structure Explainable (unicode : Unicode) (processes : List Process) : Prop where
  few : (processes.map fun process => rules.countP fun rule => rule.applies process).sum ≤
    maxFindings
  distinct : processes.Pairwise fun one other => one.pid = other.pid →
    ∀ rule ∈ rules, ¬ (rule.applies one = true ∧ rule.applies other = true)
  texts : ∀ process ∈ processes, (∃ rule ∈ rules, rule.applies process = true) →
    Showable unicode process.user ∧ Showable unicode process.name

theorem length_findings (processes : List Process) (observedAt : Int) :
    (scan processes observedAt).findings.length =
      (processes.map fun process => rules.countP fun rule => rule.applies process).sum := by
  simp only [scan, List.length_flatMap, List.length_map, List.countP_eq_length_filter]

theorem mem_findings {observedAt : Int} {found : ProcessFinding} :
    found ∈ (scan processes observedAt).findings ↔
      ∃ process ∈ processes, ∃ rule ∈ rules, rule.applies process = true ∧
        finding process rule = found := by
  simp only [scan, List.mem_flatMap, List.mem_map, List.mem_filter, and_assoc]

/-- The identifiers of the findings are distinct unless a rule finds one process
identifier twice. -/
theorem nodup_findings (processes : List Process) (observedAt : Int) :
    ((scan processes observedAt).findings.map (·.id)).Nodup ↔
      processes.Pairwise fun one other => one.pid = other.pid →
        ∀ rule ∈ rules, ¬ (rule.applies one = true ∧ rule.applies other = true) := by
  simp only [List.Nodup, List.pairwise_map, scan, List.pairwise_flatMap]
  constructor
  · rintro ⟨-, across⟩
    refine across.imp fun {one other} differ same rule listed both => ?_
    refine differ (finding one rule) ?_ (finding other rule) ?_ ?_
    · exact List.mem_map.mpr ⟨rule, List.mem_filter.mpr ⟨listed, both.1⟩, rfl⟩
    · exact List.mem_map.mpr ⟨rule, List.mem_filter.mpr ⟨listed, both.2⟩, rfl⟩
    · exact (finding_id_eq_iff listed listed).mpr ⟨rfl, same⟩
  · intro distinct
    constructor
    · -- the rules that find one process differ
      intro process _
      have apart : rules.Pairwise fun one other => one.id ≠ other.id := by decide +kernel
      refine List.Pairwise.imp_of_mem ?_ (apart.sublist List.filter_sublist)
      intro one other first second differ same
      have listed := (List.mem_filter.mp first).1
      have listed' := (List.mem_filter.mp second).1
      exact differ (congrArg Rule.id ((finding_id_eq_iff listed listed').mp same).1)
    · refine distinct.imp fun {one other} differ found first again second same => ?_
      obtain ⟨rule, member, rfl⟩ := List.mem_map.mp first
      obtain ⟨rule', member', rfl⟩ := List.mem_map.mp second
      obtain ⟨listed, applies⟩ := List.mem_filter.mp member
      obtain ⟨listed', applies'⟩ := List.mem_filter.mp member'
      obtain ⟨rfl, pids⟩ := (finding_id_eq_iff listed listed').mp same
      exact differ pids rule listed ⟨applies, applies'⟩

/-- The findings on processes that were read are accepted if they can be explained, and
only then. -/
theorem validateFindings_scan (observedAt : Int) (parsed : ∀ process ∈ processes, process.Parsed) :
    validateFindings unicode (mapFindings (scan processes observedAt).findings) = .ok () ↔
      Explainable unicode processes := by
  have ids : (mapFindings (scan processes observedAt).findings).map (·.id) =
      (scan processes observedAt).findings.map (·.id) := by
    simp only [mapFindings, List.map_map]
    rfl
  rw [validateFindings_eq_ok, ids, nodup_findings, mapFindings, List.length_map, length_findings]
  constructor
  · rintro ⟨few, each, distinct⟩
    refine ⟨few, distinct, ?_⟩
    rintro process listed ⟨rule, member, applies⟩
    have found : finding process rule ∈ (scan processes observedAt).findings :=
      mem_findings.mpr ⟨process, listed, rule, member, applies, rfl⟩
    exact (validateFinding_eq_ok member (parsed process listed)).mp
      (each _ (List.mem_map.mpr ⟨_, found, rfl⟩))
  · rintro ⟨few, distinct, texts⟩
    refine ⟨few, ?_, distinct⟩
    intro mapped inside
    obtain ⟨found, listed, rfl⟩ := List.mem_map.mp inside
    obtain ⟨process, member, rule, known, applies, rfl⟩ := mem_findings.mp listed
    exact (validateFinding_eq_ok known (parsed process member)).mpr
      (texts process member ⟨rule, known, applies⟩)

end Findings

end VpsManager.Anomaly
