import Mathlib.Data.Bool.AllAny
import VpsManager.Ai.Analyzer
import VpsManager.Anomaly.Scanner
import VpsManager.Control.Operations

namespace VpsManager.Control

open Go Checks

open Ai (Unicode Analyzer Exchange Outcome analyze validateFindings)

open Anomaly (Process parseProcessInventory scan mapFindings Explainable)

def storedOutcome (outcome : Outcome) : AnalysisOutcome :=
  ⟨outcome.analysis, outcome.mode.text, outcome.fallbackReason.text⟩

section Job

variable (unicode : Unicode) (parseFloat : Bytes → Option Float64) (floatText : Float64 → String)
  (analyzer : Analyzer)

/-- The work of the goroutine after the remote command has returned. -/
def inventoryChoice (exchange : Exchange) (observedAt : Int) (output : RemoteOutput)
    (choice : OperationChoice) : OperationChoice :=
  let found := (parseProcessInventory parseFloat output.stdout).toOption.map fun processes =>
    scan processes observedAt
  { choice with
    execute := .ok output
    scan := found
    analysis := found.bind fun found =>
      (analyze unicode floatText analyzer exchange (mapFindings found.findings)).toOption.map
        storedOutcome }

/-- A running job that ends like this has succeeded, and the scan is stored in it with an
explanation. -/
def Kept (found : AnomalyScanResult) (result : OperationEnd) : Prop :=
  ∀ job : Job, job.state = .running → ∀ now, ∃ updated outcome,
    (result.mutation .scan now).run job = .ok updated ∧ updated.state = .succeeded ∧
      updated.anomalyScan = some { found with aiAnalysis := some outcome }

theorem kept_scanned (found : AnomalyScanResult) (outcome : AnalysisOutcome) :
    Kept found (.scanned { found with aiAnalysis := some outcome }) := by
  intro job running now
  have possible : canTransition job.state .succeeded = true := by
    rw [running]
    rfl
  simp only [OperationEnd.mutation, finishOperationJob, transitionJob, ensure, possible, if_true]
  exact ⟨_, outcome, rfl, rfl, rfl⟩

variable {parseFloat}

theorem operate_inventory {exchange : Exchange} {observedAt : Int} {output : RemoteOutput}
    {choice : OperationChoice} {processes : List Process} {outcome : Outcome} (job : Job)
    (read : parseProcessInventory parseFloat output.stdout = .ok processes)
    (analyzed : analyze unicode floatText analyzer exchange
      (mapFindings (scan processes observedAt).findings) = .ok outcome) :
    operate (inventoryChoice unicode parseFloat floatText analyzer exchange observedAt output
      choice) .scan job =
      .scanned { scan processes observedAt with aiAnalysis := some (storedOutcome outcome) } := by
  simp only [operate, inventoryChoice, read, Except.toOption, Option.map_some, Option.bind_some,
    analyzed, analyzedScan]

/-- The findings of the rules are accepted, explained and stored, whatever the gateway does,
if they can be explained, and only then. -/
theorem scan_kept_iff (choice : OperationChoice) (observedAt : Int) (output : RemoteOutput)
    (processes : List Process) (job : Job)
    (read : parseProcessInventory parseFloat output.stdout = .ok processes) :
    (validateFindings unicode (mapFindings (scan processes observedAt).findings) = .ok () ∧
      ∀ exchange,
        (∃ outcome, analyze unicode floatText analyzer exchange
          (mapFindings (scan processes observedAt).findings) = .ok outcome) ∧
        Kept (scan processes observedAt) (operate (inventoryChoice unicode parseFloat floatText
          analyzer exchange observedAt output choice) .scan job)) ↔
      Explainable unicode processes := by
  have parsed := Anomaly.parsed_of_parseProcessInventory read
  rw [← Anomaly.validateFindings_scan observedAt parsed]
  constructor
  · exact fun whole => whole.1
  · intro valid
    refine ⟨valid, fun exchange => ?_⟩
    obtain ⟨outcome, analyzed⟩ :=
      (Ai.exists_analyze_iff unicode floatText analyzer exchange _).mpr valid
    refine ⟨⟨outcome, analyzed⟩, ?_⟩
    rw [operate_inventory unicode floatText analyzer job read analyzed]
    exact kept_scanned _ _

end Job

/-- What `strconv.ParseFloat` makes of the one percentage in the inventories below. -/
def idlePercent (text : Bytes) : Option Float64 := if text = bytes "0.0" then some .zero else none

def minerLine : String := "      7       1 root      0.0     60 xmrig\n"

def minerProcess : Process := ⟨7, 1, "root", .zero, 60, "xmrig"⟩

/-- A process that is named like a hidden file and like the assignment of a secret. -/
def tokenLine : String := "      9       1 www       0.0     60 .token=x\n"

def tokenProcess : Process := ⟨9, 1, "www", .zero, 60, ".token=x"⟩

def printed (text : String) : RemoteOutput := ⟨bytes text, [], 0, 5⟩

theorem parse_miner :
    parseProcessInventory idlePercent (printed minerLine).stdout = .ok [minerProcess] := by
  decide +kernel

theorem parse_token :
    parseProcessInventory idlePercent (printed (minerLine ++ tokenLine)).stdout =
      .ok [minerProcess, tokenProcess] := by
  decide +kernel

def idleJob : Job :=
  ⟨"job_1", "anomaly_scan", "host_1", .running, "op", "session_1", 0, some 0, none, none, none,
    none, none, none, none, none, 2⟩

theorem miner_kept :
    ∃ unicode, Explainable unicode [minerProcess] ∧ ∀ floatText analyzer choice exchange,
      Kept (scan [minerProcess] 0) (operate (inventoryChoice unicode idlePercent floatText analyzer
        exchange 0 (printed minerLine) choice) .scan idleJob) := by
  have explained : Explainable ⟨fun _ => false, fun _ _ => rfl⟩ [minerProcess] := by
    refine ⟨by decide +kernel, List.pairwise_singleton _ _, ?_⟩
    intro process listed _
    rw [List.mem_singleton.mp listed]
    exact ⟨⟨List.all_iff_forall_prop.mp (by decide +kernel), by decide +kernel⟩,
      List.all_iff_forall_prop.mp (by decide +kernel), by decide +kernel⟩
  refine ⟨_, explained, fun floatText analyzer choice exchange => ?_⟩
  exact (((scan_kept_iff _ floatText analyzer choice 0 (printed minerLine) [minerProcess] idleJob
    parse_miner).mpr explained).2 exchange).2

/-- With the other process beside it the miner is not reported: the job has failed. -/
theorem token_name_loses_scan :
    parseProcessInventory idlePercent (printed (minerLine ++ tokenLine)).stdout =
      .ok [minerProcess, tokenProcess] ∧
    ∀ unicode floatText analyzer exchange choice observedAt,
      validateFindings unicode (mapFindings (scan [minerProcess, tokenProcess] observedAt).findings)
        ≠ .ok () ∧
      ∃ proper, operate (inventoryChoice unicode idlePercent floatText analyzer exchange observedAt
          (printed (minerLine ++ tokenLine)) choice) .scan idleJob =
        .failed (.failed "ai_analysis_failed" "anomaly findings could not be analyzed"
          proper) := by
  refine ⟨parse_token, ?_⟩
  intro unicode floatText analyzer exchange choice observedAt
  have refused : validateFindings unicode
      (mapFindings (scan [minerProcess, tokenProcess] observedAt).findings) ≠ .ok () := by
    intro valid
    have parsed := Anomaly.parsed_of_parseProcessInventory parse_token
    have explained := (Anomaly.validateFindings_scan observedAt parsed).mp valid
    have hidden : ∃ rule ∈ Anomaly.rules, rule.applies tokenProcess = true := by decide +kernel
    have shown := (explained.texts tokenProcess (by simp) hidden).2.2
    revert shown
    decide +kernel
  refine ⟨refused, by decide +kernel, ?_⟩
  cases analyzed : analyze unicode floatText analyzer exchange
      (mapFindings (scan [minerProcess, tokenProcess] observedAt).findings) with
  | ok outcome =>
    exact absurd ((Ai.exists_analyze_iff unicode floatText analyzer exchange _).mp
      ⟨outcome, analyzed⟩) refused
  | error message =>
    simp only [operate, inventoryChoice, parse_token, Except.toOption, Option.map_some,
      Option.bind_some, analyzed, Option.map_none, analyzedScan]

end VpsManager.Control
