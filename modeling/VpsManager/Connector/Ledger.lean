import VpsManager.Connector.Runbooks

namespace VpsManager.Connector

open Go Checks Protocol Interleaving

inductive EntryState
  | inProgress
  | completed (response : RunbookExecuteResponse)
  deriving DecidableEq, Repr

structure Entry where
  scope : String
  state : EntryState
  startedAt : Int
  deriving DecidableEq, Repr

structure Ledger where
  entries : StringMap Entry
  max : Nat

inductive Claim
  | new
  | replay (response : RunbookExecuteResponse)
  | conflict
  | inProgress
  | full

def newRunbookLedger (maxEntries : Int) : Ledger :=
  ⟨∅, if maxEntries ≤ 0 then 10000 else maxEntries.toNat⟩

def Entry.isCompleted (entry : Entry) : Bool :=
  match entry.state with
  | .inProgress => false
  | .completed _ => true

/-- The loop that looks for the oldest completed job, over the entries in the
order they are ranged over. -/
def oldestCompleted (ranged : List (String × Entry)) : String × Int :=
  ranged.foldl (fun oldest candidate =>
    if candidate.2.isCompleted = true ∧
        (oldest.1 = "" ∨ candidate.2.startedAt < oldest.2) then
      (candidate.1, candidate.2.startedAt)
    else oldest) ("", zeroTime)

namespace Ledger

def claim (ledger : Ledger) (ranged : List (String × Entry)) (jobID scope : String) (now : Int) :
    Claim × Ledger :=
  match ledger.entries.lookup jobID with
  | some entry =>
    if entry.scope ≠ scope then (.conflict, ledger)
    else match entry.state with
      | .inProgress => (.inProgress, ledger)
      | .completed response => (.replay response, ledger)
  | none =>
    let entry : Entry := ⟨scope, .inProgress, now⟩
    if ledger.max ≤ ledger.entries.entries.card then
      let oldestJob := (oldestCompleted ranged).1
      if oldestJob = "" then (.full, ledger)
      else (.new, { ledger with entries := (ledger.entries.erase oldestJob).insert jobID entry })
    else (.new, { ledger with entries := ledger.entries.insert jobID entry })

def complete (ledger : Ledger) (jobID scope : String) (response : RunbookExecuteResponse) :
    Ledger :=
  match ledger.entries.lookup jobID with
  | none => ledger
  | some entry =>
    if entry.scope ≠ scope ∨ entry.isCompleted = true then ledger
    else { ledger with
      entries := ledger.entries.insert jobID { entry with state := .completed response } }

/-- If the ledger is full, no job in it has completed. -/
def NothingToEvict (ledger : Ledger) : Prop :=
  ledger.max ≤ ledger.entries.entries.card →
    ∀ job entry, ledger.entries.lookup job = some entry → entry.isCompleted = false

end Ledger

inductive Call
  /-- An authenticated request, with what `decodeStrictJSON` makes of its body. -/
  | arrived (requestID : String) (body : Except String RunbookExecuteRequest)
  | acquired (requestID : String) (body : Except String RunbookExecuteRequest)
  | accepted (requestID : String) (accepted : Accepted)
  | executing (requestID : String) (accepted : Accepted)
  | executed (accepted : Accepted) (response : RunbookExecuteResponse)
  | answered (response : Except ConnectorError RunbookExecuteResponse)

inductive Event
  | silent
  /-- `runbook.Execute` is entered. -/
  | started (accepted : Accepted)

structure State where
  clock : Int
  ledger : Ledger
  /-- The requests that hold one of the handler's slots. -/
  running : Nat

/-- The order of ranging over the ledger, and how `runbook.Execute` ends. -/
structure Choice where
  ranged : List (String × Entry)
  execution : Except String Runbook.Execution

def State.release (s : State) : State := { s with running := s.running - 1 }

/-- The answer to a claim that does not start the job. -/
def refuse (requestID : String) : Claim → Except ConnectorError RunbookExecuteResponse
  | .replay response => .ok { response with requestID := requestID, idempotentReplay := true }
  | .conflict =>
    .error ⟨409, "job_scope_conflict", "job ID was already bound to a different operation", false⟩
  | .inProgress =>
    .error ⟨409, "job_in_progress", "job is already executing and is never started twice", false⟩
  | .full | .new =>
    .error ⟨503, "idempotency_capacity", "runbook idempotency ledger is at capacity", false⟩

def advance (handler : Handler) (choice : Choice) (s : State) : Call → State × Call × Event
  | .arrived requestID body =>
    if s.running < handler.concurrency then
      ({ s with running := s.running + 1 }, .acquired requestID body, .silent)
    else
      (s, .answered (.error ⟨429, "runbook_concurrency_limit",
        "runbook concurrency limit reached", true⟩), .silent)
  | .acquired requestID body =>
    match acceptExecute handler body s.clock with
    | .error failure => (s.release, .answered (.error failure), .silent)
    | .ok accepted => (s, .accepted requestID accepted, .silent)
  | .accepted requestID accepted =>
    match s.ledger.claim choice.ranged accepted.binding.jobID accepted.digest accepted.now with
    | (.new, ledger) =>
      ({ s with ledger := ledger }, .executing requestID accepted, .started accepted)
    | (claim, ledger) =>
      ({ s with ledger := ledger }.release, .answered (refuse requestID claim), .silent)
  | .executing requestID accepted =>
    (s, .executed accepted (executeResponse requestID accepted choice.execution), .silent)
  | .executed accepted response =>
    ({ s with ledger :=
      s.ledger.complete accepted.binding.jobID accepted.digest response }.release,
      .answered (.ok response), .silent)
  | .answered response => (s, .answered response, .silent)

/-- The step that looks the job up in the ledger. -/
def Call.claims : Call → Bool
  | .accepted _ _ => true
  | _ => false

inductive Step (handler : Handler) (s : State) (call : Call) : Event → State → Call → Prop
  | advanced {event : Event} {after : State} {next : Call} (choice : Choice)
      (ranged : call.claims = true → ∀ job entry, (job, entry) ∈ choice.ranged ↔
        s.ledger.entries.lookup job = some entry)
      (done : advance handler choice s call = (after, next, event)) :
      Step handler s call event after next

inductive Outside : State → Event → State → Prop
  | tick {s : State} {later : Int} (forward : s.clock ≤ later) :
      Outside s .silent { s with clock := later }

def system (handler : Handler) : System State Call Event where
  begins call := ∃ requestID body, call = .arrived requestID body
  step s call event after next := Step handler s call event after next
  outside := Outside

def startState (handler : Handler) (clock : Int) : State :=
  ⟨clock, newRunbookLedger handler.maxIdempotencyJobs, 0⟩

def Event.job? : Event → Option String
  | .silent => none
  | .started accepted => some accepted.binding.jobID

/-- The jobs for which `runbook.Execute` has been entered. -/
def startedJobs (trace : List Event) : List String := trace.filterMap Event.job?

/-- No request for a job outside the ledger meets a full ledger with a completed
job in it. -/
def ClaimsWithoutEviction (s : State) (_ : List Event) (call : Call) (_ : Event) : Prop :=
  ∀ requestID accepted, call = .accepted requestID accepted →
    s.ledger.entries.lookup accepted.binding.jobID = none → s.ledger.NothingToEvict

theorem oldestCompleted_of_none (ranged : List (String × Entry))
    (none : ∀ candidate ∈ ranged, candidate.2.isCompleted = false) :
    oldestCompleted ranged = ("", zeroTime) := by
  unfold oldestCompleted
  generalize ("", zeroTime) = oldest
  induction ranged generalizing oldest with
  | nil => rfl
  | cons candidate rest ih =>
    have head := none candidate (by simp)
    rw [List.foldl_cons, if_neg (by simp [head])]
    exact ih (fun other member => none other (List.mem_cons_of_mem _ member)) oldest

variable {ledger after : Ledger} {ranged : List (String × Entry)} {jobID : String}
  {trace : List Event} {s : State} {event : Event}

/-- A new claim is of a job outside the ledger; without an eviction it only adds
that job. -/
theorem Ledger.claim_new {scope : String} {now : Int}
    (ranges : ∀ job entry, (job, entry) ∈ ranged ↔ ledger.entries.lookup job = some entry)
    (keeps : ledger.entries.lookup jobID = none → ledger.NothingToEvict)
    (claimed : ledger.claim ranged jobID scope now = (.new, after)) :
    ledger.entries.lookup jobID = none ∧
      after.entries = ledger.entries.insert jobID ⟨scope, .inProgress, now⟩ := by
  unfold Ledger.claim at claimed
  split at claimed
  · split at claimed
    · cases claimed
    · split at claimed <;> cases claimed
  · rename_i absent
    refine ⟨absent, ?_⟩
    dsimp only at claimed
    split at claimed
    · rename_i isFull
      have idle : oldestCompleted ranged = ("", zeroTime) := by
        apply oldestCompleted_of_none
        intro candidate member
        exact keeps absent isFull candidate.1 candidate.2 ((ranges _ _).mp member)
      rw [idle, if_pos rfl] at claimed
      cases claimed
    · cases claimed
      rfl

theorem Ledger.claim_refused {scope : String} {now : Int} {claim : Claim}
    (claimed : ledger.claim ranged jobID scope now = (claim, after)) (refused : claim ≠ .new) :
    after = ledger := by
  unfold Ledger.claim at claimed
  split at claimed
  · split at claimed
    · cases claimed
      rfl
    · split at claimed <;> cases claimed <;> rfl
  · dsimp only at claimed
    split at claimed
    · split at claimed
      · cases claimed
        rfl
      · cases claimed
        exact absurd rfl refused
    · cases claimed
      exact absurd rfl refused

theorem Ledger.complete_present (ledger : Ledger) (jobID scope : String)
    (response : RunbookExecuteResponse) (job : String)
    (present : (ledger.entries.lookup job).isSome = true) :
    ((ledger.complete jobID scope response).entries.lookup job).isSome = true := by
  unfold Ledger.complete
  split
  · exact present
  · split
    · exact present
    · by_cases same : job = jobID
      · subst same
        simp
      · rw [Finmap.lookup_insert_of_ne _ same]
        exact present

/-- Every job started is in the ledger, and none has been started twice. -/
structure LedgerSound (ledger : Ledger) (trace : List Event) : Prop where
  once : (startedJobs trace).Nodup
  present : ∀ job ∈ startedJobs trace, (ledger.entries.lookup job).isSome = true

theorem LedgerSound.silent (sound : LedgerSound ledger trace)
    (keeps : ∀ job, (ledger.entries.lookup job).isSome = true →
      (after.entries.lookup job).isSome = true) : LedgerSound after (.silent :: trace) :=
  ⟨sound.once, fun job member => keeps job (sound.present job member)⟩

theorem LedgerSound.step {handler : Handler} {after : State} {call next : Call}
    (sound : LedgerSound s.ledger trace) (step : Step handler s call event after next)
    (keeps : ClaimsWithoutEviction s trace call event) :
    LedgerSound after.ledger (event :: trace) := by
  obtain ⟨choice, ranges, done⟩ := step
  cases call with
  | arrived requestID body =>
    simp only [advance] at done
    split at done <;> cases done <;> exact sound.silent fun _ present => present
  | acquired requestID body =>
    simp only [advance] at done
    split at done <;> cases done <;> exact sound.silent fun _ present => present
  | accepted requestID accepted =>
    simp only [advance] at done
    split at done
    · rename_i ledger claimed
      cases done
      obtain ⟨absent, inserted⟩ :=
        Ledger.claim_new (ranges rfl) (keeps requestID accepted rfl) claimed
      refine ⟨List.nodup_cons.mpr ⟨?_, sound.once⟩, ?_⟩
      · intro member
        have present := sound.present _ member
        rw [absent] at present
        cases present
      · intro job member
        rw [inserted]
        by_cases same : job = accepted.binding.jobID
        · subst same
          simp
        · rw [Finmap.lookup_insert_of_ne _ same]
          rcases List.mem_cons.mp member with equal | old
          · exact absurd equal same
          · exact sound.present job old
    · rename_i claim ledger notNew claimed
      cases done
      have unchanged : ledger = s.ledger := Ledger.claim_refused claimed notNew
      subst unchanged
      exact sound.silent fun _ present => present
  | executing requestID accepted =>
    cases done
    exact sound.silent fun _ present => present
  | executed accepted response =>
    cases done
    exact sound.silent (s.ledger.complete_present _ _ _)
  | answered response =>
    cases done
    exact sound.silent fun _ present => present

theorem ledger_inductive (handler : Handler) (start : State) :
    Inductive (system handler) ClaimsWithoutEviction start
      (fun s trace => LedgerSound s.ledger trace) (fun _ _ _ => True) (fun _ _ => True) where
  symmetric _ _ _ := trivial
  initial := ⟨List.nodup_nil, fun _ member => nomatch member⟩
  begun _ _ _ _ _ := ⟨trivial, fun _ => trivial⟩
  advanced s trace call event after next sound _ step keeps :=
    ⟨sound.step step keeps, trivial, fun _ _ _ => ⟨trivial, trivial⟩⟩
  disturbed := by
    intro s trace event after sound outside
    cases outside with
    | tick _ => exact ⟨sound.silent fun _ present => present, fun _ _ => trivial⟩

/-- As long as no completed job has to make room, no job is started twice. -/
theorem job_started_once (handler : Handler) (start : State)
    (config : Interleaving.Config State Call Event)
    (reached : Reachable (system handler) ClaimsWithoutEviction start config) :
    (startedJobs config.trace).Nodup :=
  ((ledger_inductive handler start).holds reached).1.once

/-- Every request that can be decoded is one of those sent. -/
def Receives (sent : RunbookExecuteRequest → Prop) (_ : State) (_ : List Event) (call : Call)
    (_ : Event) : Prop :=
  ∀ requestID request, call = .arrived requestID (.ok request) → sent request

open Ssh (firstKey secondKey)

def smallHandler (sha256 : Bytes → Bytes) : Handler where
  library := Ssh.sampleLibrary
  sha256 := sha256
  mutationsEnabled := false
  allowPrivateTargets := false
  outputLimit := 262144
  connectTimeout := 10 * second
  concurrency := 4
  maxIdempotencyJobs := 1

def capabilitiesBinding (jobID : String) : RunbookBinding where
  action := ⟨"system_capabilities_v1", 1⟩
  hostID := "host_1"
  jobID := jobID
  target := ⟨"vps.example", 22, "deploy"⟩
  pinnedHostKeySHA256 := firstKey.fingerprint
  credentialPublicKeySHA256 := secondKey.fingerprint
  parameters := .empty

def boundDigest (sha256 : Bytes → Bytes) (binding : RunbookBinding) : String :=
  ((buildBoundPlan sha256 protocolVersion binding).toOption.map Prod.snd).getD ""

/-- A request for the capabilities, approved at the epoch for five minutes. -/
def approvedRequest (sha256 : Bytes → Bytes) (jobID : String) : RunbookExecuteRequest where
  protocolVersion := protocolVersion
  binding := capabilitiesBinding jobID
  approval := {
    decision := "approved"
    action := ⟨"system_capabilities_v1", 1⟩
    hostID := "host_1"
    jobID := jobID
    scopeDigest := boundDigest sha256 (capabilitiesBinding jobID)
    approvedAt := 0
    expiresAt := 5 * minute }
  emergency := noEmergencyGrant
  reason := "routine inspection"
  pinnedHostKey := firstKey.authorizedKey
  credential := ⟨bytes secondKey.privateKeyPEM, []⟩

theorem capabilities_target (jobID : String) :
    validateBoundTarget (capabilitiesBinding jobID) = .ok () := by
  have target : trimSpace "vps.example" ≠ "" ∧ "vps.example" = trimSpace "vps.example" ∧
      len "vps.example" ≤ 253 ∧ (1 : Int) ≤ 22 ∧ (22 : Int) ≤ 65535 ∧ trimSpace "deploy" ≠ "" ∧
      "deploy" = trimSpace "deploy" ∧ len "deploy" ≤ 64 ∧
      validSSHFingerprint firstKey.fingerprint = true ∧
      validSSHFingerprint secondKey.fingerprint = true := by decide +kernel
  have printable : ("vps.example" ++ "deploy").toList.all (fun c => !isControl c) = true := by
    decide +kernel
  simp only [validateBoundTarget, bind_eq_ok, ensure_eq_ok]
  exact ⟨(), target, printable⟩

theorem capabilities_built (sha256 : Bytes → Bytes) (valid : validIdentifier jobID 128 = true) :
    ∃ plan canonical, plan.definition = Runbook.definitionOf .capabilities ∧
      buildBoundPlan sha256 protocolVersion (capabilitiesBinding jobID) =
        .ok (plan, hex (sha256 canonical)) ∧
      boundDigest sha256 (capabilitiesBinding jobID) = hex (sha256 canonical) := by
  have host : validIdentifier "host_1" 128 = true := by decide +kernel
  obtain ⟨plan, planned, definition, steps⟩ : ∃ plan,
      Runbook.build sha256 "system_capabilities_v1" 1 .empty = .ok plan ∧
        plan.definition = Runbook.definitionOf .capabilities ∧ plan.steps ≠ [] :=
    ⟨_, rfl, rfl, List.cons_ne_nil _ _⟩
  obtain ⟨base, digested⟩ : ∃ base, Runbook.scopeDigest sha256 "host_1" jobID plan = .ok base := by
    simp only [Runbook.scopeDigest, bind_eq_ok, ensure_eq_ok, pure_eq_ok]
    exact ⟨_, (), steps, rfl⟩
  obtain ⟨canonical, built⟩ : ∃ canonical, buildBoundPlan sha256 protocolVersion
      (capabilitiesBinding jobID) = .ok (plan, hex (sha256 canonical)) := by
    simp only [buildBoundPlan, bind_eq_ok, ensure_eq_ok, pure_eq_ok]
    exact ⟨_, (), ⟨trivial, host, valid⟩, (), capabilities_target jobID, plan, planned, base,
      digested, rfl⟩
  refine ⟨plan, canonical, definition, built, ?_⟩
  rw [boundDigest, built]
  rfl

theorem sampleMaterial_valid (sha256 : Bytes → Bytes) (jobID : String) :
    validateRunbookSSHMaterial Ssh.sampleLibrary (approvedRequest sha256 jobID) =
      .ok (firstKey.key, secondKey.key) := by
  have sizes : len firstKey.authorizedKey ≠ 0 ∧ len firstKey.authorizedKey ≤ 16 * 1024 ∧
      (bytes secondKey.privateKeyPEM).length ≠ 0 ∧
      (bytes secondKey.privateKeyPEM).length ≤ 48 * 1024 ∧
      ([] : Bytes).length ≤ 4 * 1024 := by decide +kernel
  have pinned : Ssh.sampleLibrary.fingerprintSHA256 firstKey.key = firstKey.fingerprint := by
    decide +kernel
  have signs : Ssh.sampleLibrary.fingerprintSHA256 secondKey.key = secondKey.fingerprint := by
    decide +kernel
  simp only [validateRunbookSSHMaterial, bind_eq_ok, mapError_eq_ok, ensure_eq_ok, orError_eq_ok,
    pure_eq_ok]
  exact ⟨(), sizes, firstKey.key, Ssh.sampleLibrary_parsePinned (List.mem_cons_self ..), (), pinned,
    secondKey.key, Ssh.sampleLibrary_parseSigner, (), signs, rfl⟩

theorem approvedRequest_approved (sha256 : Bytes → Bytes) (jobID : String) :
    validateApproval (approvedRequest sha256 jobID) (Runbook.definitionOf .capabilities)
      (boundDigest sha256 (capabilitiesBinding jobID)) 0 = .ok () := by
  have times : (0 : Int) ≠ zeroTime ∧ 5 * minute ≠ zeroTime ∧ (0 : Int) ≤ 0 + 30 * second ∧
      0 - maxApprovalLifetime ≤ 0 ∧ 0 < 5 * minute ∧ 5 * minute ≤ 0 + maxApprovalLifetime := by
    decide +kernel
  have reason : validReason "routine inspection" = true := by decide +kernel
  have grant : validateEmergency noEmergencyGrant false 0 = .ok () := rfl
  simp only [validateApproval, bind_eq_ok, ensure_eq_ok]
  dsimp only [approvedRequest, capabilitiesBinding]
  exact ⟨(), ⟨rfl, rfl, rfl, rfl, rfl⟩, (), times, (), reason, grant⟩

theorem approvedRequest_accepted (sha256 : Bytes → Bytes)
    (valid : validIdentifier jobID 128 = true) :
    ∃ accepted, acceptExecute (smallHandler sha256) (.ok (approvedRequest sha256 jobID)) 0 =
        .ok accepted ∧ accepted.binding = capabilitiesBinding jobID ∧ accepted.now = 0 := by
  obtain ⟨plan, canonical, definition, planned, digest⟩ := capabilities_built sha256 valid
  rw [← digest] at planned
  have built : buildBoundPlan (smallHandler sha256).sha256
      (approvedRequest sha256 jobID).protocolVersion (approvedRequest sha256 jobID).binding =
        .ok (plan, boundDigest sha256 (capabilitiesBinding jobID)) := planned
  have approved := approvedRequest_approved sha256 jobID
  rw [← definition] at approved
  have harmless : plan.definition.mutating = false := by rw [definition]; rfl
  have material : validateRunbookSSHMaterial (smallHandler sha256).library
      (approvedRequest sha256 jobID) = .ok (firstKey.key, secondKey.key) :=
    sampleMaterial_valid sha256 jobID
  obtain ⟨accepted, done, same, time⟩ :=
    acceptExecute_of built (.inl harmless) approved material
  exact ⟨accepted, done, same, time⟩

theorem claim_empty (jobID scope : String) :
    Ledger.claim ⟨∅, 1⟩ [] jobID scope 0 =
      (.new, ⟨Finmap.singleton jobID ⟨scope, .inProgress, 0⟩, 1⟩) := by
  have room : ¬ 1 ≤ (∅ : StringMap Entry).entries.card := Nat.not_succ_le_zero 0
  unfold Ledger.claim
  rw [Finmap.lookup_empty]
  dsimp only
  rw [if_neg room]
  rfl

theorem claim_evicts (jobID other scope : String) (entry : Entry) (differs : jobID ≠ other)
    (named : other ≠ "") (completed : entry.isCompleted = true) :
    Ledger.claim ⟨Finmap.singleton other entry, 1⟩ [(other, entry)] jobID scope 0 =
      (.new, ⟨Finmap.singleton jobID ⟨scope, .inProgress, 0⟩, 1⟩) := by
  have absent : (Finmap.singleton other entry : StringMap Entry).lookup jobID = none := by
    rw [Finmap.lookup_eq_none, Finmap.mem_singleton]
    exact differs
  have oldest : (oldestCompleted [(other, entry)]).1 = other := by
    simp [oldestCompleted, completed]
  have emptied : (Finmap.singleton other entry : StringMap Entry).erase other = ∅ := by
    apply Finmap.ext_lookup
    intro job
    by_cases same : job = other
    · subst same
      rw [Finmap.lookup_erase, Finmap.lookup_empty]
    · rw [Finmap.lookup_erase_ne same, Finmap.lookup_empty, Finmap.lookup_eq_none,
        Finmap.mem_singleton]
      exact same
  unfold Ledger.claim
  rw [absent]
  dsimp only
  rw [if_pos (by rfl), oldest, if_neg named, emptied]
  rfl

theorem complete_single (jobID scope : String) (response : RunbookExecuteResponse) :
    Ledger.complete ⟨Finmap.singleton jobID ⟨scope, .inProgress, 0⟩, 1⟩ jobID scope response =
      ⟨Finmap.singleton jobID ⟨scope, .completed response, 0⟩, 1⟩ := by
  unfold Ledger.complete
  rw [Finmap.lookup_singleton_eq]
  dsimp only
  rw [if_neg (by simp [Entry.isCompleted])]
  congr 1
  apply Finmap.ext_lookup
  intro job
  by_cases same : job = jobID
  · subst same
    rw [Finmap.lookup_insert, Finmap.lookup_singleton_eq]
  · rw [Finmap.lookup_insert_of_ne _ same]
    rw [Finmap.lookup_eq_none.mpr, Finmap.lookup_eq_none.mpr] <;>
      simpa [Finmap.mem_singleton] using same

def Call.arrives : Call → Bool
  | .arrived _ _ => true
  | _ => false

theorem receives_of_not_arriving {sent : RunbookExecuteRequest → Prop} {call : Call}
    (notArriving : call.arrives = false) : Receives sent s trace call event := by
  intro requestID request same
  rw [same] at notArriving
  cases notArriving

theorem receives_arriving {request : RunbookExecuteRequest} {requestID : String} :
    Receives (· = request) s trace (.arrived requestID (.ok request)) event := by
  intro _ other same
  cases same
  rfl

theorem step_of_advance {sha256 : Bytes → Bytes} {choice : Choice} {ledger : Ledger} {after : State}
    {call next : Call}
    (ranges : ∀ job entry, (job, entry) ∈ choice.ranged ↔ ledger.entries.lookup job = some entry)
    (done : advance (smallHandler sha256) choice s call = (after, next, event))
    (unchanged : call.claims = true → s.ledger = ledger) :
    (system (smallHandler sha256)).step s call event after next :=
  .advanced choice (fun claims => by rw [unchanged claims]; exact ranges) done

/-- An idle handler whose ledger takes the job runs the request to its end. -/
theorem approvedRequest_runs {sha256 : Bytes → Bytes} (valid : validIdentifier jobID 128 = true)
    {allow : State → List Event → Call → Event → Prop} {start : State}
    {config : Interleaving.Config State Call Event}
    (reached : Reachable (system (smallHandler sha256)) allow start config)
    (idle : config.shared = ⟨0, ledger, 0⟩)
    (ranges : ∀ job entry, (job, entry) ∈ ranged ↔ ledger.entries.lookup job = some entry)
    (taken : ∀ scope, ledger.claim ranged jobID scope 0 =
      (.new, ⟨Finmap.singleton jobID ⟨scope, .inProgress, 0⟩, 1⟩))
    (allowed : ∀ s trace call event, (call.claims = true → s.ledger = ledger) →
      Receives (· = approvedRequest sha256 jobID) s trace call event →
      allow s trace call event) :
    ∃ after scope response, Reachable (system (smallHandler sha256)) allow start after ∧
      after.shared = ⟨0, ⟨Finmap.singleton jobID ⟨scope, .completed response, 0⟩, 1⟩, 0⟩ ∧
      ∃ accepted, accepted.binding = capabilitiesBinding jobID ∧
        .started accepted ∈ after.trace ∧
        startedJobs after.trace = jobID :: startedJobs config.trace ∧
        acceptExecute (smallHandler sha256) (.ok (approvedRequest sha256 jobID)) 0 =
          .ok accepted ∧ scope = accepted.digest := by
  obtain ⟨accepted, accepts, binding, now⟩ := approvedRequest_accepted sha256 valid
  have same : accepted.binding.jobID = jobID := by
    rw [binding]
    rfl
  obtain ⟨shared, calls, trace⟩ := config
  subst idle
  let choice : Choice := ⟨ranged, .error "host is unreachable"⟩
  have step {s after call next event} := @step_of_advance s event sha256 choice ledger after call
    next ranges
  have arrives := reached.call (.arrived "req_1" (.ok (approvedRequest sha256 jobID))) ⟨_, _, rfl⟩
  have acquires := arrives.advanceLast (step rfl nofun) (allowed _ _ _ _ nofun receives_arriving)
  have checks : advance (smallHandler sha256) choice ⟨0, ledger, 0 + 1⟩
      (.acquired "req_1" (.ok (approvedRequest sha256 jobID))) =
        (⟨0, ledger, 0 + 1⟩, .accepted "req_1" accepted, .silent) := by
    simp only [advance, accepts]
  have checks := acquires.advanceLast (step checks nofun)
    (allowed _ _ _ _ nofun (receives_of_not_arriving rfl))
  have claims : advance (smallHandler sha256) choice ⟨0, ledger, 0 + 1⟩
      (.accepted "req_1" accepted) =
        (⟨0, ⟨Finmap.singleton jobID ⟨accepted.digest, .inProgress, 0⟩, 1⟩, 0 + 1⟩,
          .executing "req_1" accepted, .started accepted) := by
    simp only [advance, same, now, choice, taken]
  have starts := checks.advanceLast (step claims fun _ => rfl)
    (allowed _ _ _ _ (fun _ => rfl) (receives_of_not_arriving rfl))
  have executes := starts.advanceLast (step rfl nofun)
    (allowed _ _ _ _ nofun (receives_of_not_arriving rfl))
  let response := executeResponse "req_1" accepted choice.execution
  have completes := executes.advanceLast (step rfl nofun)
    (allowed _ _ _ _ nofun (receives_of_not_arriving rfl))
  refine ⟨_, accepted.digest, response, completes, ?_, accepted, binding, by simp, ?_, accepts,
    rfl⟩
  · dsimp only [State.release]
    rw [same, complete_single]
  · exact congrArg (· :: startedJobs trace) same

theorem ranges_empty (job : String) (entry : Entry) :
    (job, entry) ∈ ([] : List (String × Entry)) ↔
      (∅ : StringMap Entry).lookup job = some entry := by
  simp

theorem ranges_single (other : String) (only : Entry) (job : String) (entry : Entry) :
    (job, entry) ∈ [(other, only)] ↔
      (Finmap.singleton other only : StringMap Entry).lookup job = some entry := by
  by_cases same : job = other
  · subst same
    simp [eq_comm]
  · have absent : (Finmap.singleton other only : StringMap Entry).lookup job = none := by
      rw [Finmap.lookup_eq_none, Finmap.mem_singleton]
      exact same
    simp [absent, same]

/-- A request whose job has completed is answered from the ledger. -/
theorem approvedRequest_replayed {sha256 : Bytes → Bytes} {accepted : Accepted}
    {allow : State → List Event → Call → Event → Prop} {start : State} {calls : List Call}
    {response : RunbookExecuteResponse}
    (reached : Reachable (system (smallHandler sha256)) allow start
      ⟨⟨0, ledger, 0⟩, calls, trace⟩)
    (ranges : ∀ job entry, (job, entry) ∈ ranged ↔ ledger.entries.lookup job = some entry)
    (accepts : acceptExecute (smallHandler sha256) (.ok (approvedRequest sha256 jobID)) 0 =
      .ok accepted)
    (held : ledger.entries.lookup accepted.binding.jobID =
      some ⟨accepted.digest, .completed response, 0⟩)
    (allowed : ∀ s trace call event, (call.claims = true →
        s.ledger = ledger ∧ call = .accepted "req_2" accepted) → allow s trace call event) :
    Reachable (system (smallHandler sha256)) allow start ⟨⟨0, ledger, 0⟩,
      calls ++ [.answered (refuse "req_2" (.replay response))],
      .silent :: .silent :: .silent :: trace⟩ := by
  let choice : Choice := ⟨ranged, .error "host is unreachable"⟩
  have step {s after call next event} := @step_of_advance s event sha256 choice ledger after call
    next ranges
  have arrives := reached.call (.arrived "req_2" (.ok (approvedRequest sha256 jobID))) ⟨_, _, rfl⟩
  have acquires := arrives.advanceLast (step rfl nofun) (allowed _ _ _ _ nofun)
  have checks : advance (smallHandler sha256) choice ⟨0, ledger, 0 + 1⟩
      (.acquired "req_2" (.ok (approvedRequest sha256 jobID))) =
        (⟨0, ledger, 0 + 1⟩, .accepted "req_2" accepted, .silent) := by
    simp only [advance, accepts]
  have checks := acquires.advanceLast (step checks nofun) (allowed _ _ _ _ nofun)
  have replays : advance (smallHandler sha256) choice ⟨0, ledger, 0 + 1⟩
      (.accepted "req_2" accepted) =
        (⟨0, ledger, 0⟩, .answered (refuse "req_2" (.replay response)), .silent) := by
    simp only [advance, Ledger.claim, held, ne_eq, not_true_eq_false, ↓reduceIte]
    rfl
  exact checks.advanceLast (step replays fun _ => rfl)
    (allowed _ _ _ _ fun _ => ⟨rfl, rfl⟩)

/-- The request is submitted once more when its job has completed: it gets the response
that the ledger holds. -/
theorem one_job_started_once :
    ∃ config response, Reachable (system (smallHandler id)) ClaimsWithoutEviction
        (startState (smallHandler id) 0) config ∧
      config.calls.getLast? = some (.answered (refuse "req_2" (.replay response))) ∧
      startedJobs config.trace = ["job_A"] ∧ (startedJobs config.trace).Nodup := by
  have valid : validIdentifier "job_A" 128 = true := by decide +kernel
  obtain ⟨⟨_, calls, trace⟩, _, response, reached, rfl, accepted, binding, -, started, accepts,
      rfl⟩ := approvedRequest_runs valid
    (.start : Reachable (system (smallHandler id)) ClaimsWithoutEviction
      (startState (smallHandler id) 0) _) rfl
    ranges_empty (claim_empty "job_A") (by
      intro s trace call event empty _ requestID accepted claims _ _ job entry present
      rw [empty (by rw [claims]; rfl)] at present
      cases present)
  have held : (Finmap.singleton "job_A" (⟨accepted.digest, .completed response, 0⟩ : Entry) :
      StringMap Entry).lookup accepted.binding.jobID =
        some ⟨accepted.digest, .completed response, 0⟩ := by
    rw [binding]
    exact Finmap.lookup_singleton_eq
  have replayed := approvedRequest_replayed reached (ranges_single _ _) accepts held (by
    intro s trace call event only requestID other claims absent
    obtain ⟨same, call⟩ := only (by rw [claims]; rfl)
    cases claims.symm.trans call
    rw [same, held] at absent
    cases absent)
  exact ⟨_, response, replayed, List.getLast?_concat, started, job_started_once _ _ _ replayed⟩

/-- With room for one job, a second job makes the Connector forget the first one,
and the first request starts its job again while its approval is still good. -/
theorem evicted_job_starts_again :
    ¬ ∃ sha256 : Bytes → Bytes, ∀ config, Reachable (system (smallHandler sha256)) anyStep
      (startState (smallHandler sha256) 0) config → (startedJobs config.trace).Nodup := by
  rintro ⟨sha256, once⟩
  have validA : validIdentifier "job_A" 128 = true := by decide +kernel
  have validB : validIdentifier "job_B" 128 = true := by decide +kernel
  obtain ⟨first, scope, response, reached, state, -, -, -, started, -⟩ :=
    approvedRequest_runs validA (.start : Reachable (system (smallHandler sha256)) anyStep
      (startState (smallHandler sha256) 0) _) rfl
    ranges_empty (claim_empty "job_A") fun _ _ _ _ _ _ => trivial
  obtain ⟨second, scope, response, reached, state, -, -, -, started', -⟩ :=
    approvedRequest_runs validB reached state (ranges_single _ _)
    (fun scope => claim_evicts _ _ scope _ (by decide) (by decide) rfl) fun _ _ _ _ _ _ => trivial
  obtain ⟨third, scope, response, reached, -, -, -, -, started'', -⟩ :=
    approvedRequest_runs validA reached state (ranges_single _ _)
    (fun scope => claim_evicts _ _ scope _ (by decide) (by decide) rfl) fun _ _ _ _ _ _ => trivial
  have distinct := once third reached
  rw [started'', started', started] at distinct
  have twice : ¬ ["job_A", "job_B", "job_A"].Nodup := by decide
  exact twice distinct

end VpsManager.Connector
