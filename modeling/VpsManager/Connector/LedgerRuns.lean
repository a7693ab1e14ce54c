import VpsManager.Connector.Ledger
import VpsManager.Lib.Table

namespace VpsManager.Connector

open Go Checks Protocol Interleaving

theorem oldestCompleted_mem (ranged : List (String × Entry)) :
    (oldestCompleted ranged).1 = "" ∨
      ∃ entry, ((oldestCompleted ranged).1, entry) ∈ ranged ∧ entry.isCompleted = true := by
  unfold oldestCompleted
  refine List.foldlRecOn ranged _ (motive := fun oldest : String × Int => oldest.1 = "" ∨
    ∃ entry, (oldest.1, entry) ∈ ranged ∧ entry.isCompleted = true) (.inl rfl) ?_
  intro oldest kept candidate inside
  split
  · rename_i taken
    exact .inr ⟨candidate.2, inside, taken.1⟩
  · exact kept

variable {response : RunbookExecuteResponse} {accepted : Accepted}

namespace Ledger

/-- A ledger that was not too large before it took the job, and which may have
dropped a completed job for it. -/
structure Took (before after : Ledger) (jobID scope : String) (now : Int) : Prop where
  absent : before.entries.lookup jobID = none
  found : after.entries.lookup jobID = some ⟨scope, .inProgress, now⟩
  others : ∀ job, job ≠ jobID → after.entries.lookup job = before.entries.lookup job ∨
    after.entries.lookup job = none ∧
      ∃ entry, before.entries.lookup job = some entry ∧ entry.isCompleted = true
  max : after.max = before.max
  size : Table.size before.entries ≤ before.max → Table.size after.entries ≤ after.max

variable {ledger after : Ledger} {ranged : List (String × Entry)} {jobID scope : String}
  {now : Int}

theorem took_new (ranges : ∀ job entry, (job, entry) ∈ ranged ↔
      ledger.entries.lookup job = some entry)
    (claimed : ledger.claim ranged jobID scope now = (.new, after)) :
    Took ledger after jobID scope now := by
  unfold Ledger.claim at claimed
  split at claimed
  · split at claimed
    · cases claimed
    · split at claimed <;> cases claimed
  · rename_i absent
    dsimp only at claimed
    have outside : jobID ∉ ledger.entries := Finmap.lookup_eq_none.mp absent
    split at claimed
    · split at claimed
      · cases claimed
      · rename_i evicts
        obtain ⟨entry, inside, completed⟩ := (oldestCompleted_mem ranged).resolve_left evicts
        have held := (ranges _ _).mp inside
        cases claimed
        refine ⟨absent, Finmap.lookup_insert _, ?_, rfl, ?_⟩
        · intro job other
          dsimp only
          rw [Finmap.lookup_insert_of_ne _ other]
          by_cases oldest : job = (oldestCompleted ranged).1
          · subst oldest
            exact .inr ⟨Finmap.lookup_erase _ _, entry, held, completed⟩
          · exact .inl (Finmap.lookup_erase_ne oldest)
        · intro fits
          have stillOutside : jobID ∉ ledger.entries.erase (oldestCompleted ranged).1 := by
            rw [Finmap.mem_erase]
            exact fun member => outside member.2
          dsimp only
          rw [Table.size_insert stillOutside,
            Table.size_erase (Finmap.mem_of_lookup_eq_some held)]
          exact fits
    · rename_i room
      cases claimed
      refine ⟨absent, Finmap.lookup_insert _, ?_, rfl, ?_⟩
      · intro job other
        exact .inl (Finmap.lookup_insert_of_ne _ other)
      · intro _
        rw [Table.size_insert outside]
        exact Nat.lt_of_not_le room

theorem claim_replay (claimed : ledger.claim ranged jobID scope now = (.replay response, after)) :
    ∃ startedAt, ledger.entries.lookup jobID = some ⟨scope, .completed response, startedAt⟩ := by
  unfold Ledger.claim at claimed
  split at claimed
  · rename_i entry held
    split at claimed
    · cases claimed
    · rename_i same
      rw [not_not] at same
      split at claimed
      · cases claimed
      · rename_i state
        cases claimed
        obtain ⟨_, _, startedAt⟩ := entry
        exact ⟨startedAt, by rw [held, ← same, ← state]⟩
  · dsimp only at claimed
    split at claimed
    · split at claimed <;> cases claimed
    · cases claimed

theorem complete_own (held : ledger.entries.lookup jobID = some ⟨scope, .inProgress, now⟩) :
    ledger.complete jobID scope response =
      { ledger with entries := ledger.entries.insert jobID ⟨scope, .completed response, now⟩ } := by
  unfold Ledger.complete
  rw [held]
  exact if_neg (by simp [Entry.isCompleted])

end Ledger

inductive LedgerEvent
  | other
  | claimed (accepted : Accepted) (claim : Claim)
  | completed (accepted : Accepted) (response : RunbookExecuteResponse)

def Call.ledgerEvent (choice : Choice) (s : State) : Call → LedgerEvent
  | .accepted _ job => .claimed job
      (s.ledger.claim choice.ranged job.binding.jobID job.digest job.now).1
  | .executed job response => .completed job response
  | _ => .other

inductive LedgerStep (handler : Handler) (s : State) (call : Call) :
    LedgerEvent → State → Call → Prop
  | advanced {event : Event} {after : State} {next : Call} (choice : Choice)
      (ranged : call.claims = true → ∀ job entry, (job, entry) ∈ choice.ranged ↔
        s.ledger.entries.lookup job = some entry)
      (done : advance handler choice s call = (after, next, event)) :
      LedgerStep handler s call (call.ledgerEvent choice s) after next

def ledgerSystem (handler : Handler) : System State Call LedgerEvent where
  begins call := ∃ requestID body, call = .arrived requestID body
  step s call event after next := LedgerStep handler s call event after next
  outside s event after := event = .other ∧ Outside s .silent after

/-- The event makes or completes the entry of the job. -/
def LedgerEvent.changes (job : String) : LedgerEvent → Prop
  | .claimed accepted .new => accepted.binding.jobID = job
  | .completed accepted _ => accepted.binding.jobID = job
  | _ => False

/-- The last that happened to the job's entry is its completion with the response. -/
def LastCompleted (trace : List LedgerEvent) (job scope : String)
    (response : RunbookExecuteResponse) : Prop :=
  ∃ newer older accepted, trace = newer ++ .completed accepted response :: older ∧
    accepted.binding.jobID = job ∧ accepted.digest = scope ∧
    ∀ event ∈ newer, ¬ event.changes job

/-- Jobs in progress stay, and no job that stays gets another scope. -/
structure Keeps (before after : Ledger) : Prop where
  inProgress : ∀ job entry, before.entries.lookup job = some entry → entry.isCompleted = false →
    (after.entries.lookup job).isSome = true
  scope : ∀ job entry found, before.entries.lookup job = some entry →
    after.entries.lookup job = some found → found.scope = entry.scope

/-- The job a call has claimed and not completed. -/
def Call.runs : Call → Option Accepted
  | .executing _ job | .executed job _ => some job
  | _ => none

/-- Two calls do not run one job. -/
def OtherJobs (one other : Call) : Prop :=
  ∀ accepted accepted', one.runs = some accepted → other.runs = some accepted' →
    accepted.binding.jobID ≠ accepted'.binding.jobID

structure LedgerInvariant (handler : Handler)
    (config : Interleaving.Config State Call LedgerEvent) : Prop where
  capacity : Table.size config.shared.ledger.entries ≤ config.shared.ledger.max
  kept : ∀ call ∈ config.calls, ∀ event after next,
    LedgerStep handler config.shared call event after next →
    Keeps config.shared.ledger after.ledger
  /-- The completion finds the entry that the call's claim has made, and no other call runs
  the job. -/
  own : ∀ accepted response, .executed accepted response ∈ config.calls →
    config.shared.ledger.entries.lookup accepted.binding.jobID =
        some ⟨accepted.digest, .inProgress, accepted.now⟩ ∧
      (config.shared.ledger.complete accepted.binding.jobID accepted.digest response).entries.lookup
        accepted.binding.jobID = some ⟨accepted.digest, .completed response, accepted.now⟩
  alone : config.calls.Pairwise OtherJobs
  replays : ∀ newer older accepted response,
    config.trace = newer ++ .claimed accepted (.replay response) :: older →
    LastCompleted older accepted.binding.jobID accepted.digest response

/-- The claim that is answered with a response. -/
def LedgerEvent.replayed : LedgerEvent → Option (Accepted × RunbookExecuteResponse)
  | .claimed accepted (.replay response) => some (accepted, response)
  | _ => none

structure LedgerHistory (ledger : Ledger) (trace : List LedgerEvent) : Prop where
  capacity : Table.size ledger.entries ≤ ledger.max
  responses : ∀ job scope response startedAt,
    ledger.entries.lookup job = some ⟨scope, .completed response, startedAt⟩ →
    LastCompleted trace job scope response
  replays : ∀ newer older accepted response,
    trace = newer ++ .claimed accepted (.replay response) :: older →
    LastCompleted older accepted.binding.jobID accepted.digest response

/-- The job that a call runs is in progress. -/
def InProgress (s : State) (_ : List LedgerEvent) (call : Call) : Prop :=
  ∀ accepted, call.runs = some accepted → s.ledger.entries.lookup accepted.binding.jobID =
    some ⟨accepted.digest, .inProgress, accepted.now⟩

theorem not_replayed {event : LedgerEvent} {claim : Prop} (none : event.replayed = none)
    (replayed : event.replayed = some (accepted, response)) : claim := by
  rw [none] at replayed
  cases replayed

section Events

variable {trace : List LedgerEvent} {event : LedgerEvent} {job scope : String}
  {ledger after : Ledger}

theorem LastCompleted.later (last : LastCompleted trace job scope response)
    (unrelated : ¬ event.changes job) : LastCompleted (event :: trace) job scope response := by
  obtain ⟨newer, older, accepted, rfl, rest⟩ := last
  refine ⟨event :: newer, older, accepted, rfl, rest.1, rest.2.1, ?_⟩
  intro found inside
  rcases List.mem_cons.mp inside with rfl | inside
  · exact unrelated
  · exact rest.2.2 found inside

theorem LedgerHistory.replays_cons (history : LedgerHistory ledger trace)
    (last : ∀ accepted response, event.replayed = some (accepted, response) →
      LastCompleted trace accepted.binding.jobID accepted.digest response) :
    ∀ newer older accepted response,
      event :: trace = newer ++ .claimed accepted (.replay response) :: older →
      LastCompleted older accepted.binding.jobID accepted.digest response := by
  intro newer older accepted response split
  cases newer with
  | nil =>
    obtain ⟨rfl, rfl⟩ := List.cons.inj split
    exact last accepted response rfl
  | cons first newer => exact history.replays newer older _ _ (List.cons.inj split).2

theorem LedgerHistory.unchanged (history : LedgerHistory ledger trace)
    (unrelated : ∀ job, ¬ event.changes job)
    (last : ∀ accepted response, event.replayed = some (accepted, response) →
      LastCompleted trace accepted.binding.jobID accepted.digest response) :
    LedgerHistory ledger (event :: trace) where
  capacity := history.capacity
  responses job _ _ _ held := (history.responses _ _ _ _ held).later (unrelated job)
  replays := history.replays_cons last

theorem LedgerHistory.took (history : LedgerHistory ledger trace)
    (took : Ledger.Took ledger after accepted.binding.jobID accepted.digest accepted.now) :
    LedgerHistory after (.claimed accepted .new :: trace) where
  capacity := took.size history.capacity
  responses job scope response startedAt held := by
    have other : job ≠ accepted.binding.jobID := by
      rintro rfl
      rw [took.found] at held
      cases held
    rcases took.others job other with same | ⟨gone, -⟩
    · rw [same] at held
      exact (history.responses _ _ _ _ held).later fun changes => other (Eq.symm changes)
    · rw [gone] at held
      cases held
  replays := history.replays_cons fun _ _ => not_replayed rfl

theorem LedgerHistory.completed (history : LedgerHistory ledger trace)
    (held : ledger.entries.lookup accepted.binding.jobID =
      some ⟨accepted.digest, .inProgress, accepted.now⟩) :
    LedgerHistory (ledger.complete accepted.binding.jobID accepted.digest response)
      (.completed accepted response :: trace) := by
  rw [Ledger.complete_own held]
  refine ⟨?_, ?_, history.replays_cons fun _ _ => not_replayed rfl⟩
  · dsimp only
    rw [Table.size_insert_of_mem (Finmap.mem_of_lookup_eq_some held)]
    exact history.capacity
  · intro job scope stored startedAt found
    by_cases same : job = accepted.binding.jobID
    · subst same
      rw [Finmap.lookup_insert] at found
      cases found
      exact ⟨[], trace, accepted, rfl, rfl, rfl, List.forall_mem_nil _⟩
    · rw [Finmap.lookup_insert_of_ne _ same] at found
      exact (history.responses _ _ _ _ found).later fun changes => same (Eq.symm changes)

end Events

theorem InProgress.of_idle {s : State} {trace : List LedgerEvent} {call : Call}
    (idle : call.runs = none) : InProgress s trace call := by
  intro accepted runs
  rw [idle] at runs
  cases runs

theorem OtherJobs.of_idle {one other : Call} (idle : one.runs = none) : OtherJobs one other := by
  intro accepted _ runs
  rw [idle] at runs
  cases runs

section Steps

variable {handler : Handler} {s after : State} {trace : List LedgerEvent} {call next : Call}
  {event : LedgerEvent}

/-- What a step does to the ledger and to the job its call runs. -/
inductive LedgerEffect (s : State) (call : Call) : LedgerEvent → State → Call → Prop
  | left {event : LedgerEvent} {after : State} {next : Call}
      (same : after.ledger = s.ledger) (runs : next.runs = none ∨ next.runs = call.runs)
      (unrelated : ∀ job, ¬ event.changes job)
      (replayed : ∀ accepted response, event.replayed = some (accepted, response) →
        ∃ startedAt, s.ledger.entries.lookup accepted.binding.jobID =
          some ⟨accepted.digest, .completed response, startedAt⟩) :
      LedgerEffect s call event after next
  | took {accepted : Accepted} {after : State} {next : Call} (runs : next.runs = some accepted)
      (took : Ledger.Took s.ledger after.ledger accepted.binding.jobID accepted.digest
        accepted.now) :
      LedgerEffect s call (.claimed accepted .new) after next
  | completed {accepted : Accepted} {response : RunbookExecuteResponse} {after : State}
      {next : Call} (runs : call.runs = some accepted) (ends : next.runs = none)
      (same : after.ledger =
        s.ledger.complete accepted.binding.jobID accepted.digest response) :
      LedgerEffect s call (.completed accepted response) after next

theorem LedgerStep.effect (step : LedgerStep handler s call event after next) :
    LedgerEffect s call event after next := by
  obtain ⟨choice, ranges, done⟩ := step
  cases call with
  | arrived requestID body | acquired requestID body =>
    simp only [advance] at done
    split at done <;> cases done <;>
      exact .left rfl (.inl rfl) (fun _ => id) fun _ _ => not_replayed rfl
  | accepted requestID job =>
    simp only [advance] at done
    split at done
    · rename_i ledger claimed
      cases done
      simp only [Call.ledgerEvent, claimed]
      exact .took rfl (Ledger.took_new (ranges rfl) claimed)
    · rename_i claim ledger notNew claimed
      cases done
      simp only [Call.ledgerEvent, claimed]
      refine .left (Ledger.claim_refused claimed notNew) (.inl rfl) ?_ ?_
      · intro other changes
        cases claim <;> first | exact changes | exact notNew rfl
      · intro accepted response replayed
        cases claim with
        | replay stored =>
          cases replayed
          exact Ledger.claim_replay claimed
        | _ => cases replayed
  | executing requestID job =>
    cases done
    exact .left rfl (.inr rfl) (fun _ => id) fun _ _ => not_replayed rfl
  | executed job response =>
    cases done
    exact .completed rfl rfl rfl
  | answered response =>
    cases done
    exact .left rfl (.inl rfl) (fun _ => id) fun _ _ => not_replayed rfl

theorem LedgerHistory.step (history : LedgerHistory s.ledger trace)
    (own : InProgress s trace call) (effect : LedgerEffect s call event after next) :
    LedgerHistory after.ledger (event :: trace) := by
  cases effect with
  | left same _ unrelated replayed =>
    rw [same]
    refine history.unchanged unrelated ?_
    intro accepted response claimed
    obtain ⟨_, held⟩ := replayed accepted response claimed
    exact history.responses _ _ _ _ held
  | took _ took => exact history.took took
  | completed runs _ same =>
    rw [same]
    exact history.completed (own _ runs)

theorem InProgress.step (own : InProgress s trace call)
    (effect : LedgerEffect s call event after next) : InProgress after (event :: trace) next := by
  cases effect with
  | left same moved =>
    rcases moved with idle | moved
    · exact .of_idle idle
    · intro accepted runs
      rw [same]
      exact own accepted (moved ▸ runs)
  | took started took =>
    intro accepted runs
    rw [started] at runs
    cases runs
    exact took.found
  | completed _ ends => exact .of_idle ends

theorem InProgress.others {other : Call} (own : InProgress s trace call)
    (running : InProgress s trace other) (apart : OtherJobs call other)
    (effect : LedgerEffect s call event after next) :
    InProgress after (event :: trace) other ∧ OtherJobs next other := by
  cases effect with
  | left same moved =>
    refine ⟨fun accepted runs => by rw [same]; exact running accepted runs, ?_⟩
    rcases moved with idle | moved
    · exact .of_idle idle
    · exact fun accepted accepted' runs => apart accepted accepted' (moved ▸ runs)
  | @took job _ _ started took =>
    have elsewhere : ∀ accepted', other.runs = some accepted' →
        accepted'.binding.jobID ≠ job.binding.jobID := by
      intro accepted' runs same
      have held := running accepted' runs
      rw [same, took.absent] at held
      cases held
    refine ⟨?_, ?_⟩
    · intro accepted' runs
      have held := running accepted' runs
      rcases took.others _ (elsewhere accepted' runs) with same | ⟨-, entry, evicted, completed⟩
      · rw [same, held]
      · rw [held] at evicted
        cases evicted
        cases completed
    · intro accepted accepted' runs runs'
      rw [started] at runs
      cases runs
      exact (elsewhere accepted' runs').symm
  | @completed job response _ _ runs ends same =>
    refine ⟨?_, .of_idle ends⟩
    intro accepted' runs'
    have different := apart job accepted' runs runs'
    rw [same, Ledger.complete_own (own job runs)]
    dsimp only
    rw [Finmap.lookup_insert_of_ne _ different.symm]
    exact running accepted' runs'

theorem Keeps.step (own : InProgress s trace call)
    (effect : LedgerEffect s call event after next) : Keeps s.ledger after.ledger := by
  cases effect with
  | left same =>
    rw [same]
    refine ⟨fun job entry held _ => by rw [held]; rfl, ?_⟩
    intro job entry found held again
    rw [held] at again
    cases again
    rfl
  | @took job _ _ _ took =>
    constructor
    · intro other entry held running
      have different : other ≠ job.binding.jobID := by
        rintro rfl
        rw [took.absent] at held
        cases held
      rcases took.others other different with same | ⟨-, evicted, found, completed⟩
      · rw [same, held]
        rfl
      · rw [held] at found
        cases found
        rw [running] at completed
        cases completed
    · intro other entry found held again
      have different : other ≠ job.binding.jobID := by
        rintro rfl
        rw [took.absent] at held
        cases held
      rcases took.others other different with same | ⟨gone, -⟩
      · rw [same, held] at again
        cases again
        rfl
      · rw [gone] at again
        cases again
  | @completed job response _ _ runs _ same =>
    have started := own job runs
    rw [same, Ledger.complete_own started]
    constructor
    · intro other entry held _
      by_cases equal : other = job.binding.jobID
      · subst equal
        rw [Finmap.lookup_insert]
        rfl
      · rw [Finmap.lookup_insert_of_ne _ equal, held]
        rfl
    · intro other entry found held again
      by_cases equal : other = job.binding.jobID
      · subst equal
        rw [Finmap.lookup_insert] at again
        rw [started] at held
        cases again
        cases held
        rfl
      · rw [Finmap.lookup_insert_of_ne _ equal, held] at again
        cases again
        rfl

end Steps

theorem ledgerRuns_inductive (handler : Handler) (clock : Int) :
    Inductive (ledgerSystem handler) anyStep (startState handler clock)
      (fun s trace => LedgerHistory s.ledger trace) InProgress OtherJobs where
  symmetric _ _ apart accepted accepted' runs runs' := (apart accepted' accepted runs' runs).symm
  initial := by
    refine ⟨Nat.zero_le _, ?_, ?_⟩
    · intro job scope response startedAt held
      simp [startState, newRunbookLedger] at held
    · intro newer older accepted response split
      simp at split
  begun := by
    rintro s trace _ - ⟨requestID, body, rfl⟩
    exact ⟨InProgress.of_idle rfl, fun _ => OtherJobs.of_idle rfl⟩
  advanced s trace call event after next history own step _ :=
    ⟨history.step own step.effect, own.step step.effect,
      fun other running apart => own.others running apart step.effect⟩
  disturbed := by
    rintro s trace event after history ⟨rfl, outside⟩
    cases outside with
    | tick _ =>
      exact ⟨history.unchanged (fun _ => id) fun _ _ => not_replayed rfl,
        fun _ running => running⟩

theorem ledger_invariant (handler : Handler) (clock : Int)
    (config : Interleaving.Config State Call LedgerEvent)
    (reached : Reachable (ledgerSystem handler) anyStep (startState handler clock) config) :
    LedgerInvariant handler config := by
  obtain ⟨history, running, apart⟩ := (ledgerRuns_inductive handler clock).holds reached
  refine ⟨history.capacity, ?_, ?_, apart, history.replays⟩
  · intro call inside event after next step
    exact Keeps.step (running call inside) step.effect
  · intro accepted response inside
    have held := running _ inside accepted rfl
    refine ⟨held, ?_⟩
    rw [Ledger.complete_own held]
    exact Finmap.lookup_insert _

theorem relabelled {handler : Handler} {start : State}
    {config : Interleaving.Config State Call Event}
    (reached : Reachable (system handler) anyStep start config) :
    ∃ trace, Reachable (ledgerSystem handler) anyStep start
      ⟨config.shared, config.calls, trace⟩ := by
  induction reached with
  | start => exact ⟨[], .start⟩
  | call call _ begins ih =>
    obtain ⟨trace, reached⟩ := ih
    exact ⟨trace, reached.call call begins⟩
  | advance index _ running step _ ih =>
    obtain ⟨trace, reached⟩ := ih
    obtain ⟨choice, ranges, done⟩ := step
    exact ⟨_, reached.advance index running (.advanced choice ranges done) trivial⟩
  | outside _ step ih =>
    obtain ⟨trace, reached⟩ := ih
    cases step with
    | tick forward => exact ⟨_, reached.outside ⟨rfl, .tick forward⟩⟩

/-- With room for one job, a second one takes the place of the first. -/
theorem small_ledger_invariant :
    ∃ config scope response, Reachable (ledgerSystem (smallHandler id)) anyStep
        (startState (smallHandler id) 0) config ∧
      config.shared.ledger.entries =
        Finmap.singleton "job_B" ⟨scope, .completed response, 0⟩ ∧
      LedgerInvariant (smallHandler id) config := by
  have validA : validIdentifier "job_A" 128 = true := by decide +kernel
  have validB : validIdentifier "job_B" 128 = true := by decide +kernel
  obtain ⟨first, scope, response, reached, state, -⟩ := approvedRequest_runs validA
    (.start : Reachable (system (smallHandler id)) anyStep (startState (smallHandler id) 0) _) rfl
    ranges_empty (claim_empty "job_A") fun _ _ _ _ _ _ => trivial
  obtain ⟨second, scope, response, reached, state, -⟩ := approvedRequest_runs validB
    reached state (ranges_single _ _)
    (fun scope => claim_evicts _ _ scope _ (by decide) (by decide) rfl) fun _ _ _ _ _ _ => trivial
  obtain ⟨trace, relabelled⟩ := relabelled reached
  refine ⟨_, scope, response, relabelled, ?_, ledger_invariant (smallHandler id) 0 _ relabelled⟩
  rw [state]

end VpsManager.Connector
