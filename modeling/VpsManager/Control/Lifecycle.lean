import VpsManager.Control.Dispatch
import VpsManager.Control.JobMoves
import Mathlib.Logic.Relation

/- The life of a job among all handlers and goroutines that create or change jobs.
A job has at most one owner that may move it, and the owner knows its state. -/
namespace VpsManager.Control

open Go Checks Protocol Interleaving

inductive JobCall
  | plane (call : Call)
  | operation (call : OperationCall)

inductive JobStep (server : Server) (s : State) : JobCall → State → JobCall → Prop
  | plane {call next : Call} {event : Event} {after : State}
      (step : Step server s call event after next) :
      JobStep server s (.plane call) after (.plane next)
  | advanced {call next : OperationCall} {after : State} (choice : OperationChoice)
      (ranged : ∀ stored, stored ∈ choice.ranged ↔
        s.sessions.get stored.tokenHash = some stored)
      (done : operationAdvance server choice s call = .ok (after, next)) :
      JobStep server s (.operation call) after (.operation next)
  | refused {call : OperationCall} {error : ApiError} (choice : OperationChoice)
      (ranged : ∀ stored, stored ∈ choice.ranged ↔
        s.sessions.get stored.tokenHash = some stored)
      (ended : operationAdvance server choice s call = .error error) :
      JobStep server s (.operation call) s (.operation (.failed error))

/-- Time passes, sessions are issued, and hosts and credentials come and go. -/
inductive JobOutside (s : State) : State → Prop
  | plane {event : Event} {after : State} (outside : Outside s event after) : JobOutside s after
  | hosts (hosts : Keyed Host.id) (credentials : Keyed StoredCredential.hostID) :
      JobOutside s { s with memory :=
        { s.memory with hosts := hosts, credentials := credentials } }

/-- The label of a step is the table of jobs after it, so that a trace is the
history of the table. -/
def jobPlane (server : Server) : System State JobCall (Keyed Job.id) where
  begins
    | .plane call => ∃ authorization request, call = .arrived authorization request
    | .operation call => ∃ authorization hostID request,
        call = .arrived authorization hostID request
  step s call label after next :=
    JobStep server s call after next ∧ label = after.memory.jobs
  outside s label after := JobOutside s after ∧ label = after.memory.jobs

/-- The stored job changes its state from one table to the next. -/
def stateChanged (id : String) (older newer : Keyed Job.id) : Bool :=
  match older.get id, newer.get id with
  | some before, some after => before.state != after.state
  | _, _ => false

/-- The number of transitions a job has made, from the history of the table with
the newest first. -/
def transitions (id : String) : List (Keyed Job.id) → Nat
  | [] => 0
  | newer :: history =>
    (if stateChanged id (history.head?.getD .empty) newer then 1 else 0) +
      transitions id history

/-- A job somebody may move, and what they know of it. -/
structure Hold where
  id : String
  holds : Job → Prop
  active : ∀ job, holds job → job.state = .queued ∨ job.state = .running

namespace Hold

def queued (id : String) : Hold :=
  ⟨id, fun job => job.state = .queued ∧ job.runbookPreview = none, fun _ held => .inl held.1⟩

def previewing (id : String) : Hold :=
  ⟨id, fun job => job.state = .running ∧ job.runbookPreview = none, fun _ held => .inr held.1⟩

def running (id : String) : Hold := ⟨id, fun job => job.state = .running, fun _ => .inr⟩

end Hold

def Hold.before (hold : Hold) (now : Int) : Hold :=
  ⟨hold.id, fun job => hold.holds job ∧ job.Before now, fun job held => hold.active job held.1⟩

/-- What a call relies on: the job it owns, a job it has read as waiting for
approval, the job it is about to create, and the time it has read. -/
structure Claims where
  owned : Option Hold
  known : Option String
  offered : Option Job
  timed : Option Int

namespace Claims

def nothing : Claims := ⟨none, none, none, none⟩
def own (hold : Hold) : Claims := ⟨some hold, none, none, none⟩
def know (id : String) : Claims := ⟨none, some id, none, none⟩
def offer (job : Job) : Claims := ⟨none, none, some job, none⟩
def ownAt (hold : Hold) (now : Int) : Claims := ⟨some (hold.before now), none, none, some now⟩

end Claims

def Call.claims : Call → Claims
  | .previewAccepted job _ => .offer job
  | .previewCreated jobID _ => .own (.queued jobID)
  | .previewRunning jobID _ | .previewAnswered jobID _ | .previewFailing jobID _ =>
    .own (.previewing jobID)
  | .executeJobRead approval | .executeAuthorized approval | .executeHostRead approval _ _
  | .executeCredentialRead approval _ _ _ => .know approval.job.id
  | .executeRunning approval _ _ _ => .own (.running approval.job.id)
  | .executeDispatched jobID _ | .executeAnswered jobID _ | .executeFailing jobID _ =>
    .own (.running jobID)
  | _ => .nothing

def OperationCall.claims : OperationCall → Claims
  | .prepared _ job => .offer job
  | .created _ jobID | .registered _ jobID | .authorized _ jobID | .cancelling jobID _
  | .ready _ jobID => .own (.queued jobID)
  | .queuedRead _ queued => .own (.queued queued.id)
  | .cancelTimed jobID _ now | .readyTimed jobID now => .ownAt (.queued jobID) now
  | .running _ job | .hostRead _ job _ | .credentialRead _ job _ _
  | .authorizedAgain _ job _ _ => .own (.running job.id)
  | .finishing _ jobID _ => .own (.running jobID)
  | .finishTimed jobID _ now => .ownAt (.running jobID) now
  | _ => .nothing

def JobCall.claims : JobCall → Claims
  | .plane call => call.claims
  | .operation call => call.claims

/-- What one step may do to the stored jobs and to the claims of its call. All
invariants of jobs are derived from this. -/
inductive JobEffect (jobs : Keyed Job.id) (clock : Int) (before : Claims) :
    Keyed Job.id → Claims → Prop
  | idle : JobEffect jobs clock before jobs .nothing
  | kept : JobEffect jobs clock before jobs before
  | offered {job : Job} (created : Created clock job) :
      JobEffect jobs clock before jobs (.offer job)
  | created {job : Job} (offered : before.offered = some job) (fresh : jobs.get job.id = none) :
      JobEffect jobs clock before (jobs.put job) (.own (.queued job.id))
  | read {id : String} {job : Job} (found : jobs.get id = some job)
      (previewed : job.runbookPreview.isSome = true) :
      JobEffect jobs clock before jobs (.know id)
  | timed {hold : Hold} (owned : before.owned = some hold) :
      JobEffect jobs clock before jobs (.ownAt hold clock)
  | moved {hold : Hold} {mutation : JobMutation} {job updated : Job} {now : Int} {claims : Claims}
      (owned : before.owned = some hold) (found : jobs.get hold.id = some job)
      (time : now = clock ∨
        (before.timed = some now ∧ ∀ job, hold.holds job → job.Before now))
      (handler : HandlerMutation now mutation) (ran : mutation.run job = .ok updated)
      (once : hold.holds job → updated.state = .awaitingApproval →
        job.runbookPreview = none)
      (leads : claims = .nothing ∨ ∃ next : Hold, claims = .own next ∧ next.id = hold.id ∧
        (hold.holds job → next.holds updated)) :
      JobEffect jobs clock before (jobs.put updated) claims
  | started {id : String} {job updated : Job} (known : before.known = some id)
      (found : jobs.get id = some job) (started : (startJob clock).run job = .ok updated) :
      JobEffect jobs clock before (jobs.put updated) (.own (.running updated.id))

section Effects

variable {jobs : Keyed Job.id} {clock now : Int} {before : Claims} {hold : Hold}
  {mutation : JobMutation} {job updated : Job}

theorem JobEffect.ends (owned : before.owned = some hold) (found : jobs.get hold.id = some job)
    (time : now = clock ∨ (before.timed = some now ∧ ∀ job, hold.holds job → job.Before now))
    (handler : HandlerMutation now mutation) (ran : mutation.run job = .ok updated)
    (once : hold.holds job → updated.state = .awaitingApproval → job.runbookPreview = none) :
    JobEffect jobs clock before (jobs.put updated) .nothing :=
  .moved owned found time handler ran once (.inl rfl)

theorem failedJob_effect (m : Memory) (clock : Int) (hold : Hold) {code message : String}
    (handler : HandlerMutation clock (failRunbookJob code message clock)) :
    JobEffect m.jobs clock (.own hold) (failedJob m hold.id code message clock).jobs .nothing := by
  rcases failedJob_cases m hold.id code message clock with same | ⟨job, failed, found, ran, same⟩
  · rw [same]
    exact .idle
  · rw [same]
    refine .ends rfl found (.inl rfl) handler ran ?_
    intro _ awaiting
    rw [(failRunbookJob_ok ran).1] at awaiting
    cases awaiting

theorem JobEffect.starts {id : String} {next : Hold} (owned : before.owned = some hold)
    (atID : hold.id = id) (found : jobs.get id = some job)
    (time : now = clock ∨ (before.timed = some now ∧ ∀ job, hold.holds job → job.Before now))
    (started : (startJob now).run job = .ok updated) (same : next.id = id)
    (holds : hold.holds job → updated.state = .running →
      updated.runbookPreview = job.runbookPreview → next.holds updated) :
    JobEffect jobs clock before (jobs.put updated) (.own next) := by
  obtain ⟨running, preview⟩ := moveJob_ok started
  refine .moved owned (by rwa [atID]) time .start started ?_
    (.inr ⟨next, rfl, same.trans atID.symm, fun held => holds held running preview⟩)
  intro _ awaiting
  rw [running] at awaiting
  cases awaiting

end Effects

variable {server : Server} {s : State} {now : Int} {hold : Hold}

theorem Moves.effect {choice : Choice} {after : State} {call next : Call} {event : Event}
    (moves : Moves server choice s call event after next) :
    JobEffect s.memory.jobs s.clock call.claims after.memory.jobs next.claims := by
  cases moves with
  | previewAccepted ready =>
    rw [(previewJob_ok ready).1]
    exact .offered (.runbook _ _ _)
  | previewCreated fresh => exact .created rfl fresh
  | @previewRunning jobID _ job running found started =>
    refine .starts rfl rfl found (.inl rfl) started rfl ?_
    intro queued state preview
    exact ⟨state, preview.trans queued.2⟩
  | previewAnswered _ | previewRejected => exact .kept
  | previewStored found stored =>
    exact .ends rfl found (.inl rfl) (.storePreview _) stored fun held _ => held.2
  | @previewFailed jobID _ _ failed =>
    subst failed
    exact failedJob_effect s.memory s.clock (.previewing jobID) .previewFailed
  | executeJobRead found _ previewed =>
    have same := Keyed.key_of_get found
    subst same
    exact .read found (by rw [previewed]; rfl)
  | executeAuthorized _ _ | executeHostRead _ _ | executeCredentialRead _ => exact .kept
  | executeRunning found started => exact .started rfl found started
  | executeUnopened | executeDispatched _ | executeAnswered | executeRejected => exact .kept
  | executeFinished found stored =>
    refine .ends rfl found (.inl rfl) (.finish _) stored ?_
    intro _ awaiting
    rw [(moveJob_ok stored).1, executedState] at awaiting
    split at awaiting <;> cases awaiting
  | @executeFailed jobID _ _ failed =>
    subst failed
    exact failedJob_effect s.memory s.clock (.running jobID) .executionFailed
  | _ => exact .idle

theorem start_effect {m after : Memory} {clock : Int} {before : Claims} {id : String} {job : Job}
    (owned : before.owned = some hold) (atID : hold.id = id)
    (time : now = clock ∨ (before.timed = some now ∧ ∀ job, hold.holds job → job.Before now))
    (mutated : m.mutateJob id (startJob now) = .ok (job, after)) :
    JobEffect m.jobs clock before after.jobs (.own (.running job.id)) := by
  obtain ⟨⟨queued, found, started⟩, rfl⟩ := Memory.mutateJob_eq_ok.mp mutated
  have same : job.id = id :=
    ((startJob now).continues queued job started).id.trans (Keyed.key_of_get found)
  exact .starts owned atID found time started same fun _ running _ => running

theorem end_effect {m after : Memory} {clock : Int} {before : Claims} {id : String} {job : Job}
    {mutation : JobMutation} (owned : before.owned = some hold) (atID : hold.id = id)
    (time : now = clock ∨ (before.timed = some now ∧ ∀ job, hold.holds job → job.Before now))
    (handler : HandlerMutation now mutation)
    (ends : ∀ stored updated, mutation.run stored = .ok updated →
      updated.state ≠ .awaitingApproval) (mutated : m.mutateJob id mutation = .ok (job, after)) :
    JobEffect m.jobs clock before after.jobs .nothing := by
  obtain ⟨⟨stored, found, ran⟩, rfl⟩ := Memory.mutateJob_eq_ok.mp mutated
  exact .ends owned (by rwa [atID]) time handler ran fun _ awaiting =>
    absurd awaiting (ends stored job ran)

theorem Cancellation.ends (reason : Cancellation) (now : Int) (stored updated : Job)
    (ran : (reason.mutation now).run stored = .ok updated) :
    updated.state ≠ .awaitingApproval := by
  obtain ⟨error, -, same⟩ := reason.mutation_eq now
  rw [same] at ran
  rw [(moveJob_ok ran).1]
  decide

theorem OperationEnd.ends (operation : Operation) (result : OperationEnd) (now : Int)
    (stored updated : Job) (ran : (result.mutation operation now).run stored = .ok updated) :
    updated.state ≠ .awaitingApproval := by
  rw [mutation_state ran]
  intro awaiting
  rcases result.state_cases with ⟨ended, -⟩ | ⟨ended, -⟩ <;>
  · rw [awaiting] at ended
    cases ended

theorem operationAdvance_effect {choice : OperationChoice} {after : State}
    {call next : OperationCall} (done : operationAdvance server choice s call = .ok (after, next)) :
    after.clock = s.clock ∧
      JobEffect s.memory.jobs s.clock call.claims after.memory.jobs next.claims := by
  cases call with
  | arrived authorization hostID request =>
    simp only [operationAdvance] at done
    split at done
    · cases done
      exact ⟨rfl, .idle⟩
    · simp only [bind_eq_ok, pure_eq_ok, Prod.mk.injEq] at done
      obtain ⟨_, -, rfl, rfl⟩ := done
      exact ⟨rfl, .idle⟩
  | accepted principal hostID request | targetRead principal hostID request =>
    simp only [operationAdvance, bind_eq_ok, pure_eq_ok, Prod.mk.injEq] at done
    obtain ⟨_, -, rfl, rfl⟩ := done
    exact ⟨rfl, .idle⟩
  | targetAccepted principal hostID request =>
    simp only [operationAdvance, bind_eq_ok, pure_eq_ok, Prod.mk.injEq] at done
    obtain ⟨_, -, _, -, rfl, rfl⟩ := done
    exact ⟨rfl, .offered (.operation _ _ _ _ _)⟩
  | prepared operation job =>
    simp only [operationAdvance, bind_eq_ok, mapError_eq_ok, Memory.createJob_eq_ok, pure_eq_ok,
      Prod.mk.injEq] at done
    obtain ⟨memory, ⟨fresh, rfl⟩, rfl, rfl⟩ := done
    exact ⟨rfl, .created rfl fresh⟩
  | created operation jobID =>
    cases done
    exact ⟨rfl, .kept⟩
  | registered operation jobID =>
    simp only [operationAdvance, Memory.getJob] at done
    split at done
    · cases done
      exact ⟨rfl, .idle⟩
    · rename_i queued found
      cases done
      rw [orError_eq_ok] at found
      have same := Keyed.key_of_get found
      subst same
      exact ⟨rfl, .kept⟩
  | queuedRead operation queued =>
    simp only [operationAdvance] at done
    split at done <;>
    · cases done
      exact ⟨rfl, .kept⟩
  | authorized operation jobID =>
    simp only [operationAdvance] at done
    split at done <;>
    · cases done
      exact ⟨rfl, .kept⟩
  | cancelling jobID reason =>
    cases done
    exact ⟨rfl, .timed rfl⟩
  | cancelTimed jobID reason now =>
    simp only [operationAdvance] at done
    split at done
    · cases done
      exact ⟨rfl, .idle⟩
    · rename_i mutated
      cases done
      exact ⟨rfl, end_effect rfl rfl (.inr ⟨rfl, fun _ held => held.2⟩) (.cancel reason)
        (reason.ends now) mutated⟩
  | ready operation jobID =>
    cases operation with
    | snapshot =>
      cases done
      exact ⟨rfl, .timed rfl⟩
    | command | scan =>
      simp only [operationAdvance] at done
      split at done
      · cases done
        exact ⟨rfl, .idle⟩
      · rename_i mutated
        cases done
        exact ⟨rfl, start_effect rfl rfl (.inl rfl) mutated⟩
  | readyTimed jobID now =>
    simp only [operationAdvance] at done
    split at done
    · cases done
      exact ⟨rfl, .idle⟩
    · rename_i mutated
      cases done
      exact ⟨rfl, start_effect rfl rfl (.inr ⟨rfl, fun _ held => held.2⟩) mutated⟩
  | running operation job =>
    simp only [operationAdvance] at done
    split at done
    · cases done
      exact ⟨rfl, .kept⟩
    · split at done <;>
      · cases done
        exact ⟨rfl, .kept⟩
  | hostRead operation job host =>
    simp only [operationAdvance] at done
    split at done <;>
    · cases done
      exact ⟨rfl, .kept⟩
  | credentialRead operation job host credential =>
    simp only [operationAdvance] at done
    split at done <;>
    · cases done
      exact ⟨rfl, .kept⟩
  | authorizedAgain operation job host credential =>
    cases done
    exact ⟨rfl, .kept⟩
  | finishing operation jobID result =>
    cases operation with
    | snapshot =>
      cases done
      exact ⟨rfl, .timed rfl⟩
    | command | scan =>
      simp only [operationAdvance] at done
      split at done
      · cases done
        exact ⟨rfl, .idle⟩
      · rename_i mutated
        cases done
        exact ⟨rfl, end_effect rfl rfl (.inl rfl) (.finishOperation _ result)
          (result.ends _ _) mutated⟩
  | finishTimed jobID result now =>
    simp only [operationAdvance] at done
    split at done
    · cases done
      exact ⟨rfl, .idle⟩
    · rename_i mutated
      cases done
      exact ⟨rfl, end_effect rfl rfl (.inr ⟨rfl, fun _ held => held.2⟩)
        (.finishOperation _ result) (result.ends _ _) mutated⟩
  | ended jobID | returned | failed error =>
    cases done
    exact ⟨rfl, .idle⟩

theorem Moves.clock {choice : Choice} {after : State} {call next : Call} {event : Event}
    (moves : Moves server choice s call event after next) : after.clock = s.clock := by
  cases moves <;> rfl

theorem JobStep.effect {after : State} {call next : JobCall}
    (step : JobStep server s call after next) :
    after.clock = s.clock ∧
      JobEffect s.memory.jobs s.clock call.claims after.memory.jobs next.claims := by
  cases step with
  | plane step =>
    cases step with
    | advanced choice _ done => exact ⟨(advance_moves done).clock, (advance_moves done).effect⟩
    | refused choice _ _ => exact ⟨rfl, .idle⟩
  | advanced choice _ done => exact operationAdvance_effect done
  | refused choice _ _ => exact ⟨rfl, .idle⟩

theorem JobOutside.quiet {after : State} (outside : JobOutside s after) :
    after.memory.jobs = s.memory.jobs ∧ s.clock ≤ after.clock := by
  cases outside with
  | plane outside =>
    cases outside with
    | tick forward => exact ⟨rfl, forward⟩
    | issue _ => exact ⟨rfl, Int.le_refl _⟩
  | hosts _ _ => exact ⟨rfl, Int.le_refl _⟩

/-- The owned job is stored and is as its owner knows it. -/
structure Claims.Sound (jobs : Keyed Job.id) (clock : Int) (claims : Claims) : Prop where
  owned : ∀ hold, claims.owned = some hold → ∃ job, jobs.get hold.id = some job ∧ hold.holds job
  known : ∀ id, claims.known = some id →
    ∃ job, jobs.get id = some job ∧ job.runbookPreview.isSome = true
  offered : ∀ job, claims.offered = some job → ∃ now, Created now job ∧ now ≤ clock
  timed : ∀ now, claims.timed = some now → now ≤ clock

def Claims.Apart (one other : Claims) : Prop :=
  ∀ hold held, one.owned = some hold → other.owned = some held → hold.id ≠ held.id

/-- A stored job comes from what the handlers do, up to now. -/
structure Stored (clock : Int) (job : Job) : Prop where
  produced : Produced job
  before : job.Before clock

structure JobsSound (clock : Int) (jobs : Keyed Job.id) (history : List (Keyed Job.id)) :
    Prop where
  current : history.head?.getD .empty = jobs
  stored : ∀ id job, jobs.get id = some job → Stored clock job
  counted : ∀ id job, jobs.get id = some job → job.version.toNat = 1 + transitions id history
  absent : ∀ id, jobs.get id = none → transitions id history = 0
  ended : ∀ table ∈ history, ∀ id job, table.get id = some job → job.state.terminal = true →
    jobs.get id = some job

inductive JobChange (clock : Int) : Option Job → Option Job → Prop
  | same {stored : Option Job} : JobChange clock stored stored
  | created {now : Int} {job : Job} (created : Created now job) (past : now ≤ clock) :
      JobChange clock none (some job)
  | moved {now : Int} {job updated : Job} (stored : Stored clock updated)
      (moved : job.Moved now updated) : JobChange clock (some job) (some updated)

section Step

variable {jobs after : Keyed Job.id} {clock : Int} {before next their : Claims}

theorem change_of_put {id : String} {mutation : JobMutation} {job updated : Job}
    (found : jobs.get id = some job) (stored : Stored clock job)
    (handler : HandlerMutation now mutation) (ran : mutation.run job = .ok updated)
    (past : now ≤ clock) (forward : job.Before now)
    (once : updated.state = .awaitingApproval → job.runbookPreview = none) (at' : String) :
    JobChange clock (jobs.get at') ((jobs.put updated).get at') := by
  have moved := handler.moved ran
  have sameID : updated.id = id := moved.continues.id.trans (Keyed.key_of_get found)
  rw [Keyed.get_put, sameID]
  split
  · rename_i here
    rw [here, found]
    exact .moved ⟨stored.produced.moved handler ran forward once,
      (forward.moved moved).later past⟩ moved
  · exact .same

theorem JobEffect.change (effect : JobEffect jobs clock before after next)
    (claims : before.Sound jobs clock)
    (stored : ∀ id job, jobs.get id = some job → Stored clock job) (id : String) :
    JobChange clock (jobs.get id) (after.get id) := by
  cases effect with
  | idle | kept | offered _ | read _ _ | timed _ => exact .same
  | @created job offered fresh =>
    rw [Keyed.get_put]
    split
    · rename_i here
      rw [here, fresh]
      obtain ⟨now, created, past⟩ := claims.offered job offered
      exact .created created past
    · exact .same
  | @moved hold mutation job updated now _ owned found time handler ran once _ =>
    have isStored := stored hold.id job found
    obtain ⟨present, atID, held⟩ := claims.owned hold owned
    obtain rfl : job = present := Option.some.inj (found.symm.trans atID)
    have past : now ≤ clock ∧ job.Before now := by
      rcases time with rfl | ⟨timed, times⟩
      · exact ⟨Int.le_refl _, isStored.before⟩
      · exact ⟨claims.timed now timed, times job held⟩
    exact change_of_put found isStored handler ran past.1 past.2 (once held) id
  | @started known job updated isKnown found started =>
    have isStored := stored known job found
    refine change_of_put found isStored .start started (Int.le_refl _) isStored.before ?_ id
    intro awaiting
    rw [(moveJob_ok started).1] at awaiting
    cases awaiting

/-- A job that an execution starts has a preview, so it is not active already. -/
theorem not_active_of_started {job updated : Job} (stored : Stored clock job)
    (previewed : job.runbookPreview.isSome = true)
    (started : (startJob now).run job = .ok updated) :
    ¬ (job.state = .queued ∨ job.state = .running) := by
  rintro (queued | already)
  · rw [stored.produced.sound.queued queued] at previewed
    cases previewed
  · exact ((startJob now).continues job updated started).not_running (moveJob_ok started).1 already

theorem JobEffect.get_of_apart {id : String} {job : Job}
    (effect : JobEffect jobs clock before after next) (claims : before.Sound jobs clock)
    (stored : ∀ id job, jobs.get id = some job → Stored clock job)
    (found : jobs.get id = some job) (active : job.state = .queued ∨ job.state = .running)
    (apart : ∀ hold, before.owned = some hold → hold.id ≠ id) :
    after.get id = some job := by
  cases effect with
  | idle | kept | offered _ | read _ _ | timed _ => exact found
  | @created fresh offered absent =>
    rw [Keyed.get_put_of_ne]
    · exact found
    · rintro rfl
      rw [absent] at found
      cases found
  | @moved hold mutation target updated now _ owned present time handler ran once _ =>
    have sameID : updated.id = hold.id :=
      (mutation.continues target updated ran).id.trans (Keyed.key_of_get present)
    rw [Keyed.get_put_of_ne]
    · exact found
    · rw [sameID]
      exact (apart hold owned).symm
  | @started known target updated isKnown present started =>
    have sameID : updated.id = known :=
      ((startJob clock).continues target updated started).id.trans (Keyed.key_of_get present)
    rw [Keyed.get_put_of_ne]
    · exact found
    · rw [sameID]
      rintro rfl
      obtain rfl : job = target := Option.some.inj (found.symm.trans present)
      obtain ⟨last, here, previewed⟩ := claims.known id isKnown
      obtain rfl : job = last := Option.some.inj (found.symm.trans here)
      exact not_active_of_started (stored id job found) previewed started active

theorem JobEffect.previewed {id : String} {job : Job}
    (effect : JobEffect jobs clock before after next) (found : jobs.get id = some job)
    (previewed : job.runbookPreview.isSome = true) :
    ∃ stored, after.get id = some stored ∧ stored.runbookPreview.isSome = true := by
  have put : ∀ {target : String} {mutation : JobMutation} {stored updated : Job} {now : Int},
      jobs.get target = some stored → HandlerMutation now mutation →
      mutation.run stored = .ok updated →
      ∃ stored, (jobs.put updated).get id = some stored ∧
        stored.runbookPreview.isSome = true := by
    intro target mutation stored updated now present handler ran
    have moved := handler.moved ran
    have sameID : updated.id = target := moved.continues.id.trans (Keyed.key_of_get present)
    rw [Keyed.get_put, sameID]
    split
    · rename_i here
      rw [here] at found
      obtain rfl : job = stored := Option.some.inj (found.symm.trans present)
      exact ⟨updated, rfl, moved.preview.mpr (.inr previewed)⟩
    · exact ⟨job, found, previewed⟩
  cases effect with
  | idle | kept | offered _ | read _ _ | timed _ => exact ⟨job, found, previewed⟩
  | @created fresh offered absent =>
    rw [Keyed.get_put_of_ne]
    · exact ⟨job, found, previewed⟩
    · rintro rfl
      rw [absent] at found
      cases found
  | moved _ present _ handler ran _ _ => exact put present handler ran
  | started _ present started => exact put present .start started

theorem Claims.Sound.other (effect : JobEffect jobs clock before after next)
    (claims : before.Sound jobs clock)
    (stored : ∀ id job, jobs.get id = some job → Stored clock job)
    (others : their.Sound jobs clock) (apart : before.Apart their) : their.Sound after clock where
  owned hold owned := by
    obtain ⟨job, found, held⟩ := others.owned hold owned
    exact ⟨job, effect.get_of_apart claims stored found (hold.active job held)
      fun mine isMine => apart mine hold isMine owned, held⟩
  known id known := by
    obtain ⟨job, found, previewed⟩ := others.known id known
    exact effect.previewed found previewed
  offered := others.offered
  timed := others.timed

theorem Claims.Sound.nothing : Claims.nothing.Sound jobs clock := by
  refine ⟨?_, ?_, ?_, ?_⟩
  all_goals exact fun _ claimed => nomatch claimed

theorem Claims.Sound.own {job : Job} (found : jobs.get hold.id = some job) (held : hold.holds job) :
    (Claims.own hold).Sound jobs clock := by
  refine ⟨?_, ?_, ?_, ?_⟩
  · intro same owned
    obtain rfl := Option.some.inj owned
    exact ⟨job, found, held⟩
  all_goals exact fun _ claimed => nomatch claimed

theorem Claims.Sound.moved (effect : JobEffect jobs clock before after next)
    (claims : before.Sound jobs clock)
    (stored : ∀ id job, jobs.get id = some job → Stored clock job) : next.Sound after clock := by
  cases effect with
  | idle => exact .nothing
  | kept => exact claims
  | @offered job created =>
    refine ⟨?_, ?_, ?_, ?_⟩
    · exact fun _ claimed => nomatch claimed
    · exact fun _ claimed => nomatch claimed
    · intro same offered
      obtain rfl := Option.some.inj offered
      exact ⟨clock, created, Int.le_refl _⟩
    · exact fun _ claimed => nomatch claimed
  | @created job offered fresh =>
    obtain ⟨now, created, -⟩ := claims.offered job offered
    exact .own (Keyed.get_put_self _ job) ⟨created.new.state, created.new.preview⟩
  | @read id job found previewed =>
    refine ⟨?_, ?_, ?_, ?_⟩
    · exact fun _ claimed => nomatch claimed
    · intro same known
      obtain rfl := Option.some.inj known
      exact ⟨job, found, previewed⟩
    · exact fun _ claimed => nomatch claimed
    · exact fun _ claimed => nomatch claimed
  | @timed hold owned =>
    obtain ⟨job, found, held⟩ := claims.owned hold owned
    refine ⟨?_, ?_, ?_, ?_⟩
    · intro same isOwned
      obtain rfl := Option.some.inj isOwned
      exact ⟨job, found, held, (stored hold.id job found).before⟩
    · exact fun _ claimed => nomatch claimed
    · exact fun _ claimed => nomatch claimed
    · intro now read
      obtain rfl := Option.some.inj read
      exact Int.le_refl _
  | @moved hold mutation job updated now _ owned found time handler ran once leads =>
    obtain ⟨present, atID, held⟩ := claims.owned hold owned
    obtain rfl : job = present := Option.some.inj (found.symm.trans atID)
    rcases leads with rfl | ⟨later, rfl, sameID, holds⟩
    · exact .nothing
    · refine .own ?_ (holds held)
      rw [sameID]
      exact get_put_moved found (mutation.continues job updated ran)
  | @started known job updated isKnown found started =>
    exact .own (Keyed.get_put_self _ updated) (moveJob_ok started).1

theorem Claims.Apart.moved (effect : JobEffect jobs clock before after next)
    (claims : before.Sound jobs clock)
    (stored : ∀ id job, jobs.get id = some job → Stored clock job)
    (others : their.Sound jobs clock) (apart : before.Apart their) : next.Apart their := by
  intro hold held owned isHeld
  obtain ⟨theirs, atID, holds⟩ := others.owned held isHeld
  cases effect with
  | idle | offered _ | read _ _ => cases owned
  | kept => exact apart hold held owned isHeld
  | @created job offered fresh =>
    obtain rfl := Option.some.inj owned
    intro same
    rw [← same] at atID
    exact absurd (fresh.symm.trans atID) nofun
  | @timed mine isMine =>
    obtain rfl := Option.some.inj owned
    exact apart mine held isMine isHeld
  | @moved mine mutation job updated now _ isMine found time handler ran once leads =>
    rcases leads with rfl | ⟨later, rfl, sameID, -⟩
    · cases owned
    · obtain rfl := Option.some.inj owned
      rw [sameID]
      exact apart mine held isMine isHeld
  | @started known job updated isKnown found started =>
    obtain rfl := Option.some.inj owned
    have sameID : updated.id = known :=
      ((startJob clock).continues job updated started).id.trans (Keyed.key_of_get found)
    intro same
    have here : jobs.get known = some theirs := by
      rw [← sameID]
      exact (congrArg jobs.get same).trans atID
    obtain rfl : theirs = job := Option.some.inj (here.symm.trans found)
    obtain ⟨last, present, previewed⟩ := claims.known known isKnown
    obtain rfl : theirs = last := Option.some.inj (here.symm.trans present)
    exact not_active_of_started (stored known theirs here) previewed started
      (held.active theirs holds)

end Step

/-- A step counts as a transition exactly if it moves the job. -/
theorem transitions_cons {jobs after : Keyed Job.id} {history : List (Keyed Job.id)} {id : String}
    (current : history.head?.getD .empty = jobs) :
    transitions id (after :: history) =
      (if stateChanged id jobs after then 1 else 0) + transitions id history := by
  rw [transitions, current]

theorem stateChanged_same {jobs after : Keyed Job.id} {id : String}
    (same : after.get id = jobs.get id) : stateChanged id jobs after = false := by
  unfold stateChanged
  rw [same]
  cases jobs.get id <;> simp

theorem JobsSound.changed {clock : Int} {jobs after : Keyed Job.id}
    {history : List (Keyed Job.id)} (sound : JobsSound clock jobs history)
    (change : ∀ id, JobChange clock (jobs.get id) (after.get id)) :
    JobsSound clock after (after :: history) where
  current := rfl
  stored id job found := by
    have changed := change id
    rw [found] at changed
    generalize before : jobs.get id = stored at changed
    cases changed with
    | same => exact sound.stored id job before
    | created created past => exact ⟨.created created, created.before.later past⟩
    | moved stored _ => exact stored
  counted id job found := by
    rw [transitions_cons sound.current]
    have changed := change id
    rw [found] at changed
    generalize before : jobs.get id = stored at changed
    cases changed with
    | same =>
      rw [stateChanged_same (found.trans before.symm)]
      simpa using sound.counted id job before
    | created created _ =>
      rw [sound.absent id before, created.new.version]
      simp [stateChanged, before]
    | @moved _ stored _ _ moved =>
      have stepped : stateChanged id jobs after = true := by
        simp [stateChanged, before, found, moved.continues.state_ne]
      have version := (sound.stored id stored before).produced.sound.version_moved moved
      rw [stepped, version, sound.counted id stored before]
      simp only [if_true]
      omega
  absent id missing := by
    rw [transitions_cons sound.current]
    have changed := change id
    rw [missing] at changed
    generalize before : jobs.get id = stored at changed
    cases changed with
    | same =>
      rw [stateChanged_same (missing.trans before.symm), sound.absent id before]
      rfl
  ended := by
    intro table member id job found terminal
    rcases List.mem_cons.mp member with rfl | old
    · exact found
    · have stored := sound.ended table old id job found terminal
      have changed := change id
      rw [stored] at changed
      generalize now : after.get id = updated at changed
      cases changed with
      | same => rfl
      | moved _ moved =>
        rw [moved.continues.not_terminal] at terminal
        cases terminal

theorem JobsSound.later {clock later : Int} {jobs : Keyed Job.id}
    {history : List (Keyed Job.id)} (sound : JobsSound clock jobs history)
    (forward : clock ≤ later) : JobsSound later jobs history :=
  { sound with
    stored := fun id job found =>
      ⟨(sound.stored id job found).produced, (sound.stored id job found).before.later forward⟩ }

theorem Claims.Sound.later {clock later : Int} {jobs : Keyed Job.id} {claims : Claims}
    (sound : claims.Sound jobs clock) (forward : clock ≤ later) : claims.Sound jobs later :=
  { sound with
    offered := fun job offered => by
      obtain ⟨now, created, past⟩ := sound.offered job offered
      exact ⟨now, created, Int.le_trans past forward⟩
    timed := fun now timed => Int.le_trans (sound.timed now timed) forward }

theorem lifecycle_inductive (server : Server) (start : State) (empty : start.memory.jobs = .empty) :
    Inductive (jobPlane server) anyStep start
      (fun s trace => JobsSound s.clock s.memory.jobs trace)
      (fun s _ call => call.claims.Sound s.memory.jobs s.clock)
      (fun one other => one.claims.Apart other.claims) where
  symmetric one other apart hold held owned isHeld same :=
    apart held hold isHeld owned same.symm
  initial := by
    rw [empty]
    refine ⟨rfl, ?_, ?_, fun _ _ => rfl, fun _ member => nomatch member⟩
    all_goals
      intro id job found
      rw [Keyed.get_empty] at found
      cases found
  begun := by
    intro s trace call _ begins
    have idle : call.claims = .nothing := by
      cases call with
      | plane call =>
        obtain ⟨_, _, rfl⟩ := begins
        rfl
      | operation call =>
        obtain ⟨_, _, _, rfl⟩ := begins
        rfl
    rw [idle]
    exact ⟨.nothing, fun other hold held owned => nomatch owned⟩
  advanced := by
    rintro s trace call label after next store claims ⟨step, rfl⟩ -
    obtain ⟨clock, effect⟩ := step.effect
    rw [clock]
    refine ⟨store.changed (effect.change claims store.stored),
      claims.moved effect store.stored, ?_⟩
    intro other others apart
    exact ⟨Claims.Sound.other effect claims store.stored others apart,
      Claims.Apart.moved effect claims store.stored others apart⟩
  disturbed := by
    rintro s trace label after store ⟨outside, rfl⟩
    obtain ⟨same, forward⟩ := outside.quiet
    rw [same]
    exact ⟨(store.later forward).changed fun _ => .same, fun other claims => claims.later forward⟩

/-- A stored job, given the history of the table it is in. -/
structure Job.LifeCycle (history : List (Keyed Job.id)) (job : Job) : Prop where
  version : job.version.toNat = 1 + transitions job.id history
  finished : job.finishedAt.isSome = true ↔ job.state.terminal = true
  failed : job.error.isSome = true ↔
    job.state = .failed ∨ job.state = .timedOut ∨ job.state = .cancelled
  result : job.snapshot.isSome = true ∨ job.commandResult.isSome = true ∨
    job.anomalyScan.isSome = true → job.state = .succeeded
  execution : job.runbookExecution.isSome = true → job.state = .succeeded ∨ job.state = .failed
  started : ∀ t, job.startedAt = some t → job.createdAt ≤ t
  ended : ∀ t, job.finishedAt = some t →
    job.createdAt ≤ t ∧ ∀ u, job.startedAt = some u → u ≤ t

theorem Job.Sound.lifeCycle {job : Job} {history : List (Keyed Job.id)} (sound : job.Sound)
    (counted : job.version.toNat = 1 + transitions job.id history) :
    job.LifeCycle history where
  version := counted
  finished := sound.finished
  failed := by
    rw [sound.error]
    cases job.state <;> simp [JobState.unsuccessful]
  result set := by
    refine sound.result ?_
    simpa [Job.hasResult, or_assoc] using set
  execution := sound.execution
  started := sound.started
  ended := sound.ended

/-- In every interleaving of the handlers and goroutines a stored job is at the
point of its life cycle that its state says, and a job that has ended stays as it
is. -/
theorem jobs_lifeCycle (server : Server) (start : State) (empty : start.memory.jobs = .empty)
    (config : Interleaving.Config State JobCall (Keyed Job.id))
    (reached : Reachable (jobPlane server) anyStep start config) :
    (∀ id job, config.shared.memory.jobs.get id = some job → job.LifeCycle config.trace) ∧
      ∀ table ∈ config.trace, ∀ id job, table.get id = some job → job.state.terminal = true →
        config.shared.memory.jobs.get id = some job := by
  have store := ((lifecycle_inductive server start empty).holds reached).1
  refine ⟨?_, store.ended⟩
  intro id job found
  refine (store.stored id job found).produced.sound.lifeCycle ?_
  rw [Keyed.key_of_get found]
  exact store.counted id job found

/-- What a job was created for, and for whom. -/
def Job.order (job : Job) :
    (String × String × String) × (String × String) × Option CommandDescriptor × Int :=
  ((job.id, job.type, job.hostID), (job.requestedBy, job.requestedSessionID), job.command,
    job.createdAt)

structure Job.Becomes (job later : Job) : Prop where
  order : later.order = job.order
  version : job.version.toNat ≤ later.version.toNat
  state : Relation.ReflTransGen (fun one other => canTransition one other = true) job.state
    later.state

theorem Job.Becomes.refl (job : Job) : job.Becomes job := ⟨rfl, Nat.le_refl _, .refl⟩

theorem Job.Becomes.moved {job current updated : Job} (becomes : job.Becomes current)
    (sound : current.Sound) (moved : current.Moved now updated) : job.Becomes updated where
  order := by
    rw [← becomes.order]
    simp only [Job.order, moved.continues.id, moved.continues.type, moved.continues.hostID,
      moved.continues.requestedSessionID, moved.requestedBy, moved.command, moved.createdAt]
  version := by
    have counted := sound.version_moved moved
    have before := becomes.version
    omega
  state := becomes.state.tail moved.continues.transition

/-- Every job that was ever stored is stored still, as what it has become. -/
def Remembered (jobs : Keyed Job.id) (history : List (Keyed Job.id)) : Prop :=
  ∀ table ∈ history, ∀ id job, table.get id = some job →
    ∃ current, jobs.get id = some current ∧ job.Becomes current

theorem Remembered.changed {clock : Int} {jobs after : Keyed Job.id}
    {history : List (Keyed Job.id)} (remembered : Remembered jobs history)
    (sound : JobsSound clock jobs history)
    (change : ∀ id, JobChange clock (jobs.get id) (after.get id)) :
    Remembered after (after :: history) := by
  intro table member id job found
  rcases List.mem_cons.mp member with rfl | old
  · exact ⟨job, found, .refl job⟩
  · obtain ⟨current, present, becomes⟩ := remembered table old id job found
    have changed := change id
    rw [present] at changed
    generalize stored : after.get id = updated at changed
    cases changed with
    | same => exact ⟨current, rfl, becomes⟩
    | moved _ moved =>
      exact ⟨_, rfl, becomes.moved (sound.stored id current present).produced.sound moved⟩

/-- In every interleaving of the handlers and goroutines no job is lost, and what it was
asked for, by whom and in which session never changes; its version only grows and its state
only follows the allowed transitions. -/
theorem jobs_remembered (server : Server) (start : State) (empty : start.memory.jobs = .empty)
    (config : Interleaving.Config State JobCall (Keyed Job.id))
    (reached : Reachable (jobPlane server) anyStep start config) :
    Remembered config.shared.memory.jobs config.trace := by
  have valid := lifecycle_inductive server start empty
  induction reached with
  | start => exact fun _ member => nomatch member
  | call _ _ _ ih => exact ih
  | advance index earlier running step _ ih =>
    obtain ⟨step, rfl⟩ := step
    obtain ⟨store, claims, -⟩ := valid.holds earlier
    have mover := claims _ (List.mem_of_getElem? running)
    exact ih.changed store (step.effect.2.change mover store.stored)
  | outside earlier step ih =>
    obtain ⟨outside, rfl⟩ := step
    have store := (valid.holds earlier).1
    rw [outside.quiet.1]
    exact ih.changed store fun _ => .same

def sampleOperationChoice : OperationChoice :=
  ⟨some sampleRaw, [operatorSession id], true, .error [], .error [], none, none⟩

theorem operationStep {after : State} {call next : OperationCall}
    (sessions : s.sessions = .single (operatorSession id))
    (done : operationAdvance (sampleServer id) sampleOperationChoice s call = .ok (after, next)) :
    (jobPlane (sampleServer id)).step s (.operation call) after.memory.jobs after
      (.operation next) := by
  refine ⟨.advanced sampleOperationChoice ?_ done, rfl⟩
  intro stored
  rw [sessions]
  exact Keyed.mem_single_iff (operatorSession id) stored

def cancelledSnapshot : Job :=
  { newOperationJob .snapshot sampleOperator "host_1" sampleJobID none 0 with
    state := .cancelled
    version := 2
    finishedAt := some 0
    error := some ⟨"cancelled", "job was cancelled"⟩ }

theorem cancelledSnapshot_reached :
    ∃ config, Reachable (jobPlane (sampleServer id)) anyStep (readyState id) config ∧
      config.shared.memory.jobs.get sampleJobID = some cancelledSnapshot ∧
      config.calls = [.operation (.ended sampleJobID)] := by
  have s0 : Reachable (jobPlane (sampleServer id)) anyStep (readyState id) _ := .start
  have s1 := s0.call (.operation (.arrived "Bearer t" "host_1" .createRuntimeSnapshot))
    (by exact ⟨_, _, _, rfl⟩)
  have s2 := s1.advance 0 rfl (operationStep rfl rfl) trivial
  have s3 := s2.advance 0 rfl (operationStep rfl rfl) trivial
  have s4 := s3.advance 0 rfl (operationStep rfl rfl) trivial
  have s5 := s4.advance 0 rfl (operationStep rfl rfl) trivial
  have s6 := s5.advance 0 rfl (operationStep rfl rfl) trivial
  have s7 := s6.advance 0 rfl (operationStep rfl rfl) trivial
  have s8 := s7.advance 0 rfl (operationStep rfl rfl) trivial
  have s9 := s8.advance 0 rfl (operationStep rfl rfl) trivial
  have s10 := s9.advance 0 rfl (operationStep rfl rfl) trivial
  have s11 := s10.advance 0 rfl (operationStep rfl rfl) trivial
  have s12 := s11.advance 0 rfl (operationStep rfl rfl) trivial
  exact ⟨_, s12, rfl, rfl⟩

theorem cancelledSnapshot_lifeCycle :
    ∃ config, Reachable (jobPlane (sampleServer id)) anyStep (readyState id) config ∧
      config.shared.memory.jobs.get sampleJobID = some cancelledSnapshot ∧
      cancelledSnapshot.LifeCycle config.trace := by
  obtain ⟨config, reached, found, -⟩ := cancelledSnapshot_reached
  exact ⟨config, reached, found, (jobs_lifeCycle _ _ rfl _ reached).1 sampleJobID _ found⟩

theorem cancelledSnapshot_remembered :
    ∃ config, Reachable (jobPlane (sampleServer id)) anyStep (readyState id) config ∧
      config.shared.memory.jobs.get sampleJobID = some cancelledSnapshot ∧
      Remembered config.shared.memory.jobs config.trace := by
  obtain ⟨config, reached, found, -⟩ := cancelledSnapshot_reached
  exact ⟨config, reached, found, jobs_remembered _ _ rfl _ reached⟩

end VpsManager.Control
