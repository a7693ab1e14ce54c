import VpsManager.Control.LostUpdate

/- Dispatch of approved runbooks. A job has one owner at a time: the preview that
created it, then nobody while it waits for approval, then the one execution that
has moved it to running. -/
namespace VpsManager.Control

open Go Checks Protocol Interleaving

def Event.dispatch? : Event → Option Dispatch
  | .dispatched dispatch => some dispatch
  | _ => none

def dispatches (trace : List Event) : List Dispatch := trace.filterMap Event.dispatch?

/-- The jobs for which `ExecuteRunbook` has been invoked. -/
def dispatchedJobs (trace : List Event) : List String := (dispatches trace).map Dispatch.jobID

/-- An invocation carries what the job's preview stored, with the same digest in
the request, under the session that created the job. -/
structure Dispatch.AsApproved (trace : List Event) (dispatch : Dispatch) : Prop where
  record : ∃ stored preview, dispatch.stored = some stored ∧ stored.id = dispatch.jobID ∧
    stored.runbookPreview = some preview ∧ dispatch.request.binding = preview.binding ∧
    dispatch.request.approval.scopeDigest = preview.scopeDigest ∧
    dispatch.input.scopeDigest = preview.scopeDigest ∧
    stored.requestedSessionID = dispatch.principal.sessionID
  previewed : ∀ preview, .previewStored dispatch.jobID preview ∈ trace →
    dispatch.request.binding = preview.binding ∧
      dispatch.request.approval.scopeDigest = preview.scopeDigest
  created : ∀ job, .jobCreated job ∈ trace → job.id = dispatch.jobID →
    job.requestedSessionID = dispatch.principal.sessionID

variable {call next one : Call} {server : Server} {choice : Choice} {s : State} {event : Event}
  {job : Job} {approval : Approval} {trace : List Event}

namespace Call

/-- The job this call has created and previews. -/
def previews : Call → Option String
  | .previewCreated jobID _ | .previewRunning jobID _ | .previewAnswered jobID _
  | .previewFailing jobID _ => some jobID
  | _ => none

/-- The job this call has moved to running in order to execute it. -/
def executes : Call → Option String
  | .executeRunning approval _ _ _ => some approval.job.id
  | .executeDispatched jobID _ | .executeAnswered jobID _ | .executeFailing jobID _ => some jobID
  | _ => none

/-- The job this call has read as waiting for approval. -/
def knows : Call → Option String
  | .executeJobRead approval | .executeAuthorized approval | .executeHostRead approval _ _
  | .executeCredentialRead approval _ _ _ => some approval.job.id
  | call => call.executes

theorem knows_of_executes {id : String} (executes : call.executes = some id) :
    call.knows = some id := by
  cases call <;> first | exact executes | cases executes

end Call

inductive JobsChange (jobs : Keyed Job.id) (call : Call) : Keyed Job.id → Prop
  | same : JobsChange jobs call jobs
  | created {job : Job} {binding : RunbookBinding} (accepted : call = .previewAccepted job binding)
      (fresh : jobs.get job.id = none) : JobsChange jobs call (jobs.put job)
  | mutated {id : String} {job updated : Job} (found : jobs.get id = some job)
      (continues : job.Continues updated)
      (owner : call.previews = some id ∨
        (updated.runbookPreview = job.runbookPreview ∧
          ((call.executes = some id ∧ updated.state ≠ .awaitingApproval) ∨
            (call.knows = some id ∧ updated.state = .running)))) :
      JobsChange jobs call (jobs.put updated)

theorem failedJob_change (m : Memory) (call : Call) (jobID code message : String) (now : Int)
    (owner : call.previews = some jobID ∨ call.executes = some jobID) :
    JobsChange m.jobs call (failedJob m jobID code message now).jobs := by
  rcases failedJob_cases m jobID code message now with same | ⟨job, failed, found, ran, same⟩
  · rw [same]
    exact .same
  · rw [same]
    have state := (failRunbookJob_ok ran).1
    refine .mutated found ((failRunbookJob code message now).continues job failed ran) ?_
    rcases owner with previews | executes
    · exact .inl previews
    · exact .inr ⟨(failRunbookJob_ok ran).2, .inl ⟨executes, by rw [state]; decide⟩⟩

theorem Moves.jobs {after : State} (moves : Moves server choice s call event after next) :
    JobsChange s.memory.jobs call after.memory.jobs := by
  cases moves with
  | previewCreated fresh => exact .created rfl fresh
  | previewRunning found started =>
    exact .mutated found ((startJob s.clock).continues _ _ started) (.inl rfl)
  | previewStored found stored =>
    exact .mutated found ((storePreview _ s.clock).continues _ _ stored) (.inl rfl)
  | previewFailed failed =>
    subst failed
    exact failedJob_change s.memory _ _ _ _ _ (.inl rfl)
  | executeRunning found started =>
    obtain ⟨state, preview⟩ := moveJob_ok started
    exact .mutated found ((startJob s.clock).continues _ _ started)
      (.inr ⟨preview, .inr ⟨rfl, state⟩⟩)
  | @executeFinished jobID execution job ended found stored =>
    obtain ⟨state, preview⟩ := moveJob_ok stored
    refine .mutated found ((finishJob _ s.clock).continues _ _ stored)
      (.inr ⟨preview, .inl ⟨rfl, ?_⟩⟩)
    rw [state, executedState]
    split <;> decide
  | executeFailed failed =>
    subst failed
    exact failedJob_change s.memory _ _ _ _ _ (.inr rfl)
  | _ => exact .same

/-- A stored job stays as it is or is moved on by its owner. -/
theorem JobsChange.get {jobs after : Keyed Job.id} {id : String}
    (change : JobsChange jobs call after) (found : jobs.get id = some job) :
    after.get id = some job ∨
      ∃ updated, after.get id = some updated ∧ job.Continues updated ∧
        (call.previews = some id ∨
          (updated.runbookPreview = job.runbookPreview ∧
            ((call.executes = some id ∧ updated.state ≠ .awaitingApproval) ∨
              (call.knows = some id ∧ updated.state = .running)))) := by
  cases change with
  | same => exact .inl found
  | @created fresh binding _ absent =>
    left
    have other : id ≠ fresh.id := by
      intro same
      rw [← same, found] at absent
      cases absent
    rwa [Keyed.get_put_of_ne _ _ other]
  | @mutated target stored updated present continues owner =>
    have updatedID : updated.id = target := continues.id.trans (Keyed.key_of_get present)
    by_cases same : id = target
    · subst same
      obtain rfl : job = stored := Option.some.inj (found.symm.trans present)
      right
      refine ⟨updated, ?_, continues, owner⟩
      rw [← updatedID]
      exact Keyed.get_put_self _ _
    · left
      rwa [Keyed.get_put_of_ne _ _ (by rwa [updatedID])]

theorem JobsChange.get_of_apart {jobs after : Keyed Job.id} {id : String}
    (change : JobsChange jobs call after) (found : jobs.get id = some job)
    (notPreviews : call.previews ≠ some id) (notKnows : call.knows ≠ some id) :
    after.get id = some job := by
  rcases change.get found with same | ⟨updated, -, -, previews | ⟨-, ⟨executes, -⟩ | ⟨knows, -⟩⟩⟩
  · exact same
  · exact absurd previews notPreviews
  · exact absurd (Call.knows_of_executes executes) notKnows
  · exact absurd knows notKnows

structure Previewing (jobs : Keyed Job.id) (trace : List Event) (id : String) : Prop where
  stored : ∃ job, jobs.get id = some job ∧ (job.state = .queued ∨ job.state = .running)
  undispatched : id ∉ dispatchedJobs trace
  unpreviewed : ∀ preview, .previewStored id preview ∉ trace

/-- What was read of a job is still what is stored. -/
def StillApproved (jobs : Keyed Job.id) (approval : Approval) : Prop :=
  ∃ stored, jobs.get approval.job.id = some stored ∧
    stored.runbookPreview = some approval.preview ∧
    stored.requestedSessionID = approval.job.requestedSessionID ∧ stored.state ≠ .queued

/-- The caller's session is the one that asked for the job, and the digest in the
request is the preview's. -/
def Checked (approval : Approval) : Prop :=
  approval.job.requestedSessionID = approval.principal.sessionID ∧
    approval.input.scopeDigest = approval.preview.scopeDigest

def Executing (jobs : Keyed Job.id) (id : String) : Prop :=
  ∃ stored, jobs.get id = some stored ∧ stored.state = .running

def CallSound (jobs : Keyed Job.id) (trace : List Event) : Call → Prop
  | .previewAccepted job _ => job.state = .queued
  | .previewCreated jobID _ | .previewRunning jobID _ | .previewAnswered jobID _
  | .previewFailing jobID _ => Previewing jobs trace jobID
  | .executeJobRead approval => StillApproved jobs approval
  | .executeAuthorized approval | .executeHostRead approval _ _
  | .executeCredentialRead approval _ _ _ => StillApproved jobs approval ∧ Checked approval
  | .executeRunning approval _ _ _ =>
    StillApproved jobs approval ∧ Checked approval ∧ Executing jobs approval.job.id ∧
      approval.job.id ∉ dispatchedJobs trace
  | .executeDispatched jobID _ | .executeAnswered jobID _ | .executeFailing jobID _ =>
    Executing jobs jobID
  | _ => True

/-- No job is previewed by one call and used by another, or executed by two. -/
structure Apart (one other : Call) : Prop where
  previews : ∀ id, one.previews = some id → other.previews ≠ some id ∧ other.knows ≠ some id
  knows : ∀ id, one.knows = some id → other.previews ≠ some id
  executes : ∀ id, one.executes = some id → other.executes ≠ some id

structure StoreSound (jobs : Keyed Job.id) (trace : List Event) : Prop where
  awaiting : ∀ id job, jobs.get id = some job → job.state = .awaitingApproval →
    id ∉ dispatchedJobs trace
  once : (dispatchedJobs trace).Nodup
  present : ∀ id ∈ dispatchedJobs trace, ∃ stored, jobs.get id = some stored
  previewed : ∀ id preview, .previewStored id preview ∈ trace →
    ∃ stored, jobs.get id = some stored ∧ stored.runbookPreview = some preview
  created : ∀ job, .jobCreated job ∈ trace →
    ∃ stored, jobs.get job.id = some stored ∧
      stored.requestedSessionID = job.requestedSessionID
  approved : ∀ dispatch ∈ dispatches trace, dispatch.AsApproved trace

theorem Apart.symm {other : Call} (apart : Apart one other) : Apart other one where
  previews id previews := by
    refine ⟨?_, ?_⟩
    · intro same
      exact (apart.previews id same).1 previews
    · intro knows
      exact apart.knows id knows previews
  knows id knows same := (apart.previews id same).2 knows
  executes id executes same := apart.executes id same executes

/-- What a step records, as far as the other calls are concerned. -/
structure Records (call : Call) (event : Event) (trace : List Event) : Prop where
  dispatched : dispatchedJobs (event :: trace) = dispatchedJobs trace ∨
    ∃ id, call.executes = some id ∧ dispatchedJobs (event :: trace) = id :: dispatchedJobs trace
  previewed : ∀ id preview, event = .previewStored id preview → call.previews = some id

theorem Moves.records {after : State} (moves : Moves server choice s call event after next)
    (trace : List Event) : Records call event trace := by
  cases moves with
  | executeDispatched opened =>
    refine ⟨.inr ⟨_, rfl, rfl⟩, ?_⟩
    intro id preview same
    cases same
  | previewStored found stored =>
    refine ⟨.inl rfl, ?_⟩
    intro id preview same
    cases same
    rfl
  | _ =>
    refine ⟨.inl rfl, ?_⟩
    intro id preview same
    cases same

section Others

variable {jobs after : Keyed Job.id}

theorem Previewing.kept {id : String} (change : JobsChange jobs call after)
    (records : Records call event trace) (notPreviews : call.previews ≠ some id)
    (notKnows : call.knows ≠ some id) (before : Previewing jobs trace id) :
    Previewing after (event :: trace) id where
  stored := by
    obtain ⟨job, found, state⟩ := before.stored
    exact ⟨job, change.get_of_apart found notPreviews notKnows, state⟩
  undispatched := by
    rcases records.dispatched with same | ⟨mine, executes, same⟩
    · rw [same]
      exact before.undispatched
    · rw [same, List.mem_cons, not_or]
      refine ⟨?_, before.undispatched⟩
      intro equal
      rw [equal] at notKnows
      exact notKnows (Call.knows_of_executes executes)
  unpreviewed := by
    intro preview member
    rcases List.mem_cons.mp member with same | old
    · exact notPreviews (records.previewed id preview same.symm)
    · exact before.unpreviewed preview old

theorem StillApproved.kept (change : JobsChange jobs call after)
    (notPreviews : call.previews ≠ some approval.job.id) (before : StillApproved jobs approval) :
    StillApproved after approval := by
  obtain ⟨stored, found, preview, session, state⟩ := before
  rcases change.get found with same | ⟨updated, present, continues, previews | ⟨kept, -⟩⟩
  · exact ⟨stored, same, preview, session, state⟩
  · exact absurd previews notPreviews
  · exact ⟨updated, present, kept.trans preview, continues.requestedSessionID.trans session,
      continues.state_ne_queued⟩

theorem Executing.kept {id : String} (change : JobsChange jobs call after)
    (notPreviews : call.previews ≠ some id) (notExecutes : call.executes ≠ some id)
    (before : Executing jobs id) : Executing after id := by
  obtain ⟨stored, found, running⟩ := before
  rcases change.get found with
    same | ⟨updated, -, continues, previews | ⟨-, ⟨owner, -⟩ | ⟨-, started⟩⟩⟩
  · exact ⟨stored, same, running⟩
  · exact absurd previews notPreviews
  · exact absurd owner notExecutes
  · exact absurd running (continues.not_running started)

theorem undispatched_kept {id : String} (records : Records call event trace)
    (notExecutes : call.executes ≠ some id) (before : id ∉ dispatchedJobs trace) :
    id ∉ dispatchedJobs (event :: trace) := by
  rcases records.dispatched with unchanged | ⟨mine, executes, added⟩
  · rw [unchanged]
    exact before
  · rw [added, List.mem_cons, not_or]
    refine ⟨?_, before⟩
    intro equal
    rw [← equal] at executes
    exact notExecutes executes

theorem CallSound.other {other : Call} (change : JobsChange jobs call after)
    (records : Records call event trace) (apart : Apart call other)
    (sound : CallSound jobs trace other) : CallSound after (event :: trace) other := by
  have previewsApart : ∀ id, other.previews = some id →
      call.previews ≠ some id ∧ call.knows ≠ some id :=
    fun id previews => ⟨fun same => (apart.previews id same).1 previews,
      fun knows => apart.knows id knows previews⟩
  have knowsApart : ∀ id, other.knows = some id → call.previews ≠ some id :=
    fun id knows same => (apart.previews id same).2 knows
  have executesApart : ∀ id, other.executes = some id → call.executes ≠ some id :=
    fun id executes same => apart.executes id same executes
  cases other with
  | previewCreated jobID _ | previewRunning jobID _ | previewAnswered jobID _
  | previewFailing jobID _ =>
    obtain ⟨notPreviews, notKnows⟩ := previewsApart jobID rfl
    exact Previewing.kept change records notPreviews notKnows sound
  | executeJobRead approval => exact StillApproved.kept change (knowsApart _ rfl) sound
  | executeAuthorized approval | executeHostRead approval _ _
  | executeCredentialRead approval _ _ _ =>
    exact ⟨StillApproved.kept change (knowsApart _ rfl) sound.1, sound.2⟩
  | executeRunning approval _ _ _ =>
    obtain ⟨approved, checked, executing, undispatched⟩ := sound
    exact ⟨approved.kept change (knowsApart _ rfl), checked,
      executing.kept change (knowsApart _ rfl) (executesApart _ rfl),
      undispatched_kept records (executesApart _ rfl) undispatched⟩
  | executeDispatched jobID _ | executeAnswered jobID _ | executeFailing jobID _ =>
    exact Executing.kept change (knowsApart _ rfl) (executesApart _ rfl) sound
  | _ => exact sound

end Others

section Mover

variable {after : State}

/-- A job that an approved execution starts was waiting for approval. -/
theorem StillApproved.awaiting {jobs : Keyed Job.id} {running : Job} {now : Int}
    (approved : StillApproved jobs approval) (found : jobs.get approval.job.id = some job)
    (started : (startJob now).run job = .ok running) :
    job.state = .awaitingApproval ∧ job.runbookPreview = some approval.preview ∧
      job.requestedSessionID = approval.job.requestedSessionID := by
  obtain ⟨stored, present, preview, session, notQueued⟩ := approved
  obtain rfl : job = stored := Option.some.inj (found.symm.trans present)
  refine ⟨?_, preview, session⟩
  have possible := ((startJob now).continues job running started).transition
  rw [(moveJob_ok started).1] at possible
  revert possible notQueued
  cases job.state <;> decide

theorem get_put_moved {jobs : Keyed Job.id} {id : String} {updated : Job}
    (found : jobs.get id = some job) (continues : job.Continues updated) :
    (jobs.put updated).get id = some updated := by
  have sameID : updated.id = id := continues.id.trans (Keyed.key_of_get found)
  rw [← sameID]
  exact Keyed.get_put_self jobs updated

theorem CallSound.moved (moves : Moves server choice s call event after next)
    (store : StoreSound s.memory.jobs trace) (sound : CallSound s.memory.jobs trace call) :
    CallSound after.memory.jobs (event :: trace) next := by
  cases moves with
  | previewAccepted ready =>
    show _ = JobState.queued
    rw [(previewJob_ok ready).1]
    rfl
  | @previewCreated job binding fresh =>
    refine ⟨⟨job, Keyed.get_put_self _ job, .inl sound⟩, ?_, ?_⟩
    · intro member
      obtain ⟨stored, found⟩ := store.present job.id member
      rw [fresh] at found
      cases found
    · intro preview member
      rcases List.mem_cons.mp member with same | old
      · cases same
      · obtain ⟨stored, found, -⟩ := store.previewed job.id preview old
        rw [fresh] at found
        cases found
  | @previewRunning jobID binding job running found started =>
    have continues := (startJob s.clock).continues job running started
    exact ⟨⟨running, get_put_moved found continues, .inr (moveJob_ok started).1⟩,
      sound.undispatched, fun preview member => by
        rcases List.mem_cons.mp member with same | old
        · cases same
        · exact sound.unpreviewed preview old⟩
  | previewAnswered _ | previewRejected =>
    exact ⟨sound.stored, sound.undispatched, fun preview member => by
      rcases List.mem_cons.mp member with same | old
      · cases same
      · exact sound.unpreviewed preview old⟩
  | @executeJobRead authorization jobID principal body input job preview found awaiting previewed =>
    have atID : s.memory.jobs.get job.id = some job := by
      rw [Keyed.key_of_get found]
      exact found
    exact ⟨job, atID, previewed, rfl, by rw [awaiting]; decide⟩
  | executeAuthorized session digest => exact ⟨sound, session, digest⟩
  | executeHostRead _ _ | executeCredentialRead _ => exact sound
  | @executeRunning approval host pin credential job running found started =>
    obtain ⟨approved, session, digest⟩ := sound
    obtain ⟨awaiting, preview, asked⟩ := approved.awaiting found started
    have continues := (startJob s.clock).continues job running started
    have jobID : job.id = approval.job.id := Keyed.key_of_get found
    have atID : (s.memory.jobs.put running).get running.id = some running :=
      Keyed.get_put_self _ running
    obtain ⟨state, kept⟩ := moveJob_ok started
    refine ⟨⟨running, atID, kept.trans preview, rfl, continues.state_ne_queued⟩, ⟨?_, digest⟩,
      ⟨running, atID, state⟩, ?_⟩
    · exact (continues.requestedSessionID.trans asked).trans session
    · show running.id ∉ dispatchedJobs trace
      rw [continues.id, jobID]
      exact store.awaiting approval.job.id job found awaiting
  | executeUnopened => exact sound.2.2.1
  | executeDispatched _ => exact sound.2.2.1
  | executeAnswered | executeRejected => exact sound
  | _ => trivial

theorem Apart.idle (other : Call) (previews : one.previews = none) (knows : one.knows = none) :
    Apart one other where
  previews id same := by
    rw [previews] at same
    cases same
  knows id same := by
    rw [knows] at same
    cases same
  executes id same := by
    rw [Call.knows_of_executes same] at knows
    cases knows

theorem Apart.weaken {later other : Call} (apart : Apart one other)
    (previews : ∀ id, later.previews = some id → one.previews = some id)
    (knows : ∀ id, later.knows = some id → one.knows = some id)
    (executes : ∀ id, later.executes = some id → one.executes = some id) : Apart later other where
  previews id same := apart.previews id (previews id same)
  knows id same := apart.knows id (knows id same)
  executes id same := apart.executes id (executes id same)

theorem CallSound.owned {jobs : Keyed Job.id} {other : Call} {id : String}
    (sound : CallSound jobs trace other)
    (owns : other.previews = some id ∨ other.knows = some id) :
    ∃ stored, jobs.get id = some stored := by
  cases other with
  | previewCreated jobID _ | previewRunning jobID _ | previewAnswered jobID _
  | previewFailing jobID _ =>
    rcases owns with previews | knows
    · obtain rfl := Option.some.inj previews
      obtain ⟨job, found, -⟩ := sound.stored
      exact ⟨job, found⟩
    · cases knows
  | executeJobRead approval =>
    rcases owns with previews | knows
    · cases previews
    · obtain rfl := Option.some.inj knows
      obtain ⟨job, found, -⟩ := sound
      exact ⟨job, found⟩
  | executeAuthorized approval | executeHostRead approval _ _
  | executeCredentialRead approval _ _ _ | executeRunning approval _ _ _ =>
    rcases owns with previews | knows
    · cases previews
    · obtain rfl := Option.some.inj knows
      obtain ⟨⟨job, found, -⟩, -⟩ := sound
      exact ⟨job, found⟩
  | executeDispatched jobID _ | executeAnswered jobID _ | executeFailing jobID _ =>
    rcases owns with previews | knows
    · cases previews
    · obtain rfl := Option.some.inj knows
      obtain ⟨job, found, -⟩ := sound
      exact ⟨job, found⟩
  | _ => rcases owns with previews | knows <;> contradiction

theorem CallSound.previewing {jobs : Keyed Job.id} {other : Call} {id : String}
    (sound : CallSound jobs trace other) (previews : other.previews = some id) :
    Previewing jobs trace id := by
  cases other with
  | previewCreated jobID _ | previewRunning jobID _ | previewAnswered jobID _
  | previewFailing jobID _ =>
    obtain rfl := Option.some.inj previews
    exact sound
  | _ => contradiction

theorem CallSound.executing {jobs : Keyed Job.id} {other : Call} {id : String}
    (sound : CallSound jobs trace other) (executes : other.executes = some id) :
    Executing jobs id := by
  cases other with
  | executeRunning approval _ _ _ =>
    obtain rfl := Option.some.inj executes
    exact sound.2.2.1
  | executeDispatched jobID _ | executeAnswered jobID _ | executeFailing jobID _ =>
    obtain rfl := Option.some.inj executes
    exact sound
  | _ => contradiction

theorem Apart.moved {other : Call} (moves : Moves server choice s call event after next)
    (sound : CallSound s.memory.jobs trace other) (apart : Apart call other) :
    Apart next other := by
  cases moves with
  | @previewCreated job binding fresh =>
    -- a job that another call owns would be stored already
    have unowned : ∀ id, job.id = id → other.previews ≠ some id ∧ other.knows ≠ some id := by
      rintro id rfl
      constructor
      · intro same
        obtain ⟨stored, found⟩ := sound.owned (.inl same)
        rw [fresh] at found
        cases found
      · intro same
        obtain ⟨stored, found⟩ := sound.owned (.inr same)
        rw [fresh] at found
        cases found
    refine ⟨fun id same => unowned id (Option.some.inj same), ?_, ?_⟩
    · intro id same
      cases same
    · intro id same
      cases same
  | @executeJobRead authorization jobID principal body input job preview found awaiting previewed =>
    refine ⟨?_, ?_, ?_⟩
    · intro id same
      cases same
    · intro id same previews
      obtain rfl : job.id = id := Option.some.inj same
      obtain ⟨stored, present, state⟩ := (sound.previewing previews).stored
      rw [Keyed.key_of_get found, found] at present
      obtain rfl := Option.some.inj present
      rcases state with queued | running
      · rw [queued] at awaiting
        cases awaiting
      · rw [running] at awaiting
        cases awaiting
    · intro id same
      cases same
  | @executeRunning approval host pin credential job running found started =>
    have continues := (startJob s.clock).continues job running started
    have sameID : running.id = approval.job.id := continues.id.trans (Keyed.key_of_get found)
    refine ⟨?_, ?_, ?_⟩
    · intro id same
      cases same
    · intro id same
      obtain rfl : running.id = id := Option.some.inj same
      rw [sameID]
      exact apart.knows _ rfl
    · intro id same executes
      obtain rfl : running.id = id := Option.some.inj same
      rw [sameID] at executes
      obtain ⟨stored, present, state⟩ := sound.executing executes
      obtain rfl : job = stored := Option.some.inj (found.symm.trans present)
      exact continues.not_running (moveJob_ok started).1 state
  | previewRunning _ _ | previewAnswered _ | previewRejected | executeAuthorized _ _
  | executeHostRead _ _ | executeCredentialRead _ | executeUnopened | executeDispatched _
  | executeAnswered | executeRejected =>
    exact apart.weaken (fun _ same => same) (fun _ same => same) (fun _ same => same)
  | _ => exact .idle other rfl rfl

end Mover

section Store

variable {jobs after : Keyed Job.id}

theorem StoreSound.changed (store : StoreSound jobs trace) (change : JobsChange jobs call after)
    (sound : CallSound jobs trace call) : StoreSound after trace where
  awaiting := by
    intro id job found state
    cases change with
    | same => exact store.awaiting id job found state
    | @created fresh binding _ absent =>
      rw [Keyed.get_put] at found
      split at found
      · rename_i same
        intro member
        obtain ⟨stored, present⟩ := store.present id member
        rw [same, absent] at present
        cases present
      · exact store.awaiting id job found state
    | @mutated target stored updated present continues owner =>
      have updatedID : updated.id = target := continues.id.trans (Keyed.key_of_get present)
      rw [Keyed.get_put, updatedID] at found
      split at found
      · rename_i same
        obtain rfl := Option.some.inj found
        rw [same]
        rcases owner with previews | ⟨-, ⟨-, notAwaiting⟩ | ⟨-, running⟩⟩
        · exact (sound.previewing previews).undispatched
        · exact absurd state notAwaiting
        · rw [running] at state
          cases state
      · exact store.awaiting id job found state
  once := store.once
  present := by
    intro id member
    obtain ⟨stored, found⟩ := store.present id member
    rcases change.get found with same | ⟨updated, present, -⟩
    · exact ⟨stored, same⟩
    · exact ⟨updated, present⟩
  previewed := by
    intro id preview member
    obtain ⟨stored, found, held⟩ := store.previewed id preview member
    rcases change.get found with same | ⟨updated, present, -, previews | ⟨kept, -⟩⟩
    · exact ⟨stored, same, held⟩
    · exact absurd member ((sound.previewing previews).unpreviewed preview)
    · exact ⟨updated, present, kept.trans held⟩
  created := by
    intro job member
    obtain ⟨stored, found, session⟩ := store.created job member
    rcases change.get found with same | ⟨updated, present, continues, -⟩
    · exact ⟨stored, same, session⟩
    · exact ⟨updated, present, continues.requestedSessionID.trans session⟩
  approved := store.approved

theorem Dispatch.AsApproved.cons {dispatch : Dispatch} (approved : dispatch.AsApproved trace)
    (previewed : ∀ preview, event ≠ .previewStored dispatch.jobID preview)
    (created : ∀ job, event = .jobCreated job → job.id ≠ dispatch.jobID) :
    dispatch.AsApproved (event :: trace) where
  record := approved.record
  previewed preview member := by
    rcases List.mem_cons.mp member with same | old
    · exact absurd same.symm (previewed preview)
    · exact approved.previewed preview old
  created job member sameID := by
    rcases List.mem_cons.mp member with same | old
    · exact absurd sameID (created job same.symm)
    · exact approved.created job old sameID

theorem mem_dispatchedJobs {dispatch : Dispatch} (member : dispatch ∈ dispatches trace) :
    dispatch.jobID ∈ dispatchedJobs trace :=
  List.mem_map_of_mem member

theorem StoreSound.recorded (store : StoreSound jobs trace) (quiet : event.dispatch? = none)
    (previewed : ∀ id preview, event = .previewStored id preview →
      id ∉ dispatchedJobs trace ∧
        ∃ stored, jobs.get id = some stored ∧ stored.runbookPreview = some preview)
    (created : ∀ job, event = .jobCreated job →
      job.id ∉ dispatchedJobs trace ∧ jobs.get job.id = some job) :
    StoreSound jobs (event :: trace) := by
  have unchanged : dispatches (event :: trace) = dispatches trace := by
    rw [dispatches, List.filterMap_cons, quiet]
    rfl
  have sameJobs : dispatchedJobs (event :: trace) = dispatchedJobs trace := by
    rw [dispatchedJobs, unchanged]
    rfl
  refine ⟨?_, ?_, ?_, ?_, ?_, ?_⟩
  · rw [sameJobs]
    exact store.awaiting
  · rw [sameJobs]
    exact store.once
  · rw [sameJobs]
    exact store.present
  · intro id preview member
    rcases List.mem_cons.mp member with same | old
    · exact (previewed id preview same.symm).2
    · exact store.previewed id preview old
  · intro job member
    rcases List.mem_cons.mp member with same | old
    · exact ⟨job, (created job same.symm).2, rfl⟩
    · exact store.created job old
  · intro dispatch member
    rw [unchanged] at member
    have listed := mem_dispatchedJobs member
    apply (store.approved dispatch member).cons
    · intro preview same
      exact (previewed _ preview same).1 listed
    · intro job same sameID
      rw [← sameID] at listed
      exact (created job same).1 listed

/-- The invocation for a job that has not been dispatched and is running. -/
theorem StoreSound.dispatched {pin : HostKeyPin} {secret : Credential} {now : Int}
    (store : StoreSound jobs trace)
    (approved : StillApproved jobs approval) (checked : Checked approval)
    (executing : Executing jobs approval.job.id)
    (undispatched : approval.job.id ∉ dispatchedJobs trace) :
    StoreSound jobs (.dispatched ⟨approval.principal, approval.input,
      jobs.get approval.job.id, Protocol.executeRunbook
        (executeRequest approval.job approval.preview approval.input pin secret now)⟩ ::
      trace) := by
  obtain ⟨stored, found, preview, session, -⟩ := approved
  refine ⟨?_, List.nodup_cons.mpr ⟨undispatched, store.once⟩, ?_, ?_, ?_, ?_⟩
  · intro id job present state member
    rcases List.mem_cons.mp member with same | old
    · obtain ⟨running, here, isRunning⟩ := executing
      rw [same] at present
      obtain rfl : running = job := Option.some.inj (here.symm.trans present)
      rw [isRunning] at state
      cases state
    · exact store.awaiting id job present state old
  · intro id member
    rcases List.mem_cons.mp member with same | old
    · rw [same]
      exact ⟨stored, found⟩
    · exact store.present id old
  · intro id other member
    rcases List.mem_cons.mp member with same | old
    · cases same
    · exact store.previewed id other old
  · intro job member
    rcases List.mem_cons.mp member with same | old
    · cases same
    · exact store.created job old
  · intro dispatch member
    rcases List.mem_cons.mp member with same | old
    · subst same
      refine ⟨⟨stored, approval.preview, found, Keyed.key_of_get found, preview, rfl, rfl,
        checked.2, session.trans checked.1⟩, ?_, ?_⟩
      · intro other recorded
        rcases List.mem_cons.mp recorded with impossible | old
        · cases impossible
        · obtain ⟨last, present, held⟩ := store.previewed _ other old
          obtain rfl : stored = last := Option.some.inj (found.symm.trans present)
          obtain rfl : approval.preview = other := Option.some.inj (preview.symm.trans held)
          exact ⟨rfl, rfl⟩
      · intro job recorded sameID
        rcases List.mem_cons.mp recorded with impossible | old
        · cases impossible
        · obtain ⟨last, present, asked⟩ := store.created job old
          rw [sameID] at present
          obtain rfl : stored = last := Option.some.inj (found.symm.trans present)
          exact asked.symm.trans (session.trans checked.1)
    · apply (store.approved dispatch old).cons
      · intro other same
        cases same
      · intro job same
        cases same

end Store

theorem StoreSound.moved {after : State} (moves : Moves server choice s call event after next)
    (store : StoreSound s.memory.jobs trace) (sound : CallSound s.memory.jobs trace call) :
    StoreSound after.memory.jobs (event :: trace) := by
  have changed := store.changed moves.jobs sound
  cases moves with
  | executeDispatched opened =>
    obtain ⟨approved, checked, executing, undispatched⟩ := sound
    exact store.dispatched approved checked executing undispatched
  | @previewCreated job binding fresh =>
    refine changed.recorded rfl ?_ ?_
    · intro id preview same
      cases same
    · intro other same
      cases same
      refine ⟨?_, Keyed.get_put_self _ job⟩
      intro member
      obtain ⟨stored, found⟩ := store.present job.id member
      rw [fresh] at found
      cases found
  | @previewStored jobID preview job awaiting found stored =>
    have continues := (storePreview preview s.clock).continues job awaiting stored
    refine changed.recorded rfl ?_ ?_
    · intro id other same
      cases same
      exact ⟨sound.undispatched, awaiting, get_put_moved found continues, (moveJob_ok stored).2⟩
    · intro other same
      cases same
  | _ =>
    refine changed.recorded rfl ?_ ?_
    · intro id preview same
      cases same
    · intro job same
      cases same

theorem StoreSound.silent {jobs : Keyed Job.id} (store : StoreSound jobs trace) :
    StoreSound jobs (.silent :: trace) := by
  refine store.recorded rfl ?_ ?_
  · intro id preview same
    cases same
  · intro job same
    cases same

theorem CallSound.silent {jobs : Keyed Job.id} (sound : CallSound jobs trace call) :
    CallSound jobs (.silent :: trace) call := by
  have records : Records .finished .silent trace := by
    refine ⟨.inl rfl, ?_⟩
    intro id preview same
    cases same
  exact sound.other .same records (Apart.idle call rfl rfl)

theorem dispatch_inductive (server : Server) (start : State) :
    Inductive (plane server) anyStep start
      (fun s trace => StoreSound s.memory.jobs trace)
      (fun s trace call => CallSound s.memory.jobs trace call) Apart where
  symmetric _ _ apart := apart.symm
  initial := by
    refine ⟨?_, List.nodup_nil, ?_, ?_, ?_, ?_⟩
    · exact fun _ _ _ _ member => nomatch member
    · exact fun _ member => nomatch member
    · exact fun _ _ member => nomatch member
    · exact fun _ member => nomatch member
    · exact fun _ member => nomatch member
  begun := by
    rintro s trace _ - ⟨authorization, request, rfl⟩
    exact ⟨trivial, fun other => .idle other rfl rfl⟩
  advanced := by
    intro s trace call event after next store sound step _
    cases step with
    | refused choice _ _ =>
      refine ⟨store.silent, trivial, ?_⟩
      exact fun other separate _ => ⟨separate.silent, .idle other rfl rfl⟩
    | advanced choice _ done =>
      have moves := advance_moves done
      refine ⟨store.moved moves sound, sound.moved moves store, ?_⟩
      intro other separate apart
      exact ⟨separate.other moves.jobs (moves.records trace) apart, apart.moved moves separate⟩
  disturbed := by
    intro s trace event after store outside
    obtain ⟨rfl, same⟩ := Outside.quiet outside
    rw [same]
    exact ⟨store.silent, fun other sound => sound.silent⟩

/-- In every interleaving `ExecuteRunbook` is invoked at most once for a job, with
what the job's preview stored and the caller approved, under the session that
created the job. -/
theorem dispatch_once_as_approved (server : Server) (start : State)
    (config : Interleaving.Config State Call Event)
    (reached : Reachable (plane server) anyStep start config) :
    (dispatchedJobs config.trace).Nodup ∧
      ∀ dispatch ∈ dispatches config.trace, dispatch.AsApproved config.trace := by
  have store := ((dispatch_inductive server start).holds reached).1
  exact ⟨store.once, store.approved⟩

def readyState (sha256 : Bytes → Bytes) : State := { sampleState sha256 with memory := readyMemory }

def drawnChoice (sha256 : Bytes → Bytes) : Choice :=
  { plainChoice sha256 with raw := some sampleRaw }

def answeredChoice (sha256 : Bytes → Bytes) (answer : RunbookPreviewResponse) : Choice :=
  { plainChoice sha256 with previewReply := .ok answer }

def executeBody (scopeDigest : String) : ExecuteRunbookRequest :=
  ⟨scopeDigest, "routine inspection", ""⟩

theorem drawnStep {sha256 : Bytes → Bytes} {after : State}
    (sessions : s.sessions = .single (operatorSession sha256))
    (done : advance (sampleServer sha256) (drawnChoice sha256) s call = .ok (after, next, event)) :
    Step (sampleServer sha256) s call event after next :=
  sampleStep (drawnChoice sha256) rfl sessions done

theorem capabilities_dispatched_once :
    ∃ config, Reachable (plane (sampleServer id)) anyStep (readyState id) config ∧
      dispatchedJobs config.trace = [sampleJobID] ∧
      (dispatchedJobs config.trace).Nodup ∧
      ∀ dispatch ∈ dispatches config.trace, dispatch.AsApproved config.trace := by
  have s0 : Reachable (plane (sampleServer id)) anyStep (readyState id) _ := .start
  have s1 := s0.call (.arrived "Bearer t" (.previewRunbook "host_1" (.ok capabilitiesRequest)))
    ⟨_, _, rfl⟩
  have s2 := s1.advance 0 rfl (arrivedStep rfl rfl rfl) trivial
  have s3 := s2.advance 0 rfl (plainStep rfl rfl) trivial
  have s4 := s3.advance 0 rfl (plainStep rfl rfl) trivial
  have s5 := s4.advance 0 rfl (drawnStep rfl rfl) trivial
  have s6 := s5.advance 0 rfl (plainStep rfl rfl) trivial
  have s7 := s6.advance 0 rfl (plainStep rfl rfl) trivial
  have s8 := s7.advance 0 rfl (sampleStep (answeredChoice id (capabilitiesAnswer sampleBinding)) rfl
    rfl rfl) trivial
  have s9 := s8.advance 0 rfl (plainStep rfl rfl) trivial
  have s10 := s9.call
    (.arrived "Bearer t" (.executeRunbook sampleJobID (.ok (executeBody "digest")))) ⟨_, _, rfl⟩
  have s11 := s10.advance 1 rfl (arrivedStep rfl rfl rfl) trivial
  have s12 := s11.advance 1 rfl (plainStep rfl rfl) trivial
  have s13 := s12.advance 1 rfl (plainStep rfl rfl) trivial
  have s14 := s13.advance 1 rfl (plainStep rfl rfl) trivial
  have s15 := s14.advance 1 rfl (plainStep rfl rfl) trivial
  have s16 := s15.advance 1 rfl (plainStep rfl rfl) trivial
  have s17 := s16.advance 1 rfl (plainStep rfl rfl) trivial
  exact ⟨_, s17, rfl, dispatch_once_as_approved _ _ _ s17⟩

end VpsManager.Control
