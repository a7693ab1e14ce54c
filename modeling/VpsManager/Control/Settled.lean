import VpsManager.Control.Lifecycle

namespace VpsManager.Control

open Go Checks Protocol Interleaving

def OperationCall.worksOn? : OperationCall → Option String
  | .created _ jobID | .registered _ jobID | .authorized _ jobID | .cancelling jobID _
  | .cancelTimed jobID _ _ | .ready _ jobID | .readyTimed jobID _ | .finishing _ jobID _
  | .finishTimed jobID _ _ => some jobID
  | .queuedRead _ queued => some queued.id
  | .running _ job | .hostRead _ job _ | .credentialRead _ job _ _
  | .authorizedAgain _ job _ _ => some job.id
  | _ => none

/-- The job a request has set to running and still works on. -/
def Call.worksOn? : Call → Option String
  | .previewRunning jobID _ | .previewAnswered jobID _ | .previewFailing jobID _
  | .executeDispatched jobID _ | .executeAnswered jobID _ | .executeFailing jobID _ => some jobID
  | .executeRunning approval _ _ _ => some approval.job.id
  | _ => none

def JobCall.worksOn? : JobCall → Option String
  | .plane call => call.worksOn?
  | .operation call => call.worksOn?

/-- The number of steps a worker takes at most. -/
def OperationCall.remaining : OperationCall → Nat
  | .created _ _ => 12
  | .registered _ _ => 11
  | .queuedRead _ _ => 10
  | .authorized _ _ => 9
  | .ready _ _ => 8
  | .readyTimed _ _ => 7
  | .running _ _ => 6
  | .hostRead _ _ _ => 5
  | .credentialRead _ _ _ _ => 4
  | .authorizedAgain _ _ _ _ => 3
  | .finishing _ _ _ | .cancelling _ _ => 2
  | .finishTimed _ _ _ | .cancelTimed _ _ _ => 1
  | _ => 0

def Call.remaining : Call → Nat
  | .executeRunning _ _ _ _ => 3
  | .previewRunning _ _ | .executeDispatched _ _ => 2
  | .previewAnswered _ _ | .previewFailing _ _ | .executeAnswered _ _ | .executeFailing _ _ => 1
  | _ => 0

def JobCall.remaining : JobCall → Nat
  | .plane call => call.remaining
  | .operation call => call.remaining

def JobEnded (jobs : Keyed Job.id) (jobID : String) : Prop :=
  ∃ job, jobs.get jobID = some job ∧ job.state.terminal = true

/-- The stored job has ended or waits for an approval. -/
def JobMovedOn (jobs : Keyed Job.id) (jobID : String) : Prop :=
  ∃ job, jobs.get jobID = some job ∧
    (job.state = .awaitingApproval ∨ job.state.terminal = true)

variable {job : Job} {jobID : String}

theorem Cancellation.possible (reason : Cancellation) (now : Int) (queued : job.state = .queued) :
    ∃ updated, (reason.mutation now).run job = .ok updated ∧ updated.state.terminal = true := by
  obtain ⟨error, -, same⟩ := reason.mutation_eq now
  obtain ⟨updated, ran⟩ : ∃ updated, (reason.mutation now).run job = .ok updated := by
    rw [same]
    exact moveJob_possible _ _ _ _ (by rw [queued]; rfl)
  refine ⟨updated, ran, ?_⟩
  rw [same] at ran
  rw [(moveJob_ok ran).1]
  rfl

theorem OperationEnd.terminal (result : OperationEnd) : result.state.terminal = true := by
  cases result with
  | failed failure =>
    rcases failure.unsuccessful with same | same | same <;>
    · simp only [state, same]
      rfl
  | _ => rfl

/-- A running job can go to any state in which a job has ended. -/
theorem canTransition_running {target : JobState} (ended : target.terminal = true) :
    canTransition .running target = true := by
  cases target <;> first | rfl | cases ended

theorem OperationEnd.possible (operation : Operation) (result : OperationEnd) (now : Int)
    (running : job.state = .running) :
    ∃ updated, (result.mutation operation now).run job = .ok updated ∧
      updated.state.terminal = true := by
  have moves : canTransition job.state result.state = true := by
    rw [running]
    exact canTransition_running result.terminal
  obtain ⟨moved, made⟩ : ∃ moved, transitionJob job result.state now = .ok moved :=
    ⟨_, transitionJob_eq_ok.mpr ⟨moves, rfl⟩⟩
  obtain ⟨updated, ran⟩ : ∃ updated, (result.mutation operation now).run job = .ok updated := by
    cases result with
    | failed failure =>
      have made : transitionJob job failure.state now = .ok moved := made
      cases operation <;>
      · simp only [mutation, finishSnapshotJob, finishOperationJob, made]
        exact ⟨_, rfl⟩
    | collected | executed | scanned =>
      have made : transitionJob job .succeeded now = .ok moved := made
      cases operation <;>
      · simp only [mutation, finishSnapshotJob, finishOperationJob, made]
        exact ⟨_, rfl⟩
  refine ⟨updated, ran, ?_⟩
  rw [mutation_state ran]
  exact result.terminal

theorem failedJob_ends {m : Memory} (code message : String) (now : Int)
    (found : m.jobs.get jobID = some job) (running : job.state = .running) :
    JobEnded (failedJob m jobID code message now).jobs jobID := by
  obtain ⟨failed, ran⟩ : ∃ failed, (failRunbookJob code message now).run job = .ok failed := by
    simp only [failRunbookJob, running, ne_eq, not_true_eq_false, ↓reduceIte]
    exact moveJob_possible _ _ _ _ (by rw [running]; rfl)
  obtain ⟨after, mutated, stored⟩ := Memory.mutateJob_of_run found ran
  refine ⟨failed, ?_, ?_⟩
  · simp only [failedJob, mutated]
    exact stored
  · rw [(failRunbookJob_ok ran).1]
    rfl

section Step

variable {s after : State}

theorem owned_queued (sound : (Claims.own (.queued jobID)).Sound s.memory.jobs s.clock) :
    ∃ job, s.memory.jobs.get jobID = some job ∧ job.state = .queued := by
  obtain ⟨job, found, held⟩ := sound.owned _ rfl
  exact ⟨job, found, held.1⟩

theorem owned_running (sound : (Claims.own (.running jobID)).Sound s.memory.jobs s.clock) :
    ∃ job, s.memory.jobs.get jobID = some job ∧ job.state = .running := by
  obtain ⟨job, found, held⟩ := sound.owned _ rfl
  exact ⟨job, found, held⟩

theorem owned_previewing (sound : (Claims.own (.previewing jobID)).Sound s.memory.jobs s.clock) :
    ∃ job, s.memory.jobs.get jobID = some job ∧ job.state = .running := by
  obtain ⟨job, found, held⟩ := sound.owned _ rfl
  exact ⟨job, found, held.1⟩

theorem operation_settles {server : Server} {choice : OperationChoice} {call next : OperationCall}
    (sound : call.claims.Sound s.memory.jobs s.clock)
    (done : operationAdvance server choice s call = .ok (after, next))
    (works : call.worksOn? = some jobID) :
    (next.worksOn? = some jobID ∧ next.remaining < call.remaining) ∨
      (next = .ended jobID ∧ JobEnded after.memory.jobs jobID) := by
  cases call with
  | created operation id =>
    cases works
    cases done
    exact .inl ⟨rfl, by simp [OperationCall.remaining]⟩
  | registered operation id =>
    cases works
    obtain ⟨job, found, -⟩ := owned_queued sound
    simp only [operationAdvance, Memory.getJob, found, orError] at done
    cases done
    exact .inl ⟨congrArg some (Keyed.key_of_get found), by simp [OperationCall.remaining]⟩
  | queuedRead operation queued =>
    cases works
    simp only [operationAdvance] at done
    split at done <;>
    · cases done
      exact .inl ⟨rfl, by simp [OperationCall.remaining]⟩
  | authorized operation id =>
    cases works
    simp only [operationAdvance] at done
    split at done <;>
    · cases done
      exact .inl ⟨rfl, by simp [OperationCall.remaining]⟩
  | cancelling id reason =>
    cases works
    cases done
    exact .inl ⟨rfl, by simp [OperationCall.remaining]⟩
  | cancelTimed id reason now =>
    cases works
    obtain ⟨job, found, held⟩ := sound.owned _ rfl
    obtain ⟨updated, ran, ended⟩ := reason.possible now held.1.1
    obtain ⟨memory, mutated, stored⟩ := Memory.mutateJob_of_run found ran
    have mutated : s.memory.mutateJob jobID (reason.mutation now) = .ok (updated, memory) :=
      mutated
    simp only [operationAdvance, mutated] at done
    cases done
    exact .inr ⟨rfl, updated, stored, ended⟩
  | ready operation id =>
    cases works
    cases operation with
    | snapshot =>
      cases done
      exact .inl ⟨rfl, by simp [OperationCall.remaining]⟩
    | command | scan =>
      obtain ⟨job, found, queued⟩ := owned_queued sound
      obtain ⟨running, ran⟩ : ∃ running, (startJob s.clock).run job = .ok running :=
        moveJob_possible _ _ _ _ (by rw [queued]; rfl)
      obtain ⟨memory, mutated, stored⟩ := Memory.mutateJob_of_run found ran
      simp only [operationAdvance, mutated] at done
      cases done
      exact .inl ⟨congrArg some (Keyed.key_of_get stored), by simp [OperationCall.remaining]⟩
  | readyTimed id now =>
    cases works
    obtain ⟨job, found, held⟩ := sound.owned _ rfl
    obtain ⟨running, ran⟩ : ∃ running, (startJob now).run job = .ok running :=
      moveJob_possible _ _ _ _ (by rw [held.1.1]; rfl)
    obtain ⟨memory, mutated, stored⟩ := Memory.mutateJob_of_run found ran
    have mutated : s.memory.mutateJob jobID (startJob now) = .ok (running, memory) := mutated
    simp only [operationAdvance, mutated] at done
    cases done
    exact .inl ⟨congrArg some (Keyed.key_of_get stored), by simp [OperationCall.remaining]⟩
  | running operation job =>
    cases works
    simp only [operationAdvance] at done
    split at done
    · cases done
      exact .inl ⟨rfl, by simp [OperationCall.remaining]⟩
    · split at done <;>
      · cases done
        exact .inl ⟨rfl, by simp [OperationCall.remaining]⟩
  | hostRead operation job host =>
    cases works
    simp only [operationAdvance] at done
    split at done <;>
    · cases done
      exact .inl ⟨rfl, by simp [OperationCall.remaining]⟩
  | credentialRead operation job host credential =>
    cases works
    simp only [operationAdvance] at done
    split at done <;>
    · cases done
      exact .inl ⟨rfl, by simp [OperationCall.remaining]⟩
  | authorizedAgain operation job host credential =>
    cases works
    cases done
    exact .inl ⟨rfl, by simp [OperationCall.remaining]⟩
  | finishing operation id result =>
    cases works
    obtain ⟨job, found, running⟩ := owned_running sound
    obtain ⟨updated, ran, ended⟩ := result.possible operation s.clock running
    obtain ⟨memory, mutated, stored⟩ := Memory.mutateJob_of_run found ran
    cases operation with
    | snapshot =>
      cases done
      exact .inl ⟨rfl, by simp [OperationCall.remaining]⟩
    | command | scan =>
      simp only [operationAdvance, mutated] at done
      cases done
      exact .inr ⟨rfl, updated, stored, ended⟩
  | finishTimed id result now =>
    cases works
    obtain ⟨job, found, held⟩ := sound.owned _ rfl
    obtain ⟨updated, ran, ended⟩ := result.possible .snapshot now held.1
    obtain ⟨memory, mutated, stored⟩ := Memory.mutateJob_of_run found ran
    have mutated : s.memory.mutateJob jobID (result.mutation .snapshot now) =
        .ok (updated, memory) := mutated
    simp only [operationAdvance, mutated] at done
    cases done
    exact .inr ⟨rfl, updated, stored, ended⟩
  | _ => cases works

theorem request_settles {server : Server} {call next : Call} {event : Event}
    (sound : call.claims.Sound s.memory.jobs s.clock)
    (step : Step server s call event after next)
    (works : call.worksOn? = some jobID) :
    (next.worksOn? = some jobID ∧ next.remaining < call.remaining) ∨
      (next.worksOn? = none ∧ JobMovedOn after.memory.jobs jobID) := by
  cases step with
  | advanced choice possible done =>
    cases advance_moves done with
    | previewAnswered | previewRejected | executeUnopened | executeDispatched
    | executeAnswered | executeRejected =>
      cases works
      exact .inl ⟨rfl, by simp [Call.remaining]⟩
    | @previewStored _ _ job awaiting found stored =>
      cases works
      refine .inr ⟨rfl, awaiting, ?_, .inl (moveJob_ok stored).1⟩
      exact get_put_moved found ((storePreview _ _).continues _ _ stored)
    | previewFailed failed =>
      cases works
      obtain ⟨job, found, running⟩ := owned_previewing sound
      subst failed
      obtain ⟨ended, stored, terminal⟩ := failedJob_ends "preview_failed"
        "Runbook preview failed" s.clock found running
      exact .inr ⟨rfl, ended, stored, .inr terminal⟩
    | @executeFinished _ execution job ended found stored =>
      cases works
      refine .inr ⟨rfl, ended, get_put_moved found ((finishJob _ _).continues _ _ stored), ?_⟩
      right
      rw [(moveJob_ok stored).1, executedState]
      split <;> rfl
    | executeFailed failed =>
      cases works
      obtain ⟨job, found, running⟩ := owned_running sound
      subst failed
      obtain ⟨ended, stored, terminal⟩ := failedJob_ends "execution_failed"
        "Runbook execution failed" s.clock found running
      exact .inr ⟨rfl, ended, stored, .inr terminal⟩
    | _ => cases works
  | refused choice possible ended =>
    -- a request is refused only where the transition of its job is
    cases call with
    | previewRunning id binding =>
      simp only [advance] at ended
      split at ended <;> cases ended
    | previewAnswered id preview =>
      cases works
      obtain ⟨job, found, running⟩ := owned_previewing sound
      obtain ⟨awaiting, ran⟩ : ∃ awaiting, (storePreview preview s.clock).run job =
          .ok awaiting := moveJob_possible _ _ _ _ (by rw [running]; rfl)
      obtain ⟨memory, mutated, -⟩ := Memory.mutateJob_of_run found ran
      simp only [advance, mutated] at ended
      cases ended
    | executeRunning approval host pin credential =>
      simp only [advance] at ended
      split at ended <;> cases ended
    | executeDispatched id preview =>
      simp only [advance] at ended
      split at ended <;> cases ended
    | executeAnswered id execution =>
      cases works
      obtain ⟨job, found, running⟩ := owned_running sound
      have moves : canTransition job.state (executedState execution) = true := by
        rw [running]
        refine canTransition_running ?_
        unfold executedState
        split <;> rfl
      obtain ⟨finished, ran⟩ : ∃ finished, (finishJob execution s.clock).run job =
          .ok finished := moveJob_possible _ _ _ _ moves
      obtain ⟨memory, mutated, -⟩ := Memory.mutateJob_of_run found ran
      simp only [advance, mutated] at ended
      cases ended
    | previewFailing | executeFailing => cases ended
    | _ => cases works

end Step

section Runs

variable {server : Server}

/-- A goroutine that is about to return has ended its job. -/
def JobCall.Through (jobs : Keyed Job.id) : JobCall → Prop
  | .operation (.ended jobID) => JobEnded jobs jobID
  | _ => True

/-- What a worker has left of its job after a step of its own. -/
inductive Leaves (after : Keyed Job.id) (jobID : String) : JobCall → JobCall → Prop
  | goroutine {call : OperationCall} (ended : JobEnded after jobID) :
      Leaves after jobID (.operation call) (.operation (.ended jobID))
  | request {call next : Call} (idle : next.worksOn? = none) (moved : JobMovedOn after jobID) :
      Leaves after jobID (.plane call) (.plane next)

variable {s after : State} {call : JobCall}

theorem step_settles {next : JobCall} (sound : call.claims.Sound s.memory.jobs s.clock)
    (step : JobStep server s call after next) (works : call.worksOn? = some jobID) :
    (next.worksOn? = some jobID ∧ next.remaining < call.remaining) ∨
      Leaves after.memory.jobs jobID call next := by
  cases step with
  | plane step =>
    rcases request_settles sound step works with goes | ⟨idle, moved⟩
    · exact .inl goes
    · exact .inr (.request idle moved)
  | advanced choice ranged done =>
    rcases operation_settles sound done works with goes | ⟨rfl, ended⟩
    · exact .inl goes
    · exact .inr (.goroutine ended)
  | @refused call error choice ranged refused =>
    -- a goroutine is never refused
    cases call with
    | registered operation id | queuedRead operation queued | authorized operation id
    | cancelTimed id reason now | readyTimed id now | hostRead operation job host
    | credentialRead operation job host credential | finishTimed id result now =>
      simp only [operationAdvance] at refused
      split at refused <;> cases refused
    | ready operation id | finishing operation id result =>
      cases operation with
      | snapshot => cases refused
      | command | scan =>
        simp only [operationAdvance] at refused
        split at refused <;> cases refused
    | running operation job =>
      simp only [operationAdvance] at refused
      split at refused
      · cases refused
      · split at refused <;> cases refused
    | created | cancelling | authorizedAgain => cases refused
    | _ => cases works

theorem JobEnded.kept {jobs after : Keyed Job.id} {clock : Int} (ended : JobEnded jobs jobID)
    (change : JobChange clock (jobs.get jobID) (after.get jobID)) : JobEnded after jobID := by
  obtain ⟨job, found, terminal⟩ := ended
  rw [found] at change
  generalize stored : after.get jobID = updated at change
  cases change with
  | same => exact ⟨job, stored, terminal⟩
  | moved _ moved =>
    rw [moved.continues.not_terminal] at terminal
    cases terminal

theorem JobCall.Through.kept {jobs after : Keyed Job.id} {clock : Int}
    (through : call.Through jobs) (change : ∀ id, JobChange clock (jobs.get id) (after.get id)) :
    call.Through after := by
  cases call with
  | plane => trivial
  | operation call =>
    cases call with
    | ended jobID => exact JobEnded.kept through (change jobID)
    | _ => trivial

/-- Only a worker comes to the end of a goroutine. -/
theorem worksOn_of_ended {choice : OperationChoice} {call : OperationCall}
    (done : operationAdvance server choice s call = .ok (after, .ended jobID)) :
    ∃ id, call.worksOn? = some id := by
  cases call with
  | arrived authorization hostID request =>
    simp only [operationAdvance] at done
    split at done
    · cases done
    · simp only [bind_eq_ok, pure_eq_ok, Prod.mk.injEq, reduceCtorEq, and_false,
        exists_false] at done
  | accepted | targetRead | targetAccepted | prepared =>
    simp only [operationAdvance, bind_eq_ok, pure_eq_ok, Prod.mk.injEq, reduceCtorEq, and_false,
      exists_false] at done
  | ended | returned | failed => cases done
  | _ => exact ⟨_, rfl⟩

theorem JobStep.through {next : JobCall} (sound : call.claims.Sound s.memory.jobs s.clock)
    (step : JobStep server s call after next) : next.Through after.memory.jobs := by
  cases next with
  | plane => trivial
  | operation next =>
    cases next with
    | ended jobID =>
      cases step with
      | advanced choice ranged done =>
        obtain ⟨id, works⟩ := worksOn_of_ended done
        rcases operation_settles sound done works with ⟨goes, -⟩ | ⟨same, ended⟩
        · cases goes
        · cases same
          exact ended
    | _ => trivial

theorem settled_inductive (server : Server) (start : State) (empty : start.memory.jobs = .empty) :
    Inductive (jobPlane server) anyStep start
      (fun s trace => JobsSound s.clock s.memory.jobs trace)
      (fun s _ call => call.claims.Sound s.memory.jobs s.clock ∧ call.Through s.memory.jobs)
      (fun one other => one.claims.Apart other.claims) where
  symmetric := (lifecycle_inductive server start empty).symmetric
  initial := (lifecycle_inductive server start empty).initial
  begun := by
    intro s trace call store begins
    obtain ⟨sound, apart⟩ :=
      (lifecycle_inductive server start empty).begun s trace call store begins
    refine ⟨⟨sound, ?_⟩, apart⟩
    cases call with
    | plane => trivial
    | operation call =>
      obtain ⟨_, _, _, rfl⟩ := begins
      trivial
  advanced := by
    intro s trace call label after next store each step allowed
    obtain ⟨stored, moved, others⟩ := (lifecycle_inductive server start empty).advanced
      s trace call label after next store each.1 step allowed
    have change := step.1.effect.2.change each.1 store.stored
    refine ⟨stored, ⟨moved, step.1.through each.1⟩, ?_⟩
    intro other theirs apart
    obtain ⟨sound, separate⟩ := others other theirs.1 apart
    exact ⟨⟨sound, theirs.2.kept change⟩, separate⟩
  disturbed := by
    intro s trace label after store outside
    obtain ⟨stored, others⟩ := (lifecycle_inductive server start empty).disturbed
      s trace label after store outside
    refine ⟨stored, ?_⟩
    intro other theirs
    refine ⟨others other theirs.1, ?_⟩
    rw [outside.1.quiet.1]
    exact theirs.2

/-- In every interleaving of the handlers and goroutines, whatever the remote work and
the Connector give, a goroutine that is about to return has ended its job. A worker
takes at most twelve steps for its job; with its last one the goroutine ends the job,
and the request for a runbook moves it on. -/
theorem workers_settle (server : Server) (start : State) (empty : start.memory.jobs = .empty)
    (config : Interleaving.Config State JobCall (Keyed Job.id))
    (reached : Reachable (jobPlane server) anyStep start config) :
    (∀ jobID, .operation (.ended jobID) ∈ config.calls →
      JobEnded config.shared.memory.jobs jobID) ∧
    ∀ call ∈ config.calls, ∀ jobID, call.worksOn? = some jobID → call.remaining ≤ 12 ∧
      ∀ after next, JobStep server config.shared call after next →
        (next.worksOn? = some jobID ∧ next.remaining < call.remaining) ∨
          Leaves after.memory.jobs jobID call next := by
  obtain ⟨-, each, -⟩ := (settled_inductive server start empty).holds reached
  constructor
  · intro jobID member
    exact (each _ member).2
  · intro call member jobID works
    constructor
    · cases call with
      | plane call => cases call <;> simp [JobCall.remaining, Call.remaining]
      | operation call => cases call <;> simp [JobCall.remaining, OperationCall.remaining]
    · intro after next step
      exact step_settles (each call member).1 step works

end Runs

theorem cancelledSnapshot_settles :
    ∃ config, Reachable (jobPlane (sampleServer id)) anyStep (readyState id) config ∧
      .operation (.ended sampleJobID) ∈ config.calls ∧
      JobEnded config.shared.memory.jobs sampleJobID := by
  obtain ⟨config, reached, -, calls⟩ := cancelledSnapshot_reached
  have member : .operation (.ended sampleJobID) ∈ config.calls := by simp [calls]
  exact ⟨config, reached, member, (workers_settle _ _ rfl _ reached).1 sampleJobID member⟩

end VpsManager.Control
