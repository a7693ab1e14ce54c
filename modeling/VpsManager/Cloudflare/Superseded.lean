import VpsManager.Cloudflare.Plan

/- An execution checks once that its plan is the desired one. Which version the Worker
desires when the provider is called depends on the plans accepted since. -/
namespace VpsManager.Cloudflare

open Go Control Checks Interleaving

/-- The version that the newest plan for a deployment's Worker asks for, of those
accepted since the deployment was last found to be the desired one. -/
def plannedSince (deployment : Deployment) : List Event → Option String
  | [] => none
  | .checked found :: earlier =>
    if found.id = deployment.id then none else plannedSince deployment earlier
  | .planned plan :: earlier =>
    if plan.workerID = deployment.workerID then some plan.versionID
    else plannedSince deployment earlier
  | _ :: earlier => plannedSince deployment earlier

/-- The newest plan accepted since the check asks for another version. -/
def SupersededSince (trace : List Event) (deployment : Deployment) : Prop :=
  ∃ versionID, plannedSince deployment trace = some versionID ∧ versionID ≠ deployment.versionID

/-- A deployment as an execution has it is one of the stored plans. -/
def Known (m : Tables) (deployment : Deployment) : Prop :=
  ∃ stored, m.deployments.get deployment.id = some stored ∧ deployment.SamePlan stored

/-- The Worker desires the deployment's version unless a plan was accepted since. -/
def Tracks (m : Tables) (trace : List Event) (deployment : Deployment) : Prop :=
  ∃ worker, m.workers.get deployment.workerID = some worker ∧
    worker.desiredVersionID = (plannedSince deployment trace).getD deployment.versionID

theorem Deployment.SamePlan.symm {one other : Deployment} (same : one.SamePlan other) :
    other.SamePlan one :=
  ⟨same.id.symm, same.workerID.symm, same.versionID.symm, same.previousDesiredVersionID.symm,
    same.kind.symm, same.createdAt.symm, same.createdBy.symm⟩

theorem plannedSince_congr {one other : Deployment} (same : one.SamePlan other)
    (trace : List Event) : plannedSince other trace = plannedSince one trace := by
  induction trace with
  | nil => rfl
  | cons event earlier ih =>
    cases event with
    | planned plan => simp only [plannedSince, same.workerID, ih]
    | checked found => simp only [plannedSince, same.id, ih]
    | silent | called => exact ih

section Carried

variable {m after : Tables} {trace : List Event} {one other deployment : Deployment}

theorem Known.congr (known : Known m one) (same : one.SamePlan other) : Known m other := by
  obtain ⟨stored, found, samePlan⟩ := known
  exact ⟨stored, by rw [same.id, found], same.symm.trans samePlan⟩

theorem Tracks.congr (tracks : Tracks m trace one) (same : one.SamePlan other) :
    Tracks m trace other := by
  obtain ⟨worker, found, desired⟩ := tracks
  refine ⟨worker, by rw [same.workerID, found], ?_⟩
  rw [desired, plannedSince_congr same, same.versionID]

theorem Known.samePlan (known : Known m one) (knownOther : Known m other)
    (same : one.id = other.id) : one.SamePlan other := by
  obtain ⟨stored, found, samePlan⟩ := known
  obtain ⟨_, present, samePlan'⟩ := knownOther
  rw [same, present] at found
  cases found
  exact samePlan.trans samePlan'.symm

theorem Known.unplanned (known : Known m deployment) (step : Unplanned m after) :
    Known after deployment := by
  obtain ⟨stored, found, samePlan⟩ := known
  obtain ⟨updated, present, updates⟩ := step.kept _ _ found
  exact ⟨updated, present, samePlan.trans updates⟩

variable {worker : Worker}

theorem Known.planned {plan : Deployment} {updated : Worker} {version : StoredWorkerVersion}
    (known : Known m deployment)
    (accepted : Tables.PlanAccepted m after plan updated worker version) :
    Known after deployment := by
  obtain ⟨stored, found, samePlan⟩ := known
  refine ⟨stored, ?_, samePlan⟩
  have differs : deployment.id ≠ plan.id := by
    intro same
    rw [same, accepted.fresh] at found
    cases found
  rw [deployments_of_accepted accepted, if_neg differs, found]

theorem Tracks.planned {plan : Deployment} {updated : Worker} {version : StoredWorkerVersion}
    (tracks : Tracks m trace deployment)
    (accepted : Tables.PlanAccepted m after plan updated worker version) :
    Tracks after (.planned plan :: trace) deployment := by
  obtain ⟨current, found, desired⟩ := tracks
  by_cases same : plan.workerID = deployment.workerID
  · refine ⟨updated, ?_, ?_⟩
    · rw [workers_of_accepted accepted, if_pos same.symm]
    · rw [show plannedSince deployment (.planned plan :: trace) = some plan.versionID from
        if_pos same, accepted.desired]
      rfl
  · refine ⟨current, ?_, ?_⟩
    · rw [workers_of_accepted accepted, if_neg (Ne.symm same), found]
    · rw [desired, show plannedSince deployment (.planned plan :: trace) =
        plannedSince deployment trace from if_neg same]

theorem tracks_of_checked (found : m.workers.get one.workerID = some worker)
    (desired : worker.desiredVersionID = one.versionID) (same : one.SamePlan deployment) :
    Tracks m (.checked one :: trace) deployment := by
  refine ⟨worker, by rw [same.workerID, found], ?_⟩
  rw [show plannedSince deployment (.checked one :: trace) = none from if_pos same.id.symm, desired,
    same.versionID]
  rfl

end Carried

/-- What an execution knows of the deployment it has read. -/
structure Informed (m : Tables) (trace : List Event) (call : Call) : Prop where
  ready : ∀ workerID deployment, call = .ready workerID deployment →
    Known m deployment ∧ deployment.workerID = workerID
  current : ∀ deployment, call.deployment? = some deployment →
    Known m deployment ∧ Tracks m trace deployment

variable {m after : Tables} {call next : Call} {event : Event} {deployment : Deployment}
  {trace : List Event}

theorem Known.step (moves : Moves memory m call event after next) (known : Known m deployment) :
    Known after deployment := by
  rcases moves.planned_or with ⟨plan, updated, worker, version, rfl, accepted⟩ | ⟨unplanned, -⟩
  · exact known.planned accepted
  · exact known.unplanned unplanned

/-- Whatever step is taken, a deployment's Worker is followed. -/
theorem Tracks.step (moves : Moves memory m call event after next)
    (informed : Informed m trace call) (known : Known m deployment)
    (tracks : Tracks m trace deployment) : Tracks after (event :: trace) deployment := by
  rcases moves.planned_or with ⟨plan, updated, worker, version, rfl, accepted⟩ | ⟨unplanned, silent⟩
  · exact tracks.planned accepted
  · obtain ⟨worker, found, desired⟩ := tracks
    have kept := unplanned.workers _ _ found
    cases moves with
    | planned => cases silent
    | @checked workerID current checked read desired' =>
      by_cases same : checked.id = deployment.id
      · -- The same plan was found to be the desired one just now.
        obtain ⟨knownChecked, owner⟩ := informed.ready _ _ rfl
        have samePlan := knownChecked.samePlan known same
        have found : m.workers.get checked.workerID = some current := by
          rw [owner]
          exact (orError_eq_ok _ _ _).mp read
        exact tracks_of_checked found desired' samePlan
      · refine ⟨worker, kept, ?_⟩
        rw [desired, show plannedSince deployment (.checked checked :: trace) =
          plannedSince deployment trace from if_neg same]
    | early | answered | found | carried | claimed | called | recorded | ended =>
      exact ⟨worker, kept, desired⟩

/-- What an execution has of its deployment comes from the step before, or from its
check. -/
theorem Moves.deployment_or (moves : Moves memory m call event after next)
    (carries : next.deployment? = some deployment) :
    (∃ before, call.deployment? = some before ∧ before.SamePlan deployment) ∨
      ∃ workerID worker, call = .ready workerID deployment ∧ event = .checked deployment ∧
        after = m ∧ memory.getWorker m workerID = .ok worker ∧
        worker.desiredVersionID = deployment.versionID := by
  cases moves with
  | early _ early =>
    rw [early.deployment?] at carries
    cases carries
  | answered | planned | found | ended => cases carries
  | checked read desired =>
    cases carries
    exact .inr ⟨_, _, rfl, rfl, rfl, read, desired⟩
  | carried before keeps samePlan =>
    rw [keeps] at carries
    cases carries
    exact .inl ⟨_, before, samePlan⟩
  | claimed waiting =>
    cases carries
    rcases waiting with rfl | rfl <;> exact .inl ⟨_, rfl, samePlan_refl _⟩
  | called _ before _ keeps samePlan =>
    rw [keeps] at carries
    cases carries
    exact .inl ⟨_, before, samePlan⟩
  | recorded =>
    cases carries
    exact .inl ⟨_, rfl, samePlan_refl _⟩

theorem Moves.ready_found {workerID : String}
    (moves : Moves memory m call event after (.ready workerID deployment)) :
    Known after deployment ∧ deployment.workerID = workerID := by
  generalize same : Call.ready workerID deployment = next at moves
  cases moves with
  | early _ early => rw [← same] at early; exact early.elim
  | carried _ keeps => rw [← same] at keeps; cases keeps
  | called _ _ _ keeps => rw [← same] at keeps; cases keeps
  | answered | planned | checked | claimed | recorded | ended => cases same
  | found read =>
    cases same
    have read : m.getWorkerDeployment workerID _ = .ok deployment := read
    simp only [Tables.getWorkerDeployment, bind_eq_ok, orError_eq_ok, ensure_eq_ok,
      pure_eq_ok] at read
    obtain ⟨stored, found, _, owner, rfl⟩ := read
    exact ⟨⟨stored, by rw [Keyed.key_of_get found, found], samePlan_refl _⟩, owner⟩

theorem Informed.step (moves : Moves memory m call event after next)
    (informed : Informed m trace call) : Informed after (event :: trace) next where
  ready := by
    rintro workerID deployment rfl
    exact moves.ready_found
  current := by
    intro deployment carries
    rcases moves.deployment_or carries with
      ⟨before, had, samePlan⟩ | ⟨workerID, worker, rfl, rfl, rfl, read, desired⟩
    · obtain ⟨known, tracks⟩ := informed.current before had
      exact ⟨(known.step moves).congr samePlan, (tracks.step moves informed known).congr samePlan⟩
    · obtain ⟨known, owner⟩ := informed.ready _ _ rfl
      refine ⟨known, tracks_of_checked ?_ desired (samePlan_refl _)⟩
      rw [owner]
      exact (orError_eq_ok _ _ _).mp read

theorem Informed.other {other : Call} (moves : Moves memory m call event after next)
    (informed : Informed m trace call) (others : Informed m trace other) :
    Informed after (event :: trace) other where
  ready workerID deployment same :=
    ⟨(others.ready workerID deployment same).1.step moves,
      (others.ready workerID deployment same).2⟩
  current := by
    intro deployment carries
    obtain ⟨known, tracks⟩ := others.current deployment carries
    exact ⟨known.step moves, tracks.step moves informed known⟩

theorem informed_of_begins (begins : call.Begins) : Informed m trace call := by
  constructor
  · rintro workerID deployment rfl
    cases begins
  · intro deployment carries
    cases begins <;> cases carries

theorem Informed.changed (change : TablesChange m after) (informed : Informed m trace call) :
    Informed after (.silent :: trace) call := by
  have step := (TablesChange.kept change).unplanned
  constructor
  · intro workerID deployment same
    obtain ⟨known, owner⟩ := informed.ready workerID deployment same
    exact ⟨known.unplanned step, owner⟩
  · intro deployment carries
    obtain ⟨known, worker, found, desired⟩ := informed.current deployment carries
    exact ⟨known.unplanned step, worker, step.workers _ _ found, desired⟩

/-- At a call of the provider the Worker desired the version of the deployment exactly
if no plan for another one was the newest since the check. -/
def DesiredUnlessSuperseded (trace : List Event) : Prop :=
  ∀ newer method deployment desired older,
    trace = newer ++ .called method deployment desired :: older →
    (desired = some deployment.versionID ↔ ¬ SupersededSince older deployment)

theorem Tracks.desired_iff (tracks : Tracks m trace deployment) :
    memory.desired m deployment.workerID = some deployment.versionID ↔
      ¬ SupersededSince trace deployment := by
  obtain ⟨worker, found, desired⟩ := tracks
  have read : memory.desired m deployment.workerID = some worker.desiredVersionID := by
    simp only [Repository.desired, memory, Tables.getWorker, found]
    rfl
  rw [read, desired]
  unfold SupersededSince
  cases plannedSince deployment trace with
  | none => simp
  | some versionID => simp

theorem informed_inductive (boundary : Boundary) (start : Tables) :
    Inductive (plane memory boundary) anyStep start (fun _ trace => DesiredUnlessSuperseded trace)
      Informed fun _ _ => True where
  symmetric _ _ _ := trivial
  initial := by
    intro newer method deployment desired older split
    simp at split
  begun := by
    rintro m trace call - begins
    exact ⟨informed_of_begins begins, fun _ => trivial⟩
  advanced := by
    rintro m trace call event after next earlier informed ⟨choice, step⟩ -
    have moves := moves_of_advance step
    refine ⟨?_, informed.step moves, fun other others _ => ⟨informed.other moves others, trivial⟩⟩
    intro newer method deployment desired older split
    cases newer with
    | cons newest newer =>
      obtain ⟨-, rfl⟩ := List.cons.inj split
      exact earlier newer method deployment desired older rfl
    | nil =>
      obtain ⟨rfl, rfl⟩ := List.cons.inj split
      generalize same : Event.called method deployment desired = event at moves
      cases moves with
      | called _ carries =>
        unfold Repository.called at same
        cases same
        exact (informed.current _ carries).2.desired_iff
      | early | answered | planned | found | checked | carried | claimed | recorded | ended =>
        cases same
  disturbed := by
    rintro m trace event after earlier ⟨change⟩
    refine ⟨?_, fun other informed => informed.changed change⟩
    intro newer method deployment desired older split
    cases newer with
    | cons newest newer =>
      obtain ⟨-, rfl⟩ := List.cons.inj split
      exact earlier newer method deployment desired older rfl
    | nil => cases (List.cons.inj split).1

/-- In every run the provider is called for a version that the Worker desires exactly
if the newest plan accepted for the Worker since the execution's check, if there is one,
asks for that version too. -/
theorem published_desired_iff (boundary : Boundary) (start : Tables)
    (config : Config Tables Call Event)
    (reached : Reachable (plane memory boundary) anyStep start config) (newer older : List Event)
    (method : Method) (deployment : Deployment) (desired : Option String)
    (split : config.trace = newer ++ .called method deployment desired :: older) :
    desired = some deployment.versionID ↔ ¬ SupersededSince older deployment :=
  ((informed_inductive boundary start).holds reached).1 newer method deployment desired older split

/-- The second version is planned after an execution of the first one has made its
check; the first one is published nevertheless. -/
theorem superseded_published :
    ¬ ∀ (boundary : Boundary) (start : Tables) (config : Config Tables Call Event),
        Reachable (plane memory boundary) anyStep start config →
        ∀ method deployment desired, .called method deployment desired ∈ config.trace →
          method.publishes = true → desired = some deployment.versionID := by
  intro always
  have s0 : Reachable (plane memory sampleBoundary) anyStep sampleTables _ := .start
  have s1 := s0.call (.planArrived samplePrincipal "worker_1" (.ok sampleInput)) (by exact .plan ..)
  have s2 := s1.ahead _ (sample_takes 0) 5 0 rfl
  have s3 := s2.call (.arrived samplePrincipal "worker_1" (newID "cfdep" (sampleRaw 0)) (.ok ()))
    (by exact .execute ..)
  have s4 := s3.ahead _ (sample_takes 0) 9 1 rfl
  have s5 := s4.call (.planArrived samplePrincipal "worker_1" (.ok ⟨"wver_2", .deploy⟩))
    (by exact .plan ..)
  have s6 := s5.ahead _ (sample_takes 1) 5 2 rfl
  have s7 := s6.ahead _ (sample_takes 0) 1 1 rfl
  have desired := always _ _ _ s7 .deployVersion _ (some "wver_2") (.head _) rfl
  exact absurd (Option.some.inj desired) (by decide +kernel)

theorem desired_published :
    ∃ config newer older deployment,
      Reachable (plane memory sampleBoundary) anyStep sampleTables config ∧
        config.trace = newer ++
          .called .deployVersion deployment (some deployment.versionID) :: older ∧
        ¬ SupersededSince older deployment := by
  have s0 : Reachable (plane memory sampleBoundary) anyStep sampleTables _ := .start
  have s1 := s0.call (.planArrived samplePrincipal "worker_1" (.ok sampleInput)) (by exact .plan ..)
  have s2 := s1.ahead _ (sample_takes 0) 5 0 rfl
  have s3 := s2.call (.arrived samplePrincipal "worker_1" (newID "cfdep" (sampleRaw 0)) (.ok ()))
    (by exact .execute ..)
  have s4 := s3.ahead _ (sample_takes 0) 10 1 rfl
  exact ⟨_, [], _, _, s4, rfl,
    (published_desired_iff sampleBoundary sampleTables _ s4 [] _ _ _ _ rfl).mp rfl⟩

end VpsManager.Cloudflare
