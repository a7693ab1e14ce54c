import VpsManager.Cloudflare.Plane

namespace VpsManager.Cloudflare

open Go Control Interleaving

theorem Deployment.SamePlan.trans {first second third : Deployment}
    (one : first.SamePlan second) (two : second.SamePlan third) : first.SamePlan third :=
  ⟨two.id.trans one.id, two.workerID.trans one.workerID, two.versionID.trans one.versionID,
    two.previousDesiredVersionID.trans one.previousDesiredVersionID, two.kind.trans one.kind,
    two.createdAt.trans one.createdAt, two.createdBy.trans one.createdBy⟩

/-- What every step but an accepted plan leaves of the tables. -/
structure Unplanned (m after : Tables) : Prop where
  kept : ∀ id deployment, m.deployments.get id = some deployment →
    ∃ updated, after.deployments.get id = some updated ∧ deployment.SamePlan updated
  known : ∀ id updated, after.deployments.get id = some updated →
    ∃ deployment, m.deployments.get id = some deployment ∧ deployment.SamePlan updated
  workers : ∀ id worker, m.workers.get id = some worker → after.workers.get id = some worker
  created : ∀ id worker, after.workers.get id = some worker →
    m.workers.get id = some worker ∨
      m.workers.get id = none ∧ worker.version = 1 ∧ worker.desiredVersionID = ""
  versions : ∀ id version, m.versions.get id = some version →
    ∃ updated, after.versions.get id = some updated ∧
      updated.metadata.workerID = version.metadata.workerID

variable {m after : Tables}

theorem unplanned_of_same (deployments : after.deployments = m.deployments)
    (workers : after.workers = m.workers)
    (versions : ∀ id version, m.versions.get id = some version →
      ∃ updated, after.versions.get id = some updated ∧
        updated.metadata.workerID = version.metadata.workerID) : Unplanned m after where
  kept id deployment found := ⟨deployment, by rw [deployments, found], samePlan_refl _⟩
  known id updated found := ⟨updated, by rw [← deployments, found], samePlan_refl _⟩
  workers id worker found := by rw [workers, found]
  created id worker found := .inl (by rw [← workers, found])
  versions := versions

theorem Unplanned.refl (m : Tables) : Unplanned m m :=
  unplanned_of_same rfl rfl fun _ version found => ⟨version, found, rfl⟩

theorem TablesKept.unplanned (kept : TablesKept m after) : Unplanned m after where
  kept id deployment found := ⟨deployment, by rw [kept.deployments, found], samePlan_refl _⟩
  known id updated found := ⟨updated, by rw [← kept.deployments, found], samePlan_refl _⟩
  workers := kept.workers
  created := kept.created
  versions id version found := ⟨version, kept.versions id version found, rfl⟩

theorem unplanned_of_writes {updated : Deployment} {expected : State}
    (writes : memory.Writes m updated expected after) : Unplanned m after := by
  rcases writes with done | impossible
  · have done : m.updateWorkerDeployment updated expected = .ok after := by
      simpa [memory] using done
    obtain ⟨⟨current, found, -, valid⟩, rfl⟩ := Tables.updateWorkerDeployment_eq_ok.mp done
    have same := samePlan_of_valid valid
    refine ⟨?_, ?_, fun _ _ found => found, fun _ _ found => .inl found,
      fun _ version found => ⟨version, found, rfl⟩⟩
    · intro id deployment present
      rw [Keyed.get_put]
      split
      · rename_i key
        rw [key, found] at present
        cases present
        exact ⟨updated, rfl, same⟩
      · exact ⟨deployment, present, samePlan_refl _⟩
    · intro id other present
      rw [Keyed.get_put] at present
      split at present
      · rename_i key
        cases present
        exact ⟨current, by rw [key, found], same⟩
      · exact ⟨other, present, samePlan_refl _⟩
  · cases impossible

def Event.plan? : Event → Option Deployment
  | .planned deployment => some deployment
  | _ => none

variable {event : Event}

theorem Moves.planned_or {call next : Call} (moves : Moves memory m call event after next) :
    (∃ deployment updated worker version, event = .planned deployment ∧
        Tables.PlanAccepted m after deployment updated worker version) ∨
      Unplanned m after ∧ event.plan? = none := by
  cases moves with
  | planned done =>
    obtain ⟨worker, version, accepted⟩ := Tables.planWorkerDeployment_ok done
    exact .inl ⟨_, _, worker, version, rfl, accepted⟩
  | claimed _ writes => exact .inr ⟨unplanned_of_writes writes, rfl⟩
  | ended _ writes => exact .inr ⟨unplanned_of_writes writes, rfl⟩
  | recorded done =>
    obtain ⟨workers, deployments, versions⟩ := Tables.updateWorkerVersionProvider_ok done
    exact .inr ⟨unplanned_of_same deployments workers versions, rfl⟩
  | early | answered | found | checked | carried | called => exact .inr ⟨.refl _, rfl⟩

def plansOf (workerID : String) : List Event → List Deployment
  | [] => []
  | .planned deployment :: earlier =>
    if deployment.workerID = workerID then deployment :: plansOf workerID earlier
    else plansOf workerID earlier
  | _ :: earlier => plansOf workerID earlier

/-- The version that the newest plan asks for. -/
def desiredBy : List Deployment → String
  | [] => ""
  | newest :: _ => newest.versionID

/-- Each plan starts from the version the one before it asked for, and a rollback asks
for another one. -/
def Chained : List Deployment → Prop
  | [] => True
  | newest :: earlier =>
    newest.previousDesiredVersionID = desiredBy earlier ∧
      (newest.kind = .rollback → newest.versionID ≠ desiredBy earlier) ∧ Chained earlier

structure Lists (m : Tables) (workerID : String) (deployments : List Deployment) : Prop where
  nodup : deployments.Nodup
  mem_iff : ∀ deployment, deployment ∈ deployments ↔
    m.deployments.get deployment.id = some deployment ∧ deployment.workerID = workerID

/-- The stored deployments of a Worker are its plans. -/
structure Recorded (m : Tables) (workerID : String) (plans : List Deployment) : Prop where
  chained : Chained plans
  distinct : (plans.map Deployment.id).Nodup
  stored : ∀ plan ∈ plans, plan.workerID = workerID ∧
    ∃ deployment, m.deployments.get plan.id = some deployment ∧ plan.SamePlan deployment
  all : ∀ id deployment, m.deployments.get id = some deployment →
    deployment.workerID = workerID → id ∈ plans.map Deployment.id

structure Follows (m : Tables) (worker : Worker) (plans : List Deployment) : Prop where
  version : worker.version = 1 + UInt64.ofNat plans.length
  desired : worker.desiredVersionID = desiredBy plans
  owned : plans ≠ [] → ∃ version, m.versions.get worker.desiredVersionID = some version ∧
    version.metadata.workerID = worker.id

/-- The tables agree with the plans that were accepted. -/
structure Agrees (m : Tables) (trace : List Event) (workerID : String) : Prop where
  recorded : Recorded m workerID (plansOf workerID trace)
  follows : ∀ worker, m.workers.get workerID = some worker →
    Follows m worker (plansOf workerID trace)
  absent : m.workers.get workerID = none → plansOf workerID trace = []

theorem plansOf_unplanned (unplanned : event.plan? = none) (workerID : String)
    (trace : List Event) : plansOf workerID (event :: trace) = plansOf workerID trace := by
  cases event with
  | planned deployment => cases unplanned
  | silent | checked | called => rfl

section Steps

variable {workerID : String} {plans : List Deployment}

theorem Recorded.unplanned (recorded : Recorded m workerID plans) (step : Unplanned m after) :
    Recorded after workerID plans where
  chained := recorded.chained
  distinct := recorded.distinct
  stored := by
    intro plan member
    obtain ⟨owner, deployment, found, same⟩ := recorded.stored plan member
    obtain ⟨updated, present, updates⟩ := step.kept _ _ found
    exact ⟨owner, updated, present, same.trans updates⟩
  all := by
    intro id updated found owner
    obtain ⟨deployment, present, same⟩ := step.known _ _ found
    exact recorded.all id deployment present (same.workerID.symm.trans owner)

theorem Follows.unplanned {worker : Worker} (follows : Follows m worker plans)
    (step : Unplanned m after) : Follows after worker plans where
  version := follows.version
  desired := follows.desired
  owned := by
    intro some
    obtain ⟨version, found, owner⟩ := follows.owned some
    obtain ⟨updated, present, same⟩ := step.versions _ _ found
    exact ⟨updated, present, same.trans owner⟩

theorem Agrees.unplanned {trace : List Event} (agrees : Agrees m trace workerID)
    (step : Unplanned m after) (silent : event.plan? = none) :
    Agrees after (event :: trace) workerID := by
  constructor <;> rw [plansOf_unplanned silent]
  · exact agrees.recorded.unplanned step
  · intro worker found
    rcases step.created _ _ found with present | ⟨missing, version, desired⟩
    · exact (agrees.follows worker present).unplanned step
    · rw [agrees.absent missing]
      exact ⟨version, desired, fun some => absurd rfl some⟩
  · intro missing
    refine agrees.absent ?_
    cases found : m.workers.get workerID with
    | none => rfl
    | some worker => rw [step.workers _ _ found] at missing; cases missing

variable {deployment : Deployment} {updated worker : Worker} {version : StoredWorkerVersion}
  (accepted : Tables.PlanAccepted m after deployment updated worker version)

include accepted

theorem workerID_of_accepted : worker.id = deployment.workerID :=
  Keyed.key_of_get accepted.hasWorker

theorem deployments_of_accepted (id : String) :
    after.deployments.get id =
      if id = deployment.id then some deployment else m.deployments.get id := by
  rw [accepted.after]
  exact Keyed.get_put _ _ _

theorem workers_of_accepted (id : String) :
    after.workers.get id =
      if id = deployment.workerID then some updated else m.workers.get id := by
  rw [accepted.after]
  have same : updated.id = deployment.workerID :=
    accepted.updatedID.trans (workerID_of_accepted accepted)
  rw [← same]
  exact Keyed.get_put _ _ _

theorem Recorded.fresh (recorded : Recorded m workerID plans) :
    deployment.id ∉ plans.map Deployment.id := by
  intro member
  obtain ⟨plan, inside, same⟩ := List.mem_map.mp member
  obtain ⟨-, stored, found, -⟩ := recorded.stored plan inside
  rw [same, accepted.fresh] at found
  cases found

theorem Recorded.kept (recorded : Recorded m workerID plans) :
    ∀ plan ∈ plans, plan.workerID = workerID ∧
      ∃ stored, after.deployments.get plan.id = some stored ∧ plan.SamePlan stored := by
  intro plan inside
  obtain ⟨owner, stored, found, same⟩ := recorded.stored plan inside
  have differs : plan.id ≠ deployment.id := by
    intro key
    exact recorded.fresh accepted (key ▸ List.mem_map_of_mem inside)
  refine ⟨owner, stored, ?_, same⟩
  rw [deployments_of_accepted accepted, if_neg differs, found]

theorem Recorded.other (recorded : Recorded m workerID plans)
    (differs : deployment.workerID ≠ workerID) : Recorded after workerID plans where
  chained := recorded.chained
  distinct := recorded.distinct
  stored := recorded.kept accepted
  all := by
    intro id stored found owner
    rw [deployments_of_accepted accepted] at found
    split at found
    · cases found
      exact absurd owner differs
    · exact recorded.all id stored found owner

theorem Recorded.planned (recorded : Recorded m deployment.workerID plans)
    (follows : Follows m worker plans) :
    Recorded after deployment.workerID (deployment :: plans) where
  chained := by
    refine ⟨accepted.previous.trans follows.desired, ?_, recorded.chained⟩
    intro isRollback same
    exact (accepted.rollback isRollback).2 (follows.desired.trans same.symm)
  distinct := List.nodup_cons.mpr ⟨recorded.fresh accepted, recorded.distinct⟩
  stored := by
    intro plan member
    rcases List.mem_cons.mp member with rfl | inside
    · refine ⟨rfl, plan, ?_, samePlan_refl _⟩
      rw [deployments_of_accepted accepted, if_pos rfl]
    · exact recorded.kept accepted plan inside
  all := by
    intro id stored found owner
    rw [deployments_of_accepted accepted] at found
    split at found
    · rename_i same
      exact same ▸ List.mem_cons_self
    · exact List.mem_cons_of_mem _ (recorded.all id stored found owner)

theorem Follows.planned (follows : Follows m worker plans) :
    Follows after updated (deployment :: plans) where
  version := by
    rw [accepted.updatedVersion, follows.version, List.length_cons, UInt64.ofNat_add,
      UInt64.add_assoc]
    rfl
  desired := accepted.desired
  owned _ := by
    refine ⟨version, ?_, accepted.owned.trans accepted.updatedID.symm⟩
    rw [accepted.desired, accepted.after]
    exact accepted.hasVersion

theorem Agrees.planned {trace : List Event} (agrees : Agrees m trace workerID)
    (own : Agrees m trace deployment.workerID) :
    Agrees after (.planned deployment :: trace) workerID := by
  by_cases same : deployment.workerID = workerID
  · subst same
    have follows := own.follows worker accepted.hasWorker
    have plans : plansOf deployment.workerID (.planned deployment :: trace) =
        deployment :: plansOf deployment.workerID trace := if_pos rfl
    constructor <;> rw [plans]
    · exact own.recorded.planned accepted follows
    · intro current found
      rw [workers_of_accepted accepted, if_pos rfl] at found
      cases found
      exact follows.planned accepted
    · intro missing
      rw [workers_of_accepted accepted, if_pos rfl] at missing
      cases missing
  · have plans : plansOf workerID (.planned deployment :: trace) = plansOf workerID trace :=
      if_neg same
    have workers : after.workers.get workerID = m.workers.get workerID := by
      rw [workers_of_accepted accepted, if_neg (Ne.symm same)]
    have versions : after.versions = m.versions := by rw [accepted.after]
    constructor <;> rw [plans]
    · exact agrees.recorded.other accepted same
    · intro current found
      rw [workers] at found
      obtain ⟨version, desired, owned⟩ := agrees.follows current found
      exact ⟨version, desired, by rwa [versions]⟩
    · rw [workers]
      exact agrees.absent

end Steps

/-- Workers as they are created, without deployments. -/
structure Fresh (m : Tables) : Prop where
  workers : ∀ id worker, m.workers.get id = some worker →
    worker.version = 1 ∧ worker.desiredVersionID = ""
  deployments : m.deployments = .empty

theorem Fresh.agrees (fresh : Fresh m) (workerID : String) : Agrees m [] workerID where
  recorded := by
    refine ⟨trivial, List.nodup_nil, ?_, ?_⟩
    · intro plan member
      cases member
    · intro id deployment found
      rw [fresh.deployments, Keyed.get_empty] at found
      cases found
  follows worker found :=
    ⟨(fresh.workers workerID worker found).1, (fresh.workers workerID worker found).2,
      fun some => absurd rfl some⟩
  absent _ := rfl

theorem agrees_inductive (boundary : Boundary) (start : Tables) (fresh : Fresh start) :
    Inductive (plane memory boundary) anyStep start
      (fun m trace => ∀ workerID, Agrees m trace workerID) (fun _ _ _ => True)
      fun _ _ => True where
  symmetric _ _ _ := trivial
  initial := fresh.agrees
  begun _ _ _ _ _ := ⟨trivial, fun _ => trivial⟩
  advanced := by
    rintro m trace call event after next agrees - ⟨choice, step⟩ -
    refine ⟨?_, trivial, fun _ _ _ => ⟨trivial, trivial⟩⟩
    intro workerID
    rcases (moves_of_advance step).planned_or with
      ⟨deployment, updated, worker, version, rfl, accepted⟩ | ⟨unplanned, silent⟩
    · exact (agrees workerID).planned accepted (agrees deployment.workerID)
    · exact (agrees workerID).unplanned unplanned silent
  disturbed := by
    rintro m trace event after agrees ⟨change⟩
    exact ⟨fun workerID => (agrees workerID).unplanned (TablesChange.kept change).unplanned rfl,
      fun _ _ => trivial⟩

theorem Recorded.length_eq {workerID : String} {plans deployments : List Deployment}
    (recorded : Recorded m workerID plans) (lists : Lists m workerID deployments) :
    deployments.length = plans.length := by
  have distinct : (deployments.map Deployment.id).Nodup := by
    refine lists.nodup.map_on ?_
    intro one first other second same
    have found := ((lists.mem_iff one).mp first).1
    rw [same, ((lists.mem_iff other).mp second).1] at found
    exact (Option.some.inj found).symm
  have same : ∀ id, id ∈ deployments.map Deployment.id ↔ id ∈ plans.map Deployment.id := by
    intro id
    constructor
    · intro member
      obtain ⟨deployment, inside, rfl⟩ := List.mem_map.mp member
      obtain ⟨found, owner⟩ := (lists.mem_iff deployment).mp inside
      exact recorded.all _ deployment found owner
    · intro member
      obtain ⟨plan, inside, rfl⟩ := List.mem_map.mp member
      obtain ⟨owner, deployment, found, samePlan⟩ := recorded.stored plan inside
      refine List.mem_map.mpr ⟨deployment, (lists.mem_iff deployment).mpr ⟨?_, ?_⟩, samePlan.id⟩
      · rw [samePlan.id, found]
      · exact samePlan.workerID.trans owner
  have permutes := (List.perm_ext_iff_of_nodup distinct recorded.distinct).mpr same
  simpa using permutes.length_eq

/-- In every run from fresh Workers, a Worker's version counts its deployments, its
deployments form one chain, and it desires the version of the last one, which is its own. -/
theorem plans_form_chain (boundary : Boundary) (start : Tables) (fresh : Fresh start)
    (config : Config Tables Call Event)
    (reached : Reachable (plane memory boundary) anyStep start config) (workerID : String)
    (worker : Worker) (found : config.shared.workers.get workerID = some worker) :
    Recorded config.shared workerID (plansOf workerID config.trace) ∧
      Follows config.shared worker (plansOf workerID config.trace) ∧
      ∀ deployments, Lists config.shared workerID deployments →
        worker.version = 1 + UInt64.ofNat deployments.length := by
  obtain ⟨agrees, -, -⟩ := (agrees_inductive boundary start fresh).holds reached
  have recorded := (agrees workerID).recorded
  have follows := (agrees workerID).follows worker found
  refine ⟨recorded, follows, ?_⟩
  intro deployments lists
  rw [recorded.length_eq lists]
  exact follows.version

theorem sampleTables_fresh : Fresh sampleTables where
  workers := by
    intro id worker found
    rw [Keyed.eq_of_get_single found]
    exact ⟨rfl, rfl⟩
  deployments := rfl

def rollbackTo (versionID : String) : CreateWorkerDeploymentRequest := ⟨versionID, .rollback⟩

theorem two_plans_chained :
    ∃ config worker first second,
      Reachable (plane memory sampleBoundary) anyStep sampleTables config ∧
        config.shared.workers.get "worker_1" = some worker ∧
        plansOf "worker_1" config.trace = [second, first] ∧
        (first.kind = .deploy ∧ second.kind = .rollback) ∧
        Recorded config.shared "worker_1" [second, first] ∧
        Follows config.shared worker [second, first] := by
  have s0 : Reachable (plane memory sampleBoundary) anyStep sampleTables _ := .start
  have s1 := s0.call (.planArrived samplePrincipal "worker_1" (.ok sampleInput)) (by exact .plan ..)
  have s2 := s1.ahead _ (sample_takes 0) 5 0 rfl
  have s3 := s2.call (.planArrived samplePrincipal "worker_1" (.ok (rollbackTo "wver_2")))
    (by exact .plan ..)
  have s4 := s3.ahead _ (sample_takes 1) 5 1 rfl
  obtain ⟨recorded, follows, -⟩ := plans_form_chain sampleBoundary sampleTables sampleTables_fresh _
    s4 "worker_1" _ rfl
  exact ⟨_, _, _, _, s4, rfl, rfl, ⟨rfl, rfl⟩, recorded, follows⟩

end VpsManager.Cloudflare
