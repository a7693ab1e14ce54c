import VpsManager.Cloudflare.Postgres

/- At most one request calls the provider for a deployment, whichever store the
handlers use. What the argument needs of a store is stated once. -/
namespace VpsManager.Cloudflare

open Go Control Interleaving

variable {σ ρ : Type}

/-- A record is replaced, and had the expected state. -/
structure Swapped (stored : σ → String → Option ρ) (stateName : ρ → String) (s : σ)
    (updated : Deployment) (expected : State) (after : σ) : Prop where
  before : ∃ old, stored s updated.id = some old ∧ stateName old = expected.name
  left : ∃ new, stored after updated.id = some new ∧ stateName new = updated.state.name
  others : ∀ id, id ≠ updated.id → stored after id = stored s id

/-- Every record stays as it is. -/
def Extends (stored : σ → String → Option ρ) (s after : σ) : Prop :=
  ∀ id record, stored s id = some record → stored after id = some record

/-- A store whose updates of deployments are conditional on their state, and that
changes no deployment otherwise. -/
structure Laws (repo : Repository σ) (stored : σ → String → Option ρ) (stateName : ρ → String) :
    Prop where
  planned : ∀ s deployment updated after,
    repo.planWorkerDeployment s deployment updated = .ok after → Extends stored s after
  recorded : ∀ s workerID versionID providerVersionID number uploadedAt after,
    repo.updateWorkerVersionProvider s workerID versionID providerVersionID number uploadedAt =
      .ok after → Extends stored s after
  changed : ∀ s after, repo.change s after → Extends stored s after
  written : ∀ s updated expected after, repo.Writes s updated expected after →
    Swapped stored stateName s updated expected after

/-- The deployment has left its first state. -/
def Claimed (stored : σ → String → Option ρ) (stateName : ρ → String) (s : σ) (id : String) :
    Prop :=
  ∃ record, stored s id = some record ∧ stateName record ≠ State.readyForProvider.name

theorem Move.name_ne {before after : State} (move : Move before after) :
    after.name ≠ State.readyForProvider.name := by
  cases move <;> decide

variable {id : String} {record : ρ} {repo : Repository σ} {s after : σ} {event : Event}

section Laws

variable {stored : σ → String → Option ρ} {stateName : ρ → String} {call next : Call}

theorem Swapped.keeps {updated : Deployment} {expected : State}
    (swapped : Swapped stored stateName s updated expected after)
    (found : stored s id = some record) (differs : stateName record ≠ expected.name) :
    stored after id = some record := by
  by_cases same : id = updated.id
  · subst same
    obtain ⟨old, present, state⟩ := swapped.before
    rw [found] at present
    cases present
    exact absurd state differs
  · rw [swapped.others id same, found]

theorem Swapped.claimed {updated : Deployment} {expected : State}
    (swapped : Swapped stored stateName s updated expected after)
    (left : updated.state.name ≠ State.readyForProvider.name)
    (claimed : id = updated.id ∨ Claimed stored stateName s id) :
    Claimed stored stateName after id := by
  by_cases same : id = updated.id
  · subst same
    obtain ⟨new, present, state⟩ := swapped.left
    exact ⟨new, present, by rwa [state]⟩
  · obtain ⟨record, found, state⟩ := claimed.resolve_left same
    exact ⟨record, (swapped.others id same).trans found, state⟩

theorem Extends.claimed (extended : Extends stored s after)
    (claimed : Claimed stored stateName s id) : Claimed stored stateName after id := by
  obtain ⟨record, found, state⟩ := claimed
  exact ⟨record, extended id record found, state⟩

variable (laws : Laws repo stored stateName)

include laws

theorem Laws.keeps_ended (moves : Moves repo s call event after next)
    (found : stored s id = some record)
    (ended : stateName record = State.succeeded.name ∨ stateName record = State.failed.name) :
    stored after id = some record := by
  have notReady : stateName record ≠ State.readyForProvider.name := by
    rcases ended with name | name <;> rw [name] <;> decide
  have notRunning : stateName record ≠ State.running.name := by
    rcases ended with name | name <;> rw [name] <;> decide
  cases moves with
  | planned done => exact laws.planned _ _ _ _ done id record found
  | recorded done => exact laws.recorded _ _ _ _ _ _ _ done id record found
  | claimed _ writes => exact (laws.written _ _ _ _ writes).keeps found notReady
  | ended _ writes => exact (laws.written _ _ _ _ writes).keeps found notRunning
  | early | answered | found | checked | carried | called => exact found

theorem Laws.keeps_claimed (moves : Moves repo s call event after next)
    (consistent : call.Consistent) (claimed : Claimed stored stateName s id) :
    Claimed stored stateName after id := by
  cases moves with
  | planned done => exact Extends.claimed (laws.planned _ _ _ _ done) claimed
  | recorded done => exact Extends.claimed (laws.recorded _ _ _ _ _ _ _ done) claimed
  | claimed waiting writes =>
    refine (laws.written _ _ _ _ writes).claimed ?_ (.inr claimed)
    rcases waiting with rfl | rfl <;> rw [show _ = State.running from consistent] <;> decide
  | ended waiting writes =>
    refine (laws.written _ _ _ _ writes).claimed ?_ (.inr claimed)
    rcases waiting with rfl | rfl <;> exact Move.name_ne consistent
  | early | answered | found | checked | carried | called => exact claimed

end Laws

theorem Moves.consistent {call next : Call} (moves : Moves repo s call event after next)
    (consistent : call.Consistent) : next.Consistent := by
  cases moves with
  | early before after => cases next <;> trivial
  | answered | planned | found | checked | ended => trivial
  | carried _ _ _ _ _ kept => exact kept consistent
  | claimed waiting => rcases waiting with rfl | rfl <;> exact consistent
  | called _ _ _ _ _ _ kept => exact kept consistent
  | recorded => exact consistent

theorem Moves.claimed_or {call next : Call} (moves : Moves repo s call event after next) :
    next.claimed? = call.claimed? ∨
      ∃ execution, (call = .opened execution ∨ call = .starting execution) ∧
        next = .started execution ∧ repo.Writes s execution.running .readyForProvider after := by
  cases moves with
  | early before after => exact .inl (after.claimed?.trans before.claimed?.symm)
  | answered | planned | found | checked | recorded => exact .inl rfl
  | carried _ _ _ claimed => exact .inl claimed
  | claimed waiting writes => exact .inr ⟨_, waiting, rfl, writes⟩
  | called _ _ claimed _ _ contacted =>
    exact .inl ((Call.claimed_of_contacted contacted).trans claimed.symm)
  | ended waiting => rcases waiting with rfl | rfl <;> exact .inl rfl

theorem Moves.contacted_kept {call next : Call} (moves : Moves repo s call event after next)
    (contacted : call.contacted? = some id) : next.contacted? = some id := by
  have claimed := Call.claimed_of_contacted contacted
  cases moves with
  | early before after =>
    rw [before.claimed?] at claimed
    cases claimed
  | answered => exact claimed
  | planned | found | checked => cases claimed
  | carried _ _ _ _ kept => exact kept.trans contacted
  | claimed waiting => rcases waiting with rfl | rfl <;> cases claimed
  | called _ _ same _ _ contacted => exact contacted.trans (same.symm.trans claimed)
  | recorded => exact contacted
  | ended waiting => rcases waiting with rfl | rfl <;> exact claimed

/-- Deployments for which the provider is called have one request each. -/
structure ContactedOnce (calls : List Call) (trace : List Event) : Prop where
  once : calls.Pairwise fun one other =>
    ∀ id, one.contacted? = some id → other.contacted? ≠ some id
  owned : ∀ method deployment desired, .called method deployment desired ∈ trace →
    ∃ call ∈ calls, call.contacted? = some deployment.id

/-- No two requests have claimed the same deployment. -/
def Call.Apart (one other : Call) : Prop :=
  ∀ id, one.claimed? = some id → other.claimed? ≠ some id

section Runs

variable {stored : σ → String → Option ρ} {stateName : ρ → String} {boundary : Boundary} {start : σ}
  {config : Config σ Call Event}

/-- A request that has claimed a deployment has it to itself: the deployment is not
ready any more, and only one that is ready can be claimed. -/
theorem claims_inductive (laws : Laws repo stored stateName) (boundary : Boundary) (start : σ) :
    Inductive (plane repo boundary) anyStep start (fun _ _ => True)
      (fun s _ call => call.Consistent ∧
        ∀ id, call.claimed? = some id → Claimed stored stateName s id) Call.Apart where
  symmetric one other apart id ours theirs := apart id theirs ours
  initial := trivial
  begun := by
    rintro s trace call - begins
    cases begins with
    | plan => exact ⟨⟨trivial, nofun⟩, fun _ => nofun⟩
    | execute => exact ⟨⟨trivial, nofun⟩, fun _ => nofun⟩
  advanced := by
    rintro s trace call event after next - ⟨consistent, claims⟩ ⟨choice, step⟩ -
    have moves := moves_of_advance step
    refine ⟨trivial, ⟨moves.consistent consistent, ?_⟩, ?_⟩
    · intro id claimed
      rcases moves.claimed_or with same | ⟨execution, waiting, rfl, writes⟩
      · exact laws.keeps_claimed moves consistent (claims id (same ▸ claimed))
      · have running : execution.running.state = .running := by
          rcases waiting with rfl | rfl <;> exact consistent
        refine (laws.written _ _ _ _ writes).claimed ?_ (.inl (Option.some.inj claimed).symm)
        rw [running]
        decide
    · rintro other ⟨otherConsistent, otherClaims⟩ apart
      refine ⟨⟨otherConsistent, fun id claimed =>
        laws.keeps_claimed moves consistent (otherClaims id claimed)⟩, ?_⟩
      intro id ours theirs
      rcases moves.claimed_or with same | ⟨execution, waiting, rfl, writes⟩
      · exact apart id (same ▸ ours) theirs
      · -- The record the UPDATE found was ready, so nobody else had claimed it.
        obtain rfl : execution.running.id = id := Option.some.inj ours
        obtain ⟨record, found, state⟩ := (laws.written _ _ _ _ writes).before
        obtain ⟨other, present, left⟩ := otherClaims _ theirs
        rw [found] at present
        cases present
        exact left state
  disturbed := by
    rintro s trace event after - ⟨change⟩
    refine ⟨trivial, ?_⟩
    rintro other ⟨consistent, claims⟩
    exact ⟨consistent, fun id claimed => Extends.claimed (laws.changed _ _ change)
      (claims id claimed)⟩

theorem contactedOnce_of_laws (laws : Laws repo stored stateName)
    (reached : Reachable (plane repo boundary) anyStep start config) :
    ContactedOnce config.calls config.trace := by
  obtain ⟨-, -, apart⟩ := (claims_inductive laws boundary start).holds reached
  refine ⟨apart.imp ?_, ?_⟩
  · intro one other separate id ours theirs
    exact separate id (Call.claimed_of_contacted ours) (Call.claimed_of_contacted theirs)
  · intro method deployment desired member
    -- The mark of a call of the provider is the deployment it was made for.
    refine reached.marked
      (fun event => ∃ method deployment desired, event = .called method deployment desired)
      (fun event call => ∀ method deployment desired,
        event = .called method deployment desired → call.contacted? = some deployment.id)
      ?_ ?_ ?_ _ member ⟨_, _, _, rfl⟩ |>.imp fun call found => ⟨found.1, found.2 _ _ _ rfl⟩
    · rintro s call event after next ⟨choice, step⟩ - method deployment desired same
      cases moves_of_advance step with
      | called _ _ _ _ _ contacted =>
        cases same
        exact contacted
      | _ => cases same
    · rintro s call event after next old ⟨choice, step⟩ marked method deployment desired same
      exact (moves_of_advance step).contacted_kept (marked method deployment desired same)
    · rintro s event after ⟨change⟩ ⟨method, deployment, desired, same⟩
      cases same

theorem ended_kept_of_laws (laws : Laws repo stored stateName) {later : Config σ Call Event}
    (run : Later (plane repo boundary) anyStep config later)
    (found : stored config.shared id = some record)
    (ended : stateName record = State.succeeded.name ∨ stateName record = State.failed.name) :
    stored later.shared id = some record := by
  refine run.keeps (fun s => stored s id = some record) ?_ ?_ found
  · rintro s call event after next present ⟨choice, step⟩
    exact laws.keeps_ended (moves_of_advance step) present ended
  · rintro s event after present ⟨change⟩
    exact laws.changed _ _ change id record present

end Runs

section Tables

variable {key : ρ → String} {table : σ → Keyed key}

theorem extends_of_eq (same : table after = table s) :
    Extends (fun s id => (table s).get id) s after := by
  intro id record found
  dsimp only at found ⊢
  rwa [same]

theorem extends_of_put {added : ρ} (fresh : (table s).get (key added) = none)
    (same : table after = (table s).put added) :
    Extends (fun s id => (table s).get id) s after := by
  intro id record found
  dsimp only at found ⊢
  have differs : id ≠ key added := by
    rintro rfl
    rw [fresh] at found
    cases found
  rwa [same, Keyed.get_put_of_ne _ _ differs]

end Tables

theorem memory_laws : Laws memory (fun m id => m.deployments.get id) fun d => d.state.name where
  planned := by
    intro m deployment updated after planned
    obtain ⟨worker, version, accepted⟩ := Tables.planWorkerDeployment_ok planned
    exact extends_of_put accepted.fresh (congrArg Tables.deployments accepted.after)
  recorded := by
    intro m workerID versionID providerVersionID number uploadedAt after done
    exact extends_of_eq (Tables.updateWorkerVersionProvider_ok done).2.1
  changed := by
    intro m after change
    exact extends_of_eq (TablesChange.kept change).deployments
  written := by
    rintro m updated expected after (done | impossible)
    · have done : m.updateWorkerDeployment updated expected = .ok after := by
        simpa [memory] using done
      obtain ⟨⟨current, found, state, -⟩, rfl⟩ := Tables.updateWorkerDeployment_eq_ok.mp done
      exact ⟨⟨current, found, congrArg State.name state⟩,
        ⟨updated, Keyed.get_put_self _ _, rfl⟩, fun id other => Keyed.get_put_of_ne _ _ other⟩
    · cases impossible

theorem postgres_laws (installationID : String) :
    Laws (postgres installationID) (fun db id => db.deployments.get id) fun row => row.state where
  planned := by
    intro db deployment updated after planned
    obtain ⟨fresh, same⟩ := Database.planWorkerDeployment_ok planned
    exact extends_of_put fresh same
  recorded := by
    intro db workerID versionID providerVersionID number uploadedAt after done
    exact extends_of_eq (Database.updateWorkerVersionProvider_ok done)
  changed := by
    intro db after change
    exact extends_of_eq change
  written := by
    rintro db updated expected after (impossible | done)
    · exact absurd impossible Database.checkDeployment_ne_ok
    · obtain ⟨row, found, state, key, same⟩ := Database.updateWorkerDeployment_ok done
      refine ⟨⟨row, found, state⟩, ⟨updatedColumns row updated, ?_, rfl⟩, ?_⟩
      · rw [same, ← key]
        exact Keyed.get_put_self _ (updatedColumns row updated)
      · intro id other
        rw [same]
        exact Keyed.get_put_of_ne _ (updatedColumns row updated) (by rwa [← key] at other)

/-- In every run of requests that plan and execute deployments, over either store, the
provider is called for a deployment by one request at most, and a deployment that has
ended stays as it is. -/
theorem provider_contacted_once (installationID : String) (boundary : Boundary) :
    (∀ start config, Reachable (plane memory boundary) anyStep start config →
      ContactedOnce config.calls config.trace ∧
      ∀ later, Later (plane memory boundary) anyStep config later → ∀ id deployment,
        config.shared.deployments.get id = some deployment →
        deployment.state = .succeeded ∨ deployment.state = .failed →
        later.shared.deployments.get id = some deployment) ∧
    ∀ start config, Reachable (plane (postgres installationID) boundary) anyStep start config →
      ContactedOnce config.calls config.trace ∧
      ∀ later, Later (plane (postgres installationID) boundary) anyStep config later → ∀ id row,
        config.shared.deployments.get id = some row →
        row.state = "succeeded" ∨ row.state = "failed" →
        later.shared.deployments.get id = some row := by
  constructor
  · intro start config reached
    refine ⟨contactedOnce_of_laws memory_laws reached, ?_⟩
    intro later run id deployment found ended
    exact ended_kept_of_laws memory_laws run found
      (ended.imp (congrArg State.name) (congrArg State.name))
  · intro start config reached
    refine ⟨contactedOnce_of_laws (postgres_laws installationID) reached, ?_⟩
    intro later run id row found ended
    exact ended_kept_of_laws (postgres_laws installationID) run found ended

def sampleID : String := newID "cfdep" (sampleRaw 0)

theorem memory_executes :
    ∃ config deployment, Reachable (plane memory sampleBoundary) anyStep sampleTables config ∧
      (∃ call ∈ config.calls, call.contacted? = some sampleID) ∧
      config.shared.deployments.get sampleID = some deployment ∧
      deployment.state = .succeeded := by
  have s0 : Reachable (plane memory sampleBoundary) anyStep sampleTables _ := .start
  have s1 := s0.call (.planArrived samplePrincipal "worker_1" (.ok sampleInput)) (by exact .plan ..)
  have s2 := s1.ahead _ (sample_takes 0) 5 0 rfl
  have s3 := s2.call (.arrived samplePrincipal "worker_1" sampleID (.ok ())) (by exact .execute ..)
  have s4 := s3.ahead _ (sample_takes 0) 11 1 rfl
  exact ⟨_, _, s4, ⟨_, .tail _ (.head _), rfl⟩, rfl, rfl⟩

def sampleDatabase : Database where
  workers := sampleTables.workers
  tokens := sampleTables.tokens
  versions := sampleTables.versions
  deployments := .empty

theorem postgres_executes :
    ∃ config row, Reachable (plane (postgres "installation") sampleBoundary) anyStep
        sampleDatabase config ∧
      (∃ call ∈ config.calls, call.contacted? = some sampleID) ∧
      config.shared.deployments.get sampleID = some row ∧ row.state = "succeeded" := by
  have s0 : Reachable (plane (postgres "installation") sampleBoundary) anyStep
    sampleDatabase _ := .start
  have s1 := s0.call (.planArrived samplePrincipal "worker_1" (.ok sampleInput)) (by exact .plan ..)
  have s2 := s1.ahead _ (sample_takes 0) 5 0 rfl
  have s3 := s2.call (.arrived samplePrincipal "worker_1" sampleID (.ok ())) (by exact .execute ..)
  have s4 := s3.ahead _ (sample_takes 0) 13 1 rfl
  exact ⟨_, _, s4, ⟨_, .tail _ (.head _), rfl⟩, rfl, rfl⟩

theorem sample_contacted_once :
    (∃ config, (∃ call ∈ config.calls, call.contacted? = some sampleID) ∧
      ContactedOnce config.calls config.trace ∧
      ∀ later, Later (plane memory sampleBoundary) anyStep config later →
        later.shared.deployments.get sampleID = config.shared.deployments.get sampleID) ∧
    ∃ config, (∃ call ∈ config.calls, call.contacted? = some sampleID) ∧
      ContactedOnce config.calls config.trace ∧
      ∀ later, Later (plane (postgres "installation") sampleBoundary) anyStep config later →
        later.shared.deployments.get sampleID = config.shared.deployments.get sampleID := by
  obtain ⟨inMemory, inPostgres⟩ := provider_contacted_once "installation" sampleBoundary
  obtain ⟨config, deployment, reached, contacted, found, ended⟩ := memory_executes
  obtain ⟨config', row, reached', contacted', found', ended'⟩ := postgres_executes
  obtain ⟨once, kept⟩ := inMemory _ _ reached
  obtain ⟨once', kept'⟩ := inPostgres _ _ reached'
  refine ⟨⟨config, contacted, once, ?_⟩, ⟨config', contacted', once', ?_⟩⟩
  · intro later run
    exact (kept later run sampleID deployment found (.inl ended)).trans found.symm
  · intro later run
    exact (kept' later run sampleID row found' (.inl ended')).trans found'.symm

end VpsManager.Cloudflare
