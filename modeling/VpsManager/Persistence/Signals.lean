import VpsManager.Lib.Joined
import VpsManager.Persistence.Coordinator

/- Idempotency records and cancellation signals over Redis, beside the leases. The keys of
each kind are apart from those of the others, whatever they are for. -/
namespace VpsManager.Persistence

open Go Checks Machine Redis

namespace RedisCoordinator

variable (r : RedisCoordinator)

def putIdempotency (now : Int) (key resultReference : String) (ttl : Int) (keys : Keys) :
    Except String (Bool × Keys) := do
  validateCoordinatorInput key resultReference ttl
  validateIdentifier "idempotency result reference" resultReference
  return setNX keys now (r.key "idempotency" key) resultReference (milliseconds ttl)

def getIdempotency (now : Int) (key : String) (keys : Keys) : Except String (Option String) := do
  validateReference key
  return get keys now (r.key "idempotency" key)

def requestCancellation (now : Int) (jobID : String) (ttl : Int) (keys : Keys) :
    Except String Keys := do
  validateCoordinatorInput jobID jobID ttl
  return set keys now (r.key "cancel" jobID) "1" (milliseconds ttl)

def cancellationRequested (now : Int) (jobID : String) (keys : Keys) : Except String Bool := do
  validateReference jobID
  return present keys now (r.key "cancel" jobID)

/-- What `RenewLease` and `ReleaseLease` check of the lease they are given. -/
def Renewable (lease : Lease) : Prop :=
  ¬ (lease.key = "" ∨ lease.token = "" ∨ hasPrefix lease.key (r.lead ++ "lease:") = false)

end RedisCoordinator

/-- What a client may ask of Redis, and the passing of time. -/
inductive RedisCommand
  | tick (now : Int)
  | acquireLease (resource owner token : String) (ttl : Int)
  | renewLease (lease : Lease) (ttl : Int)
  | releaseLease (lease : Lease)
  | putIdempotency (key resultReference : String) (ttl : Int)
  | requestCancellation (jobID : String) (ttl : Int)

structure RedisState where
  clock : Int
  keys : Keys

/-- The commands of all clients, in the order in which Redis runs them. -/
inductive Serves (r : RedisCoordinator) (s : RedisState) : RedisCommand → RedisState → Prop
  | tick {now : Int} (later : s.clock ≤ now) : Serves r s (.tick now) { s with clock := now }
  | acquireLease {resource owner token : String} {ttl : Int}
      (valid : validateCoordinatorInput resource owner ttl = .ok ()) :
      Serves r s (.acquireLease resource owner token ttl)
        { s with keys := (r.acquireCommand s.clock token resource ttl s.keys).2 }
  | renewLease {lease : Lease} {ttl : Int} (given : r.Renewable lease)
      (range : LifetimeRange ttl) :
      Serves r s (.renewLease lease ttl)
        { s with keys := (RedisCoordinator.renewCommand s.clock lease ttl s.keys).2 }
  | releaseLease {lease : Lease} (given : r.Renewable lease) :
      Serves r s (.releaseLease lease)
        { s with keys := (RedisCoordinator.releaseCommand s.clock lease s.keys).2 }
  | putIdempotency {key resultReference : String} {ttl : Int} {created : Bool} {keys : Keys}
      (done : r.putIdempotency s.clock key resultReference ttl s.keys = .ok (created, keys)) :
      Serves r s (.putIdempotency key resultReference ttl) { s with keys := keys }
  | requestCancellation {jobID : String} {ttl : Int} {keys : Keys}
      (done : r.requestCancellation s.clock jobID ttl s.keys = .ok keys) :
      Serves r s (.requestCancellation jobID ttl) { s with keys := keys }

def RedisCommand.kind : RedisCommand → String
  | .tick _ => ""
  | .acquireLease .. | .renewLease .. | .releaseLease .. => "lease"
  | .putIdempotency .. => "idempotency"
  | .requestCancellation .. => "cancel"

/-- A request to cancel under the key of the job lasts until the deadline at least. -/
def RedisCommand.Reaches (r : RedisCoordinator) (jobID : String) (deadline clock : Int) :
    RedisCommand → Prop
  | .requestCancellation other ttl =>
    r.key "cancel" jobID = r.key "cancel" other → deadline ≤ clock + milliseconds ttl
  | _ => True

section Kinds

variable {r : RedisCoordinator} {kind other reference : String} {s next : RedisState}

/-- A key that starts as the keys of one kind do is none of another kind. -/
theorem ne_key {at' : String} (differ : kind ≠ other) (plain : ':' ∉ kind.toList)
    (plain' : ':' ∉ other.toList) (starts : hasPrefix at' (r.lead ++ kind ++ ":") = true) :
    r.key other reference ≠ at' := by
  rintro rfl
  obtain ⟨rest, same⟩ := List.isPrefixOf_iff_prefix.mp starts
  simp only [RedisCoordinator.key, String.toList_append, List.append_assoc,
    List.append_cancel_left_eq] at same
  have colon : ":".toList = [':'] := rfl
  rw [colon, List.singleton_append, List.singleton_append] at same
  exact differ (String.toList_inj.mp (Joined.append_cons_inj_left plain plain' same).1)

theorem key_starts : hasPrefix (r.key kind reference) (r.lead ++ kind ++ ":") = true :=
  List.isPrefixOf_iff_prefix.mpr ⟨(hex (r.sha256 (bytes reference))).toList, by
    simp only [RedisCoordinator.key, String.toList_append]⟩

theorem RedisCoordinator.Renewable.apart {lease : Lease} (given : r.Renewable lease)
    (differ : "lease" ≠ kind) (plain : ':' ∉ kind.toList) : r.key kind reference ≠ lease.key := by
  simp only [RedisCoordinator.Renewable, not_or, Bool.not_eq_false] at given
  refine ne_key differ (by decide) plain ?_
  rw [String.append_assoc]
  exact given.2.2

theorem RedisCoordinator.putIdempotency_keys {now ttl : Int} {key resultReference : String}
    {created : Bool} {keys after : Keys}
    (done : r.putIdempotency now key resultReference ttl keys = .ok (created, after)) :
    (setNX keys now (r.key "idempotency" key) resultReference (milliseconds ttl)).2 = after := by
  simp only [RedisCoordinator.putIdempotency, bind_eq_ok, pure_eq_ok] at done
  obtain ⟨-, -, -, -, done⟩ := done
  exact congrArg Prod.snd done

theorem RedisCommand.plain (command : RedisCommand) : ':' ∉ command.kind.toList := by
  cases command <;> simp [RedisCommand.kind]

variable {command : RedisCommand}

theorem Serves.clock_le (served : Serves r s command next) : s.clock ≤ next.clock := by
  cases served with
  | tick later => exact later
  | _ => exact le_refl _

theorem Serves.other_kind (served : Serves r s command next) (differ : command.kind ≠ kind)
    (plain : ':' ∉ kind.toList) :
    next.keys (r.key kind reference) = s.keys (r.key kind reference) := by
  cases served with
  | tick _ => rfl
  | acquireLease _ => exact setNX_frame (ne_key differ (RedisCommand.plain _) plain key_starts)
  | renewLease given _ => exact expireIf_frame fun _ => given.apart differ plain
  | releaseLease given => exact deleteIf_frame fun _ => given.apart differ plain
  | putIdempotency done =>
    obtain rfl := RedisCoordinator.putIdempotency_keys done
    exact setNX_frame (ne_key differ (RedisCommand.plain _) plain key_starts)
  | requestCancellation done =>
    simp only [RedisCoordinator.requestCancellation, bind_eq_ok, pure_eq_ok] at done
    obtain ⟨-, -, rfl⟩ := done
    exact Function.update_of_ne (ne_key differ (RedisCommand.plain _) plain key_starts) _ _

/-- A record that has not expired is not written over. -/
theorem Serves.record {value : String} {expires : Int} (served : Serves r s command next)
    (held : s.keys (r.key "idempotency" reference) = some ⟨value, expires⟩)
    (unexpired : s.clock < expires) :
    next.keys (r.key "idempotency" reference) = some ⟨value, expires⟩ := by
  rw [← held]
  by_cases same : command.kind = "idempotency"
  · cases served with
    | putIdempotency done =>
      obtain rfl := RedisCoordinator.putIdempotency_keys done
      exact setNX_live held unexpired
    | _ => simp [RedisCommand.kind] at same
  · exact served.other_kind same (by decide)

/-- The signal for a job reaches the deadline if no request for it sets an earlier one. -/
theorem Serves.signal {deadline : Int} (served : Serves r s command next)
    (longer : command.Reaches r reference deadline s.clock)
    (held : ∃ entry, s.keys (r.key "cancel" reference) = some entry ∧ deadline ≤ entry.expires) :
    ∃ entry, next.keys (r.key "cancel" reference) = some entry ∧ deadline ≤ entry.expires := by
  by_cases kind : command.kind = "cancel"
  · cases served with
    | @requestCancellation jobID ttl keys done =>
      simp only [RedisCoordinator.requestCancellation, bind_eq_ok, pure_eq_ok] at done
      obtain ⟨-, -, rfl⟩ := done
      simp only [Redis.set]
      by_cases same : r.key "cancel" reference = r.key "cancel" jobID
      · rw [same, Function.update_self]
        exact ⟨_, rfl, longer same⟩
      · rw [Function.update_of_ne same]
        exact held
    | _ => simp [RedisCommand.kind] at kind
  · rw [served.other_kind kind (by decide)]
    exact held

end Kinds

/-- The first result reference stored for a key is what every later call gets, until it
expires: no other call of any client can replace it. -/
theorem first_reference_stays {r : RedisCoordinator} {start s : RedisState} {keys : Keys}
    {commands : List RedisCommand} {key resultReference : String} {ttl : Int}
    (put : r.putIdempotency start.clock key resultReference ttl start.keys = .ok (true, keys))
    (ran : Run (Serves r) anyAction { start with keys := keys } commands s)
    (unexpired : s.clock < start.clock + milliseconds ttl) :
    r.getIdempotency s.clock key s.keys = .ok (some resultReference) ∧
      ∀ another lifetime created after,
        r.putIdempotency s.clock key another lifetime s.keys = .ok (created, after) →
          created = false ∧ after = s.keys := by
  simp only [RedisCoordinator.putIdempotency, bind_eq_ok, pure_eq_ok] at put
  obtain ⟨_, valid, -, -, stored⟩ := put
  simp only [validateCoordinatorInput, bind_eq_ok] at valid
  obtain ⟨_, reference, -⟩ := valid
  have held : s.keys (r.key "idempotency" key) =
      some ⟨resultReference, start.clock + milliseconds ttl⟩ := by
    induction ran with
    | start =>
      unfold setNX at stored
      split at stored
      · cases stored
      · cases stored
        exact Function.update_self _ _ _
    | take _ _ _ served before =>
      have earlier := lt_of_le_of_lt served.clock_le unexpired
      exact served.record (before earlier) earlier
  refine ⟨?_, fun another lifetime created after put => ?_⟩
  · simp only [RedisCoordinator.getIdempotency, bind_eq_ok, pure_eq_ok]
    exact ⟨_, reference, get_eq_some.mpr ⟨_, held, unexpired⟩⟩
  · have there : present s.keys s.clock (r.key "idempotency" key) = true :=
      present_of_held held unexpired
    simp only [RedisCoordinator.putIdempotency, bind_eq_ok, pure_eq_ok, setNX, there] at put
    obtain ⟨-, -, -, -, put⟩ := put
    cases put
    exact ⟨rfl, rfl⟩

/-- Other clients use the same names for a lease, a record and a signal. -/
def otherCommands : List RedisCommand :=
  [.tick 1, .acquireLease "job_1" "worker_1" "a" second, .putIdempotency "job_1" "job_2" second,
    .requestCancellation "job_1" second]

theorem otherCommands_run {allowed : RedisState → RedisCommand → Prop} {keys : Keys}
    (may : ∀ s command, command ∈ otherCommands → 0 ≤ s.clock → allowed s command) :
    ∃ after, Run (Serves sampleRedis) allowed ⟨0, keys⟩ otherCommands ⟨1, after⟩ := by
  have valid : validateCoordinatorInput "job_1" "worker_1" second = .ok () := by decide +kernel
  have ran : Run (Serves sampleRedis) allowed ⟨0, keys⟩ [] ⟨0, keys⟩ := .start
  have ran := ran.take _ (may _ (.tick 1) (by simp [otherCommands]) le_rfl)
    (.tick Int.one_nonneg)
  have ran := ran.take _ (may _ (.acquireLease "job_1" "worker_1" "a" second)
    (by simp [otherCommands]) Int.one_nonneg) (.acquireLease valid)
  have ran := ran.take _ (may _ (.putIdempotency "job_1" "job_2" second)
    (by simp [otherCommands]) Int.one_nonneg) (.putIdempotency rfl)
  exact ⟨_, ran.take _ (may _ (.requestCancellation "job_1" second)
    (by simp [otherCommands]) Int.one_nonneg) (.requestCancellation rfl)⟩

theorem sampleReference_stays :
    ∃ keys after,
      sampleRedis.putIdempotency 0 "job_1" "job_1" second (fun _ => none) = .ok (true, keys) ∧
      Run (Serves sampleRedis) anyAction ⟨0, keys⟩ otherCommands ⟨1, after⟩ ∧
      sampleRedis.getIdempotency 1 "job_1" after = .ok (some "job_1") := by
  have put : sampleRedis.putIdempotency 0 "job_1" "job_1" second (fun _ => none) =
    .ok (true, _) := rfl
  obtain ⟨after, ran⟩ := otherCommands_run fun _ _ _ _ => trivial
  have early : (1 : Int) < 0 + milliseconds second := by decide
  have stays := @first_reference_stays _ ⟨0, fun _ => none⟩ _ _ _ _ _ _ put ran early
  exact ⟨_, after, put, ran, stays.1⟩

/-- A cancellation is seen until the lifetime of the request ends, if no later request under
the key of the job ends earlier. -/
theorem cancellation_seen {r : RedisCoordinator} {start s : RedisState} {keys : Keys}
    {commands : List RedisCommand} {jobID : String} {ttl : Int}
    (requested : r.requestCancellation start.clock jobID ttl start.keys = .ok keys)
    (ran : Run (Serves r)
      (fun s command => command.Reaches r jobID (start.clock + milliseconds ttl) s.clock)
      { start with keys := keys } commands s)
    (unexpired : s.clock < start.clock + milliseconds ttl) :
    r.cancellationRequested s.clock jobID s.keys = .ok true := by
  simp only [RedisCoordinator.requestCancellation, bind_eq_ok, pure_eq_ok] at requested
  obtain ⟨_, valid, rfl⟩ := requested
  simp only [validateCoordinatorInput, bind_eq_ok] at valid
  obtain ⟨_, reference, -⟩ := valid
  obtain ⟨entry, held, reaches⟩ : ∃ entry, s.keys (r.key "cancel" jobID) = some entry ∧
      start.clock + milliseconds ttl ≤ entry.expires := by
    clear unexpired
    induction ran with
    | start => exact ⟨_, Function.update_self _ _ _, le_refl _⟩
    | take _ _ longer served before => exact served.signal longer before
  simp only [RedisCoordinator.cancellationRequested, bind_eq_ok, pure_eq_ok]
  exact ⟨_, reference, present_of_held held (lt_of_lt_of_le unexpired reaches)⟩

theorem sampleCancellation_seen :
    ∃ keys after, sampleRedis.requestCancellation 0 "job_1" second (fun _ => none) = .ok keys ∧
      Run (Serves sampleRedis) (fun s command =>
          command.Reaches sampleRedis "job_1" (0 + milliseconds second) s.clock)
        ⟨0, keys⟩ otherCommands ⟨1, after⟩ ∧
      sampleRedis.cancellationRequested 1 "job_1" after = .ok true := by
  have requested : sampleRedis.requestCancellation 0 "job_1" second (fun _ => none) = .ok _ := rfl
  obtain ⟨after, ran⟩ := @otherCommands_run (fun s command =>
      command.Reaches sampleRedis "job_1" (0 + milliseconds second) s.clock) _ (by
    intro s command listed later
    simp only [otherCommands, List.mem_cons, List.not_mem_nil, or_false] at listed
    rcases listed with rfl | rfl | rfl | rfl
    case inr.inr.inr => exact fun _ => Int.add_le_add_right later _
    all_goals trivial)
  have early : (1 : Int) < 0 + milliseconds second := by decide
  exact ⟨_, after, requested, ran,
    @cancellation_seen _ ⟨0, fun _ => none⟩ _ _ _ _ _ requested ran early⟩

end VpsManager.Persistence
