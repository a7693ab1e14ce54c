import VpsManager.Lib.Critical
import VpsManager.Lib.Machine
import VpsManager.Lib.Redis
import VpsManager.Persistence.Types

namespace VpsManager.Persistence

open Go Checks Critical

structure Lease where
  key : String
  token : String
  expires : Int
  resource : String
  deriving DecidableEq, Repr

inductive CoordinatorError
  | leaseHeld
  | leaseLost
  | other (message : String)
  deriving DecidableEq, Repr

def maxCoordinatorReferenceBytes : Nat := 512

def validateReference (value : String) : Except String Unit :=
  ensure (¬ (trimSpace value = "" ∨ maxCoordinatorReferenceBytes < len value ∨
    containsAny value "\r\n\x00" = true)) "coordinator reference is invalid"

/-- From one second to 24 hours. -/
def LifetimeRange (ttl : Int) : Prop := second ≤ ttl ∧ ttl ≤ 24 * 60 * minute

instance (ttl : Int) : Decidable (LifetimeRange ttl) := inferInstanceAs (Decidable (_ ∧ _))

def validateCoordinatorInput (first second : String) (ttl : Int) : Except String Unit := do
  validateReference first
  validateReference second
  ensure (LifetimeRange ttl) "coordinator TTL must be between one second and 24 hours"

abbrev millisecond : Int := 1000000

/-- The lifetime that Redis is told, in whole milliseconds. -/
def milliseconds (ttl : Int) : Int := ttl / millisecond * millisecond

def WholeMilliseconds (ttl : Int) : Prop := ttl % millisecond = 0

theorem milliseconds_of_whole {ttl : Int} (whole : WholeMilliseconds ttl) :
    milliseconds ttl = ttl :=
  Int.ediv_mul_cancel (Int.dvd_of_emod_eq_zero whole)

theorem lifetime_of_valid {first second : String} {ttl : Int}
    (valid : validateCoordinatorInput first second ttl = .ok ()) : LifetimeRange ttl := by
  simp only [validateCoordinatorInput, bind_eq_ok, ensure_eq_ok] at valid
  obtain ⟨_, -, _, -, range⟩ := valid
  exact range

theorem LifetimeRange.pos {ttl : Int} (range : LifetimeRange ttl) : 0 < ttl :=
  lt_of_lt_of_le (by decide) range.1

def coordinatorPrefix (sha256 : Bytes → Bytes) (installationID : String) : String :=
  "vpsmgr:" ++ hex ((sha256 (bytes installationID)).take 8) ++ ":"

structure RedisCoordinator where
  sha256 : Bytes → Bytes
  installation : InstallationID

namespace RedisCoordinator

variable (r : RedisCoordinator)

/-- `prefix` of the source. -/
def lead : String := coordinatorPrefix r.sha256 r.installation.val

def key (kind reference : String) : String :=
  r.lead ++ kind ++ ":" ++ hex (r.sha256 (bytes reference))

def acquireCommand (now : Int) (token resource : String) (ttl : Int) (keys : Redis.Keys) :
    Bool × Redis.Keys :=
  Redis.setNX keys now (r.key "lease" resource) token (milliseconds ttl)

/-- What `AcquireLease` makes of the reply; the clock is read when the reply is seen. -/
def acquireReply (replied : Int) (token resource : String) (ttl : Int) (created : Bool) :
    Except CoordinatorError Lease := do
  ensure (created = true) CoordinatorError.leaseHeld
  return ⟨r.key "lease" resource, token, replied + ttl, resource⟩

/-- `renewLeaseScript`. -/
def renewCommand (now : Int) (lease : Lease) (ttl : Int) (keys : Redis.Keys) : Bool × Redis.Keys :=
  Redis.expireIf keys now lease.key lease.token (milliseconds ttl)

def renewReply (replied : Int) (lease : Lease) (ttl : Int) (renewed : Bool) :
    Except CoordinatorError Lease := do
  ensure (renewed = true) CoordinatorError.leaseLost
  return { lease with expires := replied + ttl }

/-- `releaseLeaseScript`. -/
def releaseCommand (now : Int) (lease : Lease) (keys : Redis.Keys) : Bool × Redis.Keys :=
  Redis.deleteIf keys now lease.key lease.token

end RedisCoordinator

def sampleRedis : RedisCoordinator := ⟨id, ⟨"installation", by decide⟩⟩

end VpsManager.Persistence
