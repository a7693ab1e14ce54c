import VpsManager.Control.Model
import VpsManager.Lib.Keyed

/- The in-process repository. Each function is one critical section of the
source. -/
namespace VpsManager.Control

open Go Checks

inductive StoreError
  | notFound
  | conflict
  | other (message : String)
  deriving DecidableEq, Repr

def StoredCredential.hostID (credential : StoredCredential) : String := credential.metadata.hostID

/-- Hosts and jobs are stored by their IDs and credentials by their host's. -/
structure Memory where
  hosts : Keyed Host.id
  credentials : Keyed StoredCredential.hostID
  jobs : Keyed Job.id

structure Job.Continues (job updated : Job) : Prop where
  id : updated.id = job.id
  type : updated.type = job.type
  hostID : updated.hostID = job.hostID
  requestedSessionID : updated.requestedSessionID = job.requestedSessionID
  transition : canTransition job.state updated.state = true

variable {job updated : Job}

theorem Job.Continues.state_ne_queued (continues : job.Continues updated) :
    updated.state ≠ .queued := by
  intro queued
  have possible := continues.transition
  rw [queued] at possible
  revert possible
  cases job.state <;> decide

theorem Job.Continues.not_running (continues : job.Continues updated)
    (running : updated.state = .running) : job.state ≠ .running := by
  intro already
  have possible := continues.transition
  rw [already, running] at possible
  exact absurd possible (by decide)

structure JobMutation where
  run : Job → Except StoreError Job
  continues : ∀ job updated, run job = .ok updated → job.Continues updated

namespace Memory

def newMemory : Memory := ⟨.empty, .empty, .empty⟩

variable (m : Memory)

def getHost (id : String) : Except StoreError Host := orError (m.hosts.get id) .notFound

def updateHost (host : Host) (expectedVersion : UInt64) : Except StoreError Memory := do
  let current ← orError (m.hosts.get host.id) .notFound
  ensure (current.version = expectedVersion) .conflict
  return { m with hosts := m.hosts.put host }

def deleteHost (id : String) : Except StoreError Memory := do
  let _ ← orError (m.hosts.get id) .notFound
  return { m with hosts := m.hosts.erase id, credentials := m.credentials.erase id }

def putCredential (credential : StoredCredential) : Except StoreError Memory := do
  let _ ← orError (m.hosts.get credential.hostID) .notFound
  return { m with credentials := m.credentials.put credential }

def getCredential (hostID : String) : Except StoreError StoredCredential :=
  orError (m.credentials.get hostID) .notFound

def createJob (job : Job) : Except StoreError Memory := do
  ensure (m.jobs.get job.id = none) .conflict
  return { m with jobs := m.jobs.put job }

def getJob (id : String) : Except StoreError Job := orError (m.jobs.get id) .notFound

def mutateJob (id : String) (mutate : JobMutation) : Except StoreError (Job × Memory) := do
  let job ← orError (m.jobs.get id) .notFound
  let updated ← mutate.run job
  return (updated, { m with jobs := m.jobs.put updated })

variable {m} {after : Memory}

theorem updateHost_eq_ok {host : Host} {expectedVersion : UInt64} :
    m.updateHost host expectedVersion = .ok after ↔
      (∃ current, m.hosts.get host.id = some current ∧ current.version = expectedVersion) ∧
        after = { m with hosts := m.hosts.put host } := by
  simp only [updateHost, bind_eq_ok, orError_eq_ok, ensure_eq_ok, pure_eq_ok]
  constructor
  · rintro ⟨current, found, _, version, rfl⟩
    exact ⟨⟨current, found, version⟩, rfl⟩
  · rintro ⟨⟨current, found, version⟩, rfl⟩
    exact ⟨current, found, (), version, rfl⟩

theorem mutateJob_eq_ok {id : String} {mutate : JobMutation} :
    m.mutateJob id mutate = .ok (updated, after) ↔
      (∃ job, m.jobs.get id = some job ∧ mutate.run job = .ok updated) ∧
        after = { m with jobs := m.jobs.put updated } := by
  simp only [mutateJob, bind_eq_ok, orError_eq_ok, pure_eq_ok, Prod.mk.injEq]
  constructor
  · rintro ⟨job, found, moved, ran, rfl, rfl⟩
    exact ⟨⟨job, found, ran⟩, rfl⟩
  · rintro ⟨⟨job, found, ran⟩, rfl⟩
    exact ⟨job, found, updated, ran, rfl, rfl⟩

theorem mutateJob_of_run {id : String} {mutate : JobMutation} (found : m.jobs.get id = some job)
    (ran : mutate.run job = .ok updated) :
    ∃ after, m.mutateJob id mutate = .ok (updated, after) ∧ after.jobs.get id = some updated := by
  refine ⟨_, mutateJob_eq_ok.mpr ⟨⟨job, found, ran⟩, rfl⟩, ?_⟩
  have sameID : updated.id = id :=
    (mutate.continues job updated ran).id.trans (Keyed.key_of_get found)
  have stored := Keyed.get_put_self m.jobs updated
  rwa [sameID] at stored

theorem createJob_eq_ok :
    m.createJob job = .ok after ↔
      m.jobs.get job.id = none ∧ after = { m with jobs := m.jobs.put job } := by
  simp only [createJob, bind_eq_ok, ensure_eq_ok, pure_eq_ok]
  constructor
  · rintro ⟨_, absent, rfl⟩
    exact ⟨absent, rfl⟩
  · rintro ⟨absent, rfl⟩
    exact ⟨(), absent, rfl⟩

end Memory

end VpsManager.Control
