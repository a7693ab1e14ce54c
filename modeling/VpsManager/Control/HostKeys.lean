import VpsManager.Control.Hosts

namespace VpsManager.Control

open Go Checks
open Ssh (firstKey secondKey)

inductive HostAction
  | edit (edit : HostEdit) (hostID : String)
  | deleteHost (hostID : String)

/-- A request that changes hosts, with its authenticated caller and the time at
which it is served. -/
structure HostRequest where
  principal : Principal
  action : HostAction
  now : Int

def serve (server : Server) (m : Memory) (request : HostRequest) : Memory :=
  match request.action with
  | .edit edit hostID =>
    match editHost server m request.principal edit hostID request.now with
    | .ok (_, after) => after
    | .error _ => m
  | .deleteHost hostID =>
    match deleteHost m request.principal hostID with
    | .ok after => after
    | .error _ => m

def moment (server : Server) (start : Memory) (requests : List HostRequest) (count : Nat) :
    Memory :=
  (requests.take count).foldl (serve server) start

def Host.endpoint (host : Host) : String × Int := (host.address, host.port)

/-- One endpoint of a host has one pinned key throughout. -/
def OneKeyPerEndpoint (server : Server) (start : Memory) (requests : List HostRequest) : Prop :=
  ∀ i j id first second one other,
    (moment server start requests i).hosts.get id = some first →
    (moment server start requests j).hosts.get id = some second →
    first.endpoint = second.endpoint →
    first.hostKey = some one → second.hostKey = some other →
    one.fingerprintSHA256 = other.fingerprintSHA256

/-- The endpoint an update of `host` asks for. -/
def UpdateHostRequest.target (input : UpdateHostRequest) (host : Host) : String × Int :=
  (input.patch host).endpoint

/-- No update moves a host to an endpoint at which it has had a pinned key
earlier in the run. -/
def NoReturnToPinned (server : Server) (start : Memory) (requests : List HostRequest) : Prop :=
  ∀ i request input id stored,
    requests[i]? = some request → request.action = .edit (.updateHost (.ok input)) id →
    (moment server start requests i).hosts.get id = some stored →
    ∀ k ≤ i, ∀ earlier, (moment server start requests k).hosts.get id = some earlier →
      earlier.hostKey.isSome = true → earlier.endpoint = input.target stored →
      stored.endpoint = earlier.endpoint

/-- A host keeps its endpoint and the fingerprint of its key, or an update names
its new endpoint. -/
inductive HostStep (request : HostRequest) (id : String) (before after : Host) : Prop
  | kept (endpoint : after.endpoint = before.endpoint)
      (fingerprint : ∀ pin, before.hostKey = some pin →
        ∃ current, after.hostKey = some current ∧
          current.fingerprintSHA256 = pin.fingerprintSHA256)
  | moved (input : UpdateHostRequest)
      (update : request.action = .edit (.updateHost (.ok input)) id)
      (target : after.endpoint = input.target before) (changed : after.endpoint ≠ before.endpoint)

theorem HostStep.refl (request : HostRequest) (id : String) (host : Host) :
    HostStep request id host host :=
  .kept rfl fun pin pinned => ⟨pin, pinned, rfl⟩

theorem prepare_hostStep {server : Server} {request : HostRequest} {edit : HostEdit} {id : String}
    {host written : Host} {expected : UInt64}
    (unprivileged : allowed request.principal.role .hostKeyReplace = false)
    (action : request.action = .edit edit id)
    (prepared : edit.prepare server request.principal host request.now = .ok (written, expected)) :
    HostStep request id host written := by
  cases edit with
  | updateHost body =>
    obtain ⟨input, rfl, -, -, rfl, -⟩ := prepareUpdate_eq_ok.mp prepared
    by_cases moves : host.address ≠ (input.patch host).address ∨
        host.port ≠ (input.patch host).port
    · refine .moved input action rfl ?_
      intro same
      rcases moves with address | port
      · exact address (congrArg Prod.fst same).symm
      · exact port (congrArg Prod.snd same).symm
    · have stays : host.address = (input.patch host).address ∧
          host.port = (input.patch host).port := by
        simpa only [not_or, ne_eq, not_not] using moves
      refine .kept (Prod.ext stays.1.symm stays.2.symm) ?_
      intro pin pinned
      exact ⟨pin, by simp only [if_neg moves]; exact pinned, rfl⟩
  | pinHostKey body =>
    obtain ⟨input, key, -, -, -, permitted, rfl, -⟩ := preparePin_ok prepared
    refine .kept rfl ?_
    intro pin pinned
    refine ⟨newPin server.library request.principal key request.now, rfl, ?_⟩
    rcases permitted pin pinned with same | replaces
    · exact same.symm
    · rw [unprivileged] at replaces
      cases replaces

/-- A request served never brings a host into being, and takes each host it
leaves through a `HostStep`. -/
theorem serve_hostStep (server : Server) (m : Memory) (request : HostRequest) (id : String)
    (after : Host) (unprivileged : allowed request.principal.role .hostKeyReplace = false)
    (present : (serve server m request).hosts.get id = some after) :
    ∃ before, m.hosts.get id = some before ∧ HostStep request id before after := by
  unfold serve at present
  split at present
  · rename_i edit hostID action
    split at present
    · rename_i written stored done
      obtain ⟨host, expected, found, prepared, rfl⟩ := editHost_ok done
      have writtenID : written.id = hostID :=
        (HostEdit.prepare_ok prepared).id.trans (Keyed.key_of_get found)
      by_cases same : id = written.id
      · subst same
        rw [Keyed.get_put_self] at present
        obtain rfl := Option.some.inj present
        rw [writtenID]
        exact ⟨host, found, prepare_hostStep unprivileged action prepared⟩
      · rw [Keyed.get_put_of_ne _ _ same] at present
        exact ⟨after, present, .refl request id after⟩
    · exact ⟨after, present, .refl request id after⟩
  · rename_i hostID action
    split at present
    · rename_i stored done
      simp only [deleteHost, Memory.deleteHost, bind_eq_ok, mapError_eq_ok, pure_eq_ok] at done
      obtain ⟨_, -, _, -, _, -, rfl⟩ := done
      rw [Keyed.get_erase] at present
      split at present
      · cases present
      · exact ⟨after, present, .refl request id after⟩
    · exact ⟨after, present, .refl request id after⟩

theorem moment_succ (server : Server) (start : Memory) (requests : List HostRequest) (count : Nat) :
    moment server start requests (count + 1) =
      match requests[count]? with
      | some request => serve server (moment server start requests count) request
      | none => moment server start requests count := by
  unfold moment
  rw [List.take_add_one, List.foldl_append]
  cases requests[count]? <;> rfl

/-- A key pinned at an endpoint is still pinned whenever the host is at that
endpoint later. -/
theorem moment_keeps_key (server : Server) (start : Memory) (requests : List HostRequest)
    (unprivileged : ∀ request ∈ requests, allowed request.principal.role .hostKeyReplace = false)
    (noReturn : NoReturnToPinned server start requests) (id : String) (i : Nat) (first : Host)
    (pin : HostKeyPin) (atFirst : (moment server start requests i).hosts.get id = some first)
    (pinned : first.hostKey = some pin) (count : Nat) (later : Host)
    (atLater : (moment server start requests (i + count)).hosts.get id = some later)
    (returned : later.endpoint = first.endpoint) :
    ∃ current, later.hostKey = some current ∧
      current.fingerprintSHA256 = pin.fingerprintSHA256 := by
  induction count generalizing later with
  | zero =>
    obtain rfl : first = later := Option.some.inj (atFirst.symm.trans atLater)
    exact ⟨pin, pinned, rfl⟩
  | succ count ih =>
    rw [← Nat.add_assoc, moment_succ] at atLater
    cases next : requests[i + count]? with
    | none =>
      rw [next] at atLater
      exact ih later atLater returned
    | some request =>
      rw [next] at atLater
      have permission := unprivileged request (List.mem_of_getElem? next)
      obtain ⟨before, atBefore, step⟩ :=
        serve_hostStep server _ request id later permission atLater
      have stayed : before.endpoint = first.endpoint := by
        cases step with
        | kept endpoint _ => exact endpoint.symm.trans returned
        | moved input update target _ =>
          -- moving here from elsewhere is what the condition excludes
          exact noReturn _ request input id before next update atBefore i (by omega) first
            atFirst (by rw [pinned]; rfl) (returned.symm.trans target)
      obtain ⟨current, held, same⟩ := ih before atBefore stayed
      cases step with
      | kept _ fingerprint =>
        obtain ⟨last, present, equal⟩ := fingerprint current held
        exact ⟨last, present, equal.trans same⟩
      | moved _ _ _ changed => exact absurd (returned.trans stayed.symm) changed

/-- Unless an update brings a host back to an endpoint where it had a pinned key,
no endpoint of it ever has two keys. -/
theorem oneKeyPerEndpoint_of_noReturn (server : Server) (start : Memory)
    (requests : List HostRequest)
    (unprivileged : ∀ request ∈ requests, allowed request.principal.role .hostKeyReplace = false)
    (noReturn : NoReturnToPinned server start requests) :
    OneKeyPerEndpoint server start requests := by
  -- the two moments in either order
  have ordered : ∀ i j id first second one other, i ≤ j →
      (moment server start requests i).hosts.get id = some first →
      (moment server start requests j).hosts.get id = some second →
      first.endpoint = second.endpoint → first.hostKey = some one → second.hostKey = some other →
      one.fingerprintSHA256 = other.fingerprintSHA256 := by
    intro i j id first second one other le atFirst atSecond same pinned again
    obtain ⟨count, rfl⟩ := Nat.exists_eq_add_of_le le
    obtain ⟨current, held, equal⟩ := moment_keeps_key server start requests unprivileged noReturn
      id i first one atFirst pinned count second atSecond same.symm
    rw [again] at held
    rw [← equal, Option.some.inj held]
  intro i j id first second one other atFirst atSecond same pinned again
  rcases Nat.le_total i j with le | le
  · exact ordered i j id first second one other le atFirst atSecond same pinned again
  · exact (ordered j i id second first other one le atSecond atFirst same.symm again pinned).symm

def sampleServer (sha256 : Bytes → Bytes) : Server where
  library := .ofKnown [firstKey, secondKey]
  vault := ⟨fun context _ =>
    if context.secretID = "cred_1" then some ⟨secondKey.privateKeyPEM, ""⟩ else none⟩
  sha256 := sha256
  installationID := "installation"
  allowPrivateTargets := false
  devMode := true
  secretExecutionEnabled := true
  mutationsEnabled := true
  runbooks := true

def sampleOperator : Principal := ⟨"olga", .operator, true, [], "session_1"⟩

def sampleHost : Host where
  id := "host_1"
  name := "web"
  address := "vps.example"
  port := 22
  username := "deploy"
  labels := none
  hostKey := some (newPin (.ofKnown [firstKey, secondKey]) sampleOperator firstKey.key 0)
  version := 1
  createdAt := 0
  updatedAt := 0

def sampleMemory : Memory := { Memory.newMemory with hosts := .single sampleHost }

def byOperator (edit : HostEdit) (now : Int) : HostRequest :=
  ⟨sampleOperator, .edit edit "host_1", now⟩

def portUpdate (version : UInt64) (port : Int) : HostEdit :=
  .updateHost (.ok ⟨version, none, none, some port, none, none⟩)

def pinRequest (version : UInt64) (key : Ssh.KnownKey) : HostEdit :=
  .pinHostKey (.ok ⟨version, key.authorizedKey, key.fingerprint, false, ""⟩)

/-- Moving the host to another port drops its pin; back at its port it takes any
key. -/
def moveAndReturn : List HostRequest :=
  [byOperator (portUpdate 1 2222) 1, byOperator (portUpdate 2 22) 2,
    byOperator (pinRequest 3 secondKey) 3]

theorem byOperator_unprivileged (edit : HostEdit) (now : Int) :
    allowed (byOperator edit now).principal.role .hostKeyReplace = false := rfl

/-- Three requests of an operator replace the pinned key. -/
theorem operator_replaces_key :
    (∀ request ∈ moveAndReturn, allowed request.principal.role .hostKeyReplace = false) ∧
      ¬ ∃ sha256, OneKeyPerEndpoint (sampleServer sha256) sampleMemory moveAndReturn := by
  constructor
  · simp [moveAndReturn, byOperator_unprivileged]
  · rintro ⟨sha256, oneKey⟩
    have repinned : ((moment (sampleServer id) sampleMemory moveAndReturn 3).hosts.get
          "host_1").map (fun host => (host.endpoint, host.hostKey.map (·.fingerprintSHA256))) =
        some (("vps.example", 22), some secondKey.fingerprint) := by decide +kernel
    -- no edit takes a digest
    have unhashed : moment (sampleServer id) sampleMemory moveAndReturn 3 =
        moment (sampleServer sha256) sampleMemory moveAndReturn 3 := rfl
    rw [unhashed] at repinned
    obtain ⟨host, found, shape⟩ := Option.map_eq_some_iff.mp repinned
    obtain ⟨endpoint, pinned⟩ := Prod.mk.inj shape
    obtain ⟨pin, current, fingerprint⟩ := Option.map_eq_some_iff.mp pinned
    have same := oneKey 0 3 "host_1" sampleHost host _ pin rfl found endpoint.symm rfl current
    rw [fingerprint] at same
    exact absurd same (by decide +kernel)

/-- At a new endpoint the host takes another key. -/
def moveAndPin : List HostRequest :=
  [byOperator (portUpdate 1 2222) 1, byOperator (pinRequest 2 secondKey) 2]

theorem moveAndPin_noReturn : NoReturnToPinned (sampleServer id) sampleMemory moveAndPin := by
  intro i request input id stored next update _ k le earlier atEarlier _ target
  rcases i with _ | _ | i
  · obtain rfl := Option.some.inj next
    cases update
    obtain rfl : k = 0 := by omega
    have first : sampleHost = earlier := Option.some.inj atEarlier
    subst first
    cases congrArg Prod.snd target
  · obtain rfl := Option.some.inj next
    cases update
  · cases next

theorem moveAndPin_oneKey :
    ((moment (sampleServer id) sampleMemory moveAndPin 2).hosts.get "host_1").map
        (fun host => (host.endpoint, host.hostKey.map (·.fingerprintSHA256))) =
      some (("vps.example", 2222), some secondKey.fingerprint) ∧
    OneKeyPerEndpoint (sampleServer id) sampleMemory moveAndPin :=
  ⟨by decide +kernel, oneKeyPerEndpoint_of_noReturn _ _ _
    (by simp [moveAndPin, byOperator_unprivileged]) moveAndPin_noReturn⟩

/-- The text of a pin is of a key with the fingerprint of the pin. -/
def PinSound (library : Ssh.Library) (host : Host) : Prop :=
  ∀ pin, host.hostKey = some pin →
    ∃ key, Ssh.parsePinnedHostKey library pin.publicKey = .ok key ∧
      library.fingerprintSHA256 key = pin.fingerprintSHA256

/-- A pinned key is read back from the text it is stored as. -/
def PinsReadBack (library : Ssh.Library) : Prop :=
  ∀ text key, Ssh.parsePinnedHostKey library text = .ok key →
    Ssh.parsePinnedHostKey library (trimSpace (library.marshalAuthorizedKey key)) = .ok key

theorem PinSound.prepared {server : Server} {principal : Principal} {edit : HostEdit}
    {host written : Host} {now : Int} {expected : UInt64} (readBack : PinsReadBack server.library)
    (sound : PinSound server.library host)
    (prepared : edit.prepare server principal host now = .ok (written, expected)) :
    PinSound server.library written := by
  intro pin pinned
  cases edit with
  | updateHost body =>
    obtain ⟨input, -, -, -, rfl, -⟩ := prepareUpdate_eq_ok.mp prepared
    dsimp only at pinned
    split at pinned
    · cases pinned
    · exact sound pin pinned
  | pinHostKey body =>
    obtain ⟨input, key, -, -, parsed, -, rfl, -⟩ := preparePin_ok prepared
    obtain rfl := Option.some.inj pinned
    exact ⟨key, readBack _ _ parsed, rfl⟩

theorem sampleLibrary_readBack : PinsReadBack Ssh.sampleLibrary := by
  intro text key parsed
  simp only [Ssh.parsePinnedHostKey, bind_eq_ok, orError_eq_ok, ensure_eq_ok, pure_eq_ok] at parsed
  obtain ⟨⟨listed, rest⟩, found, _, -, rfl⟩ := parsed
  obtain ⟨known, present, same⟩ := Option.map_eq_some_iff.mp found
  cases same
  have sample := List.mem_of_find?_eq_some present
  have marshalled : ([Ssh.firstKey, Ssh.secondKey].all fun known =>
      trimSpace (Ssh.sampleLibrary.marshalAuthorizedKey known.key) == known.authorizedKey) =
        true := by decide +kernel
  have text := List.all_eq_true.mp marshalled known sample
  rw [beq_iff_eq] at text
  rw [text]
  exact Ssh.sampleLibrary_parsePinned sample

end VpsManager.Control
