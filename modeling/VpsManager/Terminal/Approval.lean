import VpsManager.Lib.Machine
import VpsManager.Terminal.Validation

namespace VpsManager.Terminal

open Go Checks Protocol Control Machine

/-- The values of a host that a terminal is opened with. -/
structure Approved where
  hostID : String
  target : Ssh.Target
  publicKey : String
  deriving DecidableEq, Repr

/-- What the Connector is sent for the terminal. -/
def IssueRequest.approved (request : IssueRequest) : Approved :=
  ⟨request.binding.hostID, request.target, request.pinnedHostKey⟩

def sshTarget (host : Host) : Ssh.Target := ⟨host.address, host.port, host.username⟩

/-- The host has the address, the port, the user and the pinned key. -/
def Approved.Fits (approved : Approved) (host : Host) : Prop :=
  sshTarget host = approved.target ∧
    host.hostKey.map (·.publicKey) = some approved.publicKey

instance (approved : Approved) (host : Host) : Decidable (approved.Fits host) :=
  inferInstanceAs (Decidable (_ ∧ _))

namespace Approval

inductive Stage
  | issue
  | connect
  | periodic
  deriving DecidableEq, Repr

/-- A terminal from its request on. The three reads of `authorizeWebSSH` are steps of
their own. -/
inductive Call
  | requested (principal : Principal) (hostID : String) (input : TerminalSessionRequest)
  /-- `requireSSHJobTarget` has read the host, which has a pinned key. -/
  | hostRead (principal : Principal) (host : Host) (pin : HostKeyPin)
      (input : TerminalSessionRequest)
  /-- It has found a credential. -/
  | targetFound (principal : Principal) (host : Host) (pin : HostKeyPin)
      (input : TerminalSessionRequest)
  | asking (stage : Stage) (request : IssueRequest)
  | sessionSeen (stage : Stage) (request : IssueRequest)
  | hostSeen (stage : Stage) (request : IssueRequest) (host : Host)
  /-- The Connector has a ticket for the request, and so has the browser. -/
  | issued (request : IssueRequest)
  | live (request : IssueRequest)
  | ended

/-- A request that edits a host: it reads the host, changes its copy and writes it. -/
inductive Edit
  | accepted (principal : Principal) (edit : HostEdit) (hostID : String)
  | read (principal : Principal) (edit : HostEdit) (host : Host)
  | prepared (written : Host) (expected : UInt64)
  | finished

structure State where
  memory : Control.Memory
  edits : List Edit
  terminals : List Call
  /-- The requests that were allowed, each with the host it was allowed for. -/
  allowed : List (IssueRequest × Host)

inductive Action
  | beginEdit
  | readHost
  | prepare
  | writeHost (written : Host)
  | putCredential
  | beginTerminal
  | readTarget
  | findCredential
  | openCredential
  | checkSession
  | checkHost
  | checkCredential
  | connect
  | tick
  /-- A request fails, or a terminal ends. -/
  | stopEdit
  | stopTerminal

/-- The first checks of `authorizeWebSSH`, for the session it finds. -/
def sessionAllows (binding : Binding) (found : Option Principal) : Bool :=
  binding.action == actionWebSSH &&
    match binding.roles, found with
    | [role], some principal =>
      principal.subject == binding.principalID && principal.role.name == role
    | _, _ => false

def Stage.next (request : IssueRequest) : Stage → Call
  | .issue => .issued request
  | .connect | .periodic => .live request

/-- The terminal's request to the gateway, for the payload of its credential. -/
def issueRequest (principal : Principal) (host : Host) (pin : HostKeyPin) (credentialID : String)
    (payload : CredentialPayload) (input : TerminalSessionRequest) : IssueRequest :=
  terminalRequest principal host pin credentialID
    ⟨bytes payload.privateKey, bytes payload.passphrase⟩ input

/-- One step of one request. The sessions, and the time at which one is looked up, are
any. A credential that is put is any for a host there is. -/
inductive Step (server : Server) (s : State) : Action → State → Prop
  | beginEdit (principal : Principal) (edit : HostEdit) (hostID : String)
      (permitted : require principal edit.permission = .ok ())
      (inScope : checkHostScope principal hostID = .ok ()) :
      Step server s .beginEdit { s with edits := s.edits ++ [.accepted principal edit hostID] }
  | readHost (index : Nat) {principal : Principal} {edit : HostEdit} {hostID : String} {host : Host}
      (runs : s.edits[index]? = some (.accepted principal edit hostID))
      (found : s.memory.getHost hostID = .ok host) :
      Step server s .readHost { s with edits := s.edits.set index (.read principal edit host) }
  | prepare (index : Nat) {principal : Principal} {edit : HostEdit} {host written : Host}
      {expected : UInt64} (now : Int) (runs : s.edits[index]? = some (.read principal edit host))
      (ready : edit.prepare server principal host now = .ok (written, expected)) :
      Step server s .prepare { s with edits := s.edits.set index (.prepared written expected) }
  | writeHost (index : Nat) {written : Host} {expected : UInt64} {after : Control.Memory}
      (runs : s.edits[index]? = some (.prepared written expected))
      (wrote : s.memory.updateHost written expected = .ok after) :
      Step server s (.writeHost written)
        { s with memory := after, edits := s.edits.set index .finished }
  | putCredential {credential : StoredCredential} {after : Control.Memory}
      (put : s.memory.putCredential credential = .ok after) :
      Step server s .putCredential { s with memory := after }
  | beginTerminal (principal : Principal) (hostID : String) (input : TerminalSessionRequest)
      (enabled : server.devMode = true ∧ server.secretExecutionEnabled = true)
      (permitted : require principal .terminalSessionsOpen = .ok ())
      (inScope : checkHostScope principal hostID = .ok ()) :
      Step server s .beginTerminal
        { s with terminals := s.terminals ++ [.requested principal hostID input] }
  | readTarget (index : Nat) {principal : Principal} {hostID : String}
      {input : TerminalSessionRequest} {host : Host} {pin : HostKeyPin}
      (runs : s.terminals[index]? = some (.requested principal hostID input))
      (found : s.memory.getHost hostID = .ok host) (pinned : host.hostKey = some pin) :
      Step server s .readTarget
        { s with terminals := s.terminals.set index (.hostRead principal host pin input) }
  | findCredential (index : Nat) {principal : Principal} {host : Host} {pin : HostKeyPin}
      {input : TerminalSessionRequest} {credential : StoredCredential}
      (runs : s.terminals[index]? = some (.hostRead principal host pin input))
      (found : s.memory.getCredential host.id = .ok credential) :
      Step server s .findCredential
        { s with terminals := s.terminals.set index (.targetFound principal host pin input) }
  | openCredential (index : Nat) {principal : Principal} {host : Host} {pin : HostKeyPin}
      {input : TerminalSessionRequest} {credential : StoredCredential} {payload : CredentialPayload}
      (runs : s.terminals[index]? = some (.targetFound principal host pin input))
      (found : s.memory.getCredential host.id = .ok credential)
      (opened : server.vault.opened (server.credentialAAD host.id credential.metadata.id)
        credential.envelope = some payload) (present : payload.privateKey ≠ "")
      (valid : validateIssueRequest (issueRequest principal host pin credential.metadata.id payload
        input) = .ok ()) :
      Step server s .openCredential
        { s with terminals := s.terminals.set index (.asking .issue
          (issueRequest principal host pin credential.metadata.id payload input)) }
  | checkSession (index : Nat) {stage : Stage} {request : IssueRequest}
      (ranged : List StoredSession) (now : Int)
      (runs : s.terminals[index]? = some (.asking stage request))
      (allows : sessionAllows request.binding (authorizeSession ranged request.binding.sessionID
        .terminalSessionsOpen request.binding.hostID now) = true) :
      Step server s .checkSession
        { s with terminals := s.terminals.set index (.sessionSeen stage request) }
  | checkHost (index : Nat) {stage : Stage} {request : IssueRequest} {host : Host}
      (runs : s.terminals[index]? = some (.sessionSeen stage request))
      (found : s.memory.getHost request.binding.hostID = .ok host)
      (pinned : host.hostKey.isSome = true) :
      Step server s .checkHost
        { s with terminals := s.terminals.set index (.hostSeen stage request host) }
  | checkCredential (index : Nat) {stage : Stage} {request : IssueRequest} {host : Host}
      {credential : StoredCredential}
      (runs : s.terminals[index]? = some (.hostSeen stage request host))
      (found : s.memory.getCredential request.binding.hostID = .ok credential)
      (same : credential.metadata.id = request.binding.credentialID) :
      Step server s .checkCredential
        { s with
          terminals := s.terminals.set index (stage.next request)
          allowed := s.allowed ++ [(request, host)] }
  /-- The hello of the browser has consumed its ticket. -/
  | connect (index : Nat) {request : IssueRequest}
      (runs : s.terminals[index]? = some (.issued request)) :
      Step server s .connect
        { s with terminals := s.terminals.set index (.asking .connect request) }
  | tick (index : Nat) {request : IssueRequest}
      (runs : s.terminals[index]? = some (.live request)) :
      Step server s .tick
        { s with terminals := s.terminals.set index (.asking .periodic request) }
  | stopEdit (index : Nat) :
      Step server s .stopEdit { s with edits := s.edits.set index .finished }
  | stopTerminal (index : Nat) :
      Step server s .stopTerminal { s with terminals := s.terminals.set index .ended }

/-- The values a terminal under way was approved for. -/
def Call.approved? : Call → Option Approved
  | .hostRead _ host pin _ | .targetFound _ host pin _ =>
    some ⟨host.id, sshTarget host, pin.publicKey⟩
  | .asking _ request | .sessionSeen _ request | .hostSeen _ request _ | .issued request
  | .live request => some request.approved
  | .requested _ _ _ | .ended => none

/-- A host that has a terminal under way is written without a pinned key, or with the
address, the port, the user and the key it was approved with. -/
def KeepsApproved (s : State) : Action → Prop
  | .writeHost written => ∀ terminal ∈ s.terminals, ∀ approved,
      terminal.approved? = some approved → approved.hostID = written.id →
      written.hostKey = none ∨ approved.Fits written
  | _ => True

def started (memory : Control.Memory) : State := ⟨memory, [], [], []⟩

/-- A host that has a pinned key has the approved values. -/
def StillFits (hosts : Keyed Host.id) (approved : Approved) : Prop :=
  ∀ host, hosts.get approved.hostID = some host → host.hostKey = none ∨ approved.Fits host

def Call.Sound (hosts : Keyed Host.id) (terminal : Call) : Prop :=
  (∀ approved, terminal.approved? = some approved → StillFits hosts approved) ∧
    ∀ stage request host, terminal = .hostSeen stage request host → request.approved.Fits host

structure Tied (s : State) : Prop where
  terminals : ∀ terminal ∈ s.terminals, terminal.Sound s.memory.hosts
  allowed : ∀ request host, (request, host) ∈ s.allowed → request.approved.Fits host

section Steps

variable {server : Server} {s next : State} {action : Action} {hosts : Keyed Host.id} {call : Call}

theorem StillFits.put {approved : Approved} {written : Host} (fits : StillFits hosts approved)
    (kept : approved.hostID = written.id → written.hostKey = none ∨ approved.Fits written) :
    StillFits (hosts.put written) approved := by
  intro host found
  rw [Keyed.get_put] at found
  split at found
  · rename_i same
    cases found
    exact kept same
  · exact fits host found

/-- A host that is read with its pinned key has the values read. -/
theorem stillFits_read {host : Host} {pin : HostKeyPin} (found : hosts.get host.id = some host)
    (pinned : host.hostKey = some pin) :
    StillFits hosts ⟨host.id, sshTarget host, pin.publicKey⟩ := by
  intro stored present
  rw [found] at present
  cases present
  exact .inr ⟨rfl, by rw [pinned]; rfl⟩

theorem Call.Sound.goes_on {after : Call} (sound : call.Sound hosts)
    (same : after.approved? = call.approved?)
    (unseen : ∀ stage request host, after ≠ .hostSeen stage request host) : after.Sound hosts := by
  refine ⟨?_, fun stage request host seen => absurd seen (unseen stage request host)⟩
  rw [same]
  exact sound.1

theorem sound_unapproved (none : call.approved? = none)
    (unseen : ∀ stage request host, call ≠ .hostSeen stage request host) : call.Sound hosts := by
  refine ⟨?_, fun stage request host seen => absurd seen (unseen stage request host)⟩
  intro approved is
  rw [none] at is
  cases is

theorem Tied.set (tied : Tied s) (index : Nat) (sound : call.Sound s.memory.hosts) :
    Tied { s with terminals := s.terminals.set index call } where
  terminals terminal member := by
    rcases List.mem_or_eq_of_mem_set member with old | rfl
    · exact tied.terminals terminal old
    · exact sound
  allowed := tied.allowed

theorem Tied.sound (tied : Tied s) {index : Nat} (runs : s.terminals[index]? = some call) :
    call.Sound s.memory.hosts :=
  tied.terminals call (List.mem_of_getElem? runs)

theorem step_tied (keeps : KeepsApproved s action) (moved : Step server s action next)
    (tied : Tied s) : Tied next := by
  cases moved with
  | beginEdit | readHost | prepare | stopEdit => exact ⟨tied.terminals, tied.allowed⟩
  | @writeHost index written expected after runs wrote =>
    obtain ⟨-, rfl⟩ := Memory.updateHost_eq_ok.mp wrote
    refine ⟨fun terminal member => ?_, tied.allowed⟩
    have sound := tied.terminals terminal member
    exact ⟨fun approved is => (sound.1 approved is).put (keeps terminal member approved is),
      sound.2⟩
  | putCredential put =>
    simp only [Memory.putCredential, bind_eq_ok, pure_eq_ok] at put
    obtain ⟨_, -, rfl⟩ := put
    exact ⟨tied.terminals, tied.allowed⟩
  | beginTerminal principal hostID input =>
    refine ⟨fun terminal member => ?_, tied.allowed⟩
    rcases List.mem_append.mp member with old | new
    · exact tied.terminals terminal old
    · rw [List.mem_singleton.mp new]
      exact sound_unapproved rfl (by simp)
  | @readTarget index principal hostID input host pin runs found pinned =>
    have present := (orError_eq_ok _ _ _).mp found
    rw [← Keyed.key_of_get present] at present
    refine tied.set index ⟨fun approved is => ?_, by simp⟩
    cases is
    exact stillFits_read present pinned
  | findCredential index runs =>
    exact tied.set index ((tied.sound runs).goes_on rfl (by simp))
  | openCredential index runs =>
    exact tied.set index ((tied.sound runs).goes_on rfl (by simp))
  | checkSession index ranged now runs =>
    exact tied.set index ((tied.sound runs).goes_on rfl (by simp))
  | @checkHost index stage request host runs found pinned =>
    have sound := tied.sound runs
    have fits : request.approved.Fits host := by
      rcases sound.1 request.approved rfl host ((orError_eq_ok _ _ _).mp found) with none | fits
      · rw [none] at pinned
        cases pinned
      · exact fits
    refine tied.set index ⟨sound.1, ?_⟩
    intro _ _ _ seen
    cases seen
    exact fits
  | @checkCredential index stage request host credential runs =>
    have sound := tied.sound runs
    have goes : (stage.next request).Sound s.memory.hosts := by
      cases stage <;> exact sound.goes_on rfl (by simp [Stage.next])
    refine ⟨(tied.set index goes).terminals, ?_⟩
    intro also seen member
    rcases List.mem_append.mp member with old | new
    · exact tied.allowed also seen old
    · cases List.mem_singleton.mp new
      exact sound.2 stage request host rfl
  | connect index runs => exact tied.set index ((tied.sound runs).goes_on rfl (by simp))
  | tick index runs => exact tied.set index ((tied.sound runs).goes_on rfl (by simp))
  | stopTerminal index => exact tied.set index (sound_unapproved rfl (by simp))

end Steps

/-- If every write of a host that has a terminal under way leaves it without a pinned
key or with the values the terminal was approved for, then in every interleaving
`authorizeWebSSH` allows a terminal only on a host with the address, the port, the user
and the pinned key that the Connector was sent. -/
theorem allowed_fits (server : Server) (memory : Control.Memory) {actions : List Action} {s : State}
    (ran : Run (Step server) KeepsApproved (started memory) actions s) :
    ∀ request host, (request, host) ∈ s.allowed →
      (host.address = request.target.address ∧ host.port = request.target.port ∧
        host.username = request.target.user) ∧
      host.hostKey.map (·.publicKey) = some request.pinnedHostKey := by
  have tied : Tied s :=
    ran.keeps (fun _ _ _ keeps moved => step_tied keeps moved)
      ⟨by simp [started], by simp [started]⟩
  intro request host member
  obtain ⟨target, key⟩ := tied.allowed request host member
  have same : sshTarget host = request.target := target
  rw [← same]
  exact ⟨⟨rfl, rfl, rfl⟩, key⟩

def sampleCredential : StoredCredential where
  metadata := ⟨"cred_1", pinnedHost.id, "ssh_private_key", "", "key_1", 0, "olga"⟩
  envelope := ⟨"key_1", [], [], [], []⟩

def sampleMemory : Control.Memory where
  hosts := .single pinnedHost
  credentials := .single sampleCredential
  jobs := .empty

def samplePin : HostKeyPin := newPin Ssh.sampleLibrary sampleOperator Ssh.firstKey.key 0

def approvedRequest : IssueRequest :=
  issueRequest (developer "olga") pinnedHost samplePin "cred_1" samplePayload sampleTerminal

theorem approvedRequest_valid : validateIssueRequest approvedRequest = .ok () := by
  have bound := (@normalizeBinding_single approvedRequest.binding _ rfl).mpr (by decide +kernel)
  obtain ⟨normalized, bound⟩ := bound
  simp only [validateIssueRequest, bind_eq_ok, ensure_eq_ok]
  exact ⟨normalized, bound, (), sampleTerminal_valid.2, by decide +kernel⟩

def ownerSessions : List StoredSession := [⟨developer "olga", 60 * minute, [], false⟩]

theorem owner_allowed : sessionAllows approvedRequest.binding (authorizeSession ownerSessions
    approvedRequest.binding.sessionID .terminalSessionsOpen approvedRequest.binding.hostID 0) =
      true := by
  decide +kernel

/-- The state in which the terminal is live, and an edit is about to be written. -/
def editReady (written : Host) : State where
  memory := sampleMemory
  edits := [.prepared written 2]
  terminals := [.live approvedRequest]
  allowed := [(approvedRequest, pinnedHost), (approvedRequest, pinnedHost)]

section Sample

variable {allowed : State → Action → Prop} {principal : Principal} {edit : HostEdit}
  {written : Host} {now : Int}

theorem editReady_run
    (free : ∀ s action, (∀ written, action ≠ .writeHost written) → allowed s action)
    (permitted : require principal edit.permission = .ok ())
    (inScope : checkHostScope principal pinnedHost.id = .ok ())
    (ready : edit.prepare (sampleServer id) principal pinnedHost now = .ok (written, 2)) :
    ∃ actions, Run (Step (sampleServer id)) allowed (started sampleMemory) actions
      (editReady written) := by
  have ran : Run (Step (sampleServer id)) allowed (started sampleMemory) []
      (started sampleMemory) := .start
  have ran := ran.take .beginTerminal (free _ _ (by simp))
    (.beginTerminal (developer "olga") pinnedHost.id sampleTerminal (by decide) rfl rfl)
  have ran := ran.take .readTarget (free _ _ (by simp)) (.readTarget 0 rfl rfl rfl)
  have ran := ran.take .findCredential (free _ _ (by simp)) (.findCredential 0 rfl rfl)
  have ran := ran.take .openCredential (free _ _ (by simp))
    (.openCredential 0 rfl rfl rfl (by decide +kernel) approvedRequest_valid)
  have ran := ran.take .checkSession (free _ _ (by simp))
    (.checkSession 0 ownerSessions 0 rfl owner_allowed)
  have ran := ran.take .checkHost (free _ _ (by simp)) (.checkHost 0 rfl rfl rfl)
  have ran := ran.take .checkCredential (free _ _ (by simp)) (.checkCredential 0 rfl rfl rfl)
  have ran := ran.take .connect (free _ _ (by simp)) (.connect 0 rfl)
  have ran := ran.take .checkSession (free _ _ (by simp))
    (.checkSession 0 ownerSessions 0 rfl owner_allowed)
  have ran := ran.take .checkHost (free _ _ (by simp)) (.checkHost 0 rfl rfl rfl)
  have ran := ran.take .checkCredential (free _ _ (by simp)) (.checkCredential 0 rfl rfl rfl)
  have ran := ran.take .beginEdit (free _ _ (by simp))
    (.beginEdit principal edit pinnedHost.id permitted inScope)
  have ran := ran.take .readHost (free _ _ (by simp)) (.readHost 0 rfl rfl)
  have ran := ran.take .prepare (free _ _ (by simp)) (.prepare 0 now rfl ready)
  exact ⟨_, ran⟩

/-- The edit is written, and the next check allows the terminal on the host as it is
now. -/
theorem edited_allowed
    (free : ∀ s action, (∀ written, action ≠ .writeHost written) → allowed s action)
    (may : allowed (editReady written) (.writeHost written))
    (permitted : require principal edit.permission = .ok ())
    (inScope : checkHostScope principal pinnedHost.id = .ok ())
    (ready : edit.prepare (sampleServer id) principal pinnedHost now = .ok (written, 2))
    (pinned : written.hostKey.isSome = true) :
    ∃ actions s, Run (Step (sampleServer id)) allowed (started sampleMemory) actions s ∧
      (approvedRequest, written) ∈ s.allowed := by
  obtain ⟨_, ran⟩ := editReady_run free permitted inScope ready
  have sameID : written.id = pinnedHost.id := (HostEdit.prepare_ok ready).id
  have stored : sampleMemory.hosts.get written.id = some pinnedHost := by
    rw [sameID]
    rfl
  have ran := ran.take (.writeHost written) may
    (.writeHost 0 rfl (Memory.updateHost_eq_ok.mpr ⟨⟨pinnedHost, stored, rfl⟩, rfl⟩))
  have found : (sampleMemory.hosts.put written).get pinnedHost.id = some written := by
    rw [← sameID]
    exact Keyed.get_put_self _ _
  have ran := ran.take .tick (free _ _ (by simp)) (.tick 0 rfl)
  have ran := ran.take .checkSession (free _ _ (by simp))
    (.checkSession 0 ownerSessions 0 rfl owner_allowed)
  have ran := ran.take .checkHost (free _ _ (by simp))
    (.checkHost 0 rfl ((orError_eq_ok _ _ _).mpr found) pinned)
  have ran := ran.take .checkCredential (free _ _ (by simp)) (.checkCredential 0 rfl rfl rfl)
  exact ⟨_, _, ran, by simp⟩

end Sample

def renamedHost : Host := { pinnedHost with name := "site", version := 3 }

def nameUpdate : HostEdit := .updateHost (.ok ⟨2, some "site", none, none, none, none⟩)

theorem nameUpdate_ready :
    nameUpdate.prepare (sampleServer id) sampleOperator pinnedHost 0 = .ok (renamedHost, 2) :=
  prepareUpdate_eq_ok.mpr ⟨_, rfl, by decide, by decide +kernel, rfl, rfl⟩

theorem renamed_fits : ∃ actions s,
    Run (Step (sampleServer id)) KeepsApproved (started sampleMemory) actions s ∧
      (approvedRequest, renamedHost) ∈ s.allowed ∧
      renamedHost.hostKey.map (·.publicKey) = some approvedRequest.pinnedHostKey := by
  have free (s : State) (action : Action) (other : ∀ written, action ≠ .writeHost written) :
      KeepsApproved s action := by
    cases action with
    | writeHost written => exact absurd rfl (other written)
    | _ => trivial
  have may : KeepsApproved (editReady renamedHost) (.writeHost renamedHost) := by
    intro terminal member approved is _
    rw [List.mem_singleton.mp member] at is
    cases is
    exact .inr ⟨rfl, rfl⟩
  obtain ⟨actions, s, ran, member⟩ := edited_allowed free may rfl rfl nameUpdate_ready rfl
  exact ⟨actions, s, ran, member,
    (allowed_fits (sampleServer id) sampleMemory ran approvedRequest renamedHost member).2⟩

/-- The host under another user; its address and port are kept, and so is its pin. -/
def renamedUser : Host := { pinnedHost with username := "backup", version := 3 }

def userUpdate : HostEdit := .updateHost (.ok ⟨2, none, none, none, some "backup", none⟩)

theorem userUpdate_ready :
    userUpdate.prepare (sampleServer id) sampleOperator pinnedHost 0 = .ok (renamedUser, 2) :=
  prepareUpdate_eq_ok.mpr ⟨_, rfl, by decide, by decide +kernel, rfl, rfl⟩

def sampleAdmin : Principal := ⟨"anna", .admin, true, [], "session_2"⟩

def replacement : HostEdit :=
  .pinHostKey (.ok ⟨2, Ssh.secondKey.authorizedKey, Ssh.secondKey.fingerprint, true,
    Ssh.firstKey.fingerprint⟩)

def replacedKey : Host :=
  { pinnedHost with
    hostKey := some (newPin Ssh.sampleLibrary sampleAdmin Ssh.secondKey.key 0)
    version := 3 }

theorem replacement_ready :
    replacement.prepare (sampleServer id) sampleAdmin pinnedHost 0 = .ok (replacedKey, 2) := by
  have facts : trimSpace Ssh.secondKey.fingerprint ≠ "" ∧
      Ssh.sampleLibrary.fingerprintSHA256 Ssh.secondKey.key =
        trimSpace Ssh.secondKey.fingerprint := by decide +kernel
  have algorithm : validateHostKeyAlgorithm Ssh.sampleLibrary Ssh.secondKey.key = .ok () := by
    decide +kernel
  have parsed : Ssh.parsePinnedHostKey Ssh.sampleLibrary Ssh.secondKey.authorizedKey =
      .ok Ssh.secondKey.key := Ssh.sampleLibrary_parsePinned (by simp)
  have replaces : checkReplacing sampleAdmin pinnedHost.hostKey
      ⟨2, Ssh.secondKey.authorizedKey, Ssh.secondKey.fingerprint, true,
        Ssh.firstKey.fingerprint⟩ (Ssh.sampleLibrary.fingerprintSHA256 Ssh.secondKey.key) =
      .ok () := by decide +kernel
  simp only [HostEdit.prepare, replacement, preparePin, bind_eq_ok, mapError_eq_ok, ensure_eq_ok,
    pure_eq_ok]
  exact ⟨_, rfl, (), ⟨by decide, facts.1⟩, _, parsed, (), algorithm, (), facts.2, (), replaces,
    rfl⟩

/-- A terminal stays allowed after its host has another user, and after its host's key
was replaced. -/
theorem changed_allowed :
    (∃ actions s request host,
      Run (Step (sampleServer id)) anyAction (started sampleMemory) actions s ∧
        (request, host) ∈ s.allowed ∧ host.username ≠ request.target.user) ∧
    ∃ actions s request host,
      Run (Step (sampleServer id)) anyAction (started sampleMemory) actions s ∧
        (request, host) ∈ s.allowed ∧
        host.hostKey.map (·.publicKey) ≠ some request.pinnedHostKey := by
  constructor
  · obtain ⟨actions, s, ran, member⟩ := @edited_allowed anyAction _ _ _ _ (fun _ _ _ => trivial)
      trivial rfl rfl userUpdate_ready rfl
    exact ⟨actions, s, _, _, ran, member, by decide⟩
  · obtain ⟨actions, s, ran, member⟩ := @edited_allowed anyAction _ _ _ _ (fun _ _ _ => trivial)
      trivial rfl rfl replacement_ready rfl
    exact ⟨actions, s, _, _, ran, member, by decide +kernel⟩

end Approval

end VpsManager.Terminal
