import VpsManager.Control.Plane

/- Lost updates of hosts. A handler writes the record it has read, changed, if the
stored version is the one its request names. -/
namespace VpsManager.Control

open Go Checks Protocol Interleaving

/-- Every write is the request applied to the record it replaces. -/
def NoLostUpdate (server : Server) (trace : List Event) : Prop :=
  ∀ principal edit now stored written,
    .hostWritten principal edit now stored written ∈ trace →
    ∃ base, stored = some base ∧
      edit.prepare server principal base now = .ok (written, base.version)

/-- When an edit reads its host, the version it names is not ahead of the one it
reads. -/
def NamesNoFutureVersion (s : State) (_ : List Event) (call : Call) (_ : Event) : Prop :=
  ∀ authorization principal edit hostID, call = .accepted authorization principal
    (.editHost edit hostID) →
  ∀ host version, s.memory.hosts.get hostID = some host → edit.version? = some version →
    version ≤ host.version

/-- A record read earlier is the stored one, or the stored one has moved past its
version. Version 0 is what the largest version wraps to; no request names it. -/
def StillBase (hosts : Keyed Host.id) (base : Host) : Prop :=
  ∀ stored, hosts.get base.id = some stored →
    stored = base ∨ base.version < stored.version ∨ stored.version = 0

def EditSound (server : Server) (hosts : Keyed Host.id) : Call → Prop
  | .hostRead _ edit host =>
    StillBase hosts host ∧ ∀ version, edit.version? = some version →
      version ≤ host.version
  | .hostPrepared principal edit now written expected =>
    ∃ base, edit.prepare server principal base now = .ok (written, expected) ∧
      StillBase hosts base ∧ expected ≤ base.version
  | _ => True

theorem version_passed (base stored : UInt64) (le : base ≤ stored) :
    base < stored + 1 ∨ stored + 1 = 0 := by
  rw [UInt64.le_iff_toNat_le] at le
  rw [UInt64.lt_iff_toNat_lt, ← UInt64.toNat_inj, UInt64.toNat_add]
  have bound := stored.toNat_lt
  simp only [UInt64.toNat_one, UInt64.toNat_zero]
  omega

theorem StillBase.put {hosts : Keyed Host.id} {base stored written : Host}
    (current : StillBase hosts base) (found : hosts.get written.id = some stored)
    (version : written.version = stored.version + 1) (nonzero : stored.version ≠ 0) :
    StillBase (hosts.put written) base := by
  intro last present
  by_cases same : base.id = written.id
  · rw [same, Keyed.get_put_self] at present
    obtain rfl := Option.some.inj present
    rw [← same] at found
    right
    rw [version]
    apply version_passed
    rcases current stored found with rfl | later | zero
    · exact UInt64.le_refl _
    · exact UInt64.le_of_lt later
    · exact absurd zero nonzero
  · rw [Keyed.get_put_of_ne _ _ same] at present
    exact current last present

variable {server : Server} {s after : State} {event : Event} {trace : List Event}

theorem EditSound.other {choice : Choice} {call next : Call}
    (moves : Moves server choice s call event after next)
    (mover : EditSound server s.memory.hosts call) (other : Call)
    (sound : EditSound server s.memory.hosts other) :
    EditSound server after.memory.hosts other := by
  have kept : ∀ base, StillBase s.memory.hosts base → StillBase after.memory.hosts base := by
    intro base current
    rcases moves.hosts with same | ⟨principal, edit, now, written, expected, stored, rfl, -, found,
        version, put⟩
    · rw [same]
      exact current
    · obtain ⟨source, prepared, -, -⟩ := mover
      have shape := HostEdit.prepare_ok prepared
      rw [put]
      refine current.put found ?_ ?_
      · rw [shape.version, version]
      · rw [version]
        exact shape.nonzero
  cases other with
  | hostRead principal edit host => exact ⟨kept host sound.1, sound.2⟩
  | hostPrepared principal edit now written expected =>
    obtain ⟨base, prepared, current, le⟩ := sound
    exact ⟨base, prepared, kept base current, le⟩
  | _ => exact sound

/-- The write that succeeds has its base still stored. -/
theorem EditSound.stored {principal : Principal} {edit : HostEdit} {now : Int}
    {written stored : Host} {expected : UInt64}
    (sound : EditSound server s.memory.hosts (.hostPrepared principal edit now written expected))
    (found : s.memory.hosts.get written.id = some stored) (version : stored.version = expected) :
    edit.prepare server principal stored now = .ok (written, stored.version) := by
  obtain ⟨base, prepared, current, le⟩ := sound
  have shape := HostEdit.prepare_ok prepared
  rw [shape.id] at found
  rcases current stored found with rfl | later | zero
  · rw [version]
    exact prepared
  · rw [version] at later
    exact absurd le (UInt64.not_le.mpr later)
  · rw [version] at zero
    exact absurd zero shape.nonzero

theorem EditSound.moved {choice : Choice} {call next : Call}
    (moves : Moves server choice s call event after next)
    (sound : EditSound server s.memory.hosts call)
    (named : ∀ trace, NamesNoFutureVersion s trace call event) :
    EditSound server after.memory.hosts next := by
  cases moves with
  | @hostRead authorization hostID principal edit host found =>
    refine ⟨?_, fun version names => named [] _ _ _ _ rfl host version found names⟩
    intro stored present
    rw [Keyed.key_of_get found, found] at present
    exact .inl (Option.some.inj present).symm
  | hostPrepared prepared =>
    have shape := HostEdit.prepare_ok prepared
    exact ⟨_, prepared, sound.1, sound.2 _ shape.named⟩
  | _ => trivial

theorem noLostUpdate_cons (earlier : NoLostUpdate server trace)
    (now : ∀ principal edit time stored written,
      event = .hostWritten principal edit time stored written →
      ∃ base, stored = some base ∧
        edit.prepare server principal base time = .ok (written, base.version)) :
    NoLostUpdate server (event :: trace) := by
  intro principal edit time stored written member
  rcases List.mem_cons.mp member with same | old
  · exact now principal edit time stored written same.symm
  · exact earlier principal edit time stored written old

theorem noLostUpdate_silent (earlier : NoLostUpdate server trace) :
    NoLostUpdate server (.silent :: trace) := by
  apply noLostUpdate_cons earlier
  intro _ _ _ _ _ same
  cases same

theorem edit_inductive (server : Server) (start : State) :
    Inductive (plane server) NamesNoFutureVersion start
      (fun _ trace => NoLostUpdate server trace)
      (fun s _ call => EditSound server s.memory.hosts call)
      (fun _ _ => True) where
  symmetric _ _ _ := trivial
  initial := by
    intro _ _ _ _ _ member
    cases member
  begun := by
    rintro s trace _ - ⟨authorization, request, rfl⟩
    exact ⟨trivial, fun _ => trivial⟩
  advanced := by
    intro s trace call event after next global sound step named
    cases step with
    | refused choice _ _ =>
      refine ⟨noLostUpdate_silent global, trivial, ?_⟩
      exact fun other separate _ => ⟨separate, trivial⟩
    | advanced choice _ done =>
      have moves := advance_moves done
      refine ⟨noLostUpdate_cons global ?_, sound.moved moves fun _ => named, ?_⟩
      · intro principal edit time stored written same
        cases moves with
        | hostWritten found version =>
          cases same
          exact ⟨_, rfl, sound.stored found version⟩
        | _ => cases same
      · exact fun other separate _ => ⟨sound.other moves other separate, trivial⟩
  disturbed := by
    intro s trace event after global outside
    obtain ⟨rfl, same⟩ := Outside.quiet outside
    refine ⟨noLostUpdate_silent global, ?_⟩
    rw [same]
    exact fun other sound => sound

/-- If no request names a version ahead of the record it reads, no update of a
host is lost in any interleaving. -/
theorem no_lost_update (server : Server) (start : State)
    (config : Interleaving.Config State Call Event)
    (reached : Reachable (plane server) NamesNoFutureVersion start config) :
    NoLostUpdate server config.trace :=
  ((edit_inductive server start).holds reached).1

/-- The writes of a host, newest first: the record each replaced and the one it stored. -/
def hostWrites (id : String) (trace : List Event) : List (Host × Host) :=
  trace.filterMap fun
    | .hostWritten _ _ _ (some stored) written =>
      if written.id = id then some (stored, written) else none
    | _ => none

/-- Each write replaced what the write before it had stored, and counted the version up. -/
inductive Succession (first : Host) : List (Host × Host) → Host → Prop
  | start : Succession first [] first
  | write {writes : List (Host × Host)} {current written : Host}
      (earlier : Succession first writes current)
      (version : written.version = current.version + 1) :
      Succession first ((current, written) :: writes) written

section Succession

variable {first current : Host} {writes : List (Host × Host)}

theorem Succession.version (succession : Succession first writes current) :
    current.version = first.version + .ofNat writes.length := by
  induction succession with
  | start => simp
  | write _ version ih =>
    rw [version, ih, List.length_cons, UInt64.ofNat_add, UInt64.add_assoc]
    rfl

theorem Succession.replaced (succession : Succession first writes current) :
    ∀ write ∈ writes, ∃ index < writes.length,
      write.1.version = first.version + .ofNat index := by
  induction succession with
  | start => exact List.forall_mem_nil _
  | @write writes current written earlier _ ih =>
    intro write member
    rw [List.length_cons]
    rcases List.mem_cons.mp member with rfl | old
    · exact ⟨writes.length, Nat.lt_succ_self _, earlier.version⟩
    · obtain ⟨index, below, version⟩ := ih write old
      exact ⟨index, Nat.lt_succ_of_lt below, version⟩

/-- No version is replaced twice before the versions wrap around. -/
theorem Succession.distinct (succession : Succession first writes current)
    (few : writes.length < 2 ^ 64) :
    writes.Pairwise fun later earlier => later.1.version ≠ earlier.1.version := by
  induction succession with
  | start => exact .nil
  | @write writes current written earlier _ ih =>
    rw [List.length_cons] at few
    refine .cons ?_ (ih (Nat.lt_of_succ_lt few))
    intro write member same
    obtain ⟨index, below, version⟩ := earlier.replaced write member
    rw [earlier.version, version, UInt64.add_right_inj] at same
    have equal := congrArg UInt64.toNat same
    rw [UInt64.toNat_ofNat', UInt64.toNat_ofNat'] at equal
    omega

end Succession

/-- Every host of the start is still there, at the end of its succession. -/
def Recorded (hosts after : Keyed Host.id) (trace : List Event) : Prop :=
  ∀ id first, hosts.get id = some first →
    ∃ current, after.get id = some current ∧ Succession first (hostWrites id trace) current

/-- What an edit is about to write was prepared from a record. -/
def Prepared (server : Server) : Call → Prop
  | .hostPrepared principal edit now written expected =>
    ∃ base, edit.prepare server principal base now = .ok (written, expected)
  | _ => True

theorem Recorded.step {hosts : Keyed Host.id} {choice : Choice} {call next : Call}
    (recorded : Recorded hosts s.memory.hosts trace) (prepared : Prepared server call)
    (moves : Moves server choice s call event after next) :
    Recorded hosts after.memory.hosts (event :: trace) := by
  cases event with
  | hostWritten principal edit now stored written =>
    cases moves with
    | @hostWritten _ _ _ _ stored expected found version =>
      obtain ⟨base, ready⟩ := prepared
      have counted := (HostEdit.prepare_ok ready).version
      intro id first initial
      obtain ⟨current, present, succession⟩ := recorded id first initial
      by_cases same : written.id = id
      · subst same
        obtain rfl : stored = current := Option.some.inj (found.symm.trans present)
        have writes : hostWrites written.id
            (.hostWritten principal edit now (some stored) written :: trace) =
              (stored, written) :: hostWrites written.id trace := by
          simp [hostWrites]
        rw [writes]
        exact ⟨written, Keyed.get_put_self _ _, .write succession (by rw [counted, version])⟩
      · refine ⟨current, ?_, by simpa [hostWrites, same] using succession⟩
        rw [Keyed.get_put_of_ne _ _ (Ne.symm same)]
        exact present
  | _ =>
    rcases moves.hosts with same | ⟨_, _, _, _, _, _, -, written, -⟩
    · rw [same]
      exact recorded
    · cases written

theorem recorded_inductive (server : Server) (start : State) :
    Inductive (plane server) anyStep start
      (fun s trace => Recorded start.memory.hosts s.memory.hosts trace)
      (fun _ _ call => Prepared server call) (fun _ _ => True) where
  symmetric _ _ _ := trivial
  initial _ first initial := ⟨first, initial, .start⟩
  begun := by
    rintro s trace _ - ⟨authorization, request, rfl⟩
    exact ⟨trivial, fun _ => trivial⟩
  advanced := by
    intro s trace call event after next recorded prepared step _
    cases step with
    | refused choice _ _ => exact ⟨recorded, trivial, fun other sound _ => ⟨sound, trivial⟩⟩
    | advanced choice _ done =>
      have moves := advance_moves done
      refine ⟨recorded.step prepared moves, ?_, fun other sound _ => ⟨sound, trivial⟩⟩
      cases moves with
      | hostPrepared ready => exact ⟨_, ready⟩
      | _ => trivial
  disturbed := by
    intro s trace event after recorded outside
    obtain ⟨rfl, same⟩ := Outside.quiet outside
    rw [same]
    exact ⟨recorded, fun other sound => sound⟩

/-- In every interleaving the writes of a host form one succession from the record it began
with to the stored one. So the version counts the writes, and none is replaced twice. -/
theorem host_writes_in_succession (server : Server) (start : State)
    (config : Interleaving.Config State Call Event)
    (reached : Reachable (plane server) anyStep start config) (id : String) (first : Host)
    (initial : start.memory.hosts.get id = some first) :
    ∃ current, config.shared.memory.hosts.get id = some current ∧
      Succession first (hostWrites id config.trace) current ∧
      current.version = first.version + .ofNat (hostWrites id config.trace).length ∧
      ((hostWrites id config.trace).length < 2 ^ 64 →
        (hostWrites id config.trace).Pairwise fun later earlier =>
          later.1.version ≠ earlier.1.version) := by
  obtain ⟨current, found, succession⟩ :=
    ((recorded_inductive server start).holds reached).1 id first initial
  exact ⟨current, found, succession, succession.version, succession.distinct⟩

section Samples

variable {sha256 : Bytes → Bytes}

def operatorSession (sha256 : Bytes → Bytes) : StoredSession :=
  ⟨sampleOperator, 100, sha256 (bytes "t"), false⟩

def sampleState (sha256 : Bytes → Bytes) : State :=
  ⟨0, sampleMemory, .single (operatorSession sha256), []⟩

def plainChoice (sha256 : Bytes → Bytes) : Choice :=
  ⟨none, none, true, [operatorSession sha256], .error "", .error ""⟩

def nameUpdate (version : UInt64) (name : String) : HostEdit :=
  .updateHost (.ok ⟨version, some name, none, none, none, none⟩)

def Call.readsForEdit : Call → Bool
  | .accepted _ _ (.editHost _ _) => true
  | _ => false

/-- A step of a request while only the operator's session exists. -/
theorem sampleStep {call next : Call} (choice : Choice)
    (ranged : choice.ranged = [operatorSession sha256])
    (sessions : s.sessions = .single (operatorSession sha256))
    (done : advance (sampleServer sha256) choice s call = .ok (after, next, event)) :
    Step (sampleServer sha256) s call event after next := by
  refine .advanced choice ?_ done
  intro stored
  rw [ranged, sessions]
  exact Keyed.mem_single_iff (operatorSession sha256) stored

theorem plainStep {call next : Call} (sessions : s.sessions = .single (operatorSession sha256))
    (done : advance (sampleServer sha256) (plainChoice sha256) s call = .ok (after, next, event)) :
    Step (sampleServer sha256) s call event after next :=
  sampleStep (plainChoice sha256) rfl sessions done

theorem operator_authenticated (sha256 : Bytes → Bytes) :
    authenticate sha256 (.single (operatorSession sha256)) "Bearer t" 0 =
      (some sampleOperator, .single (operatorSession sha256)) := by
  have token : bearerToken "Bearer t" = some "t" := by decide +kernel
  have found : (Keyed.single (operatorSession sha256) : Sessions).get (sha256 (bytes "t")) =
      some (operatorSession sha256) := Keyed.get_put_self .empty (operatorSession sha256)
  simp only [authenticate, token, found]
  rfl

theorem arrivedStep {request : Request} (sessions : s.sessions = .single (operatorSession sha256))
    (clock : s.clock = 0) (permitted : allowed .operator request.permission = true) :
    Step (sampleServer sha256) s (.arrived "Bearer t" request) .silent s
      (.accepted "Bearer t" sampleOperator request) := by
  have authenticated : authenticate (sampleServer sha256).sha256 s.sessions "Bearer t" s.clock =
      (some sampleOperator, s.sessions) := by
    rw [sessions, clock]
    exact operator_authenticated sha256
  refine plainStep sessions ?_
  simp only [advance, authenticated, require, bind_eq_ok, ensure_eq_ok, pure_eq_ok]
  exact ⟨(), permitted, trivial⟩

theorem prepare_unhashed (principal : Principal) (edit : HostEdit) (host : Host) (now : Int) :
    edit.prepare (sampleServer sha256) principal host now =
      edit.prepare (sampleServer id) principal host now := by
  cases edit with
  | updateHost body => rfl
  | pinHostKey body => rfl

end Samples

/-- The sample host on port 2222, as version 2. -/
def movedHost : Host := { sampleHost with port := 2222, hostKey := none, version := 2 }

/-- The sample host with another name, as version 3. -/
def renamedHost : Host := { sampleHost with name := "api", version := 3 }

/-- One request reads version 1 and names version 2. Another moves the host to
port 2222 as version 2; the first then puts it back to port 22. -/
theorem future_version_loses_update :
    ¬ ∃ sha256, ∀ config, Reachable (plane (sampleServer sha256)) anyStep
      (sampleState sha256) config → NoLostUpdate (sampleServer sha256) config.trace := by
  rintro ⟨sha256, never⟩
  have s0 : Reachable (plane (sampleServer sha256)) anyStep
    (sampleState sha256) _ := .start
  have s1 := s0.call (.arrived "Bearer t" (.editHost (nameUpdate 2 "api") "host_1")) ⟨_, _, rfl⟩
  have s2 := s1.advance 0 rfl (arrivedStep rfl rfl rfl) trivial
  have s3 := s2.advance 0 rfl (plainStep rfl rfl) trivial
  have s4 := s3.advance 0 rfl (plainStep rfl rfl) trivial
  have s5 := s4.call (.arrived "Bearer t" (.editHost (portUpdate 1 2222) "host_1")) ⟨_, _, rfl⟩
  have s6 := s5.advance 1 rfl (arrivedStep rfl rfl rfl) trivial
  have s7 := s6.advance 1 rfl (plainStep rfl rfl) trivial
  have s8 := s7.advance 1 rfl (plainStep rfl rfl) trivial
  have s9 := s8.advance 1 rfl (plainStep rfl rfl) trivial
  have s10 := s9.advance 0 rfl (plainStep rfl rfl) trivial
  obtain ⟨base, stored, prepared⟩ := never _ s10 sampleOperator (nameUpdate 2 "api") 0
    (some movedHost) renamedHost (List.mem_cons_self ..)
  obtain rfl := Option.some.inj stored
  rw [prepare_unhashed] at prepared
  have port := congrArg (fun result => result.toOption.map fun done => done.1.port) prepared
  exact absurd port (by decide +kernel)

theorem namesNoFutureVersion_of_notReading {call : Call} (notReading : call.readsForEdit = false) :
    NamesNoFutureVersion s trace call event := by
  intro authorization principal edit hostID same
  rw [same] at notReading
  cases notReading

theorem names_sampleHost {edit : HostEdit} (found : s.memory.hosts.get "host_1" = some sampleHost)
    (named : edit.version? = some 1) :
    NamesNoFutureVersion s trace (.accepted "Bearer t" sampleOperator (.editHost edit "host_1"))
      event := by
  intro _ _ _ _ same host version stored asked
  cases same
  obtain rfl : sampleHost = host := Option.some.inj (found.symm.trans stored)
  obtain rfl : 1 = version := Option.some.inj (named.symm.trans asked)
  exact UInt64.le_refl 1

theorem refusedStep {call : Call} {error : ApiError}
    (sessions : s.sessions = .single (operatorSession sha256))
    (ended : advance (sampleServer sha256) (plainChoice sha256) s call = .error error) :
    Step (sampleServer sha256) s call .silent s (.failed error) := by
  refine .refused (plainChoice sha256) ?_ ended
  intro stored
  rw [sessions]
  exact Keyed.mem_single_iff (operatorSession sha256) stored

/-- Two requests read the sample host and name its version. The one that writes second is
refused. -/
theorem racing_edits {allowed : State → List Event → Call → Event → Prop}
    (free : ∀ s trace call event, NamesNoFutureVersion s trace call event →
      allowed s trace call event) :
    ∃ config written failure,
      Reachable (plane (sampleServer id)) allowed (sampleState id) config ∧
      config.calls = [.finished, .failed failure] ∧
      .hostWritten sampleOperator (portUpdate 1 2222) 0 (some sampleHost) written ∈ config.trace ∧
      (hostWrites "host_1" config.trace).length = 1 := by
  have quiet {s : State} {trace : List Event} {call : Call} {event : Event}
      (notReading : call.readsForEdit = false) : allowed s trace call event :=
    free _ _ _ _ (namesNoFutureVersion_of_notReading notReading)
  have s0 : Reachable (plane (sampleServer id)) allowed (sampleState id) _ := .start
  have s1 := s0.call (.arrived "Bearer t" (.editHost (portUpdate 1 2222) "host_1")) ⟨_, _, rfl⟩
  have s2 := s1.advance 0 rfl (arrivedStep rfl rfl rfl) (quiet rfl)
  have s3 := s2.advance 0 rfl (plainStep rfl rfl) (free _ _ _ _ (names_sampleHost rfl rfl))
  have s4 := s3.call (.arrived "Bearer t" (.editHost (nameUpdate 1 "api") "host_1")) ⟨_, _, rfl⟩
  have s5 := s4.advance 1 rfl (arrivedStep rfl rfl rfl) (quiet rfl)
  have s6 := s5.advance 1 rfl (plainStep rfl rfl) (free _ _ _ _ (names_sampleHost rfl rfl))
  have s7 := s6.advance 0 rfl (plainStep rfl rfl) (quiet rfl)
  have s8 := s7.advance 0 rfl (plainStep rfl rfl) (quiet rfl)
  have s9 := s8.advance 1 rfl (plainStep rfl rfl) (quiet rfl)
  have s10 := s9.advance 1 rfl (refusedStep rfl rfl) (quiet rfl)
  exact ⟨_, _, _, s10, rfl, .tail _ (.tail _ (.head _)), rfl⟩

theorem portUpdate_not_lost :
    ∃ config written failure,
      Reachable (plane (sampleServer id)) NamesNoFutureVersion (sampleState id) config ∧
      config.calls = [.finished, .failed failure] ∧
      .hostWritten sampleOperator (portUpdate 1 2222) 0 (some sampleHost) written ∈ config.trace ∧
      NoLostUpdate (sampleServer id) config.trace := by
  obtain ⟨config, written, failure, reached, calls, wrote, -⟩ := racing_edits fun _ _ _ _ => id
  exact ⟨config, written, failure, reached, calls, wrote, no_lost_update _ _ _ reached⟩

theorem portUpdate_in_succession :
    ∃ config current failure,
      Reachable (plane (sampleServer id)) anyStep (sampleState id) config ∧
      config.calls = [.finished, .failed failure] ∧
      Succession sampleHost (hostWrites "host_1" config.trace) current ∧
      (hostWrites "host_1" config.trace).length = 1 := by
  obtain ⟨config, -, failure, reached, calls, -, one⟩ :=
    @racing_edits anyStep fun _ _ _ _ _ => trivial
  obtain ⟨current, -, succession, -⟩ :=
    host_writes_in_succession _ _ _ reached "host_1" sampleHost rfl
  exact ⟨config, current, failure, reached, calls, succession, one⟩

end VpsManager.Control
