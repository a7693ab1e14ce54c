import VpsManager.Control.Server

namespace VpsManager.Control

open Go Checks Interleaving

/-- The values without blanks around them, each once and none empty. -/
def deduplicate (values : List String) : List String :=
  (values.map trimSpace).foldl (fun result value =>
    if value = "" ∨ value ∈ result then result else result ++ [value]) []

/-- `Issue` up to its lock: the token and the session to insert. -/
def issueSession (sha256 : Bytes → Bytes) (principal : Principal) (ttl : Int)
    (random : Except String (Bytes × Bytes)) (now : Int) :
    Except String (String × StoredSession) := do
  ensure (trimSpace principal.subject ≠ "" ∧ validRole principal.role = true)
    "valid session subject and role are required"
  ensure (0 < ttl ∧ ttl ≤ 480 * minute) "session ttl must be between zero and eight hours"
  let (raw, sessionIDRaw) ← random
  let token := rawURLEncode raw
  return (token, {
    principal := { principal with
      sessionID := newID "session" sessionIDRaw
      hostIDs := deduplicate principal.hostIDs }
    expiresAt := now + ttl
    tokenHash := sha256 (bytes token)
    revoked := false })

/-- `Authenticate` up to its reading of the clock. -/
def readSession (sha256 : Bytes → Bytes) (sessions : Sessions) (authorization : String) :
    Option StoredSession := do
  let token ← (bearerToken authorization).filter (· ≠ "")
  (sessions.get (sha256 (bytes token))).filter fun stored => !stored.revoked

variable {sha256 : Bytes → Bytes} {sessions : Sessions} {authorization token sessionID : String}
  {stored session : StoredSession} {now : Int} {principal : Principal} {ranged : List StoredSession}

theorem readSession_eq_some :
    readSession sha256 sessions authorization = some stored ↔
      ∃ token, bearerToken authorization = some token ∧ token ≠ "" ∧
        sessions.get (sha256 (bytes token)) = some stored ∧ stored.revoked = false := by
  simp [readSession, Option.bind_eq_some_iff, Option.filter_eq_some_iff, and_assoc]

theorem authenticate_eq (sha256 : Bytes → Bytes) (sessions : Sessions) (authorization : String)
    (now : Int) :
    authenticate sha256 sessions authorization now =
      match readSession sha256 sessions authorization with
      | none => (none, sessions)
      | some stored =>
        if now < stored.expiresAt then (some stored.principal, sessions)
        else (none, sessions.erase stored.tokenHash) := by
  unfold authenticate readSession
  cases bearerToken authorization with
  | none => rfl
  | some token =>
    by_cases empty : token = ""
    · simp [empty, Option.filter_some]
    · cases found : sessions.get (sha256 (bytes token)) with
      | none => simp [empty, found, Option.filter_some]
      | some stored =>
        have own := Keyed.key_of_get found
        cases revoked : stored.revoked <;>
          simp [empty, found, revoked, own, Option.filter_some]

theorem authenticate_eq_some :
    (authenticate sha256 sessions authorization now).1 = some principal ↔
      ∃ stored, readSession sha256 sessions authorization = some stored ∧
        now < stored.expiresAt ∧ stored.principal = principal := by
  rw [authenticate_eq]
  cases readSession sha256 sessions authorization with
  | none => simp
  | some stored => by_cases current : now < stored.expiresAt <;> simp [current]

structure SessionState where
  sessions : Sessions
  clock : Int

/-- The calls and what each has done so far. -/
inductive SessionCall
  | issue (principal : Principal) (ttl : Int)
  | issuing (token : String) (session : StoredSession)
  | issued (result : Except String (String × StoredSession))
  | authenticate (authorization : String)
  | found (authorization : String) (stored : StoredSession)
  | expired (authorization : String) (hash : Bytes)
  | authenticated (authorization : String) (result : Option Principal)
  | revoke (authorization : String)
  | revoked (authorization : String) (result : Bool)
  | authorize (sessionID : String) (permission : Permission) (hostID : String)
  | authorized (sessionID : String) (permission : Permission) (hostID : String)
      (result : Option Principal)

inductive SessionEvent
  | drawn (token sessionID : String)
  | issued (token : String) (session : StoredSession)
  | revoked (authorization : String) (result : Bool)
  | silent

/-- One section of a call: what it does under the lock, or one reading of the clock.
`AuthorizeSession` reads the clock only for a session with the ID asked for, while
it holds the lock. -/
inductive SessionStep (sha256 : Bytes → Bytes) (s : SessionState) :
    SessionCall → SessionEvent → SessionState → SessionCall → Prop
  | drawn {principal : Principal} {ttl : Int} {random : Except String (Bytes × Bytes)}
      {token : String} {session : StoredSession}
      (lengths : ∀ raw sessionIDRaw, random = .ok (raw, sessionIDRaw) →
        raw.length = 32 ∧ sessionIDRaw.length = 16)
      (ready : issueSession sha256 principal ttl random s.clock = .ok (token, session)) :
      SessionStep sha256 s (.issue principal ttl) (.drawn token session.principal.sessionID) s
        (.issuing token session)
  | refused {principal : Principal} {ttl : Int} {random : Except String (Bytes × Bytes)}
      {message : String}
      (invalid : issueSession sha256 principal ttl random s.clock = .error message) :
      SessionStep sha256 s (.issue principal ttl) .silent s (.issued (.error message))
  | inserted {token : String} {session : StoredSession} :
      SessionStep sha256 s (.issuing token session) (.issued token session)
        { s with sessions := s.sessions.put session } (.issued (.ok (token, session)))
  | unknown {authorization : String}
      (absent : readSession sha256 s.sessions authorization = none) :
      SessionStep sha256 s (.authenticate authorization) .silent s
        (.authenticated authorization none)
  | found {authorization : String} {stored : StoredSession}
      (present : readSession sha256 s.sessions authorization = some stored) :
      SessionStep sha256 s (.authenticate authorization) .silent s (.found authorization stored)
  | current {authorization : String} {stored : StoredSession}
      (early : s.clock < stored.expiresAt) :
      SessionStep sha256 s (.found authorization stored) .silent s
        (.authenticated authorization (some stored.principal))
  | expired {authorization : String} {stored : StoredSession}
      (late : stored.expiresAt ≤ s.clock) :
      SessionStep sha256 s (.found authorization stored) .silent s
        (.expired authorization stored.tokenHash)
  | deleted {authorization : String} {hash : Bytes} :
      SessionStep sha256 s (.expired authorization hash) .silent
        { s with sessions := s.sessions.erase hash } (.authenticated authorization none)
  | revoked {authorization : String} :
      SessionStep sha256 s (.revoke authorization)
        (.revoked authorization (revoke sha256 s.sessions authorization).1)
        { s with sessions := (revoke sha256 s.sessions authorization).2 }
        (.revoked authorization (revoke sha256 s.sessions authorization).1)
  | authorized {sessionID hostID : String} {permission : Permission} {ranged : List StoredSession}
      (ranges : s.sessions.Enumerates ranged) :
      SessionStep sha256 s (.authorize sessionID permission hostID) .silent s
        (.authorized sessionID permission hostID
          (authorizeSession ranged sessionID permission hostID s.clock))

def SessionCall.Begins : SessionCall → Prop
  | .issue _ _ | .authenticate _ | .revoke _ | .authorize _ _ _ => True
  | _ => False

/-- The calls on one table; outside of them the clock goes forward. -/
def sessionSystem (sha256 : Bytes → Bytes) : System SessionState SessionCall SessionEvent where
  begins call := call.Begins
  step := SessionStep sha256
  outside s event after :=
    event = .silent ∧ after.sessions = s.sessions ∧ s.clock ≤ after.clock

def DrawsFresh (_ : SessionState) (trace : List SessionEvent) (_ : SessionCall)
    (event : SessionEvent) : Prop :=
  ∀ token sessionID, event = .drawn token sessionID →
    ∀ otherToken otherID, .drawn otherToken otherID ∈ trace →
      otherToken ≠ token ∧ otherID ≠ sessionID

def CollisionFree (sha256 : Bytes → Bytes) : Prop :=
  ∀ one other : String, sha256 (bytes one) = sha256 (bytes other) → one = other

def RevokedIn (trace : List SessionEvent) (token : String) : Prop :=
  ∃ authorization, bearerToken authorization = some token ∧ .revoked authorization true ∈ trace

theorem issueSession_ok {ttl : Int} {random : Except String (Bytes × Bytes)}
    (lengths : ∀ raw sessionIDRaw, random = .ok (raw, sessionIDRaw) →
      raw.length = 32 ∧ sessionIDRaw.length = 16)
    (ready : issueSession sha256 principal ttl random now = .ok (token, session)) :
    session.tokenHash = sha256 (bytes token) ∧ trimSpace token = token ∧ token ≠ "" := by
  simp only [issueSession, bind_eq_ok, ensure_eq_ok, pure_eq_ok, Prod.mk.injEq] at ready
  obtain ⟨_, -, _, -, ⟨raw, sessionIDRaw⟩, drawn, rfl, rfl⟩ := ready
  obtain ⟨long, -⟩ := lengths raw sessionIDRaw drawn
  refine ⟨rfl, trimSpace_of_none _ ?_, ?_⟩
  · intro c member
    have range := rawURLEncode_range raw c member
    exact (printable_of_range (by omega)).1
  · intro empty
    have length : (rawURLEncode raw).toList.length = 43 := by
      rw [rawURLEncode, String.toList_ofList, List.length_map, length_sextets, long]
    rw [empty] at length
    cases length

/-- Every stored session was issued, nothing was issued twice, and what was revoked
stays so. -/
structure Tracked (sha256 : Bytes → Bytes) (s : SessionState) (trace : List SessionEvent) :
    Prop where
  stored : ∀ hash current, s.sessions.get hash = some current → ∃ token session,
    .issued token session ∈ trace ∧ current.tokenHash = sha256 (bytes token) ∧
      current.principal = session.principal ∧ current.expiresAt = session.expiresAt
  token : ∀ token session, .issued token session ∈ trace →
    .drawn token session.principal.sessionID ∈ trace ∧ trimSpace token = token ∧ token ≠ ""
  once : ∀ token session otherToken other, .issued token session ∈ trace →
    .issued otherToken other ∈ trace →
      token = otherToken ∨ session.principal.sessionID = other.principal.sessionID →
      token = otherToken ∧ session = other
  revoked : ∀ token, RevokedIn trace token → (∃ session, .issued token session ∈ trace) ∧
    ∀ current, s.sessions.get (sha256 (bytes token)) = some current → current.revoked = true

/-- A session that is about to be inserted differs from all issued before. -/
def SessionCall.Tracked (sha256 : Bytes → Bytes) (trace : List SessionEvent) : SessionCall → Prop
  | .issuing token session =>
    (session.tokenHash = sha256 (bytes token) ∧ trimSpace token = token ∧ token ≠ "") ∧
    .drawn token session.principal.sessionID ∈ trace ∧
    ∀ otherToken other, .issued otherToken other ∈ trace →
      otherToken ≠ token ∧ other.principal.sessionID ≠ session.principal.sessionID
  | _ => True

/-- Two sessions that are about to be inserted differ. -/
def SessionCall.Apart : SessionCall → SessionCall → Prop
  | .issuing token session, .issuing otherToken other =>
    otherToken ≠ token ∧ other.principal.sessionID ≠ session.principal.sessionID
  | _, _ => True

variable {call : SessionCall} {s after : SessionState}

section Tracked

variable {trace : List SessionEvent} {event : SessionEvent}

def SessionEvent.Plain (event : SessionEvent) : Prop :=
  ∀ token session, event ≠ .issued token session

theorem issued_of_plain (plain : event.Plain) (member : .issued token session ∈ event :: trace) :
    .issued token session ∈ trace := by
  rcases List.mem_cons.mp member with same | earlier
  · exact absurd same.symm (plain token session)
  · exact earlier

theorem Tracked.consRevoked (tracked : Tracked sha256 s trace) (plain : event.Plain)
    (marked : ∀ authorization token, event = .revoked authorization true →
      bearerToken authorization = some token → (∃ session, .issued token session ∈ trace) ∧
        ∀ current, s.sessions.get (sha256 (bytes token)) = some current →
          current.revoked = true) :
    Tracked sha256 s (event :: trace) where
  stored hash current found := by
    obtain ⟨token, session, issued, rest⟩ := tracked.stored hash current found
    exact ⟨token, session, List.mem_cons_of_mem event issued, rest⟩
  token token session issued := by
    obtain ⟨drawn, formed⟩ := tracked.token token session (issued_of_plain plain issued)
    exact ⟨List.mem_cons_of_mem event drawn, formed⟩
  once token session otherToken other issued alsoIssued :=
    tracked.once token session otherToken other (issued_of_plain plain issued)
      (issued_of_plain plain alsoIssued)
  revoked token revoked := by
    obtain ⟨authorization, bearer, member⟩ := revoked
    have known : (∃ session, .issued token session ∈ trace) ∧
        ∀ current, s.sessions.get (sha256 (bytes token)) = some current →
          current.revoked = true := by
      rcases List.mem_cons.mp member with same | earlier
      · exact marked authorization token same.symm bearer
      · exact tracked.revoked token ⟨authorization, bearer, earlier⟩
    obtain ⟨⟨session, issued⟩, ended⟩ := known
    exact ⟨⟨session, List.mem_cons_of_mem event issued⟩, ended⟩

theorem Tracked.cons (tracked : Tracked sha256 s trace) (plain : event.Plain)
    (keeps : ∀ authorization, event ≠ .revoked authorization true) :
    Tracked sha256 s (event :: trace) :=
  tracked.consRevoked plain fun authorization _ same => absurd same (keeps authorization)

theorem Tracked.silent (tracked : Tracked sha256 s trace) :
    Tracked sha256 s (.silent :: trace) :=
  tracked.cons nofun nofun

theorem SessionCall.Tracked.cons (tracked : call.Tracked sha256 trace) (plain : event.Plain) :
    call.Tracked sha256 (event :: trace) := by
  cases call with
  | issuing token session =>
    obtain ⟨formed, drawn, fresh⟩ := tracked
    exact ⟨formed, List.mem_cons_of_mem event drawn, fun otherToken other issued =>
      fresh otherToken other (issued_of_plain plain issued)⟩
  | _ => trivial

theorem Tracked.erase (tracked : Tracked sha256 s trace) (hash : Bytes) :
    Tracked sha256 { s with sessions := s.sessions.erase hash } trace where
  stored other current found := by
    rw [Keyed.get_erase] at found
    split at found
    · cases found
    · exact tracked.stored other current found
  token := tracked.token
  once := tracked.once
  revoked token revoked := by
    obtain ⟨issued, ended⟩ := tracked.revoked token revoked
    refine ⟨issued, ?_⟩
    intro current found
    rw [Keyed.get_erase] at found
    split at found
    · cases found
    · exact ended current found

theorem Tracked.insert (collisionFree : CollisionFree sha256) (tracked : Tracked sha256 s trace)
    (fresh : (SessionCall.issuing token session).Tracked sha256 trace) :
    Tracked sha256 { s with sessions := s.sessions.put session }
      (.issued token session :: trace) := by
  obtain ⟨⟨hash, formed⟩, drawn, differs⟩ := fresh
  refine ⟨?_, ?_, ?_, ?_⟩
  · intro other current found
    rw [Keyed.get_put] at found
    split at found
    · obtain rfl := Option.some.inj found
      exact ⟨token, _, List.mem_cons_self, hash, rfl, rfl⟩
    · obtain ⟨token, session, issued, rest⟩ := tracked.stored other current found
      exact ⟨token, session, List.mem_cons_of_mem _ issued, rest⟩
  · intro other current issued
    rcases List.mem_cons.mp issued with same | earlier
    · cases same
      exact ⟨List.mem_cons_of_mem _ drawn, formed⟩
    · obtain ⟨drawn, formed⟩ := tracked.token other current earlier
      exact ⟨List.mem_cons_of_mem _ drawn, formed⟩
  · intro one first other second issued alsoIssued shared
    rcases List.mem_cons.mp issued with same | earlier <;>
      rcases List.mem_cons.mp alsoIssued with alsoSame | alsoEarlier
    · cases same
      cases alsoSame
      exact ⟨rfl, rfl⟩
    · cases same
      obtain ⟨otherToken, otherID⟩ := differs other second alsoEarlier
      exact shared.elim (fun same => absurd same.symm otherToken)
        fun same => absurd same.symm otherID
    · cases alsoSame
      obtain ⟨otherToken, otherID⟩ := differs one first earlier
      exact shared.elim (fun same => absurd same otherToken) fun same => absurd same otherID
    · exact tracked.once one first other second earlier alsoEarlier shared
  · rintro other ⟨authorization, bearer, member⟩
    rcases List.mem_cons.mp member with same | earlier
    · cases same
    · obtain ⟨⟨original, issued⟩, ended⟩ := tracked.revoked other ⟨authorization, bearer, earlier⟩
      refine ⟨⟨original, List.mem_cons_of_mem _ issued⟩, ?_⟩
      intro current found
      rw [Keyed.get_put] at found
      split at found
      · rename_i same
        rw [hash] at same
        exact absurd (collisionFree other token same) (differs other original issued).1
      · exact ended current found

theorem Tracked.mark {hash : Bytes} (tracked : Tracked sha256 s trace)
    (found : s.sessions.get hash = some stored) :
    Tracked sha256 { s with sessions := s.sessions.put { stored with revoked := true } }
      trace where
  stored other current foundNow := by
    rw [Keyed.get_put] at foundNow
    split at foundNow
    · obtain rfl := Option.some.inj foundNow
      exact tracked.stored hash stored found
    · exact tracked.stored other current foundNow
  token := tracked.token
  once := tracked.once
  revoked token revoked := by
    obtain ⟨issued, ended⟩ := tracked.revoked token revoked
    refine ⟨issued, ?_⟩
    intro current foundNow
    rw [Keyed.get_put] at foundNow
    split at foundNow
    · obtain rfl := Option.some.inj foundNow
      rfl
    · exact ended current foundNow

/-- Revoking, whether there is such a session or not. -/
theorem Tracked.revoke (collisionFree : CollisionFree sha256) (tracked : Tracked sha256 s trace) :
    Tracked sha256 { s with sessions := (Control.revoke sha256 s.sessions authorization).2 }
      (.revoked authorization (Control.revoke sha256 s.sessions authorization).1 :: trace) := by
  unfold Control.revoke
  cases bearer : bearerToken authorization with
  | none => exact tracked.cons nofun nofun
  | some token =>
    cases found : s.sessions.get (sha256 (bytes token)) with
    | none =>
      simp only [found]
      exact tracked.cons nofun nofun
    | some stored =>
      have own := Keyed.key_of_get found
      obtain ⟨issuedToken, session, issued, hash, -⟩ := tracked.stored _ _ found
      obtain rfl : issuedToken = token := collisionFree _ _ (hash.symm.trans own)
      simp only [found]
      refine (tracked.mark found).consRevoked nofun ?_
      rintro _ _ ⟨⟩ same
      obtain rfl := Option.some.inj (bearer.symm.trans same)
      refine ⟨⟨session, issued⟩, ?_⟩
      intro current foundNow
      rw [Keyed.get_put, if_pos own.symm] at foundNow
      obtain rfl := Option.some.inj foundNow
      rfl

end Tracked

/-- The sessions are tracked in every run whose draws are fresh. -/
theorem sessions_tracked (collisionFree : CollisionFree sha256) (clock : Int) :
    Inductive (sessionSystem sha256) DrawsFresh ⟨.empty, clock⟩ (Tracked sha256)
      (fun _ trace call => call.Tracked sha256 trace) SessionCall.Apart where
  symmetric one other apart := by
    cases one <;> cases other <;> try trivial
    exact ⟨apart.1.symm, apart.2.symm⟩
  initial := by
    refine ⟨?_, ?_, ?_, ?_⟩
    · intro hash current found
      rw [Keyed.get_empty] at found
      cases found
    · intro token session issued
      cases issued
    · intro token session otherToken other issued
      cases issued
    · rintro token ⟨authorization, -, member⟩
      cases member
  begun s trace call tracked begins := by
    cases call <;> first | exact ⟨trivial, fun _ => trivial⟩ | exact begins.elim
  advanced s trace call event after next tracked own step fresh := by
    cases step with
    | @drawn principal ttl random token session lengths ready =>
      have differs := fresh token session.principal.sessionID rfl
      refine ⟨tracked.cons nofun nofun, ⟨issueSession_ok lengths ready, List.mem_cons_self, ?_⟩,
        ?_⟩
      · intro otherToken other issued
        have earlier := issued_of_plain (by exact nofun) issued
        exact differs _ _ (tracked.token otherToken other earlier).1
      · intro other otherTracked _
        refine ⟨otherTracked.cons nofun, ?_⟩
        cases other with
        | issuing otherToken otherSession => exact differs _ _ otherTracked.2.1
        | _ => trivial
    | @inserted token session =>
      refine ⟨tracked.insert collisionFree own, trivial, ?_⟩
      intro other otherTracked apart
      refine ⟨?_, trivial⟩
      cases other with
      | issuing otherToken otherSession =>
        obtain ⟨formed, drawn, differs⟩ := otherTracked
        refine ⟨formed, List.mem_cons_of_mem _ drawn, ?_⟩
        intro earlierToken earlier issued
        rcases List.mem_cons.mp issued with same | before
        · cases same
          exact ⟨apart.1.symm, apart.2.symm⟩
        · exact differs earlierToken earlier before
      | _ => trivial
    | @deleted authorization hash =>
      exact ⟨(tracked.erase hash).silent, trivial, fun other otherTracked _ =>
        ⟨otherTracked.cons nofun, trivial⟩⟩
    | revoked =>
      exact ⟨tracked.revoke collisionFree, trivial, fun other otherTracked _ =>
        ⟨otherTracked.cons nofun, trivial⟩⟩
    | refused | unknown | found | current | expired | authorized =>
      exact ⟨tracked.silent, trivial, fun other otherTracked _ =>
        ⟨otherTracked.cons nofun, trivial⟩⟩
  disturbed s trace event after tracked outside := by
    obtain ⟨rfl, same, -⟩ := outside
    have moved : Tracked sha256 after trace := by
      refine ⟨?_, tracked.token, tracked.once, ?_⟩
      · rw [same]
        exact tracked.stored
      · rw [same]
        exact tracked.revoked
    exact ⟨moved.silent, fun other otherTracked => otherTracked.cons nofun⟩

def Ended (token : String) (session : StoredSession) (s : SessionState)
    (trace : List SessionEvent) : Prop :=
  .issued token session ∈ trace ∧ (RevokedIn trace token ∨ session.expiresAt ≤ s.clock)

/-- A call that does not and will not succeed for the token or the session ID. -/
def SessionCall.Barred (token sessionID : String) (s : SessionState) : SessionCall → Prop
  | .found authorization stored =>
    bearerToken authorization = some token → stored.expiresAt ≤ s.clock
  | .authenticated authorization (some _) => bearerToken authorization ≠ some token
  | .authorized askedID _ _ (some _) => askedID ≠ sessionID
  | _ => True

theorem SessionCall.Barred.mono (forward : s.clock ≤ after.clock)
    (barred : call.Barred token sessionID s) : call.Barred token sessionID after := by
  cases call with
  | found authorization stored => exact fun bearer => (barred bearer).trans forward
  | authenticated authorization result => cases result <;> exact barred
  | authorized askedID permission hostID result => cases result <;> exact barred
  | _ => trivial

variable {next : SessionCall} {event : SessionEvent} {trace : List SessionEvent}

theorem SessionStep.clock_eq (step : SessionStep sha256 s call event after next) :
    after.clock = s.clock := by
  cases step <;> rfl

theorem Ended.later {allow : SessionState → List SessionEvent → SessionCall → SessionEvent → Prop}
    {first last : Config SessionState SessionCall SessionEvent}
    (ended : Ended token session first.shared first.trace)
    (later : Later (sessionSystem sha256) allow first last) :
    Ended token session last.shared last.trace := by
  have step {s after : SessionState} {trace : List SessionEvent} {event : SessionEvent}
      (ended : Ended token session s trace) (forward : s.clock ≤ after.clock) :
      Ended token session after (event :: trace) := by
    obtain ⟨issued, ⟨authorization, bearer, member⟩ | late⟩ := ended
    · exact ⟨List.mem_cons_of_mem _ issued,
        .inl ⟨authorization, bearer, List.mem_cons_of_mem _ member⟩⟩
    · exact ⟨List.mem_cons_of_mem _ issued, .inr (late.trans forward)⟩
  induction later with
  | now => exact ended
  | call _ _ _ ih => exact ih
  | advance _ _ _ taken _ ih => exact step ih (SessionStep.clock_eq taken).ge
  | outside _ taken ih => exact step ih taken.2.2

section Found

theorem Tracked.of_token (collisionFree : CollisionFree sha256) (tracked : Tracked sha256 s trace)
    (issued : .issued token session ∈ trace)
    (found : s.sessions.get (sha256 (bytes token)) = some stored) :
    stored.principal = session.principal ∧ stored.expiresAt = session.expiresAt := by
  obtain ⟨otherToken, other, alsoIssued, hash, principal, expiresAt⟩ := tracked.stored _ _ found
  have sameToken := collisionFree _ _ (hash.symm.trans (Keyed.key_of_get found))
  obtain ⟨-, rfl⟩ := tracked.once _ _ _ _ alsoIssued issued (.inl sameToken)
  exact ⟨principal, expiresAt⟩

theorem Tracked.of_sessionID (tracked : Tracked sha256 s trace)
    (issued : .issued token session ∈ trace)
    (found : s.sessions.get stored.tokenHash = some stored)
    (sameID : stored.principal.sessionID = session.principal.sessionID) :
    stored.tokenHash = sha256 (bytes token) := by
  obtain ⟨otherToken, other, alsoIssued, hash, principal, -⟩ := tracked.stored _ _ found
  rw [principal] at sameID
  obtain ⟨rfl, -⟩ := tracked.once _ _ _ _ alsoIssued issued (.inr sameID)
  exact hash

/-- What is stored under the token of an ended session is revoked or expired. -/
theorem Tracked.ended (collisionFree : CollisionFree sha256) (tracked : Tracked sha256 s trace)
    (ended : Ended token session s trace)
    (found : s.sessions.get (sha256 (bytes token)) = some stored) :
    stored.revoked = true ∨ stored.expiresAt ≤ s.clock := by
  obtain ⟨issued, revoked | late⟩ := ended
  · exact .inl ((tracked.revoked token revoked).2 stored found)
  · right
    rwa [(tracked.of_token collisionFree issued found).2]

end Found

theorem authorizeSession_eq_some {hostID : String} {permission : Permission} :
    authorizeSession ranged sessionID permission hostID now = some principal ↔
      ∃ stored, ranged.find? (fun stored => stored.principal.sessionID == sessionID &&
          !stored.revoked && decide (now < stored.expiresAt)) = some stored ∧
        stored.principal = principal ∧ allowed principal.role permission = true ∧
        canAccessHost principal hostID = true := by
  unfold authorizeSession
  cases ranged.find? (fun stored => stored.principal.sessionID == sessionID &&
      !stored.revoked && decide (now < stored.expiresAt)) with
  | none => simp
  | some stored =>
    simp only [Option.some.injEq, exists_eq_left', Bool.and_eq_true]
    constructor
    · intro answered
      split at answered
      · rename_i permitted
        obtain rfl := Option.some.inj answered
        exact ⟨rfl, permitted⟩
      · cases answered
    · rintro ⟨rfl, permitted⟩
      rw [if_pos permitted]

theorem find_stored (ranges : sessions.Enumerates ranged)
    (found : ranged.find? (fun stored => stored.principal.sessionID == sessionID &&
      !stored.revoked && decide (now < stored.expiresAt)) = some stored) :
    sessions.get stored.tokenHash = some stored ∧ stored.principal.sessionID = sessionID ∧
      stored.revoked = false ∧ now < stored.expiresAt := by
  have matched := List.find?_some found
  simp only [Bool.and_eq_true, beq_iff_eq, Bool.not_eq_true', decide_eq_true_eq] at matched
  exact ⟨(ranges.mem_iff stored).mp (List.mem_of_find?_eq_some found), matched.1.1, matched.1.2,
    matched.2⟩

/-- A call that begins when the session has ended never succeeds. -/
theorem SessionStep.barred (collisionFree : CollisionFree sha256)
    (tracked : Tracked sha256 s trace) (ended : Ended token session s trace)
    (barred : call.Barred token session.principal.sessionID s)
    (step : SessionStep sha256 s call event after next) :
    next.Barred token session.principal.sessionID after := by
  cases step with
  | @found authorization stored present =>
    intro bearer
    obtain ⟨presented, sameBearer, -, stored, unrevoked⟩ := readSession_eq_some.mp present
    obtain rfl := Option.some.inj (bearer.symm.trans sameBearer)
    rcases tracked.ended collisionFree ended stored with revoked | late
    · rw [unrevoked] at revoked
      cases revoked
    · exact late
  | @current authorization stored early =>
    intro bearer
    exact absurd early (Int.not_lt.mpr (barred bearer))
  | @authorized sessionID hostID permission ranged ranges =>
    cases answer : authorizeSession ranged sessionID permission hostID s.clock with
    | none => trivial
    | some principal =>
      rintro rfl
      obtain ⟨stored, found, -⟩ := authorizeSession_eq_some.mp answer
      obtain ⟨present, sameID, unrevoked, early⟩ := find_stored ranges found
      have hash := tracked.of_sessionID ended.1 present sameID
      rw [hash] at present
      rcases tracked.ended collisionFree ended present with revoked | late
      · rw [unrevoked] at revoked
        cases revoked
      · exact absurd early (Int.not_lt.mpr late)
  | drawn | refused | inserted | unknown | expired | deleted | revoked => trivial

theorem bearerToken_bearer (trimmed : trimSpace token = token) :
    bearerToken ("Bearer " ++ token) = some token := by
  have lead : "Bearer ".toList = ['B', 'e', 'a', 'r', 'e', 'r', ' '] := by decide
  simp [bearerToken, hasPrefix, String.toList_append, lead, trimmed]

/-- The lookup by session ID and the lookup by token agree. -/
theorem authorizeSession_iff (collisionFree : CollisionFree sha256)
    (tracked : Tracked sha256 s trace) (ranges : s.sessions.Enumerates ranged)
    (sessionID hostID : String) (permission : Permission) (principal : Principal) :
    authorizeSession ranged sessionID permission hostID s.clock = some principal ↔
      ∃ token session, .issued token session ∈ trace ∧
        session.principal.sessionID = sessionID ∧
        (authenticate sha256 s.sessions ("Bearer " ++ token) s.clock).1 = some principal ∧
        allowed principal.role permission = true ∧ canAccessHost principal hostID = true := by
  rw [authorizeSession_eq_some]
  constructor
  · rintro ⟨stored, found, rfl, permitted, inScope⟩
    obtain ⟨present, rfl, unrevoked, early⟩ := find_stored ranges found
    obtain ⟨token, session, issued, hash, principal, -⟩ := tracked.stored _ _ present
    obtain ⟨-, trimmed, nonempty⟩ := tracked.token token session issued
    refine ⟨token, session, issued, by rw [principal], ?_, permitted, inScope⟩
    rw [hash] at present
    exact authenticate_eq_some.mpr ⟨stored, readSession_eq_some.mpr
      ⟨token, bearerToken_bearer trimmed, nonempty, present, unrevoked⟩, early, rfl⟩
  · rintro ⟨token, session, issued, rfl, authenticated, permitted, inScope⟩
    obtain ⟨stored, read, early, rfl⟩ := authenticate_eq_some.mp authenticated
    obtain ⟨presented, bearer, -, present, unrevoked⟩ := readSession_eq_some.mp read
    obtain ⟨-, trimmed, -⟩ := tracked.token token session issued
    obtain rfl : token = presented :=
      Option.some.inj ((bearerToken_bearer trimmed).symm.trans bearer)
    have same := (tracked.of_token collisionFree issued present).1
    have own := Keyed.key_of_get present
    have ranged' : stored ∈ ranged := (ranges.mem_iff stored).mpr (own ▸ present)
    refine ⟨stored, ?_, rfl, permitted, inScope⟩
    cases found : ranged.find? (fun stored =>
        stored.principal.sessionID == session.principal.sessionID && !stored.revoked &&
          decide (s.clock < stored.expiresAt)) with
    | none =>
      have passed := List.find?_eq_none.mp found stored ranged'
      simp [same, unrevoked, early] at passed
    | some other =>
      obtain ⟨otherPresent, sameID, -, -⟩ := find_stored ranges found
      have hash := tracked.of_sessionID issued otherPresent sameID
      rw [hash] at otherPresent
      exact otherPresent.symm.trans present

/-- In a run whose draws are fresh, a call that begins after its session was revoked
or has expired fails, and at any moment `AuthorizeSession` succeeds exactly if
`Authenticate` would, the role grants the permission and the scope has the host. -/
theorem sessions_end {sha256 : Bytes → Bytes} (collisionFree : CollisionFree sha256) {clock : Int}
    {config : Config SessionState SessionCall SessionEvent}
    (reached : Reachable (sessionSystem sha256) DrawsFresh ⟨.empty, clock⟩ config) :
    (∀ token, RevokedIn config.trace token → ∃ session, .issued token session ∈ config.trace) ∧
    (∀ token session, .issued token session ∈ config.trace →
      RevokedIn config.trace token ∨ session.expiresAt ≤ config.shared.clock →
      ∀ later, Later (sessionSystem sha256) DrawsFresh config later →
      ∀ index, config.calls.length ≤ index →
        (∀ authorization principal, bearerToken authorization = some token →
          later.calls[index]? ≠ some (.authenticated authorization (some principal))) ∧
        ∀ permission hostID principal, later.calls[index]? ≠
          some (.authorized session.principal.sessionID permission hostID (some principal))) ∧
    (∀ ranged, config.shared.sessions.Enumerates ranged →
      ∀ sessionID permission hostID principal,
        authorizeSession ranged sessionID permission hostID config.shared.clock =
            some principal ↔
          ∃ token session, .issued token session ∈ config.trace ∧
            session.principal.sessionID = sessionID ∧
            (authenticate sha256 config.shared.sessions ("Bearer " ++ token)
              config.shared.clock).1 = some principal ∧
            allowed principal.role permission = true ∧
            canAccessHost principal hostID = true) := by
  have valid := sessions_tracked collisionFree clock
  have tracked := (valid.holds reached).1
  refine ⟨fun token revoked => (tracked.revoked token revoked).1, ?_, ?_⟩
  · intro token session issued ends later run index beyond
    have barred := run.begunAfter (SessionCall.Barred token session.principal.sessionID)
      (fun s trace => Tracked sha256 s trace ∧ Ended token session s trace)
      (fun middle run => ⟨(valid.holds (run.reachable reached)).1, Ended.later ⟨issued, ends⟩ run⟩)
      (by
        intro s call begins
        cases call <;> trivial)
      (fun s trace call event after next sound barred step =>
        step.barred collisionFree sound.1 sound.2 barred)
      (fun s call event after next other step barred => barred.mono (SessionStep.clock_eq step).ge)
      (fun s event after other outside barred => barred.mono outside.2.2)
      index
    constructor
    · intro authorization principal bearer present
      exact barred _ beyond present bearer
    · intro permission hostID principal present
      exact barred _ beyond present rfl
  · intro ranged ranges sessionID permission hostID principal
    exact authorizeSession_iff collisionFree tracked ranges sessionID hostID permission principal

def zeroToken : String := rawURLEncode (List.replicate 32 0)

/-- SHA-256 of the token. -/
def tokenSHA256 : Bytes → Bytes :=
  digestsOn
    [(bytes zeroToken, 0x0f007385b6f9d4b7eeb2748605afe1a984a0a3bfa3f014d09e2a784ce9e5cd1a)]

theorem collisionFree_tokenSHA256 : CollisionFree tokenSHA256 := by
  intro one other same
  have injective : Function.Injective tokenSHA256 := digestsOn_injective (by decide +kernel)
  exact bytes_injective (injective same)

theorem bearer_zeroToken : bearerToken ("Bearer " ++ zeroToken) = some zeroToken :=
  bearerToken_bearer (by decide +kernel)

theorem zeroToken_issued : ∃ session : StoredSession,
    (Keyed.empty.put session : Sessions).get (tokenSHA256 (bytes zeroToken)) = some session ∧
    session.revoked = false ∧ 0 < session.expiresAt ∧
    Reachable (sessionSystem tokenSHA256) DrawsFresh ⟨.empty, 0⟩
      ⟨⟨Keyed.empty.put session, 0⟩, [.issued (.ok (zeroToken, session))],
        [.issued zeroToken session, .drawn zeroToken session.principal.sessionID]⟩ := by
  have lengths : ∀ raw sessionIDRaw,
      (.ok (List.replicate 32 0, List.replicate 16 0) : Except String (Bytes × Bytes)) =
        .ok (raw, sessionIDRaw) → raw.length = 32 ∧ sessionIDRaw.length = 16 := by
    intro raw sessionIDRaw same
    cases same
    exact ⟨List.length_replicate, List.length_replicate⟩
  obtain ⟨session, ready, hash, revoked, expiresAt⟩ : ∃ session,
      issueSession tokenSHA256 ⟨"olga", .operator, true, [], ""⟩ minute
        (.ok (List.replicate 32 0, List.replicate 16 0)) 0 = .ok (zeroToken, session) ∧
      session.tokenHash = tokenSHA256 (bytes zeroToken) ∧ session.revoked = false ∧
      session.expiresAt = minute := by
    simp only [issueSession, bind_eq_ok, ensure_eq_ok, pure_eq_ok, Prod.mk.injEq]
    exact ⟨_, ⟨(), ⟨by decide, rfl⟩, (), by decide, _, rfl, rfl, rfl⟩, rfl, rfl, Int.zero_add _⟩
  have arrives : Reachable (sessionSystem tokenSHA256) DrawsFresh ⟨.empty, 0⟩ _ :=
    Reachable.start.call (.issue ⟨"olga", .operator, true, [], ""⟩ minute) (by trivial)
  have draws := arrives.advanceLast (.drawn lengths ready)
    (by intro _ _ _ _ _ member; cases member)
  have inserts := draws.advanceLast .inserted (by intro _ _ same; cases same)
  exact ⟨session, hash ▸ Keyed.get_put_self _ session, revoked, by rw [expiresAt]; decide, inserts⟩

theorem revokedSession_ends :
    ∃ config token session, Reachable (sessionSystem tokenSHA256) DrawsFresh ⟨.empty, 0⟩ config ∧
      .issued token session ∈ config.trace ∧ RevokedIn config.trace token ∧
      ∀ later, Later (sessionSystem tokenSHA256) DrawsFresh config later →
        ∀ index, config.calls.length ≤ index →
        ∀ authorization principal, bearerToken authorization = some token →
          later.calls[index]? ≠ some (.authenticated authorization (some principal)) := by
  obtain ⟨session, found, -, -, inserts⟩ := zeroToken_issued
  let stored : SessionState := ⟨(Keyed.empty : Sessions).put session, 0⟩
  have accepts : revoke tokenSHA256 stored.sessions ("Bearer " ++ zeroToken) =
      (true, stored.sessions.put { session with revoked := true }) := by
    simp only [revoke, bearer_zeroToken, stored, found]
  have revoking := @SessionStep.revoked tokenSHA256 stored ("Bearer " ++ zeroToken)
  rw [accepts] at revoking
  have asks := inserts.call (.revoke ("Bearer " ++ zeroToken)) (by trivial)
  have revokes := asks.advanceLast revoking (by intro _ _ same; cases same)
  let trace : List SessionEvent := [.revoked ("Bearer " ++ zeroToken) true,
    .issued zeroToken session, .drawn zeroToken session.principal.sessionID]
  have issued : .issued zeroToken session ∈ trace := List.mem_cons_of_mem _ List.mem_cons_self
  have revoked : RevokedIn trace zeroToken :=
    ⟨"Bearer " ++ zeroToken, bearer_zeroToken, List.mem_cons_self⟩
  refine ⟨_, zeroToken, session, revokes, issued, revoked, ?_⟩
  intro later run index beyond
  exact ((sessions_end collisionFree_tokenSHA256 revokes).2.1 zeroToken session issued
    (.inl revoked) later run index beyond).1

/-- The session that was issued for the token, and no other. -/
def IssuedFor (trace : List SessionEvent) (token : String) (session : StoredSession) : Prop :=
  .issued token session ∈ trace ∧ ∀ other, .issued token other ∈ trace → other = session

/-- The principal of an answer is that of the issued session which was asked about. -/
def SessionCall.Genuine (trace : List SessionEvent) : SessionCall → Prop
  | .found authorization stored => ∃ token session, bearerToken authorization = some token ∧
      .issued token session ∈ trace ∧ stored.principal = session.principal
  | .authenticated authorization (some principal) =>
    ∃ token session, bearerToken authorization = some token ∧ .issued token session ∈ trace ∧
      principal = session.principal
  | .authorized sessionID permission hostID (some principal) =>
    ∃ token session, .issued token session ∈ trace ∧ principal = session.principal ∧
      principal.sessionID = sessionID ∧ allowed principal.role permission = true ∧
      canAccessHost principal hostID = true
  | _ => True

section Genuine

variable {trace : List SessionEvent} {event : SessionEvent} {next : SessionCall}

theorem SessionCall.Genuine.cons (genuine : call.Genuine trace) :
    call.Genuine (event :: trace) := by
  unfold SessionCall.Genuine at genuine ⊢
  split
  · obtain ⟨token, session, bearer, issued, same⟩ := genuine
    exact ⟨token, session, bearer, List.mem_cons_of_mem _ issued, same⟩
  · obtain ⟨token, session, bearer, issued, same⟩ := genuine
    exact ⟨token, session, bearer, List.mem_cons_of_mem _ issued, same⟩
  · obtain ⟨token, session, issued, same⟩ := genuine
    exact ⟨token, session, List.mem_cons_of_mem _ issued, same⟩
  · trivial

/-- A step goes on to an answer about what is stored, which was issued. -/
theorem SessionStep.genuine (collisionFree : CollisionFree sha256)
    (tracked : Tracked sha256 s trace) (genuine : call.Genuine trace)
    (step : SessionStep sha256 s call event after next) : next.Genuine trace := by
  cases step with
  | found present =>
    obtain ⟨token, bearer, -, stored, -⟩ := readSession_eq_some.mp present
    obtain ⟨issuedToken, session, issued, hash, principal, -⟩ := tracked.stored _ _ stored
    have own := Keyed.key_of_get stored
    obtain rfl : issuedToken = token := collisionFree _ _ (hash.symm.trans own)
    exact ⟨issuedToken, session, bearer, issued, principal⟩
  | current early => exact genuine
  | @authorized sessionID hostID permission ranged ranges =>
    cases answer : authorizeSession ranged sessionID permission hostID s.clock with
    | none => trivial
    | some principal =>
      obtain ⟨stored, found, rfl, permitted, inScope⟩ := authorizeSession_eq_some.mp answer
      obtain ⟨present, asked, -⟩ := find_stored ranges found
      obtain ⟨token, session, issued, -, same, -⟩ := tracked.stored _ _ present
      exact ⟨token, session, issued, same, asked, permitted, inScope⟩
  | _ => trivial

end Genuine

/-- Whoever a call answers with is the principal that the session was issued to, the only
one ever issued for the token or under the session ID, with the permission and the host asked
for. -/
theorem answers_genuine {sha256 : Bytes → Bytes} (collisionFree : CollisionFree sha256)
    {clock : Int} {config : Config SessionState SessionCall SessionEvent}
    (reached : Reachable (sessionSystem sha256) DrawsFresh ⟨.empty, clock⟩ config) :
    (∀ authorization principal, .authenticated authorization (some principal) ∈ config.calls →
      ∃ token session, bearerToken authorization = some token ∧
        IssuedFor config.trace token session ∧ principal = session.principal) ∧
    (∀ sessionID permission hostID principal,
      .authorized sessionID permission hostID (some principal) ∈ config.calls →
      ∃ token session, IssuedFor config.trace token session ∧ principal = session.principal ∧
        principal.sessionID = sessionID ∧ allowed principal.role permission = true ∧
        canAccessHost principal hostID = true) := by
  have valid := sessions_tracked collisionFree clock
  have genuine : ∀ call ∈ config.calls, call.Genuine config.trace := by
    induction reached with
    | start => exact List.forall_mem_nil _
    | @call config call _ begins ih =>
      intro other member
      rcases List.mem_append.mp member with old | new
      · exact ih other old
      · rw [List.mem_singleton.mp new]
        cases call <;> trivial
    | @advance config call next event after index earlier running step _ ih =>
      have tracked := (valid.holds earlier).1
      have mover := ih call (List.mem_of_getElem? running)
      intro other member
      rcases List.mem_or_eq_of_mem_set member with old | rfl
      · exact (ih other old).cons
      · exact (step.genuine collisionFree tracked mover).cons
    | outside _ _ ih => exact fun other member => (ih other member).cons
  have tracked := (valid.holds reached).1
  have only : ∀ token session, .issued token session ∈ config.trace →
      IssuedFor config.trace token session := fun token session issued =>
    ⟨issued, fun other again => (tracked.once token other token session again issued (.inl rfl)).2⟩
  constructor
  · intro authorization principal member
    obtain ⟨token, session, bearer, issued, same⟩ := genuine _ member
    exact ⟨token, session, bearer, only token session issued, same⟩
  · intro sessionID permission hostID principal member
    obtain ⟨token, session, issued, same⟩ := genuine _ member
    exact ⟨token, session, only token session issued, same⟩

theorem operator_genuine :
    ∃ config token session, Reachable (sessionSystem tokenSHA256) DrawsFresh ⟨.empty, 0⟩ config ∧
      .authenticated ("Bearer " ++ token) (some session.principal) ∈ config.calls ∧
      IssuedFor config.trace token session := by
  obtain ⟨session, stored, current, early, inserts⟩ := zeroToken_issued
  have asks := inserts.call (.authenticate ("Bearer " ++ zeroToken)) (by trivial)
  have read : readSession tokenSHA256 ((Keyed.empty : Sessions).put session)
      ("Bearer " ++ zeroToken) = some session :=
    readSession_eq_some.mpr ⟨zeroToken, bearer_zeroToken, by decide +kernel, stored, current⟩
  have finds := asks.advanceLast (.found read) (by intro _ _ same; cases same)
  have answers := finds.advanceLast (.current early) (by intro _ _ same; cases same)
  have answered : SessionCall.authenticated ("Bearer " ++ zeroToken) (some session.principal) ∈
      [.issued (.ok (zeroToken, session)),
        .authenticated ("Bearer " ++ zeroToken) (some session.principal)] :=
    List.mem_cons_of_mem _ List.mem_cons_self
  obtain ⟨presented, other, bearer, issued, -⟩ :=
    (answers_genuine collisionFree_tokenSHA256 answers).1 _ _ answered
  obtain rfl := Option.some.inj (bearer_zeroToken.symm.trans bearer)
  obtain rfl : session = other := issued.2 session (by simp)
  exact ⟨_, zeroToken, session, answers, answered, issued⟩

end VpsManager.Control
