import VpsManager.Protocol.Auth

/- Concurrent calls of one verifier. The clock is read with the header checks,
before the lock on the nonce table is taken. -/
namespace VpsManager.Protocol

open Go Checks Interleaving

/-- A request that passes the header checks carries the verifier's key ID and a
timestamp inside the window around the reading of the clock. -/
theorem verifyHeaders_window (digests : Digests) (v : Verifier) (now : Int) (request : Request)
    (body : Bytes) (accepted : Authenticated)
    (success : verifyHeaders digests v now request body = .ok accepted) :
    accepted.keyID = v.keyID ∧ unix accepted.timestamp ≤ now + v.maxSkew := by
  simp only [verifyHeaders, bind_eq_ok, ensure_eq_ok, orError_eq_ok, pure_eq_ok] at success
  obtain ⟨_, _, _, _, keyID, _, _, sameKey, _, _, timestamp, _, _, window, rest⟩ := success
  obtain ⟨_, _, _, _, _, _, _, _, _, _, _, _, _, _, rfl⟩ := rest
  dsimp only
  exact ⟨sameKey, by omega⟩

/-- The clock and the table of nonces. -/
abbrev VerifierState := Expiring.Clocked String

/-- Where a call of `Verify` stands: before its reading of the clock, waiting
for the lock with that reading, or returned. -/
inductive VerifyCall
  | arrived (request : Request) (body : Bytes)
  | locking (now : Int) (accepted : Authenticated)
  | refused (code : String)
  | returned (accepted : Authenticated) (code : Option String)

inductive VerifyEvent
  | tick
  | checked
  | locked (now : Int) (accepted : Authenticated) (code : Option String)
  deriving DecidableEq

inductive VerifyStep (digests : Digests) (v : Verifier) :
    VerifierState → VerifyCall → VerifyEvent → VerifierState → VerifyCall → Prop
  | refuse {shared : VerifierState} {request : Request} {body : Bytes} {code : String}
      (failure : verifyHeaders digests v shared.clock request body = .error code) :
      VerifyStep digests v shared (.arrived request body) .checked shared (.refused code)
  | authenticate {shared : VerifierState} {request : Request} {body : Bytes}
      {accepted : Authenticated}
      (success : verifyHeaders digests v shared.clock request body = .ok accepted) :
      VerifyStep digests v shared (.arrived request body) .checked shared
        (.locking shared.clock accepted)
  | lock {shared : VerifierState} {now : Int} {accepted : Authenticated}
      {nonces : Expiring.Table String} {code : Option String}
      (recorded : recordNonce v shared.table now accepted = (nonces, code)) :
      VerifyStep digests v shared (.locking now accepted) (.locked now accepted code)
        { shared with table := nonces } (.returned accepted code)

def verifySystem (digests : Digests) (v : Verifier) :
    System VerifierState VerifyCall VerifyEvent where
  begins call := ∃ request body, call = .arrived request body
  step := VerifyStep digests v
  outside := Expiring.ClockStep .tick

def tableUse (v : Verifier) (now : Int) (accepted : Authenticated) : Expiring.Use String :=
  ⟨cacheKey accepted, now + 2 * v.maxSkew, now⟩

/-- The lock sections of a run as uses of an expiring table. -/
def lockUse (v : Verifier) : VerifyEvent → Option (Expiring.Use String × Bool)
  | .tick => none
  | .checked => none
  | .locked now accepted code => some (tableUse v now accepted, code.isNone)

def capacity (v : Verifier) : Option Nat := some v.maxNonces.toNat

theorem recordNonce_table (v : Verifier) (nonces : Expiring.Table String) (now : Int)
    (accepted : Authenticated) :
    Expiring.use (capacity v) nonces (tableUse v now accepted) =
      ((recordNonce v nonces now accepted).1, (recordNonce v nonces now accepted).2.isNone) := by
  have positive := v.nonces_positive
  by_cases known : cacheKey accepted ∈ Expiring.prune now nonces
  · simp [recordNonce, Expiring.use, tableUse, known]
  · by_cases crowded : v.maxNonces ≤ ((Expiring.prune now nonces).keys.card : Int)
    · have bound : v.maxNonces.toNat ≤ (Expiring.prune now nonces).keys.card := by omega
      simp [recordNonce, Expiring.use, Expiring.full, capacity, tableUse, known, crowded, bound]
    · have bound : ¬ v.maxNonces.toNat ≤ (Expiring.prune now nonces).keys.card := by omega
      simp only [recordNonce, Expiring.use, Expiring.full, capacity, tableUse, known, crowded,
        bound, decide_false, ↓reduceIte, Bool.false_eq_true, Option.isNone_none]

/-- The table records the lock sections, and each held a checked request. -/
structure Remembers (v : Verifier) (shared : VerifierState) (trace : List VerifyEvent) : Prop where
  records : Expiring.Records (lockUse v) (capacity v) shared.table trace
  checked : ∀ now accepted code, .locked now accepted code ∈ trace →
    accepted.keyID = v.keyID ∧ unix accepted.timestamp ≤ now + v.maxSkew

/-- A call waiting for the lock holds a checked request; a call that returned
has left its lock section in the trace. -/
def CallSound (v : Verifier) (trace : List VerifyEvent) : VerifyCall → Prop
  | .arrived _ _ => True
  | .locking now accepted =>
    accepted.keyID = v.keyID ∧ unix accepted.timestamp ≤ now + v.maxSkew
  | .refused _ => True
  | .returned accepted code => ∃ now, .locked now accepted code ∈ trace

theorem CallSound.weaken (v : Verifier) (trace : List VerifyEvent) (label : VerifyEvent)
    (call : VerifyCall) (sound : CallSound v trace call) : CallSound v (label :: trace) call := by
  cases call with
  | arrived request body => trivial
  | locking now accepted => exact sound
  | refused code => trivial
  | returned accepted code =>
    obtain ⟨now, member⟩ := sound
    exact ⟨now, List.mem_cons_of_mem _ member⟩

theorem Remembers.locked (v : Verifier) (shared : VerifierState) (trace : List VerifyEvent)
    (now : Int) (accepted : Authenticated) (nonces : Expiring.Table String) (code : Option String)
    (held : Remembers v shared trace) (sound : CallSound v trace (.locking now accepted))
    (recorded : recordNonce v shared.table now accepted = (nonces, code)) :
    Remembers v { shared with table := nonces } (.locked now accepted code :: trace) := by
  have answer := recordNonce_table v shared.table now accepted
  rw [recorded] at answer
  refine ⟨?_, ?_⟩
  · have used := held.records.used (.locked now accepted code) (tableUse v now accepted)
      (by simp only [lockUse, answer])
    rw [answer] at used
    exact used
  · intro reading other otherCode member
    rcases List.mem_cons.mp member with new | old
    · obtain ⟨rfl, rfl, -⟩ := VerifyEvent.locked.inj new
      exact sound
    · exact held.checked reading other otherCode old

theorem Remembers.skip (v : Verifier) (shared after : VerifierState) (trace : List VerifyEvent)
    (label : VerifyEvent) (held : Remembers v shared trace) (unrelated : lockUse v label = none)
    (same : after.table = shared.table) : Remembers v after (label :: trace) := by
  refine ⟨?_, ?_⟩
  · rw [same]
    exact held.records.skip label unrelated
  · intro now accepted code member
    rcases List.mem_cons.mp member with rfl | old
    · simp [lockUse] at unrelated
    · exact held.checked now accepted code old

/-- Not both calls returned success on the same nonce, timestamp and MAC. -/
def NotReplayed (one other : VerifyCall) : Prop :=
  ∀ first second : Authenticated, one = .returned first none → other = .returned second none →
    ¬ (first.nonce = second.nonce ∧ first.timestamp = second.timestamp ∧
      first.signature = second.signature)

theorem NotReplayed.symm (one other : VerifyCall) (distinct : NotReplayed one other) :
    NotReplayed other one := by
  rintro first second rfl rfl ⟨nonce, timestamp, signature⟩
  exact distinct second first rfl rfl ⟨nonce.symm, timestamp.symm, signature.symm⟩

/-- The readings of the clock with which the lock sections of a run pruned. -/
def readings (v : Verifier) (trace : List VerifyEvent) : List Int :=
  (Expiring.uses (lockUse v) trace).map (·.cutoff)

/-- A call takes the lock while its own reading and every reading used under the
lock before lie ahead of the end of the window of its timestamp. -/
def BeforeWindowEnd (v : Verifier) (_ : VerifierState) (trace : List VerifyEvent)
    (call : VerifyCall) (_ : VerifyEvent) : Prop :=
  match call with
  | .locking now accepted =>
    ∀ reading ∈ now :: readings v trace, reading < unix accepted.timestamp + v.maxSkew
  | _ => True

/-- The entry of an earlier success is still there when the window of its
timestamp has not ended for any reading. -/
theorem Remembers.refuses (v : Verifier) (shared : VerifierState) (trace : List VerifyEvent)
    (now earlier : Int) (accepted old : Authenticated) (held : Remembers v shared trace)
    (sameKey : accepted.keyID = v.keyID) (sameNonce : accepted.nonce = old.nonce)
    (sameTime : accepted.timestamp = old.timestamp)
    (member : .locked earlier old none ∈ trace)
    (open_ : ∀ reading ∈ now :: readings v trace, reading < unix accepted.timestamp + v.maxSkew) :
    (recordNonce v shared.table now accepted).2 ≠ none := by
  obtain ⟨oldKey, window⟩ := held.checked earlier old none member
  rw [sameTime] at open_
  have refused := held.records.refuses member rfl
    (by simp [tableUse, cacheKey, sameKey, oldKey, sameNonce] :
      (tableUse v now accepted).key = (tableUse v earlier old).key) (by
      intro entry listed
      have reading : entry.cutoff < unix old.timestamp + v.maxSkew := by
        rcases List.mem_cons.mp listed with rfl | listed
        · exact open_ _ (by simp [tableUse])
        · exact open_ _ (List.mem_cons_of_mem _ (List.mem_map_of_mem listed))
      dsimp only [tableUse]
      omega)
  rw [recordNonce_table] at refused
  intro granted
  rw [granted] at refused
  cases refused

theorem VerifyStep.notReplayed {digests : Digests} {v : Verifier} {shared after : VerifierState}
    {call next other : VerifyCall} {label : VerifyEvent} {trace : List VerifyEvent}
    (step : VerifyStep digests v shared call label after next) (held : Remembers v shared trace)
    (sound : CallSound v trace call) (otherSound : CallSound v trace other)
    (admitted : BeforeWindowEnd v shared trace call label) : NotReplayed next other := by
  rintro first second same rfl ⟨nonce, timestamp, -⟩
  cases step with
  | refuse failure => cases same
  | authenticate success => cases same
  | lock recorded =>
    obtain ⟨rfl, rfl⟩ := VerifyCall.returned.inj same
    obtain ⟨earlier, member⟩ := otherSound
    exact held.refuses v shared trace _ earlier _ second sound.1 nonce timestamp member admitted
      (congrArg Prod.snd recorded)

theorem verify_inductive (digests : Digests) (v : Verifier) (clock : Int) :
    Inductive (verifySystem digests v) (BeforeWindowEnd v) (Expiring.Clocked.initial clock)
      (Remembers v) (fun _ trace call => CallSound v trace call) NotReplayed where
  symmetric := NotReplayed.symm
  initial := ⟨Expiring.Records.initial, by simp⟩
  begun := by
    rintro shared trace call held ⟨request, body, rfl⟩
    refine ⟨trivial, ?_⟩
    rintro other first second impossible
    cases impossible
  advanced := by
    intro shared trace call label after next held sound step admitted
    refine ⟨?_, ?_, fun other otherSound _ => ⟨otherSound.weaken v trace label other,
      step.notReplayed held sound otherSound admitted⟩⟩
    · cases step with
      | refuse failure => exact held.skip v _ _ trace _ rfl rfl
      | authenticate success => exact held.skip v _ _ trace _ rfl rfl
      | lock recorded => exact held.locked v shared trace _ _ _ _ sound recorded
    · cases step with
      | refuse failure => trivial
      | authenticate success => exact verifyHeaders_window digests v _ _ _ _ success
      | lock recorded => exact ⟨_, List.mem_cons_self⟩
  disturbed := by
    rintro shared trace label after held ⟨later⟩
    exact ⟨held.skip v _ _ trace _ rfl rfl, fun other => CallSound.weaken v trace _ other⟩

/-- In a run in which every call takes the lock before the end of its window, no
two calls succeed on the same nonce, timestamp and MAC. -/
theorem verify_not_replayed (digests : Digests) (v : Verifier) (clock : Int)
    (config : Config VerifierState VerifyCall VerifyEvent)
    (reached : Reachable (verifySystem digests v) (BeforeWindowEnd v)
      (Expiring.Clocked.initial clock) config) :
    config.calls.Pairwise NotReplayed :=
  ((verify_inductive digests v clock).holds reached).2.2

section WindowEnd

def sharedKey : Bytes := (List.range 32).map UInt8.ofNat

def previewMAC : Bytes :=
  [119, 50, 215, 216, 11, 176, 210, 10, 23, 150, 81, 237, 87, 240, 252, 141, 117, 127, 187, 65, 71,
    37, 145, 196, 189, 62, 175, 206, 52, 15, 238, 145]

/-- The digests of one request, as the real functions give them. -/
def previewDigests : Digests where
  sha256 data :=
    if data = bytes "\x7b\x7d" then
      [68, 19, 111, 163, 85, 179, 103, 138, 17, 70, 173, 22, 247, 232, 100, 158, 148, 251, 79, 194,
        31, 231, 126, 131, 16, 192, 96, 246, 28, 170, 255, 138]
    else []
  hmacSHA256 key message :=
    if key = sharedKey ∧ message = bytes ("VPSMGR-HMAC-SHA256\nv1\ncontrol\n1000030\n" ++
        "AAECAwQFBgcICQoLDA0ODw\nPOST\n/v1/runbooks/preview\n" ++
        "44136fa355b3678a1146ad16f7e8649e94fb4fc21fe77e8310c060f61caaff8a") then previewMAC
    else []

def defaultVerifier : Verifier where
  keyID := "control"
  key := sharedKey
  maxSkew := defaultMaxSkew
  maxNonces := defaultNonces
  skew_positive := by decide
  skew_bounded := by decide
  nonces_positive := by decide
  nonces_bounded := by decide

/-- A request signed by a clock that runs thirty seconds ahead. -/
def previewRequest : Request where
  method := "POST"
  requestURI := "/v1/runbooks/preview"
  header name :=
    if name = headerProtocol then ["v1"]
    else if name = headerKeyID then ["control"]
    else if name = headerTimestamp then ["1000030"]
    else if name = headerNonce then ["AAECAwQFBgcICQoLDA0ODw"]
    else if name = headerSignature then ["dzLX2Auw0goXllHtV_D8jXV_u0FHJZHEvT6vzjQP7pE"]
    else []

def previewAccepted : Authenticated :=
  ⟨"control", 1000030, "AAECAwQFBgcICQoLDA0ODw", previewMAC⟩

theorem previewRequest_verified :
    verifyHeaders previewDigests defaultVerifier (unix 1000000) previewRequest
        (bytes "\x7b\x7d") = .ok previewAccepted ∧
      verifyHeaders previewDigests defaultVerifier (unix 1000060) previewRequest
        (bytes "\x7b\x7d") = .ok previewAccepted := by
  decide +kernel

def previewNonces : Expiring.Table String :=
  (recordNonce defaultVerifier ∅ (unix 1000000) previewAccepted).1

/-- The request is accepted once, sixty seconds before the end of its window. -/
theorem previewRequest_accepted :
    Reachable (verifySystem previewDigests defaultVerifier) (BeforeWindowEnd defaultVerifier)
      (Expiring.Clocked.initial (unix 1000000))
      ⟨⟨unix 1000000, previewNonces⟩, [.returned previewAccepted none],
        [.locked (unix 1000000) previewAccepted none, .checked]⟩ := by
  have started : Reachable (verifySystem previewDigests defaultVerifier)
      (BeforeWindowEnd defaultVerifier) (Expiring.Clocked.initial (unix 1000000)) _ := .start
  have arrived := started.call (.arrived previewRequest (bytes "\x7b\x7d")) ⟨_, _, rfl⟩
  have checked := arrived.advance 0 rfl (.authenticate previewRequest_verified.1) trivial
  exact checked.advance 0 rfl (.lock (by decide)) (by unfold BeforeWindowEnd; decide)

/-- One signed request is accepted at both ends of its window: its entry is
dropped at the last instant at which its timestamp is still accepted. -/
theorem verify_replayed_at_window_end :
    ∃ shared trace, Reachable (verifySystem previewDigests defaultVerifier) anyStep
        (Expiring.Clocked.initial (unix 1000000))
        ⟨shared, [.returned previewAccepted none, .returned previewAccepted none], trace⟩ := by
  have accepted : Reachable _ anyStep _ _ := previewRequest_accepted.mono fun _ _ _ _ _ => trivial
  have later := accepted.outside (.tick (by decide : unix 1000000 ≤ unix 1000060))
  have arrived := later.call (.arrived previewRequest (bytes "\x7b\x7d")) ⟨_, _, rfl⟩
  have checked := arrived.advance 1 rfl (.authenticate previewRequest_verified.2) trivial
  exact ⟨_, _, checked.advance 1 rfl (.lock (Prod.ext rfl (by decide))) trivial⟩

/-- A run that meets the condition, with a second call on the request of the
first. -/
theorem previewRequest_not_replayed :
    ∃ config, Reachable (verifySystem previewDigests defaultVerifier)
        (BeforeWindowEnd defaultVerifier) (Expiring.Clocked.initial (unix 1000000)) config ∧
      config.calls = [.returned previewAccepted none,
        .returned previewAccepted (some "replayed_request")] ∧
      config.calls.Pairwise NotReplayed := by
  have arrived := previewRequest_accepted.call (.arrived previewRequest (bytes "\x7b\x7d"))
    ⟨_, _, rfl⟩
  have checked := arrived.advance 1 rfl (.authenticate previewRequest_verified.1) trivial
  have refused := checked.advance 1 rfl
    (.lock (Prod.ext rfl (by decide : _ = some "replayed_request")))
    (by unfold BeforeWindowEnd; decide)
  exact ⟨_, refused, rfl, verify_not_replayed _ _ _ _ refused⟩

end WindowEnd

end VpsManager.Protocol
