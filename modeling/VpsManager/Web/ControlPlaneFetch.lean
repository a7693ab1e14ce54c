import VpsManager.Lib.Checks
import VpsManager.Web.ReturnPath

namespace VpsManager.Web

open Js (Units Url)
open Checks

/-- `ControlPlaneUnavailableError` and `TypeError` with their messages. -/
inductive FetchError
  | typeError (message : String)
  | unavailable (message : String)
  deriving DecidableEq, Repr

/-- `CONTROL_PLANE_URL` is given if it is set; an empty one counts as not set. -/
def controlPlaneBaseUrl (parser : Url.Parser) (configured : Option Units) :
    Except FetchError Url :=
  match configured with
  | none | some [] => .error (.unavailable "CONTROL_PLANE_URL is not configured")
  | some text =>
    match Url.parse parser (Js.text text) none with
    | .invalid => .error (.unavailable "CONTROL_PLANE_URL is invalid")
    | .other => .error (.unavailable "CONTROL_PLANE_URL must be an HTTP(S) origin")
    | .url url => do
      ensure (url.username = [] ∧ url.password = [] ∧ url.pathname = ['/'] ∧ url.search = [] ∧
        url.hash = []) (.unavailable "CONTROL_PLANE_URL must be an HTTP(S) origin")
      return url

inductive SessionError
  | unavailable (message : String)
  | other
  deriving DecidableEq, Repr

/-- The sessions that are issued for the user: the identity bridge returns none if it is not
configured. -/
structure Sessions where
  issueIdentityBridgeSession : Url → Except SessionError (Option String)
  issueDevelopmentSession : Url → Except SessionError String

def Sessions.token (sessions : Sessions) (baseUrl : Url) : Except SessionError String := do
  match ← sessions.issueIdentityBridgeSession baseUrl with
  | some token => return token
  | none => sessions.issueDevelopmentSession baseUrl

def SessionError.thrown : SessionError → FetchError
  | .unavailable message => .unavailable message
  | .other => .unavailable "The control-plane identity bridge is unavailable"

/-- What is sent with the method and body of the caller. -/
structure Request where
  url : Url
  authorization : String
  accept : String
  deriving DecidableEq, Repr

/-- The request that `controlPlaneFetch` calls `fetch` with, or what it throws before that.
What `fetch` does is not modelled; it refuses a URL with a user name, for one. -/
def controlPlaneFetch (parser : Url.Parser) (configured : Option Units) (sessions : Sessions)
    (path : Units) : Except FetchError Request := do
  ensure (¬ (startsWith path "/" = false ∨ startsWith path "//" = true))
    (.typeError "Control-plane path must be relative to its configured origin")
  let baseUrl ← controlPlaneBaseUrl parser configured
  let token ← (sessions.token baseUrl).mapError SessionError.thrown
  match Url.parse parser (Js.text path) (some baseUrl) with
  | .url url => return ⟨url, "Bearer " ++ token, "application/json"⟩
  -- no request is made for a text that is no URL or has another scheme
  | .invalid | .other => .error (.unavailable "The control plane is unavailable")

/-- The path passes the check, but its second character counts as a slash once tabs and line
breaks are removed, and what follows is the authority of another host or port. -/
def NamesOther (parser : Url.Parser) (base : Url) (path : Units) : Prop :=
  startsWith path "/" = true ∧ startsWith path "//" = false ∧
    ∃ rest authority, Url.clean (Js.text path).toList = '/' :: rest ∧
      Url.startsWithSlash rest = true ∧
      Url.readAuthority parser.hosts base.scheme
        (Url.authorityText (rest.dropWhile Url.isSlash)) = some authority ∧
      ¬ (authority.host = base.host ∧ authority.port = base.port)

theorem controlPlaneFetch_ok_iff {parser : Url.Parser} {configured : Option Units} {base : Url}
    (isBase : controlPlaneBaseUrl parser configured = .ok base) {sessions : Sessions} {path : Units}
    {request : Request} :
    controlPlaneFetch parser configured sessions path = .ok request ↔
      startsWith path "/" = true ∧ startsWith path "//" = false ∧
        ∃ token url, sessions.token base = .ok token ∧
          Url.parse parser (Js.text path) (some base) = .url url ∧
          request = ⟨url, "Bearer " ++ token, "application/json"⟩ := by
  simp only [controlPlaneFetch, isBase, bind_eq_ok, ensure_eq_ok, mapError_eq_ok]
  constructor
  · rintro ⟨⟨⟩, accepted, _, ⟨⟩, token, issued, sent⟩
    rw [not_or, Bool.not_eq_false, Bool.not_eq_true] at accepted
    cases parsed : Url.parse parser (Js.text path) (some base) with
    | url url =>
      rw [parsed] at sent
      cases sent
      exact ⟨accepted.1, accepted.2, token, url, issued, rfl, rfl⟩
    | invalid | other =>
      rw [parsed] at sent
      cases sent
  · rintro ⟨slash, notDouble, token, url, issued, parsed, rfl⟩
    exact ⟨(), by simp [slash, notDouble], base, rfl, token, issued, by rw [parsed]; rfl⟩

/-- A request whose path names another host or port goes there, and every other one that is
sent goes to the control plane. -/
theorem token_stays_iff (parser : Url.Parser) (configured : Option Units) (base : Url)
    (isBase : controlPlaneBaseUrl parser configured = .ok base) (path : Units) :
    (∀ sessions request, controlPlaneFetch parser configured sessions path = .ok request →
      request.url.origin = base.origin) ↔ ¬ NamesOther parser base path := by
  constructor
  · rintro stays ⟨slash, notDouble, rest, authority, cleaned, second, named, other⟩
    have parsed : Url.parse parser (Js.text path) (some base) = .url (Url.readRest
        ⟨base.scheme, authority.username, authority.password, authority.host, authority.port, [],
          none, none⟩ (Url.afterAuthority (rest.dropWhile Url.isSlash))) := by
      rw [Url.parse_slash cleaned]
      simp [Url.readSlash, second, Url.readAbsolute, named, Url.Parsed.ofOption]
    have sent := stays ⟨fun _ => .ok (some "token"), fun _ => .error .other⟩ _
      ((controlPlaneFetch_ok_iff isBase).mpr ⟨slash, notDouble, "token", _, rfl, parsed, rfl⟩)
    rw [Url.origin_readRest] at sent
    simp only [Url.origin, Prod.mk.injEq, true_and] at sent
    exact other sent
  · intro notOther sessions request sent
    obtain ⟨slash, notDouble, token, url, -, parsed, rfl⟩ :=
      (controlPlaneFetch_ok_iff isBase).mp sent
    obtain ⟨rest, cleaned⟩ := clean_of_startsWith slash
    rw [Url.parse_slash cleaned, Url.readSlash] at parsed
    cases second : Url.startsWithSlash rest with
    | false =>
      rw [second] at parsed
      cases parsed
      rw [Url.origin_readRest]
      rfl
    | true =>
      cases named : Url.readAuthority parser.hosts base.scheme
          (Url.authorityText (rest.dropWhile Url.isSlash)) with
      | none => simp [second, Url.readAbsolute, named, Url.Parsed.ofOption] at parsed
      | some authority =>
        simp only [second, Url.readAbsolute, named] at parsed
        cases parsed
        have same : authority.host = base.host ∧ authority.port = base.port := by
          by_contra other
          exact notOther ⟨slash, notDouble, rest, authority, cleaned, second, named, other⟩
        rw [Url.origin_readRest, Url.origin, same.1, same.2]
        rfl

def controlExample : Option Units := some (Js.ofString "https://control.example")

def controlBase : Url := ⟨.https, [], [], "control.example", none, [[]], none, none⟩

theorem controlBase_accepted : controlPlaneBaseUrl namesOnly controlExample = .ok controlBase := by
  decide +kernel

def issued : Sessions := ⟨fun _ => .ok (some "session-token"), fun _ => .error .other⟩

theorem host_list_stays :
    controlPlaneBaseUrl namesOnly controlExample = .ok controlBase ∧ ∀ sessions request,
      controlPlaneFetch namesOnly controlExample sessions (Js.ofString "/api/v1/hosts") =
        .ok request → request.url.origin = controlBase.origin := by
  refine ⟨controlBase_accepted, (token_stays_iff namesOnly controlExample controlBase
    controlBase_accepted _).mpr ?_⟩
  rintro ⟨-, -, rest, authority, cleaned, second, -⟩
  have path : Url.clean (Js.text (Js.ofString "/api/v1/hosts")).toList =
      '/' :: "api/v1/hosts".toList := by decide +kernel
  rw [path] at cleaned
  cases cleaned
  exact absurd second (by decide)

/-- A backslash passes the check and counts as a slash. -/
theorem backslash_sends_token : ∃ request,
    controlPlaneFetch namesOnly controlExample issued (Js.ofString "/\\evil.example/x") =
      .ok request ∧
    request.url.origin = (.https, "evil.example", none) ∧
    request.authorization = "Bearer session-token" ∧
    request.url.origin ≠ controlBase.origin :=
  ⟨⟨⟨.https, [], [], "evil.example", none, [['x']], none, none⟩, "Bearer session-token",
    "application/json"⟩, by decide +kernel, rfl, rfl, by decide⟩

end VpsManager.Web
