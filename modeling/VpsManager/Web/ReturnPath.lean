import Mathlib.Data.Bool.AllAny
import VpsManager.Js.UrlRoundTrip

namespace VpsManager.Web

open Js (Units Url)

/-- `value.startsWith(text)`. -/
def startsWith (value : Units) (text : String) : Bool := (Js.ofString text).isPrefixOf value

def signInPath : String := "/signin-with-chatgpt"
def signOutPath : String := "/signout-with-chatgpt"
def callbackPath : String := "/callback"

def isReservedAuthPath (pathname : List Char) : Bool :=
  pathname == signInPath.toList || pathname == signOutPath.toList ||
    pathname == callbackPath.toList

/-- `new URL(value, 'https://app.local')`; it throws if there is no URL. -/
def resolveLocal (parser : Url.Parser) (value : Units) : Url.Parsed :=
  match Url.parse parser "https://app.local" none with
  | .url base => Url.parse parser (Js.text value) (some base)
  | failed => failed

def safeRelativeReturnPath (parser : Url.Parser) (value : Units) : String :=
  if !startsWith value "/" || startsWith value "//" then "/"
  else
    match resolveLocal parser value with
    | .url url =>
      if url.originText ≠ "https://app.local" then "/"
      else if isReservedAuthPath url.pathname then "/"
      else String.ofList url.relativeText
    -- no other scheme has this origin
    | .invalid | .other => "/"

/-- A path with one slash in front that is, against any base, on the base's site and none of
the paths of the sign-in. -/
structure LocalPath (path : String) : Prop where
  oneSlash : ∃ rest, path.toList = '/' :: rest ∧ Url.startsWithSlash rest = false
  stays : ∀ (parser : Url.Parser) (base : Url), base.scheme = .https →
    ∃ url, Url.parse parser path (some base) = .url url ∧ url.origin = base.origin ∧
      isReservedAuthPath url.pathname = false

/-- The path that a value has, if it names no site or this one. -/
def ownPath (hosts : List Char → Option String) (value : Units) : Option (List Char) :=
  match Url.clean (Js.text value).toList with
  | [] => none
  | _ :: rest =>
    if Url.startsWithSlash rest then
      let text := rest.dropWhile Url.isSlash
      match Url.readAuthority hosts .https (Url.authorityText text) with
      | none => none
      | some authority =>
        if authority.host = "app.local" ∧ authority.port = none then
          some ((Url.afterAuthority text).takeWhile (!Url.endsPath ·))
        else none
    else some (rest.takeWhile (!Url.endsPath ·))

/-- The value passes the first check, and its path has an empty segment before others that
becomes the first one: what is before it is taken back by segments of two dots, and it is
not. -/
def Slips (hosts : List Char → Option String) (value : Units) : Prop :=
  startsWith value "/" = true ∧ startsWith value "//" = false ∧
    ∃ path, ownPath hosts value = some path ∧ Url.RootsEmpty (path.splitOnP Url.isSlash)

theorem text_of_startsWith {value : Units} (slash : startsWith value "/" = true) :
    ∃ rest, (Js.text value).toList = '/' :: rest := by
  obtain ⟨rest, rfl⟩ := List.isPrefixOf_iff_prefix.mp slash
  refine ⟨(Js.text rest).toList, ?_⟩
  rw [Js.text_append (List.all_iff_forall_prop.mp (by decide)), Js.text_ofString,
    String.toList_append]
  rfl

theorem clean_of_startsWith {value : Units} (slash : startsWith value "/" = true) :
    ∃ rest, Url.clean (Js.text value).toList = '/' :: rest := by
  obtain ⟨text, chars⟩ := text_of_startsWith slash
  exact ⟨_, by rw [chars, Url.clean_slash]⟩

def appLocal : Url := ⟨.https, [], [], "app.local", none, [[]], none, none⟩

theorem parse_appLocal {parser : Url.Parser}
    (known : parser.hosts "app.local".toList = some "app.local") :
    Url.parse parser "https://app.local" none = .url appLocal := by
  have authority : Url.readAuthority parser.hosts .https "app.local".toList =
      some ⟨[], [], "app.local", none⟩ := by
    have text : Url.splitPort false ("app.local".toList.rtakeWhile (· != '@')) =
        ("app.local".toList, none) := by decide
    simp only [Url.readAuthority, text, known]
    rfl
  have absolute : Url.readAbsolute parser.hosts .https "app.local".toList = some appLocal := by
    have text : Url.authorityText "app.local".toList = "app.local".toList := by decide
    simp only [Url.readAbsolute, text, authority]
    rfl
  have scheme : Url.splitScheme (Url.clean "https://app.local".toList) =
      some ("https".toList, "//app.local".toList) := by decide
  have rest : "//app.local".toList.dropWhile Url.isSlash = "app.local".toList := by decide
  simp only [Url.parse, scheme, Url.readSpecial, rest, absolute]
  rfl

theorem originText_eq_iff (url : Url) :
    url.originText = "https://app.local" ↔ url.origin = (.https, "app.local", none) := by
  constructor
  · intro same
    have chars := congrArg String.toList same
    simp only [Url.originText, String.toList_append] at chars
    cases scheme : url.scheme with
    | http =>
      rw [scheme] at chars
      simp [Js.Scheme.name] at chars
    | https =>
      rw [scheme] at chars
      have rest : url.host.toList ++
          ((url.port.map fun port => ":" ++ toString port).getD "").toList =
          "app.local".toList := by
        simpa [Js.Scheme.name] using chars
      cases port : url.port with
      | none =>
        rw [port] at rest
        have host : url.host = "app.local" := String.toList_inj.mp (by simpa using rest)
        rw [Url.origin, scheme, host, port]
      | some number =>
        -- the colon before a port does not occur in the text
        have colon : ':' ∈ "app.local".toList := by
          rw [← rest, port]
          simp
        exact absurd colon (by decide)
  · intro same
    simp only [Url.origin, Prod.mk.injEq] at same
    obtain ⟨scheme, host, port⟩ := same
    rw [Url.originText, scheme, host, port]
    decide

/-- A value with a path of this site is resolved to that path, and every other one to another
site or not at all. -/
theorem resolveLocal_cases {parser : Url.Parser}
    (known : parser.hosts "app.local".toList = some "app.local") {value : Units}
    (slash : startsWith value "/" = true) :
    (∃ url path, resolveLocal parser value = .url url ∧ url.originText = "https://app.local" ∧
      url.Written ∧ url.path = Url.readPath [] path ∧ ownPath parser.hosts value = some path) ∨
    (ownPath parser.hosts value = none ∧
      ∀ url, resolveLocal parser value = .url url → url.originText ≠ "https://app.local") := by
  obtain ⟨rest, cleaned⟩ := clean_of_startsWith slash
  have resolved : resolveLocal parser value =
      .ofOption (Url.readSlash parser.hosts appLocal rest) := by
    rw [resolveLocal, parse_appLocal known]
    exact Url.parse_slash cleaned parser appLocal
  cases second : Url.startsWithSlash rest with
  | false =>
    refine .inl ⟨Url.readRest { appLocal with path := [] } rest, _, ?_, ?_,
      Url.written_readRest rfl rfl rfl rest, Url.path_readRest _ _, ?_⟩
    · rw [resolved, Url.readSlash, second]
      rfl
    · rw [originText_eq_iff, Url.origin_readRest]
      rfl
    · rw [ownPath, cleaned]
      simp only [second]
      rfl
  | true =>
    cases named : Url.readAuthority parser.hosts .https
        (Url.authorityText (rest.dropWhile Url.isSlash)) with
    | none =>
      refine .inr ⟨by simp [ownPath, cleaned, second, named], fun url found => ?_⟩
      simp [resolved, Url.readSlash, second, Url.readAbsolute, appLocal, named,
        Url.Parsed.ofOption] at found
    | some authority =>
      have url : resolveLocal parser value = .url (Url.readRest
          ⟨.https, authority.username, authority.password, authority.host, authority.port, [],
            none, none⟩ (Url.afterAuthority (rest.dropWhile Url.isSlash))) := by
        simp [resolved, Url.readSlash, second, Url.readAbsolute, appLocal, named,
          Url.Parsed.ofOption]
      by_cases here : authority.host = "app.local" ∧ authority.port = none
      · refine .inl ⟨_, _, url, ?_, Url.written_readRest rfl rfl rfl _,
          Url.path_readRest _ _, by simp [ownPath, cleaned, second, named, here]⟩
        rw [originText_eq_iff, Url.origin_readRest, Url.origin, here.1, here.2]
      · refine .inr ⟨by simp [ownPath, cleaned, second, named, here],
          fun other found same => here ?_⟩
        rw [url] at found
        cases found
        rw [originText_eq_iff, Url.origin_readRest] at same
        simpa [Url.origin] using same

theorem localPath_slash : LocalPath "/" where
  oneSlash := ⟨[], rfl, rfl⟩
  stays := by
    intro parser base _
    refine ⟨Url.readRest { base with path := [], query := none, fragment := none } [], ?_, ?_, ?_⟩
    · have cleaned : Url.clean "/".toList = ['/'] := by decide
      rw [Url.parse_slash cleaned]
      rfl
    · rw [Url.origin_readRest]
      rfl
    · rw [Url.pathname, Url.path_readRest]
      change isReservedAuthPath ((Url.readPath [] []).flatMap ('/' :: ·)) = false
      decide

theorem isReservedAuthPath_slashes (rest : List Char) :
    isReservedAuthPath ('/' :: '/' :: rest) = false := by
  simp [isReservedAuthPath, signInPath, signOutPath, callbackPath]

/-- A path of this site that was resolved is returned as a local one if it does not begin with
an empty segment before others. -/
theorem localPath_relativeText {url : Url} (written : url.Written)
    (single : ¬ ∃ next more, url.path = [] :: next :: more)
    (free : isReservedAuthPath url.pathname = false) :
    LocalPath (String.ofList url.relativeText) where
  oneSlash := by
    obtain ⟨rest, text, oneSlash, -⟩ := Url.relativeText_oneSlash written single
    exact ⟨rest, by rw [String.toList_ofList, text], oneSlash⟩
  stays := by
    intro parser base _
    obtain ⟨found, parsed, path, origin⟩ := Url.parse_relativeText written single parser base
    refine ⟨found, parsed, origin, ?_⟩
    rw [Url.pathname, path]
    exact free

/-- The returned path is local exactly if the value does not slip through: the path of the
value must not come to begin with an empty segment, which would be written as two slashes. -/
theorem safeRelativeReturnPath_local_iff (parser : Url.Parser)
    (known : parser.hosts "app.local".toList = some "app.local") (value : Units) :
    LocalPath (safeRelativeReturnPath parser value) ↔ ¬ Slips parser.hosts value := by
  by_cases refused : (!startsWith value "/" || startsWith value "//") = true
  · rw [safeRelativeReturnPath, if_pos refused]
    refine iff_of_true localPath_slash ?_
    rintro ⟨slash, notDouble, -⟩
    rw [slash, notDouble] at refused
    cases refused
  · have accepted := refused
    simp only [Bool.or_eq_true, Bool.not_eq_true', not_or, Bool.not_eq_true, Bool.not_eq_false]
      at accepted
    obtain ⟨slash, notDouble⟩ := accepted
    rw [safeRelativeReturnPath, if_neg refused]
    rcases resolveLocal_cases known slash with
      ⟨url, path, resolved, here, written, segments, own⟩ | ⟨none, elsewhere⟩
    · have roots : (∃ next more, url.path = [] :: next :: more) ↔ Slips parser.hosts value := by
        rw [segments, Url.readPath, Url.addSegments_rootsEmpty_iff (by simp),
          Url.rootsEmpty_percentEncode, Slips, own]
        simp [slash, notDouble]
      simp only [resolved, here, ne_eq, not_true_eq_false, if_false]
      rw [← roots]
      constructor
      · rintro isLocal ⟨next, more, empty⟩
        have text : url.relativeText = '/' :: '/' :: (next ++ more.flatMap ('/' :: ·) ++
            (url.search ++ url.hash)) := by
          simp [Url.relativeText, Url.pathname, empty]
        have free : isReservedAuthPath url.pathname = false := by
          rw [Url.pathname, empty]
          exact isReservedAuthPath_slashes _
        rw [free] at isLocal
        obtain ⟨rest, same, oneSlash⟩ := isLocal.oneSlash
        simp only [Bool.false_eq_true, if_false, String.toList_ofList, text] at same
        cases same
        cases oneSlash
      · intro single
        cases free : isReservedAuthPath url.pathname with
        | true => exact localPath_slash
        | false => exact localPath_relativeText written single free
    · have other : (match resolveLocal parser value with
          | .url url =>
            if url.originText ≠ "https://app.local" then "/"
            else if isReservedAuthPath url.pathname then "/"
            else String.ofList url.relativeText
          | .invalid | .other => "/") = "/" := by
        cases found : resolveLocal parser value with
        | url url => exact if_pos (elsewhere url found)
        | invalid | other => rfl
      rw [other]
      refine iff_of_true localPath_slash ?_
      rintro ⟨-, -, path, own, -⟩
      rw [none] at own
      cases own

def isNameChar (c : Char) : Bool := c.isLower || c.isDigit || c == '.' || c == '-'

/-- A parser for hosts that are names in lower case, which stay as they are. -/
def namesOnly : Url.Parser where
  hosts chars := if chars.all isNameChar then some (String.ofList chars) else none
  others _ _ := false

theorem hosts_path_is_local :
    LocalPath (safeRelativeReturnPath namesOnly (Js.ofString "/hosts?tab=jobs")) := by
  have known : namesOnly.hosts "app.local".toList = some "app.local" := by decide
  refine (safeRelativeReturnPath_local_iff namesOnly known _).mpr ?_
  rintro ⟨-, -, path, own, before, after, split, -⟩
  have segment : ownPath namesOnly.hosts (Js.ofString "/hosts?tab=jobs") = some "hosts".toList := by
    decide +kernel
  rw [segment] at own
  cases own
  have empty : [] ∈ "hosts".toList.splitOnP Url.isSlash := by
    rw [split]
    exact List.mem_append_right before List.mem_cons_self
  exact absurd empty (by decide)

/-- A segment of one dot before an empty one: the returned path names another site. -/
theorem dot_segment_slips :
    safeRelativeReturnPath namesOnly (Js.ofString "/.//evil.example") = "//evil.example" ∧
    ¬ LocalPath "//evil.example" ∧
    ∃ url, Url.parse namesOnly "//evil.example" (some appLocal) = .url url ∧
      url.origin = (.https, "evil.example", none) := by
  refine ⟨by decide +kernel, ?_, ⟨.https, [], [], "evil.example", none, [[]], none, none⟩,
    by decide +kernel, rfl⟩
  intro isLocal
  obtain ⟨rest, same, oneSlash⟩ := isLocal.oneSlash
  cases same
  cases oneSlash

end VpsManager.Web
