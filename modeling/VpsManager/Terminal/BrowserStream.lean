import VpsManager.Go.JsonStream
import VpsManager.Terminal.RateLimits
import VpsManager.Terminal.Revocation

/- What a browser sees of a terminal session: `proxyConnectorToBrowser` decodes the frames
of the Connector with one JSON reader and, but for the ready frame, hands their bytes on to
another. -/
namespace VpsManager.Terminal.BrowserStream

open Go Protocol Machine

def decodeUint16 (current : UInt16) (member : Json) : Option UInt16 :=
  (Json.decodeUint 16 current.toNat member).map UInt16.ofNat

def sizeFields : List (Json.Field TerminalSize) :=
  [.of "columns" (·.columns) (fun size n => { size with columns := n }) decodeUint16,
    .of "rows" (·.rows) (fun size n => { size with rows := n }) decodeUint16,
    .of "widthPixels" (·.widthPixels) (fun size n => { size with widthPixels := n }) decodeUint16,
    .of "heightPixels" (·.heightPixels) (fun size n => { size with heightPixels := n })
      decodeUint16]

structure WebSSHReadyMessage where
  type : String
  sessionID : String
  size : TerminalSize
  deriving DecidableEq, Repr

def readyFields : List (Json.Field WebSSHReadyMessage) :=
  [.of "type" (·.type) (fun m text => { m with type := text }) Json.decodeString,
    .of "sessionId" (·.sessionID) (fun m text => { m with sessionID := text }) Json.decodeString,
    .of "size" (·.size) (fun m size => { m with size := size }) (Json.decodeStruct true sizeFields)]

def WebSSHReadyMessage.json (message : WebSSHReadyMessage) : Json :=
  .object [("type", .string message.type), ("sessionId", .string message.sessionID),
    ("size", message.size.json)]

/-- `base64.StdEncoding`: the six bits of one character. -/
def stdSextet (c : Char) : Option Nat :=
  if c = '+' then some 62
  else if c = '/' then some 63
  else if isAlnumASCII c then sextet c
  else none

/-- The characters of the groups without those that fill up the last one. -/
def unpadded (chars : List Char) : List Char :=
  match chars.reverse with
  | '=' :: '=' :: rest => rest.reverse
  | '=' :: rest => rest.reverse
  | _ => chars

/-- `base64.StdEncoding.Decode`, which skips line breaks. -/
def stdDecode (text : String) : Option Bytes :=
  let chars := text.toList.filter fun c => c != '\n' && c != '\r'
  if chars.length % 4 = 0 then ((unpadded chars).mapM stdSextet).bind (octets false) else none

/-- How many bytes are decoded into a slice of bytes: from base64, or from an array of
numbers. -/
def decodeLength (_ : Nat) : Json → Option Nat
  | .string text => (stdDecode text).map List.length
  | .array items => (items.mapM (Json.decodeUint 8 0)).map List.length
  | .null => some 0
  | _ => none

/-- Only the length of the data is looked at before it is wiped. -/
structure WebSSHOutputMessage where
  type : String
  dataLength : Nat
  deriving DecidableEq, Repr

def outputFields : List (Json.Field WebSSHOutputMessage) :=
  [.of "type" (·.type) (fun m text => { m with type := text }) Json.decodeString,
    .of "data" (·.dataLength) (fun m n => { m with dataLength := n }) decodeLength]

structure WebSSHExitMessage where
  type : String
  exitCode : Int
  reason : String
  deriving DecidableEq, Repr

def exitFields : List (Json.Field WebSSHExitMessage) :=
  [.of "type" (·.type) (fun m text => { m with type := text }) Json.decodeString,
    .of "exitCode" (·.exitCode) (fun m n => { m with exitCode := n }) Json.decodeInt,
    .of "reason" (·.reason) (fun m text => { m with reason := text }) Json.decodeString]

structure WebSSHErrorMessage where
  type : String
  code : String
  message : String
  retryable : Bool
  deriving DecidableEq, Repr

def errorFields : List (Json.Field WebSSHErrorMessage) :=
  [.of "type" (·.type) (fun m text => { m with type := text }) Json.decodeString,
    .of "code" (·.code) (fun m text => { m with code := text }) Json.decodeString,
    .of "message" (·.message) (fun m text => { m with message := text }) Json.decodeString,
    .of "retryable" (·.retryable) (fun m value => { m with retryable := value }) Json.decodeBool]

/-- The struct that only has the type. -/
def headerFields : List (Json.Field String) :=
  [.of "type" id (fun _ text => text) Json.decodeString]

def decodeHeader (body : Bytes) : Option String :=
  (Json.parse body).bind (Json.decodeStruct false headerFields "")

/-- `decodeStrictJSON`: one value, and nothing but blanks after it. -/
def decodeStrictJSON {α : Type} (fields : List (Json.Field α)) (zero : α) (body : Bytes) :
    Option α :=
  (Json.parse body).bind (Json.decodeStruct true fields zero)

/-- What the loop writes for a frame, and how it goes on. -/
structure Forwarded where
  frame : Bytes
  ready : Bool
  terminal : Bool

/-- The frame, whose type the loop knows, is checked; `none` is a protocol error. -/
def checkFrame (limits : ProxyLimits) (ready : Bool) (body : Bytes) (type : String) :
    Option Forwarded :=
  if type = "ready" then do
    let message ← decodeStrictJSON readyFields ⟨"", "", ⟨0, 0, 0, 0⟩⟩ body
    if ready = false ∧ message.sessionID = limits.upstreamSession ∧
        validTerminalSize message.size = true then
      some ⟨bytes { message with sessionID := limits.connectionID }.json.encode, true, false⟩
    else none
  else if type = "output" then do
    let message ← decodeStrictJSON outputFields ⟨"", 0⟩ body
    if ready = true ∧ message.dataLength ≤ limits.maxOutputMessageBytes then
      some ⟨body, ready, false⟩
    else none
  else if type = "exit" then do
    let _ ← decodeStrictJSON exitFields ⟨"", 0, ""⟩ body
    if ready = true then some ⟨body, ready, true⟩ else none
  else if type = "error" then do
    let message ← decodeStrictJSON errorFields ⟨"", "", "", false⟩ body
    if len message.code ≤ 128 ∧ len message.message ≤ 512 then some ⟨body, ready, true⟩ else none
  else none

/-- What one turn of the loop meets: the Connector's connection fails, or a message arrives,
at this time. The write to the browser succeeds or fails. -/
inductive Turn
  | failed
  | message (isText : Bool) (body : Bytes) (now : ℚ) (delivered : Bool)

/-- The frames that the loop writes to the browser, with one whose write fails as the last of
them, and its result once it has returned. -/
def proxyConnectorToBrowser (limits : ProxyLimits) :
    RateLimiter → Bool → List Turn → List Bytes × Option ProxyResult
  | _, _, [] => ([], none)
  | _, _, .failed :: _ => ([], some connectorClosed)
  | limiter, ready, .message isText body now delivered :: turns =>
    let (allowed, limiter) := limiter.allow body.length now
    if isText = false ∨ allowed = false then ([], some connectorProtocolError)
    else match (decodeHeader body).bind (checkFrame limits ready body) with
      | none => ([], some connectorProtocolError)
      | some forwarded =>
        if delivered = false then ([forwarded.frame], some clientClosed)
        else if forwarded.terminal then ([forwarded.frame], some remoteExit)
        else
          let (frames, result) :=
            proxyConnectorToBrowser limits limiter forwarded.ready turns
          (forwarded.frame :: frames, result)

/-- The member with exactly this name, the last if there are several. -/
def lastMember (name : String) : List (String × Json) → Option Json
  | [] => none
  | (other, value) :: members =>
    (lastMember name members).or (if other = name then some value else none)

/-- The member of the object with this text. Half of a surrogate pair and bytes that are no
text are read in different ways, but occur in none of the names and types that are asked
for. -/
def memberOf (name : String) (frame : Bytes) : Option Json :=
  match Json.parse frame with
  | some (.object members) => lastMember name members
  | _ => none

inductive Kind
  | ready
  | output
  | exit
  | error
  | other
  deriving DecidableEq, Repr

def kindNamed (type : String) : Kind :=
  if type = "ready" then .ready
  else if type = "output" then .output
  else if type = "exit" then .exit
  else if type = "error" then .error
  else .other

def kindOf (frame : Bytes) : Kind :=
  match memberOf "type" frame with
  | some (.string type) => kindNamed type
  | _ => .other

/-- A whole session: an error alone, or a ready frame, output, and an exit or an error if it
has come to its end. -/
inductive Session : List Kind → Prop
  | refused : Session [.error]
  | opened (outputs : Nat) {ending : List Kind} (ends : ending ∈ [[], [.exit], [.error]]) :
      Session (.ready :: (List.replicate outputs .output ++ ending))

def WellFormed (kinds : List Kind) : Prop := ∃ session, Session session ∧ kinds <+: session

/-- No member but `type` itself has this name in other letters, and none of them is `null`,
which the gateway leaves out of account. -/
def Unambiguous (body : Bytes) : Prop :=
  ∀ members, Json.parse body = some (.object members) → ∀ member ∈ members,
    Json.foldName member.1 = Json.foldName "type" → member.1 = "type" ∧ member.2 ≠ .null

theorem fieldNamed_fold {α : Type} {fields : List (Json.Field α)} {name : String}
    {field : Json.Field α} (found : Json.fieldNamed fields name = some field) :
    field ∈ fields ∧ Json.foldName field.name = Json.foldName name := by
  rw [Json.fieldNamed, Option.or_eq_some_iff] at found
  rcases found with exact' | ⟨-, folded⟩
  · have same := List.find?_some exact'
    exact ⟨List.mem_of_find?_eq_some exact', by rw [beq_iff_eq.mp same]⟩
  · have same := List.find?_some folded
    exact ⟨List.mem_of_find?_eq_some folded, beq_iff_eq.mp same⟩

def typeField : Json.Field String := .of "type" id (fun _ text => text) Json.decodeString

theorem fieldNamed_header (name : String) :
    Json.fieldNamed headerFields name =
      if Json.foldName name = Json.foldName "type" then some typeField else none := by
  by_cases folded : Json.foldName name = Json.foldName "type"
  · by_cases same : name = "type"
    · subst same
      rfl
    · simp [Json.fieldNamed, headerFields, typeField, Json.Field.of, folded, Ne.symm same]
  · have other : name ≠ "type" := by
      rintro rfl
      exact folded rfl
    simp [Json.fieldNamed, headerFields, Json.Field.of, folded, Ne.symm folded, Ne.symm other]

variable {members : List (String × Json)} {type : String} {body : Bytes}

/-- Without ambiguity the header holds the member that `JSON.parse` gives, if there is one. -/
theorem header_last {start : String}
    (exact' : ∀ member ∈ members, Json.foldName member.1 = Json.foldName "type" →
      member.1 = "type" ∧ member.2 ≠ .null)
    (decoded : Json.decodeFields false headerFields members start = some type) :
    lastMember "type" members = none ∧ type = start ∨
      lastMember "type" members = some (.string type) := by
  induction members generalizing start with
  | nil =>
    cases decoded
    exact .inl ⟨rfl, rfl⟩
  | cons member members ih =>
    obtain ⟨name, value⟩ := member
    rw [List.forall_mem_cons] at exact'
    rw [Json.decodeFields, fieldNamed_header] at decoded
    by_cases folded : Json.foldName name = Json.foldName "type"
    · obtain ⟨rfl, present⟩ := exact'.1 folded
      rw [if_pos folded] at decoded
      obtain ⟨next, assigned, rest⟩ := Option.bind_eq_some_iff.mp decoded
      have text : value = .string next := by
        cases value with
        | string text =>
          cases assigned
          rfl
        | null => exact absurd rfl present
        | bool | number | array | object => cases assigned
      rcases ih exact'.2 rest with ⟨absent, rfl⟩ | last
      · exact .inr (by rw [lastMember, absent, text]; rfl)
      · exact .inr (by rw [lastMember, last]; rfl)
    · have other : name ≠ "type" := by
        rintro rfl
        exact folded rfl
      rw [if_neg folded] at decoded
      rw [lastMember, if_neg other, Option.or_none]
      exact ih exact'.2 decoded

/-- A frame without ambiguity is the same to both readers. -/
theorem memberOf_type (plain : Unambiguous body) (header : decodeHeader body = some type)
    (filled : type ≠ "") : memberOf "type" body = some (.string type) := by
  obtain ⟨value, parsed, decoded⟩ := Option.bind_eq_some_iff.mp header
  cases value with
  | object members =>
    rw [memberOf, parsed]
    rcases header_last (plain members parsed) decoded with ⟨-, same⟩ | last
    · exact absurd same filled
    · exact last
  | null =>
    cases decoded
    exact absurd rfl filled
  | bool | number | string | array => cases decoded

/-- The field of the type is read as the header is, and no other field changes it. -/
structure Typed {α : Type} (fields : List (Json.Field α)) (get : α → String) : Prop where
  own : ∀ field ∈ fields, Json.foldName field.name = Json.foldName "type" →
    ∀ member value next, field.assign member value = some next →
      Json.decodeString (get value) member = some (get next)
  others : ∀ field ∈ fields, Json.foldName field.name ≠ Json.foldName "type" →
    ∀ member value next, field.assign member value = some next → get next = get value

theorem Typed.header {α : Type} {fields : List (Json.Field α)} {get : α → String}
    (typed : Typed fields get) {value result : α}
    (decoded : Json.decodeFields true fields members value = some result) :
    Json.decodeFields false headerFields members (get value) = some (get result) := by
  induction members generalizing value with
  | nil =>
    cases decoded
    rfl
  | cons member members ih =>
    obtain ⟨name, member⟩ := member
    rw [Json.decodeFields] at decoded
    rcases found : Json.fieldNamed fields name with _ | field
    · rw [found] at decoded
      cases decoded
    · rw [found] at decoded
      obtain ⟨next, assigned, rest⟩ := Option.bind_eq_some_iff.mp decoded
      obtain ⟨listed, named⟩ := fieldNamed_fold found
      rw [Json.decodeFields, fieldNamed_header]
      by_cases folded : Json.foldName name = Json.foldName "type"
      · have read := typed.own field listed (named.trans folded) member value next assigned
        rw [if_pos folded]
        refine Option.bind_eq_some_iff.mpr ⟨get next, ?_, ih rest⟩
        simp [typeField, Json.Field.of, read]
      · have kept := typed.others field listed (fun same => folded (named.symm.trans same))
          member value next assigned
        rw [if_neg folded, ← kept]
        exact ih rest

theorem typed_ready : Typed readyFields (·.type) := by
  have apart : Json.foldName "sessionId" ≠ Json.foldName "type" ∧
      Json.foldName "size" ≠ Json.foldName "type" := by decide
  constructor
  · simp only [readyFields, List.forall_mem_cons]
    refine ⟨?_, fun same => absurd same apart.1, fun same => absurd same apart.2,
      List.forall_mem_nil _⟩
    intro _ member value next assigned
    obtain ⟨text, read, rfl⟩ := Option.map_eq_some_iff.mp assigned
    exact read
  · simp only [readyFields, List.forall_mem_cons]
    refine ⟨fun other => absurd rfl other, ?_, ?_, List.forall_mem_nil _⟩
    · intro _ member value next assigned
      obtain ⟨text, -, rfl⟩ := Option.map_eq_some_iff.mp assigned
      rfl
    · intro _ member value next assigned
      obtain ⟨size, -, rfl⟩ := Option.map_eq_some_iff.mp assigned
      rfl

theorem type_of_ready {message : WebSSHReadyMessage} (header : decodeHeader body = some type)
    (decoded : decodeStrictJSON readyFields ⟨"", "", ⟨0, 0, 0, 0⟩⟩ body = some message) :
    message.type = type := by
  obtain ⟨value, parsed, struct⟩ := Option.bind_eq_some_iff.mp decoded
  rw [decodeHeader, parsed, Option.bind_some] at header
  cases value with
  | object members =>
    have same := typed_ready.header struct
    exact Option.some.inj (same.symm.trans header)
  | null =>
    cases struct
    cases header
    rfl
  | bool | number | string | array => cases struct

def readyFrame (connectionID : String) (size : TerminalSize) : Bytes :=
  bytes (WebSSHReadyMessage.json ⟨"ready", connectionID, size⟩).encode

theorem writtenMembers_nonZero {depth n : Nat} {name : String}
    {others : List (Option (String × Json))} (same : others.reduceOption = members)
    (rest : Json.WrittenMembers depth members) :
    Json.WrittenMembers depth (Json.nonZero name n :: others).reduceOption := by
  unfold Json.nonZero
  split
  · rw [List.reduceOption_cons_of_none, same]
    exact rest
  · rw [List.reduceOption_cons_of_some, same]
    exact ⟨Json.written_nat _ _, rest⟩

theorem written_size (size : TerminalSize) (depth : Nat) : Json.Written (depth + 1) size.json :=
  ⟨depth.succ_pos, Json.written_nat _ _, Json.written_nat _ _,
    writtenMembers_nonZero rfl (writtenMembers_nonZero rfl trivial)⟩

theorem parse_readyFrame (connectionID : String) (size : TerminalSize) :
    Json.parse (readyFrame connectionID size) =
      some (WebSSHReadyMessage.json ⟨"ready", connectionID, size⟩) :=
  Json.parse_encode ⟨by decide, trivial, trivial, written_size size 9998, trivial⟩

theorem memberOf_readyFrame (connectionID : String) (size : TerminalSize) :
    memberOf "type" (readyFrame connectionID size) = some (.string "ready") ∧
      memberOf "sessionId" (readyFrame connectionID size) = some (.string connectionID) := by
  rw [memberOf, memberOf, parse_readyFrame]
  exact ⟨rfl, rfl⟩

theorem forwarded_cases {limits : ProxyLimits} {ready : Bool} {forwarded : Forwarded}
    (passed : (decodeHeader body).bind (checkFrame limits ready body) = some forwarded) :
    (ready = false ∧ ∃ size, validTerminalSize size = true ∧
        forwarded = ⟨readyFrame limits.connectionID size, true, false⟩) ∨
      (decodeHeader body = some "output" ∧ ready = true ∧ forwarded = ⟨body, true, false⟩) ∨
      (decodeHeader body = some "exit" ∧ ready = true ∧ forwarded = ⟨body, true, true⟩) ∨
      (decodeHeader body = some "error" ∧ forwarded = ⟨body, ready, true⟩) := by
  obtain ⟨type, header, checked⟩ := Option.bind_eq_some_iff.mp passed
  unfold checkFrame at checked
  split at checked
  · subst type
    obtain ⟨message, decoded, checked⟩ := Option.bind_eq_some_iff.mp checked
    split at checked
    · rename_i valid
      cases checked
      have named := type_of_ready header decoded
      refine .inl ⟨valid.1, message.size, valid.2.2, ?_⟩
      rw [readyFrame, ← named]
    · cases checked
  split at checked
  · subst type
    obtain ⟨message, -, checked⟩ := Option.bind_eq_some_iff.mp checked
    split at checked
    · rename_i valid
      cases checked
      exact .inr (.inl ⟨header, valid.1, by rw [valid.1]⟩)
    · cases checked
  split at checked
  · subst type
    obtain ⟨message, -, checked⟩ := Option.bind_eq_some_iff.mp checked
    split at checked
    · rename_i open'
      cases checked
      exact .inr (.inr (.inl ⟨header, open', by rw [open']⟩))
    · cases checked
  split at checked
  · subst type
    obtain ⟨message, -, checked⟩ := Option.bind_eq_some_iff.mp checked
    split at checked
    · cases checked
      exact .inr (.inr (.inr ⟨header, rfl⟩))
    · cases checked
  · cases checked

theorem kindOf_readyFrame (connectionID : String) (size : TerminalSize) :
    kindOf (readyFrame connectionID size) = .ready := by
  rw [kindOf, (memberOf_readyFrame connectionID size).1]
  rfl

theorem kindOf_body (plain : Unambiguous body) (header : decodeHeader body = some type)
    (filled : type ≠ "") : kindOf body = kindNamed type := by
  rw [kindOf, memberOf_type plain header filled]

/-- The kinds of what is written for a frame without ambiguity, and how the loop goes on. -/
theorem kindOf_forwarded {limits : ProxyLimits} {ready : Bool} {forwarded : Forwarded}
    (plain : Unambiguous body)
    (passed : (decodeHeader body).bind (checkFrame limits ready body) = some forwarded) :
    (ready = false ∧ kindOf forwarded.frame = .ready ∧ forwarded.ready = true ∧
        forwarded.terminal = false) ∨
      (ready = true ∧ kindOf forwarded.frame = .output ∧ forwarded.ready = true ∧
        forwarded.terminal = false) ∨
      (ready = true ∧ kindOf forwarded.frame = .exit ∧ forwarded.terminal = true) ∨
      (kindOf forwarded.frame = .error ∧ forwarded.terminal = true) := by
  rcases forwarded_cases passed with ⟨closed, size, -, rfl⟩ | ⟨header, opened, rfl⟩ |
    ⟨header, opened, rfl⟩ | ⟨header, rfl⟩
  · exact .inl ⟨closed, kindOf_readyFrame _ _, rfl, rfl⟩
  · exact .inr (.inl ⟨opened, kindOf_body plain header (by decide), rfl, rfl⟩)
  · exact .inr (.inr (.inl ⟨opened, kindOf_body plain header (by decide), rfl⟩))
  · exact .inr (.inr (.inr ⟨kindOf_body plain header (by decide), rfl⟩))

/-- The frame of a turn, if it has one, is unambiguous. -/
def Turn.Plain : Turn → Prop
  | .failed => True
  | .message _ body _ _ => Unambiguous body

section Loop

variable (limits : ProxyLimits)

theorem proxy_cons (limiter : RateLimiter) (ready : Bool) (turn : Turn) (turns : List Turn) :
    let frames := (proxyConnectorToBrowser limits limiter ready (turn :: turns)).1
    frames = [] ∨
      ∃ isText body now delivered forwarded, turn = .message isText body now delivered ∧
        (decodeHeader body).bind (checkFrame limits ready body) = some forwarded ∧
        (frames = [forwarded.frame] ∨
          forwarded.terminal = false ∧ ∃ later, frames =
            forwarded.frame :: (proxyConnectorToBrowser limits later forwarded.ready turns).1) := by
  cases turn with
  | failed => exact .inl rfl
  | message isText body now delivered =>
    rw [proxyConnectorToBrowser]
    dsimp only
    split
    · exact .inl rfl
    split
    · exact .inl rfl
    · rename_i forwarded passed
      refine .inr ⟨_, _, _, _, forwarded, rfl, passed, ?_⟩
      split
      · exact .inl rfl
      split
      · exact .inl rfl
      · rename_i goesOn
        exact .inr ⟨by simpa using goesOn, _, rfl⟩

/-- After the ready frame: output, and then an exit or an error. -/
theorem kinds_after_ready (limiter : RateLimiter) (turns : List Turn)
    (plain : ∀ turn ∈ turns, turn.Plain) :
    ∃ outputs, ∃ ending ∈ [[], [Kind.exit], [.error]],
      (proxyConnectorToBrowser limits limiter true turns).1.map kindOf =
        List.replicate outputs .output ++ ending := by
  induction turns generalizing limiter with
  | nil => exact ⟨0, [], by decide, rfl⟩
  | cons turn turns ih =>
    rw [List.forall_mem_cons] at plain
    rcases proxy_cons limits limiter true turn turns with none' | ⟨isText, body, now, delivered,
      forwarded, rfl, passed, one | ⟨goesOn, later, more⟩⟩
    · exact ⟨0, [], by decide, by rw [none']; rfl⟩
    · rw [one, List.map_singleton]
      rcases kindOf_forwarded plain.1 passed with ⟨closed, -⟩ | ⟨-, kind, -⟩ | ⟨-, kind, -⟩ |
        ⟨kind, -⟩
      · cases closed
      · exact ⟨1, [], by decide, by rw [kind]; rfl⟩
      · exact ⟨0, [.exit], by decide, by rw [kind]; rfl⟩
      · exact ⟨0, [.error], by decide, by rw [kind]; rfl⟩
    · rw [more, List.map_cons]
      rcases kindOf_forwarded plain.1 passed with ⟨closed, -⟩ | ⟨-, kind, opened, -⟩ |
        ⟨-, -, ended⟩ | ⟨-, ended⟩
      · cases closed
      · obtain ⟨outputs, ending, listed, rest⟩ := ih later plain.2
        refine ⟨outputs + 1, ending, listed, ?_⟩
        rw [kind, opened, rest, List.replicate_succ, List.cons_append]
      · rw [ended] at goesOn
        cases goesOn
      · rw [ended] at goesOn
        cases goesOn

theorem wellFormed_of_session {kinds : List Kind} (session : Session kinds) : WellFormed kinds :=
  ⟨kinds, session, List.prefix_refl kinds⟩

theorem wellFormed_from_start (limiter : RateLimiter) (turns : List Turn)
    (plain : ∀ turn ∈ turns, turn.Plain) :
    WellFormed ((proxyConnectorToBrowser limits limiter false turns).1.map kindOf) := by
  have nothing : WellFormed [] := ⟨_, .refused, List.nil_prefix⟩
  cases turns with
  | nil => exact nothing
  | cons turn turns =>
    rw [List.forall_mem_cons] at plain
    rcases proxy_cons limits limiter false turn turns with none' | ⟨isText, body, now, delivered,
      forwarded, rfl, passed, one | ⟨goesOn, later, more⟩⟩
    · rw [none']
      exact nothing
    · rw [one, List.map_singleton]
      rcases kindOf_forwarded plain.1 passed with ⟨-, kind, -⟩ | ⟨opened, -⟩ | ⟨opened, -⟩ |
        ⟨kind, -⟩
      · have opening : Session [.ready] := .opened 0 List.mem_cons_self
        rw [kind]
        exact wellFormed_of_session opening
      · cases opened
      · cases opened
      · rw [kind]
        exact wellFormed_of_session .refused
    · rw [more, List.map_cons]
      rcases kindOf_forwarded plain.1 passed with ⟨-, kind, opened, -⟩ | ⟨opened, -⟩ |
        ⟨opened, -⟩ | ⟨-, ended⟩
      · obtain ⟨outputs, ending, listed, rest⟩ := kinds_after_ready limits later turns plain.2
        rw [kind, opened, rest]
        exact wellFormed_of_session (.opened outputs listed)
      · cases opened
      · cases opened
      · rw [ended] at goesOn
        cases goesOn

theorem ready_frames (limiter : RateLimiter) (ready : Bool) (turns : List Turn)
    (plain : ∀ turn ∈ turns, turn.Plain) :
    ∀ frame ∈ (proxyConnectorToBrowser limits limiter ready turns).1, kindOf frame = .ready →
      ∃ size, validTerminalSize size = true ∧ frame = readyFrame limits.connectionID size := by
  induction turns generalizing limiter ready with
  | nil => exact List.forall_mem_nil _
  | cons turn turns ih =>
    rw [List.forall_mem_cons] at plain
    rcases proxy_cons limits limiter ready turn turns with none' | ⟨isText, body, now, delivered,
      forwarded, rfl, passed, written⟩
    · rw [none']
      exact List.forall_mem_nil _
    · have first : kindOf forwarded.frame = .ready → ∃ size, validTerminalSize size = true ∧
          forwarded.frame = readyFrame limits.connectionID size := by
        intro kind
        rcases forwarded_cases passed with ⟨-, size, valid, rfl⟩ | ⟨header, -, rfl⟩ |
          ⟨header, -, rfl⟩ | ⟨header, rfl⟩
        · exact ⟨size, valid, rfl⟩
        all_goals
          have other := kindOf_body plain.1 header (by decide)
          rw [kind] at other
          cases other
      rcases written with one | ⟨-, later, more⟩
      · rw [one, List.forall_mem_singleton]
        exact first
      · rw [more, List.forall_mem_cons]
        exact ⟨first, ih later forwarded.ready plain.2⟩

end Loop

/-- The frame that the session's goroutines are modelled with. Of output only the length is
decoded. -/
def decodeFrame (body : Bytes) : ConnectorFrame :=
  match decodeHeader body with
  | none => .notJSON
  | some type =>
    if type = "ready" then
      (decodeStrictJSON readyFields ⟨"", "", ⟨0, 0, 0, 0⟩⟩ body).elim .other fun message =>
        .ready message.sessionID message.size
    else if type = "output" then
      (decodeStrictJSON outputFields ⟨"", 0⟩ body).elim .other fun message =>
        .output (List.replicate message.dataLength 0)
    else if type = "exit" then
      (decodeStrictJSON exitFields ⟨"", 0, ""⟩ body).elim .other fun message =>
        .exit message.exitCode message.reason
    else if type = "error" then
      (decodeStrictJSON errorFields ⟨"", "", "", false⟩ body).elim .other fun message =>
        .error message.code message.message message.retryable
    else .other

/-- The bytes that are written for a frame: those it was read from, or a new ready frame. -/
def Shows (passed : ConnectorFrame) (frame : Bytes) : Prop :=
  decodeFrame frame = passed ∨ ∃ message : WebSSHReadyMessage,
    passed = .ready message.sessionID message.size ∧ frame = bytes message.json.encode

def Agrees (ready : Bool) :
    Option Forwarded → Except ProxyResult (ConnectorFrame × Bool) → Prop
  | none, .error result => result = connectorProtocolError
  | some forwarded, .ok (passed, ends) => forwarded.ready = (ready || passed.isReady) ∧
      forwarded.terminal = ends ∧ Shows passed forwarded.frame
  | _, _ => False

/-- A frame that is handed on as it was read, if it is at all. -/
theorem agrees_unchanged {ready ends : Bool} {body : Bytes} {passed : ConnectorFrame}
    {accepted : Prop} [Decidable accepted] (ordinary : passed.isReady = false)
    (read : decodeFrame body = passed) :
    Agrees ready (if accepted then some ⟨body, ready, ends⟩ else none)
      (if accepted then .ok (passed, ends) else .error connectorProtocolError) := by
  split
  · refine ⟨?_, rfl, .inl read⟩
    rw [ordinary, Bool.or_false]
  · rfl

/-- On the bytes of a frame and on the frame the checks agree. -/
theorem checkFrame_agrees (limits : ProxyLimits) (ready : Bool) (body : Bytes) :
    Agrees ready ((decodeHeader body).bind (checkFrame limits ready body))
      (checkOutput limits ready true (decodeFrame body)) := by
  have admitted : ¬ true = false := Bool.noConfusion
  cases header : decodeHeader body with
  | none =>
    rw [decodeFrame, header]
    rfl
  | some type =>
    have shown : decodeFrame body = decodeFrame body := rfl
    conv at shown => lhs; rw [decodeFrame, header]
    change Agrees ready (checkFrame limits ready body type) _
    rw [← shown]
    unfold checkFrame
    dsimp only at shown ⊢
    split
    · rcases decodeStrictJSON readyFields _ body with _ | message
      · rfl
      · dsimp only [Option.elim, Option.bind_eq_bind, Option.bind, checkOutput]
        rw [if_neg admitted]
        split
        · exact ⟨(Bool.or_true ready).symm, rfl, .inr ⟨_, rfl, rfl⟩⟩
        · rfl
    rename_i notReady
    rw [if_neg notReady] at shown
    split
    · rename_i isOutput
      rw [if_pos isOutput] at shown
      rcases decoded : decodeStrictJSON outputFields _ body with _ | message
      · rfl
      · rw [decoded] at shown
        dsimp only [Option.elim, Option.bind_eq_bind, Option.bind, checkOutput] at shown ⊢
        rw [if_neg admitted, List.length_replicate]
        exact agrees_unchanged rfl shown.symm
    rename_i notOutput
    rw [if_neg notOutput] at shown
    split
    · rename_i isExit
      rw [if_pos isExit] at shown
      rcases decoded : decodeStrictJSON exitFields _ body with _ | message
      · rfl
      · rw [decoded] at shown
        dsimp only [Option.elim, Option.bind_eq_bind, Option.bind, checkOutput] at shown ⊢
        rw [if_neg admitted]
        exact agrees_unchanged rfl shown.symm
    rename_i notExit
    rw [if_neg notExit] at shown
    split
    · rename_i isError
      rw [if_pos isError] at shown
      rcases decoded : decodeStrictJSON errorFields _ body with _ | message
      · rfl
      · rw [decoded] at shown
        dsimp only [Option.elim, Option.bind_eq_bind, Option.bind, checkOutput] at shown ⊢
        rw [if_neg admitted]
        exact agrees_unchanged rfl shown.symm
    · rfl

/-- A run of the session's goroutines from `before` to `after` in which the output proxy
writes the frames that the loop does, but for one it may fail to write, and ends as it. -/
structure Mirrors (limits : ProxyLimits) (before after : Gateway.Session)
    (loop : List Bytes × Option ProxyResult) : Prop where
  ran : ∃ actions, Run (Gateway.Step limits) anyAction before actions after
  results : after.results = before.results ++ loop.2.toList
  written : ∃ written sent unsent,
    after.toBrowser.map Prod.fst = before.toBrowser.map Prod.fst ++ written ∧
      loop.1 = sent ++ unsent ∧ List.Forall₂ Shows written sent ∧
      (unsent = [] ∨ loop.2 = some clientClosed)

/-- What the loop does on the bytes of the Connector the session's model does on its frames. -/
theorem proxy_mirrored (limits : ProxyLimits) (turns : List Turn) (limiter : RateLimiter)
    {s : Gateway.Session} (reads : s.output = .reading) (free : s.lock = none)
    (live : s.cancelled = false) :
    ∃ after, Mirrors limits s after (proxyConnectorToBrowser limits limiter s.ready turns) := by
  induction turns generalizing limiter s with
  | nil =>
    exact ⟨s, ⟨_, .start⟩, (List.append_nil _).symm, [], [], [], (List.append_nil _).symm, rfl,
      .nil, .inl rfl⟩
  | cons turn turns ih =>
    have ran : Run (Gateway.Step limits) anyAction s [] s := .start
    cases turn with
    | failed =>
      have ran := ran.take .failReadConnector trivial (.failReadConnector reads)
      exact ⟨_, ⟨_, ran⟩, rfl, [], [], [], (List.append_nil _).symm, rfl, .nil, .inl rfl⟩
    | message isText body now delivered =>
      rw [proxyConnectorToBrowser]
      dsimp only
      split
      · have ran := ran.take (.readConnector (decodeFrame body) false) trivial
          (.readConnector _ _ reads live)
        exact ⟨_, ⟨_, ran⟩, rfl, [], [], [], (List.append_nil _).symm, rfl, .nil, .inl rfl⟩
      have ran := ran.take (.readConnector (decodeFrame body) true) trivial
        (.readConnector _ _ reads live)
      have agrees := checkFrame_agrees limits s.ready body
      generalize (decodeHeader body).bind (checkFrame limits s.ready body) = text at agrees ⊢
      generalize checkOutput limits s.ready true (decodeFrame body) = checked at agrees ran
      match text, checked, agrees with
      | none, .error result, same =>
        rw [show result = connectorProtocolError from same] at ran
        exact ⟨_, ⟨_, ran⟩, rfl, [], [], [], (List.append_nil _).symm, rfl, .nil, .inl rfl⟩
      | some forwarded, .ok (passed, ends), ⟨opens, same, shows⟩ =>
        subst same
        have ran := ran.take .lockBrowser trivial (.lockBrowser rfl free)
        dsimp only
        split
        · have ran := ran.take .failForwardOutput trivial (.failForwardOutput rfl rfl)
          exact ⟨_, ⟨_, ran⟩, rfl, [], [], [_], (List.append_nil _).symm, rfl, .nil, .inr rfl⟩
        have ran := ran.take .forwardOutput trivial (.forwardOutput rfl rfl live)
        split
        · rename_i last
          refine ⟨_, ⟨_, ran⟩, ?_, [passed], [_], [], ?_, rfl, .cons shows .nil, .inl rfl⟩
          · simp [Gateway.afterForward, Gateway.afterOutput, last]
          · simp [Gateway.afterForward, Gateway.afterOutput]
        · rename_i goesOn
          have idle : (Gateway.afterForward
              (Gateway.afterOutput s (.ok (passed, forwarded.terminal)))
              (passed, forwarded.terminal) s.revoked).output = .reading := if_neg goesOn
          obtain ⟨after, ⟨_, more⟩, results, written, sent, unsent, grown, parts, all, rest⟩ :=
            ih (limiter.allow body.length now).2 idle rfl live
          have kept : (Gateway.afterForward
              (Gateway.afterOutput s (.ok (passed, forwarded.terminal)))
              (passed, forwarded.terminal) s.revoked).results = s.results := if_neg goesOn
          rw [kept] at results
          rw [opens]
          refine ⟨after, ⟨_, ran.append more⟩, results, passed :: written, _ :: sent, unsent, ?_,
            congrArg (List.cons _) parts, .cons shows all, rest⟩
          rw [grown]
          simp [Gateway.afterForward, Gateway.afterOutput]

/-- As long as no frame of the Connector names its type in other letters or as `null`, the
browser sees a session, and the ready frame is made of the connection ID and a size: nothing
else of the session, its upstream ID among it, is in it. -/
theorem browser_stream_well_formed (limits : ProxyLimits) (limiter : RateLimiter)
    (turns : List Turn) (plain : ∀ turn ∈ turns, turn.Plain) :
    WellFormed ((proxyConnectorToBrowser limits limiter false turns).1.map kindOf) ∧
      ∀ frame ∈ (proxyConnectorToBrowser limits limiter false turns).1, kindOf frame = .ready →
        memberOf "sessionId" frame = some (.string limits.connectionID) ∧
          ∃ size, validTerminalSize size = true ∧
            frame = readyFrame limits.connectionID size := by
  refine ⟨wellFormed_from_start limits limiter turns plain, ?_⟩
  intro frame written kind
  obtain ⟨size, valid, rfl⟩ := ready_frames limits limiter false turns plain frame written kind
  exact ⟨(memberOf_readyFrame _ size).2, size, valid, rfl⟩

def sampleLimits : ProxyLimits := ⟨16384, 16384, "upstream", "connection"⟩

def sampleLimiter : RateLimiter := newRateLimiter 262144 524288 0

def sampleTurn (body : Bytes) : Turn := .message true body 0 true

def openingTurn : Turn := sampleTurn (readyFrame "upstream" ⟨80, 24, 0, 0⟩)

def outputTurn : Turn := sampleTurn (bytes (outputJson (bytes "hi")).encode)

theorem plain_opening : openingTurn.Plain := by
  intro members parsed
  rw [parse_readyFrame] at parsed
  cases parsed
  have apart : Json.foldName "sessionId" ≠ Json.foldName "type" ∧
      Json.foldName "size" ≠ Json.foldName "type" := by decide
  rw [List.forall_mem_cons, List.forall_mem_cons, List.forall_mem_singleton]
  exact ⟨fun _ => ⟨rfl, nofun⟩, fun same => absurd same apart.1, fun same => absurd same apart.2⟩

theorem plain_output : outputTurn.Plain := by
  intro members parsed
  have written : Json.Written Json.maxNestingDepth (outputJson (bytes "hi")) :=
    ⟨by decide, trivial, trivial, trivial⟩
  rw [Json.parse_encode written] at parsed
  cases parsed
  have apart : Json.foldName "data" ≠ Json.foldName "type" := by decide
  rw [List.forall_mem_cons, List.forall_mem_singleton]
  exact ⟨fun _ => ⟨rfl, nofun⟩, fun same => absurd same apart⟩

theorem output_seen :
    (∀ turn ∈ [openingTurn, outputTurn], turn.Plain) ∧
      (proxyConnectorToBrowser sampleLimits sampleLimiter false
        [openingTurn, outputTurn]).1.map kindOf = [.ready, .output] ∧
      WellFormed ((proxyConnectorToBrowser sampleLimits sampleLimiter false
        [openingTurn, outputTurn]).1.map kindOf) := by
  have plain : ∀ turn ∈ [openingTurn, outputTurn], turn.Plain := by
    rw [List.forall_mem_cons, List.forall_mem_singleton]
    exact ⟨plain_opening, plain_output⟩
  exact ⟨plain, by decide +kernel, (browser_stream_well_formed _ _ _ plain).1⟩

/-- The gateway reads `Type`, the last of the two; to `JSON.parse` only `type` counts. -/
def ambiguousTurn : Turn :=
  sampleTurn (bytes "\x7b\"type\":\"exit\",\"Type\":\"output\",\"data\":\"aGk=\"\x7d")

/-- The browser sees the session end and then go on. -/
theorem output_after_exit :
    (proxyConnectorToBrowser sampleLimits sampleLimiter false
        [openingTurn, ambiguousTurn, outputTurn]).1.map kindOf =
      [.ready, .exit, .output] ∧ ¬ WellFormed [.ready, .exit, .output] := by
  refine ⟨by decide +kernel, ?_⟩
  rintro ⟨session, whole, begins⟩
  cases whole with
  | refused => revert begins; decide
  | @opened outputs ending ends =>
    rw [List.cons_prefix_cons] at begins
    cases outputs with
    | zero =>
      simp only [List.mem_cons, List.not_mem_nil, or_false] at ends
      rcases ends with rfl | rfl | rfl <;> revert begins <;> decide
    | succ outputs =>
      rw [List.replicate_succ, List.cons_append, List.cons_prefix_cons] at begins
      cases begins.2.1

end VpsManager.Terminal.BrowserStream
