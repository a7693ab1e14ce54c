import VpsManager.Ai.Validation
import VpsManager.Go.JsonStruct

/- How an answer of the gateway is decoded, and the schema it is asked to match. A scan
of the tokens rejects repeated names, the names of all members are compared with the
expected ones, and then the lenient decoder of the library reads the values. -/
namespace VpsManager.Ai

open Go Checks

open Control (Analysis RankedFinding HumanVerificationStep Recommendation)

mutual

/-- The first argument bounds the number of tokens; what is returned is left to read. -/
def inspectJSONValue : Nat → List Json.Token → Except String (List Json.Token)
  | 0, _ => .error "EOF"
  | _ + 1, [] => .error "EOF"
  | _ + 1, .scalar _ :: rest => .ok rest
  | fuel + 1, .beginObject :: rest => inspectMembers fuel [] rest
  | fuel + 1, .beginArray :: rest => inspectItems fuel rest
  | _ + 1, _ :: _ => .error "unexpected JSON delimiter"

/-- The loop over the members of an object, with the names seen so far. -/
def inspectMembers : Nat → List String → List Json.Token → Except String (List Json.Token)
  | 0, _, _ => .error "EOF"
  | _ + 1, _, .endObject :: rest => .ok rest
  | _ + 1, _, .endArray :: _ => .error "JSON object is not closed"
  | _ + 1, _, [] => .error "JSON object is not closed"
  | fuel + 1, seen, .scalar (.string key) :: rest => do
    ensure (key ∉ seen) "JSON object key is duplicated"
    let after ← inspectJSONValue fuel rest
    inspectMembers fuel (key :: seen) after
  | _ + 1, _, _ :: _ => .error "JSON object key is invalid"

def inspectItems : Nat → List Json.Token → Except String (List Json.Token)
  | 0, _ => .error "EOF"
  | _ + 1, .endArray :: rest => .ok rest
  | _ + 1, .endObject :: _ => .error "JSON array is not closed"
  | _ + 1, [] => .error "JSON array is not closed"
  | fuel + 1, token :: rest => do
    let after ← inspectJSONValue fuel (token :: rest)
    inspectItems fuel after

end

def rejectDuplicateJSONKeys (data : Bytes) : Except String Unit := do
  let found ← orError (Json.lex .between data) "invalid character"
  let returned := found.filter Json.Token.returned
  let rest ← inspectJSONValue (returned.length + 1) returned
  ensure (rest.isEmpty = true) "JSON contains trailing data"

/-- Members in a map, where the last of one name stays. -/
def keepLast : List (String × Json) → List (String × Json)
  | [] => []
  | member :: members =>
    if members.any (·.1 == member.1) then keepLast members else member :: keepLast members

def decodeRawObject : Json → Except String (List (String × Json))
  | .object members => .ok (keepLast members)
  | _ => .error "JSON value is not an object"

def hasExactKeys (object : List (String × Json)) (keys : List String) : Bool :=
  object.length = keys.length && keys.all fun key => object.any (·.1 == key)

def analysisNames : List String :=
  ["schemaVersion", "summary", "rankedFindings", "humanVerificationSteps", "recommendations",
    "executionAllowed"]

def rankedNames : List String := ["findingId", "rank", "rationale"]

def stepNames : List String := ["findingId", "description"]

def recommendationNames : List String := ["findingId", "priority", "advice"]

def collections : List (String × List String) :=
  [("rankedFindings", rankedNames), ("humanVerificationSteps", stepNames),
    ("recommendations", recommendationNames)]

def validateItemShapes (keys : List String) : List Json → Except String Unit
  | [] => .ok ()
  | item :: items => do
    let object ← (decodeRawObject item).mapError fun _ => "analysis JSON item shape is invalid"
    ensure (hasExactKeys object keys = true) "analysis JSON item shape is invalid"
    validateItemShapes keys items

def validateCollections (top : List (String × Json)) :
    List (String × List String) → Except String Unit
  | [] => .ok ()
  | (name, keys) :: rest => do
    let items ← orError ((top.lookup name).bind (Json.decodeItems some))
      "analysis JSON collection shape is invalid"
    validateItemShapes keys items
    validateCollections top rest

def validateExactAnalysisShape (value : Json) : Except String Unit := do
  let top ← (decodeRawObject value).mapError fun _ =>
    "analysis JSON has an invalid top-level shape"
  ensure (hasExactKeys top analysisNames = true) "analysis JSON has an invalid top-level shape"
  validateCollections top collections

def rankedFields : List (Json.Field RankedFinding) :=
  [.of "findingId" (·.findingID) (fun item text => { item with findingID := text })
      Json.decodeString,
    .of "rank" (·.rank) (fun item n => { item with rank := n }) Json.decodeInt,
    .of "rationale" (·.rationale) (fun item text => { item with rationale := text })
      Json.decodeString]

def stepFields : List (Json.Field HumanVerificationStep) :=
  [.of "findingId" (·.findingID) (fun step text => { step with findingID := text })
      Json.decodeString,
    .of "description" (·.description) (fun step text => { step with description := text })
      Json.decodeString]

def recommendationFields : List (Json.Field Recommendation) :=
  [.of "findingId" (·.findingID) (fun item text => { item with findingID := text })
      Json.decodeString,
    .of "priority" (·.priority) (fun item text => { item with priority := text })
      Json.decodeString,
    .of "advice" (·.advice) (fun item text => { item with advice := text }) Json.decodeString]

def decodeRanked : Json → Option RankedFinding := Json.decodeStruct true rankedFields ⟨"", 0, ""⟩

def decodeStep : Json → Option HumanVerificationStep :=
  Json.decodeStruct true stepFields ⟨"", ""⟩

def decodeRecommendation : Json → Option Recommendation :=
  Json.decodeStruct true recommendationFields ⟨"", "", ""⟩

def analysisFields : List (Json.Field Analysis) :=
  [.of "schemaVersion" (·.schemaVersion) (fun value text => { value with schemaVersion := text })
      Json.decodeString,
    .of "summary" (·.summary) (fun value text => { value with summary := text })
      Json.decodeString,
    .of "rankedFindings" (·.rankedFindings)
      (fun value items => { value with rankedFindings := items })
      fun _ => Json.decodeItems decodeRanked,
    .of "humanVerificationSteps" (·.humanVerificationSteps)
      (fun value items => { value with humanVerificationSteps := items })
      fun _ => Json.decodeItems decodeStep,
    .of "recommendations" (·.recommendations)
      (fun value items => { value with recommendations := items })
      fun _ => Json.decodeItems decodeRecommendation,
    .of "executionAllowed" (·.executionAllowed)
      (fun value allowed => { value with executionAllowed := allowed }) Json.decodeBool]

def zeroAnalysis : Analysis := ⟨"", "", [], [], [], false⟩

def decodePlainAnalysis : Json → Option Analysis :=
  Json.decodeStruct true analysisFields zeroAnalysis

/-- `Analysis.UnmarshalJSON`. The text is that of one value, so that the second call of
the decoder meets its end. -/
def unmarshalJSON (data : Bytes) : Except String Analysis := do
  (rejectDuplicateJSONKeys data).mapError fun _ =>
    "analysis JSON contains duplicate or invalid keys"
  let value ← orError (Json.parse data) "analysis JSON has an invalid top-level shape"
  validateExactAnalysisShape value
  orError (decodePlainAnalysis value) "analysis JSON is invalid"

/-- `json.Unmarshal` looks at the whole body before it hands the value on. -/
def decodeAnalysis (body : Bytes) : Except String Analysis := do
  let _ ← orError (Json.parse body) "invalid gateway response"
  (unmarshalJSON body).mapError fun _ => "invalid gateway response"

end VpsManager.Ai
