import Mathlib.Algebra.Order.Ring.Rat
import VpsManager.Lib.TokenBucket
import VpsManager.Protocol.WebSsh

/- The byte rates of a terminal session, which the gateway and the Connector each limit
with a token bucket of their own. Times are seconds; the floats of the source are exact
here. -/
namespace VpsManager.Terminal

open Go Protocol TokenBucket

/-- `rateLimiter` of the gateway and `byteRateLimiter` of the Connector. -/
structure RateLimiter where
  rate : ℚ
  burst : ℚ
  tokens : ℚ
  last : ℚ

def newRateLimiter (rate burst : Int) (now : ℚ) : RateLimiter := ⟨rate, burst, burst, now⟩

/-- `allow`, for the time that it reads. -/
def RateLimiter.allow (limiter : RateLimiter) (amount : Int) (now : ℚ) : Bool × RateLimiter :=
  if amount < 0 then (false, limiter)
  else
    let refilled := limiter.tokens + (now - limiter.last) * limiter.rate
    let tokens := if limiter.burst < refilled then limiter.burst else refilled
    if tokens < amount then (false, { limiter with tokens := tokens, last := now })
    else (true, { limiter with tokens := tokens - amount, last := now })

/-- What passes through a loop, each with the time the loop reads it, in a session whose
limiters were created at `start`. -/
structure Stream (α : Type) (start : ℚ) where
  arrivals : List (ℚ × α)
  forward : (start :: arrivals.map Prod.fst).Pairwise (· ≤ ·)

/-- A loop stops at the first message that its limiter refuses. -/
def RateLimiter.admits {α : Type} (charge : α → Int) : RateLimiter → List (ℚ × α) → Bool
  | _, [] => true
  | limiter, (now, message) :: rest =>
    let (allowed, limiter) := limiter.allow (charge message) now
    allowed && limiter.admits charge rest

/-- The rates both sides are configured with. -/
structure Rates where
  inputBytesPerSecond : Nat
  outputBytesPerSecond : Nat

def defaultRates : Rates := ⟨64 * 2 ^ 10, 256 * 2 ^ 10⟩

/-- What the shell writes at once; a read of nothing is not sent. -/
def Chunk := { data : Bytes // data ≠ [] }

/-- `proxyBrowserToConnector`. -/
def gatewayInputCharge (body : Bytes) : Int := body.length

/-- `readClient`. -/
def connectorInputCharge (body : Bytes) : Int := if body.length < 512 then 512 else body.length

/-- `writeOutput`. -/
def connectorOutputCharge (chunk : Chunk) : Int := chunk.val.length

/-- `proxyConnectorToBrowser`, for the frame that the Connector makes of the chunk. -/
def gatewayOutputCharge (chunk : Chunk) : Int := len (outputJson chunk.val).encode

section Session

variable (rates : Rates) {start : ℚ}

def inputLimiter (now : ℚ) : RateLimiter :=
  newRateLimiter rates.inputBytesPerSecond (rates.inputBytesPerSecond * 2) now

def outputLimiter (now : ℚ) : RateLimiter :=
  newRateLimiter rates.outputBytesPerSecond (rates.outputBytesPerSecond * 2) now

def gatewayAdmitsInput (input : Stream Bytes start) : Bool :=
  (inputLimiter rates start).admits gatewayInputCharge input.arrivals

def connectorAdmitsInput (input : Stream Bytes start) : Bool :=
  (inputLimiter rates start).admits connectorInputCharge input.arrivals

def connectorAdmitsOutput (output : Stream Chunk start) : Bool :=
  (outputLimiter rates start).admits connectorOutputCharge output.arrivals

def gatewayAdmitsOutput (output : Stream Chunk start) : Bool :=
  (outputLimiter rates start).admits gatewayOutputCharge output.arrivals

end Session

def charged {α : Type} (charge : α → Nat) (arrivals : List (ℚ × α)) : List (Arrival ℚ) :=
  arrivals.map fun arrival => ⟨arrival.1, charge arrival.2⟩

theorem allow_eq (limiter : RateLimiter) (amount : Nat) (now : ℚ) :
    limiter.allow amount now =
      let tokens := min (limiter.tokens + (now - limiter.last) * limiter.rate) limiter.burst
      if amount ≤ tokens then (true, { limiter with tokens := tokens - amount, last := now })
      else (false, { limiter with tokens := tokens, last := now }) := by
  have capped : ∀ refilled : ℚ,
      (if limiter.burst < refilled then limiter.burst else refilled) =
        min refilled limiter.burst := by
    intro refilled
    by_cases full : limiter.burst < refilled
    · rw [if_pos full, min_eq_right full.le]
    · rw [if_neg full, min_eq_left (not_lt.mp full)]
  have positive : ¬ (amount : Int) < 0 := by omega
  simp only [RateLimiter.allow, if_neg positive, capped, Int.cast_natCast]
  split
  · rename_i short
    rw [if_neg (not_le.mpr short)]
  · rename_i enough
    rw [if_pos (not_lt.mp enough)]

theorem admits_iff_pays {α : Type} (charge : α → Nat) (limiter : RateLimiter)
    (arrivals : List (ℚ × α)) :
    limiter.admits (fun message => charge message) arrivals = true ↔
      Pays limiter.rate limiter.burst limiter.tokens limiter.last (charged charge arrivals) := by
  induction arrivals generalizing limiter with
  | nil => simp [RateLimiter.admits, charged, Pays]
  | cons arrival rest ih =>
    obtain ⟨now, message⟩ := arrival
    simp only [RateLimiter.admits, allow_eq, Bool.and_eq_true, charged, List.map_cons, Pays]
    split
    · rename_i paid
      rw [ih]
      simp [paid, charged]
    · rename_i unpaid
      simp [unpaid]

/-- A session's limiter admits a stream exactly if its charges stay within the curve of
the limiter. -/
theorem admits_iff_withinCurve {α : Type} (charge : α → Nat) (rate : Nat) {start : ℚ}
    (stream : Stream α start) :
    (newRateLimiter rate (rate * 2) start).admits (fun message => charge message)
        stream.arrivals = true ↔
      WithinCurve (rate : ℚ) (rate * 2) (charged charge stream.arrivals) := by
  rw [admits_iff_pays]
  have later : ∀ arrival ∈ (charged charge stream.arrivals).head?, start ≤ arrival.time := by
    intro arrival first
    rw [charged, List.head?_map, Option.mem_map] at first
    obtain ⟨message, member, rfl⟩ := first
    exact (List.pairwise_cons.mp stream.forward).1 _
      (List.mem_map_of_mem (List.mem_of_mem_head? member))
  have bucket : Pays (rate : ℚ) (rate * 2) (rate * 2) start _ ↔ _ :=
    pays_full_iff (Nat.cast_nonneg rate) later
  simpa [newRateLimiter] using bucket

/-- The least the Connector charges for a frame. -/
def paddedLen (body : Bytes) : Nat := max body.length 512

/-- The frame around a chunk and the chunk in base64. -/
def framedLen (chunk : Chunk) : Nat := 27 + base64Len chunk.val.length

theorem connectorInputCharge_eq (body : Bytes) : connectorInputCharge body = paddedLen body := by
  unfold connectorInputCharge paddedLen
  split <;> omega

theorem gatewayOutputCharge_eq (chunk : Chunk) : gatewayOutputCharge chunk = framedLen chunk := by
  have names : Json.escapedLen "type" = 4 ∧ Json.escapedLen "output" = 6 ∧
      Json.escapedLen "data" = 4 := by decide +kernel
  obtain ⟨type, output, data⟩ := names
  simp only [gatewayOutputCharge, Json.len_encode, outputJson, Json.size, Json.sizeMembers,
    Json.ofBytes, if_neg chunk.property, type, output, data, Json.escapedLen_stdEncode, framedLen]
  omega

/-- Of the input that the gateway admits the Connector admits exactly what stays within the
curve when a frame counts at least 512 bytes. Of the output that the Connector admits the
gateway admits exactly what stays within the curve when a chunk counts as its frame. -/
theorem limits_agree_iff (rates : Rates) (start : ℚ) (input : Stream Bytes start)
    (output : Stream Chunk start) :
    (gatewayAdmitsInput rates input = true →
      (connectorAdmitsInput rates input = true ↔
        WithinCurve (rates.inputBytesPerSecond : ℚ) (rates.inputBytesPerSecond * 2)
          (charged paddedLen input.arrivals))) ∧
    (connectorAdmitsOutput rates output = true →
      (gatewayAdmitsOutput rates output = true ↔
        WithinCurve (rates.outputBytesPerSecond : ℚ) (rates.outputBytesPerSecond * 2)
          (charged framedLen output.arrivals))) := by
  have padded : connectorInputCharge = fun body => (paddedLen body : Int) :=
    funext connectorInputCharge_eq
  have framed : gatewayOutputCharge = fun chunk => (framedLen chunk : Int) :=
    funext gatewayOutputCharge_eq
  constructor
  · intro _
    rw [connectorAdmitsInput, padded]
    exact admits_iff_withinCurve paddedLen rates.inputBytesPerSecond input
  · intro _
    rw [gatewayAdmitsOutput, framed]
    exact admits_iff_withinCurve framedLen rates.outputBytesPerSecond output

/-- Messages that all arrive when the session starts. -/
def atOnce {α : Type} (count : Nat) (message : α) : Stream α 0 where
  arrivals := List.replicate count (0, message)
  forward := by
    rw [List.map_replicate, ← List.replicate_succ]
    exact List.pairwise_replicate.mpr (.inr le_rfl)

theorem atOnce_admitted_iff {α : Type} (charge : α → Nat) (rate count : Nat) (message : α)
    (some' : 0 < count) :
    (newRateLimiter rate (rate * 2) 0).admits (fun message => charge message)
        (atOnce count message).arrivals = true ↔
      count * charge message ≤ rate * 2 := by
  rw [admits_iff_withinCurve, charged, atOnce, List.map_replicate,
    withinCurve_replicate (Nat.cast_nonneg _) some']
  exact_mod_cast Iff.rfl

/-- The frame of one key press. -/
def keyPress : Bytes := bytes (inputJson [97]).encode

def fullChunk : Chunk :=
  ⟨List.replicate 16384 0, List.ne_nil_of_length_pos (by rw [List.length_replicate]; decide)⟩

theorem keyPress_length : keyPress.length = 30 := by decide +kernel

theorem keyPresses_admitted (count : Nat) (some' : 0 < count) (few : count * 30 ≤ 131072) :
    gatewayAdmitsInput defaultRates (atOnce count keyPress) = true := by
  refine (atOnce_admitted_iff List.length (64 * 2 ^ 10) count keyPress some').mpr ?_
  rwa [keyPress_length]

theorem fullChunk_length : fullChunk.val.length = 16384 := List.length_replicate

theorem fullChunks_admitted (count : Nat) (some' : 0 < count) (few : count * 16384 ≤ 524288) :
    connectorAdmitsOutput defaultRates (atOnce count fullChunk) = true := by
  refine (atOnce_admitted_iff (fun chunk : Chunk => chunk.val.length) (256 * 2 ^ 10) count
    fullChunk some').mpr ?_
  rwa [fullChunk_length]

theorem limits_differ :
    (¬ ∀ (start : ℚ) (input : Stream Bytes start),
      gatewayAdmitsInput defaultRates input = true →
        connectorAdmitsInput defaultRates input = true) ∧
    ¬ ∀ (start : ℚ) (output : Stream Chunk start),
      connectorAdmitsOutput defaultRates output = true →
        gatewayAdmitsOutput defaultRates output = true := by
  constructor
  · intro always
    have passed := always 0 _ (keyPresses_admitted 257 (by decide) (by decide))
    rw [connectorAdmitsInput, funext connectorInputCharge_eq] at passed
    have bounded := (atOnce_admitted_iff paddedLen (64 * 2 ^ 10) 257 keyPress (by decide)).mp passed
    rw [paddedLen, keyPress_length] at bounded
    exact absurd bounded (by decide)
  · intro always
    have passed := always 0 _ (fullChunks_admitted 32 (by decide) (by decide))
    rw [gatewayAdmitsOutput, funext gatewayOutputCharge_eq] at passed
    have bounded :=
      (atOnce_admitted_iff framedLen (256 * 2 ^ 10) 32 fullChunk (by decide)).mp passed
    rw [framedLen, fullChunk_length] at bounded
    exact absurd bounded (by decide)

theorem keyPresses_agree :
    connectorAdmitsInput defaultRates (atOnce 256 keyPress) = true ∧
      gatewayAdmitsOutput defaultRates (atOnce 23 fullChunk) = true := by
  obtain ⟨input, output⟩ :=
    limits_agree_iff defaultRates 0 (atOnce 256 keyPress) (atOnce 23 fullChunk)
  constructor
  · refine (input (keyPresses_admitted 256 (by decide) (by decide))).mpr ?_
    rw [charged, atOnce, List.map_replicate,
      withinCurve_replicate (Nat.cast_nonneg _) (by decide), paddedLen, keyPress_length]
    norm_num [defaultRates]
  · refine (output (fullChunks_admitted 23 (by decide) (by decide))).mpr ?_
    rw [charged, atOnce, List.map_replicate,
      withinCurve_replicate (Nat.cast_nonneg _) (by decide), framedLen, fullChunk_length]
    norm_num [defaultRates, base64Len]

end VpsManager.Terminal
