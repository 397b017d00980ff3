import AiGateway.Proxy.Stream

/-!
# The usage observer

The observer reads the bytes the client is sent.  `parse` is the JSON reader and
`countTokens` the tokenizer; both are libraries to the gateway.
-/

namespace AiGateway.Stream

set_option autoImplicit false

open AiGateway.Json AiGateway.Text AiGateway.Usage

def maxEstimateBytes : Nat := 256 * 1024

structure ThinkingEstimate where
  pending : Bytes := []
  inside : Bool := false
  unavailable : Bool := false
  tokens : Int := 0
  processedBytes : Nat := 0
  deriving DecidableEq, Repr

def endsWith (bytes suffix : Bytes) : Bool := suffix.isSuffixOf bytes

def saturatingAddI64 (a b : Int) : Int := max (-2 ^ 63) (min (2 ^ 63 - 1) (a + b))

namespace ThinkingEstimate

def openTag : Bytes := utf8 "<think>"
def closeTag : Bytes := utf8 "</think>"

section

variable (countTokens : String → Nat)

def feedByte (e : ThinkingEstimate) (b : UInt8) : ThinkingEstimate :=
  if e.unavailable then e
  else
    let pending := e.pending ++ [b]
    if e.inside then
      let processed := e.processedBytes + 1
      if maxEstimateBytes < processed then
        { e with unavailable := true, pending := [], processedBytes := processed }
      else if endsWith pending closeTag then
        let block := pending.take (pending.length - closeTag.length)
        { e with
          pending := []
          inside := false
          processedBytes := processed
          tokens := saturatingAddI64 e.tokens (countTokens (fromUtf8Lossy block)) }
      else if maxEstimateBytes ≤ pending.length then
        { e with unavailable := true, pending := [], processedBytes := processed }
      else { e with pending, processedBytes := processed }
    else if endsWith pending openTag then { e with pending := [], inside := true }
    else if openTag.length ≤ pending.length then { e with pending := pending.drop 1 }
    else { e with pending }

def feed (e : ThinkingEstimate) (bytes : Bytes) : ThinkingEstimate :=
  bytes.foldl (feedByte countTokens) e

end

def result (e : ThinkingEstimate) : Option Int :=
  if !e.unavailable && !e.inside then some e.tokens else none

end ThinkingEstimate

structure StreamObservation where
  captured : Bytes
  captureTruncated : Bool
  parsedUsage : Option UsageReport
  estimatedReasoningTokens : Option Int
  responseModel : Option String
  responseReasoningEffort : Option String
  ttftMs : Option Int
  failed : Bool
  termination : StreamTermination
  deriving DecidableEq, Repr

/-- `reported` holds what the callback was called with; the callback is present as
long as it is empty. -/
structure ObservationGuard where
  reported : Option StreamObservation := none
  thinking : ThinkingEstimate := {}
  captured : Bytes := []
  streamedBytes : Nat := 0
  captureTruncated : Bool := false
  ttftMs : Option Int := none
  termination : Option StreamTermination := none
  tracker : SseEventTracker := {}

def hasProviderBytes (bytes : Bytes) : Bool :=
  if bytes.isEmpty then false
  else
    let text := fromUtf8Lossy bytes
    (lines text).any (fun line =>
      let line := trim line
      !line.isEmpty && !startsWith line ":") ||
      (!text.toList.contains '\n' && !(trim text).isEmpty)

/-- What a poll of the observed body gives.  `elapsedMs` is the clock since the
request started; `drop` is the body dropped by its reader. -/
inductive BodyEvent where
  | chunk (bytes : Bytes) (elapsedMs : Int)
  | error
  | eof
  | drop

namespace ObservationGuard

variable (parse : String → Option Value) (countTokens : String → Nat)

/-- One piece of a chunk, up to and including a line feed. -/
def capture (g : ObservationGuard) (piece : Bytes) : ObservationGuard :=
  let remaining := maxEstimateBytes - g.captured.length
  { g with
    thinking := g.thinking.feed countTokens piece
    streamedBytes := min (2 ^ 64 - 1) (g.streamedBytes + piece.length)
    captureTruncated := g.captureTruncated || decide (remaining < piece.length)
    captured := g.captured ++ piece.take (min piece.length remaining) }

def capturePieces (g : ObservationGuard) : List Bytes → ObservationGuard × Bool
  | [] => (g, false)
  | piece :: rest =>
    if isGatewayHeartbeat piece then capturePieces g rest
    else
      let r := capturePieces (g.capture countTokens piece) rest
      (r.1, hasProviderBytes piece || r.2)

/-- The captured octets are beside what the guard settles with. -/
theorem capturePieces_keeps (g : ObservationGuard) (pieces : List Bytes) :
    (g.capturePieces countTokens pieces).1.reported = g.reported ∧
      (g.capturePieces countTokens pieces).1.tracker = g.tracker ∧
      (g.capturePieces countTokens pieces).1.termination = g.termination := by
  induction pieces generalizing g with
  | nil => exact ⟨rfl, rfl, rfl⟩
  | cons piece rest ih =>
    unfold capturePieces
    split
    · exact ih g
    · exact ih (g.capture countTokens piece)

def noteTermination (current : Option StreamTermination) (a : SseActivity) :
    Option StreamTermination :=
  if a.error then some ((a.terminal.filter StreamTermination.isFailure).getD .upstreamError)
  else
    match a.terminal with
    | some terminal => some terminal
    | none => current

def observe (g : ObservationGuard) (chunk : Bytes) (elapsedMs : Int) : ObservationGuard :=
  let fed := g.tracker.feed parse chunk
  let r := capturePieces countTokens { g with tracker := fed.1 } (splitInclusive lf chunk)
  { r.1 with
    ttftMs :=
      if g.ttftMs.isNone && !(fed.2.error && !fed.2.providerEvent) && r.2 then some elapsedMs
      else g.ttftMs
    termination := noteTermination g.termination fed.2 }

theorem observe_reported (g : ObservationGuard) (bytes : Bytes) (elapsedMs : Int) :
    (g.observe parse countTokens bytes elapsedMs).reported = g.reported :=
  (capturePieces_keeps countTokens { g with tracker := (g.tracker.feed parse bytes).1 } _).1

theorem observe_tracker (g : ObservationGuard) (bytes : Bytes) (elapsedMs : Int) :
    (g.observe parse countTokens bytes elapsedMs).tracker = (g.tracker.feed parse bytes).1 :=
  (capturePieces_keeps countTokens { g with tracker := (g.tracker.feed parse bytes).1 } _).2.1

def complete (g : ObservationGuard) (termination : StreamTermination) : ObservationGuard :=
  if g.reported.isSome then g
  else
    let termination := g.termination.getD termination
    { g with
      termination := some termination
      captured := []
      reported := some
        { captured := g.captured
          captureTruncated := g.captureTruncated
          parsedUsage := g.tracker.usage.report
          estimatedReasoningTokens := g.thinking.result
          responseModel := g.tracker.responseIdentity.model
          responseReasoningEffort := g.tracker.responseIdentity.reasoningEffort
          ttftMs := g.ttftMs
          failed := termination.isFailure
          termination } }

/-- The termination an ended body is settled with, unless one was noted before. -/
def eofTermination (t : SseEventTracker) (a : SseActivity) : StreamTermination :=
  if a.error then a.terminal.getD .upstreamError
  else if t.sawProviderEvent then
    t.terminal.getD (if t.sawSseFrame then .incompleteStream else .completed)
  else .emptyStream

/-- One poll of `observe_stream_body`. -/
def step (g : ObservationGuard) : BodyEvent → ObservationGuard
  | .chunk bytes elapsedMs => g.observe parse countTokens bytes elapsedMs
  | .error => g.complete .transportError
  | .eof =>
    let fin := g.tracker.finishEof parse
    { g with tracker := fin.1 }.complete (eofTermination fin.1 fin.2)
  | .drop => g.complete .clientCancelled

def run (g : ObservationGuard) (events : List BodyEvent) : ObservationGuard :=
  events.foldl (step parse countTokens) g

end ObservationGuard

end AiGateway.Stream
