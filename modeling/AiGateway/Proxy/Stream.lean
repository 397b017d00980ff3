import AiGateway.Domain.Protocol
import AiGateway.Proxy.Usage
import Mathlib.Data.Finset.Card

/-!
# Event tracking of a provider stream

The tracker reads a copy of the provider bytes to decide when an event has
arrived and how the stream ended.  `parse` stands for the JSON reader applied to
an event's data.
-/

namespace AiGateway.Stream

set_option autoImplicit false

open AiGateway.Json AiGateway.Text AiGateway.Usage

def heartbeatFrame : Bytes := utf8 ": gateway-heartbeat\n\n"
def heartbeatMarker : String := ": gateway-heartbeat"
def maxSseFrameBytes : Nat := 1024 * 1024
def maxTrackedChatChoices : Nat := 1024
def chatDoneFrame : Bytes := utf8 "data: [DONE]\n\n"

/-- Why a streaming response stopped. -/
inductive StreamTermination where
  | completed
  | emptyStream
  | upstreamError
  | transportError
  | incompleteStream
  | bufferLimitExceeded
  | clientCancelled
  | connectionTimeout
  | firstEventTimeout
  | idleTimeout
  | totalTimeout
  deriving DecidableEq, Repr

namespace StreamTermination

def isFailure (t : StreamTermination) : Bool := t != .completed

def code : StreamTermination → String
  | .completed => "completed"
  | .emptyStream => "gateway_empty_stream"
  | .upstreamError => "gateway_upstream_error"
  | .transportError => "gateway_transport_error"
  | .incompleteStream => "gateway_incomplete_stream"
  | .bufferLimitExceeded => "gateway_stream_buffer_limit"
  | .clientCancelled => "gateway_client_cancelled"
  | .connectionTimeout => "gateway_connection_timeout"
  | .firstEventTimeout => "gateway_first_event_timeout"
  | .idleTimeout => "gateway_idle_timeout"
  | .totalTimeout => "gateway_total_timeout"

def message : StreamTermination → String
  | .completed => "stream completed"
  | .emptyStream => "upstream stream ended without an event"
  | .upstreamError => "upstream stream failed"
  | .transportError => "upstream body transport failed"
  | .incompleteStream => "upstream stream ended without a terminal event"
  | .bufferLimitExceeded => "upstream stream exceeded observation limits"
  | .clientCancelled => "client disconnected while streaming"
  | .connectionTimeout => "timed out waiting for the upstream connection"
  | .firstEventTimeout => "timed out waiting for the first upstream event"
  | .idleTimeout => "upstream stream was idle for too long"
  | .totalTimeout => "upstream stream exceeded its total time limit"

def statusCode : StreamTermination → Nat
  | .completed => 200
  | .clientCancelled => 499
  | .connectionTimeout | .firstEventTimeout | .idleTimeout | .totalTimeout => 504
  | .emptyStream | .upstreamError | .transportError | .incompleteStream
  | .bufferLimitExceeded => 599

end StreamTermination

structure SseActivity where
  providerEvent : Bool := false
  terminal : Option StreamTermination := none
  error : Bool := false
  deriving DecidableEq, Repr

structure SseEventTracker where
  line : Bytes := []
  frameBytes : Nat := 0
  usage : SseUsageAccumulator := {}
  responseIdentity : ResponseIdentity := {}
  eventName : String := ""
  dataLines : List String := []
  frameNonComment : Bool := false
  sawProviderEvent : Bool := false
  sawSseFrame : Bool := false
  unfinishedChatChoices : Finset Nat := ∅
  sawChatFinish : Bool := false
  terminal : Option StreamTermination := none

/-- A failure outranks a success marker, and the first failure stays. -/
def mergeTerminal (current candidate : Option StreamTermination) : Option StreamTermination :=
  match candidate with
  | none => current
  | some candidate =>
    match current with
    | none => some candidate
    | some existing =>
      if existing = .completed ∧ candidate.isFailure then some candidate
      else if existing.isFailure ∧ candidate = .completed then some existing
      else if existing.isFailure then some existing
      else some candidate

/-- Whether a text is a gateway error code. -/
def isGatewayCode (code : String) : Bool := startsWith code "gateway_"

def codeAt (value : Option Value) : Option String :=
  (value.bind (Value.get · "code")).bind Value.asStr

def gatewayCode (value : Value) : Option String :=
  ((codeAt (some value)).filter isGatewayCode).orElse fun _ =>
    ((codeAt (value.get "error")).filter isGatewayCode).orElse fun _ =>
      (codeAt ((value.get "response").bind (Value.get · "error"))).filter isGatewayCode

def terminationOfCode (code : String) : StreamTermination :=
  if code = "gateway_empty_stream" then .emptyStream
  else if code = "gateway_transport_error" then .transportError
  else if code = "gateway_incomplete_stream" then .incompleteStream
  else if code = "gateway_stream_buffer_limit" then .bufferLimitExceeded
  else if code = "gateway_client_cancelled" then .clientCancelled
  else if code = "gateway_connection_timeout" then .connectionTimeout
  else if code = "gateway_first_event_timeout" then .firstEventTimeout
  else if code = "gateway_idle_timeout" then .idleTimeout
  else if code = "gateway_total_timeout" then .totalTimeout
  else .upstreamError

def looksLikeSseControl (bytes : Bytes) : Bool :=
  let text := trimStart (fromUtf8Lossy bytes)
  [":", "data:", "event:", "id:", "retry:"].any fun p => startsWith text p || startsWith p text

def isGatewayHeartbeat (bytes : Bytes) : Bool := trim (fromUtf8Lossy bytes) == heartbeatMarker

section Reader

variable (parse : String → Option Value)

def terminationFromCode (data : String) : Option StreamTermination :=
  let code :=
    if startsWith data "gateway_" then data
    else
      let parsed := parse data
      ((codeAt parsed).orElse fun _ =>
        (codeAt (parsed.bind (Value.get · "error"))).orElse fun _ =>
          codeAt ((parsed.bind (Value.get · "response")).bind (Value.get · "error"))).getD ""
  some (terminationOfCode code)

structure FrameClass where
  terminal : Option StreamTermination
  error : Bool
  gateway : Option StreamTermination
  deriving DecidableEq, Repr

def classifyFrame (eventName data : String) : FrameClass :=
  let eventName := toAsciiLowercase (trim eventName)
  if eventName = "gateway.error" then ⟨none, true, terminationFromCode parse data⟩
  else if trim data = "[DONE]" then ⟨some .completed, false, none⟩
  else if eventName = "message_stop" ∨ eventName = "response.completed" ∨
      eventName = "response.incomplete" ∨ eventName = "response.done" then
    ⟨some .completed, false, none⟩
  else
    let parsed := parse data
    match parsed.bind gatewayCode with
    | some code => ⟨none, true, terminationFromCode parse code⟩
    | none =>
      let typ := toAsciiLowercase (((parsed.bind (Value.get · "type")).bind Value.asStr).getD "")
      if typ = "gateway.error" ∨ startsWith typ "gateway_" then
        ⟨none, true, terminationFromCode parse data⟩
      else if typ = "response.completed" ∨ typ = "response.incomplete" ∨ typ = "response.done" then
        ⟨some .completed, false, none⟩
      else if eventName = "error" ∨ typ = "error" ∨ typ = "response.failed" ∨
          (parsed.bind (Value.get · "error")).isSome then
        ⟨none, true, none⟩
      else ⟨none, false, none⟩

namespace SseEventTracker

def limitExceeded (t : SseEventTracker) (a : SseActivity) : SseEventTracker × SseActivity :=
  ({ t with
      line := []
      dataLines := []
      eventName := ""
      unfinishedChatChoices := ∅
      terminal := some .bufferLimitExceeded },
    { a with terminal := some .bufferLimitExceeded, error := true })

def safeForHeartbeat (t : SseEventTracker) : Bool :=
  t.line.isEmpty && t.dataLines.isEmpty && t.eventName.isEmpty && !t.frameNonComment

def markCompletedAfterEof (t : SseEventTracker) : SseEventTracker :=
  { t with terminal := mergeTerminal t.terminal (some .completed) }

def choiceIndex (choice : Value) : Nat := ((choice.get "index").bind Value.asU64).getD 0

def choiceFinished (choice : Value) : Bool :=
  ((choice.get "finish_reason").bind Value.asStr).any (!·.isEmpty)

/-- The loop over `choices`; the flag says that the choice limit was hit. -/
def observeChoices (t : SseEventTracker) : List Value → SseEventTracker × Bool
  | [] => (t, false)
  | choice :: rest =>
    if choiceFinished choice then
      observeChoices { t with
        sawChatFinish := true
        unfinishedChatChoices := t.unfinishedChatChoices.erase (choiceIndex choice) } rest
    else if maxTrackedChatChoices ≤ t.unfinishedChatChoices.card ∧
        choiceIndex choice ∉ t.unfinishedChatChoices then
      (t, true)
    else
      observeChoices { t with
        unfinishedChatChoices := insert (choiceIndex choice) t.unfinishedChatChoices } rest

def choicesOf (parsed : Option Value) : List Value :=
  ((parsed.bind (Value.get · "choices")).bind Value.asArray).getD []

/-- The frame's buffers are taken and its payload is counted. -/
def takeFrame (t : SseEventTracker) (data : String) (parsed : Option Value) : SseEventTracker :=
  { t with
    eventName := ""
    dataLines := []
    frameNonComment := false
    usage := t.usage.observe data parsed
    responseIdentity :=
      match parsed with
      | some value => t.responseIdentity.observe value
      | none => t.responseIdentity }

/-- The last part of `dispatch`: what the frame's class means for the stream. -/
def applyClass (t : SseEventTracker) (a : SseActivity) (c : FrameClass) (content : Bool) :
    SseEventTracker × SseActivity :=
  if c.gateway.isSome then
    ({ t with terminal := mergeTerminal t.terminal c.gateway },
      { a with
        error := a.error || c.gateway.any StreamTermination.isFailure
        terminal := mergeTerminal a.terminal c.gateway })
  else if content then
    if c.error then
      ({ t with
          sawProviderEvent := true
          terminal := mergeTerminal t.terminal (some .upstreamError) },
        { providerEvent := true
          error := true
          terminal := mergeTerminal a.terminal (some .upstreamError) })
    else
      ({ t with sawProviderEvent := true, terminal := mergeTerminal t.terminal c.terminal },
        { a with providerEvent := true, terminal := mergeTerminal a.terminal c.terminal })
  else (t, a)

def dispatch (t : SseEventTracker) (a : SseActivity) : SseEventTracker × SseActivity :=
  if !t.frameNonComment && t.dataLines.isEmpty && t.eventName.isEmpty then (t, a)
  else
    let eventName := t.eventName
    let data := "\n".intercalate t.dataLines
    let frameNonComment := t.frameNonComment
    let parsed := parse data
    let (t, exceeded) := (t.takeFrame data parsed).observeChoices (choicesOf parsed)
    if exceeded then t.limitExceeded a
    else t.applyClass a (classifyFrame parse eventName data)
      (frameNonComment || !data.isEmpty || !eventName.isEmpty)

/-- One complete line of the open frame. -/
def readLine (t : SseEventTracker) (line : Bytes) : SseEventTracker :=
  if line.head? = some colon then t
  else
    let text := trim (fromUtf8Lossy line)
    match stripPrefix text "event:" with
    | some value => { t with sawSseFrame := true, eventName := trim value }
    | none =>
      match stripPrefix text "data:" with
      | some value => { t with sawSseFrame := true, dataLines := t.dataLines ++ [trim value] }
      | none =>
        if startsWith text "id:" || startsWith text "retry:" then { t with sawSseFrame := true }
        else { t with frameNonComment := true }

def processLine (t : SseEventTracker) (a : SseActivity) : SseEventTracker × SseActivity :=
  let line := t.line
  let t := { t with line := [] }
  if line.isEmpty then dispatch parse { t with frameBytes := 0 } a else (t.readLine line, a)

/-- A byte that is neither a line feed nor a carriage return. -/
def pushByte (t : SseEventTracker) (b : UInt8) : SseEventTracker :=
  { t with
    line := t.line ++ [b]
    frameNonComment := t.frameNonComment || (t.line.isEmpty && b != colon && b != space) }

/-- The loop of `feed` over the bytes of one chunk. -/
def feedBytes (t : SseEventTracker) (a : SseActivity) : Bytes → SseEventTracker × SseActivity
  | [] => (t, a)
  | b :: bs =>
    if maxSseFrameBytes ≤ t.frameBytes then t.limitExceeded a
    else
      let t := { t with frameBytes := t.frameBytes + 1 }
      if b = lf then
        let r := t.processLine parse a
        if r.1.terminal = some .bufferLimitExceeded then r else feedBytes r.1 r.2 bs
      else if b = cr then feedBytes t a bs
      else feedBytes (t.pushByte b) a bs

/-- A raw body is an event as soon as its first visible bytes arrive. -/
def rawEvent (t : SseEventTracker) (bytes : Bytes) : Bool :=
  t.line.isEmpty && t.dataLines.isEmpty && t.eventName.isEmpty && !bytes.isEmpty &&
    !looksLikeSseControl bytes && bytes.any (!isAsciiWhitespace ·)

def feed (t : SseEventTracker) (bytes : Bytes) : SseEventTracker × SseActivity :=
  if t.terminal = some .bufferLimitExceeded then (t, { error := true, terminal := t.terminal })
  else if t.rawEvent bytes then
    feedBytes parse { t with sawProviderEvent := true } { providerEvent := true } bytes
  else feedBytes parse t {} bytes

def finishEof (t : SseEventTracker) : SseEventTracker × SseActivity :=
  let r := if t.line.isEmpty then (t, {}) else t.processLine parse {}
  r.1.dispatch parse r.2

end SseEventTracker

end Reader

/-- The JSON payload of a gateway error frame. -/
def gatewayErrorPayload (protocol : Protocol) (termination : StreamTermination) : Value :=
  let code := Value.string termination.code
  let message := Value.string termination.message
  match protocol with
  | .openAiChatCompletions =>
    Value.ofFields
      [("error", Value.ofFields [("message", message), ("type", code), ("code", code)])]
  | .openAiResponses | .anthropicMessages =>
    Value.ofFields
      [("type", .string "error"),
        ("error", Value.ofFields [("type", code), ("code", code), ("message", message)])]

def gatewayErrorBody (protocol : Protocol) (termination : StreamTermination) : String :=
  render (gatewayErrorPayload protocol termination)

def gatewayErrorFrame (protocol : Protocol) (termination : StreamTermination) : Bytes :=
  let body := gatewayErrorBody protocol termination
  match protocol with
  | .openAiChatCompletions => utf8 ("data: " ++ body ++ "\n\ndata: [DONE]\n\n")
  | .openAiResponses | .anthropicMessages => utf8 ("event: error\ndata: " ++ body ++ "\n\n")

end AiGateway.Stream
