import AiGateway.Base.HeaderMap
import AiGateway.Domain.Config
import AiGateway.Infra.Redaction
import AiGateway.Infra.SourceUrl
import AiGateway.Proxy.Policy
import AiGateway.Proxy.UsageSafety

/-!
# Forwarding one request

The HTTP client is outside: what it makes of an address and of a request are functions,
and `Moments` says when its answers came.
-/

namespace AiGateway.Proxy

set_option autoImplicit false

open AiGateway.Json AiGateway.Text AiGateway.Usage AiGateway.Config AiGateway.SourceUrl
open AiGateway.Stream (StreamConfig StreamTermination UpstreamItem Tick Session Instant Duration)

/-- Names are in lower case. -/
abbrev HeaderMap := List (String × Bytes)

structure OutgoingRequest where
  url : String
  headers : HeaderMap
  body : Bytes
  deriving DecidableEq

/-- An answer of the upstream; the body is what its stream gives. -/
structure HttpResponse where
  status : StatusCode
  headers : HeaderMap
  body : List UpstreamItem
  validStatus : 100 ≤ status ∧ status < 1000

inductive HttpError where
  | policyViolation
  | timeout
  | other
  deriving DecidableEq, Repr

structure SourceHttpClient where
  post : String → Except SourceUrlPolicyError Unit
  send : OutgoingRequest → Except HttpError HttpResponse

/-- The clock when the request goes out, when the head of the answer is there, when its
whole body is, and when a live body is wrapped. -/
structure Moments where
  sending : Instant
  answered : Instant
  buffered : Instant
  connected : Instant
  instantMax : Instant

def Moments.checkedAdd (moments : Moments) (start : Instant) (d : Duration) : Option Instant :=
  if start + d ≤ moments.instantMax then some (start + d) else none

def mapReqwestError : HttpError → TransportError
  | .policyViolation => .sourceUrlBlocked
  | .timeout => .timeout .connectionTimeout
  | .other => .request

/-- `StatusCode::from_u16`. -/
def statusFromU16 (status : Nat) : Option StatusCode :=
  if 100 ≤ status ∧ status < 1000 then some status else none

def totalDeadline (moments : Moments) (requestStarted : Instant) (config : StreamConfig) :
    Option Instant :=
  if config.totalTimeout = 0 then none else moments.checkedAdd requestStarted config.totalTimeout

def earliestSendTimeout (moments : Moments) (requestStarted : Instant) (config : StreamConfig) :
    Option (Duration × StreamTermination) :=
  let now := moments.sending
  let total := totalDeadline moments requestStarted config
  let connection :=
    if config.connectionTimeout = 0 then none
    else moments.checkedAdd now config.connectionTimeout
  match total, connection with
  | none, none => none
  | some deadline, none => some (deadline - now, .totalTimeout)
  | none, some deadline => some (deadline - now, .connectionTimeout)
  | some total, some connection =>
    if total ≤ connection then some (total - now, .totalTimeout)
    else some (connection - now, .connectionTimeout)

def isStreaming (payload : Option Value) : Bool :=
  match payload.bind (Value.get · "stream") with
  | some (.bool b) => b
  | _ => false

/-- Headers of the request that do not reach the upstream. -/
def isOwnRequestHeader (name : String) : Bool :=
  name ∈ ["host", "content-length", "authorization", "x-api-key", "accept-encoding"]

/-- Headers of the answer that do not reach the client. -/
def isConnectionHeader (name : String) : Bool :=
  name ∈ ["connection", "keep-alive", "transfer-encoding", "content-length"]

def credentialHeader (protocol : Protocol) (credential : String) : String × Bytes :=
  if protocol = .anthropicMessages then ("x-api-key", utf8 credential)
  else ("authorization", utf8 ("Bearer " ++ credential))

def outgoingRequest (url : String) (account : AccountConfig) (credential : Option String)
    (protocol : Protocol) (requestHeaders : HeaderMap) (body : Bytes) : OutgoingRequest where
  url
  headers := requestHeaders.filter (!isOwnRequestHeader ·.1) ++
    ((credential.orElse fun _ => account.credential).map (credentialHeader protocol)).toList
  body

def responseHeaders (upstreamHeaders : HeaderMap) : HeaderMap :=
  Http.insertAll [] (upstreamHeaders.filter (!isConnectionHeader ·.1))

def isEventStream (headers : HeaderMap) : Bool :=
  (headerText headers "content-type").any fun value =>
    Ops.contains (toAsciiLowercase value) "text/event-stream"

/-- A whole body, unless its stream fails. -/
def collectBytes : List UpstreamItem → Except HttpError Bytes
  | [] => .ok []
  | .error :: _ => .error .other
  | .chunk bytes :: rest => (collectBytes rest).map (bytes ++ ·)

inductive ForwardedBody where
  | buffered (bytes : Bytes)
  | live (session : Session)

/-- What is handed to the client; the usage and the identity go to the accounting. -/
structure ForwardedResponse where
  status : StatusCode
  headers : HeaderMap
  body : ForwardedBody
  usage : Option UsageReport := none
  identity : Option ResponseIdentity := none

section Forward

variable (parse : Bytes → Option Value) (countTokens : String → Nat)
  (client : SourceHttpClient) (moments : Moments)

/-- The request goes out within the earlier of two limits. -/
def sendRequest (request : OutgoingRequest) (config : StreamConfig) (requestStarted : Instant) :
    Except TransportError HttpResponse :=
  match earliestSendTimeout moments requestStarted config with
  | none => (client.send request).mapError mapReqwestError
  | some (duration, termination) =>
    if duration = 0 then .error (.timeout termination)
    else if moments.answered ≤ moments.sending + duration then
      (client.send request).mapError mapReqwestError
    else .error (.timeout termination)

def bufferBody (body : List UpstreamItem) (config : StreamConfig) (requestStarted : Instant) :
    Except TransportError Bytes :=
  match totalDeadline moments requestStarted config with
  | none => (collectBytes body).mapError mapReqwestError
  | some deadline =>
    if moments.buffered ≤ deadline then (collectBytes body).mapError mapReqwestError
    else .error (.timeout .totalTimeout)

/-- The format of the answer plays no part: the request decides whether the body is
buffered or wrapped as a stream. -/
def forwardUrlWithConfig (ticks : List Tick) (url : String) (account : AccountConfig)
    (credential : Option String) (protocol : Protocol) (requestHeaders : HeaderMap) (body : Bytes)
    (config : StreamConfig) (requestStarted : Instant) :
    Except TransportError ForwardedResponse := do
  (client.post url).mapError fun _ => .sourceUrlBlocked
  let upstream ← sendRequest client moments
    (outgoingRequest url account credential protocol requestHeaders body) config requestStarted
  let status := (statusFromU16 upstream.status).getD 502
  let headers := responseHeaders upstream.headers
  if !isStreaming (parse body) then
    let bytes ← bufferBody moments upstream.body config requestStarted
    let observed := observeJsonResponse countTokens (isSuccess status) body bytes (parse bytes)
    pure { status, headers, body := .buffered bytes, usage := some observed.1,
           identity := some observed.2 }
  else
    let session := Session.wrapNativeBody upstream.body protocol config requestStarted
      moments.connected moments.instantMax ticks
    pure { status, headers, body := .live session }

end Forward

end AiGateway.Proxy
