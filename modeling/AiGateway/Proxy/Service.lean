import AiGateway.Proxy.Fallback

/-!
# Serving one request

The two candidate policies, the attempts they make and the usage record each
request leaves.  `World` counts the moments passed and keeps every attempt in
the order in which it was made.
-/

namespace AiGateway.Proxy

set_option autoImplicit false

open AiGateway.Config AiGateway.Routing AiGateway.Health AiGateway.Json AiGateway.Text

/-- The response handed to the client: the one an attempt received, named by the
attempt's position, or one the gateway built. -/
inductive ClientResponse where
  | upstream (attempt : Nat) (response : UpstreamResponse)
  | gateway (status : StatusCode) (code message : String)

namespace ClientResponse

def status : ClientResponse → StatusCode
  | .upstream _ response => response.status
  | .gateway status _ _ => status

def usage : ClientResponse → Option Usage.UsageReport
  | .upstream _ response => response.usage
  | .gateway _ _ _ => none

def identity : ClientResponse → Usage.ResponseIdentity
  | .upstream _ response => response.identity
  | .gateway _ _ _ => {}

end ClientResponse

structure UsageAttempt where
  attemptNo : Nat
  providerId : String
  sourceId : String
  accountId : String
  upstreamModelId : Option String
  statusCode : Nat
  success : Bool
  latencyMs : Nat
  deriving DecidableEq

structure PreparedModelRequest where
  body : Bytes
  upstreamModelId : String

/-- Replaces the top-level model.  A request for the same model, or one that is
not an object, keeps its octets and its recorded model. -/
def prepareModelRequest (parse : Bytes → Option Value) (body : Bytes)
    (requestedModel upstreamModelId : String) : PreparedModelRequest :=
  if upstreamModelId = requestedModel then ⟨body, requestedModel⟩
  else
    match parse body with
    | some (.object fields) =>
      ⟨utf8 (render (.object (Fields.insert fields "model" (.string upstreamModelId)))),
        upstreamModelId⟩
    | _ => ⟨body, requestedModel⟩

/-- A request as the candidate policies receive it: its body has been read as
JSON and names its model. -/
structure AttemptContext where
  parse : Bytes → Option Value
  parseDate : String → Option DateTime
  body : Bytes
  payload : Value
  model : String
  protocol : Protocol
  requestId : String
  virtualKeyId : Option Int
  clientSource : String
  isStreamed : Bool
  totalTimeout : Stream.Duration
  parsed : parse body = some payload
  named : payload.get "model" = some (.string model)

structure AttemptResult where
  result : Except TransportError ClientResponse
  usage : UsageAttempt
  requestBody : Bytes

/-- An attempt that was made. -/
structure Attempted where
  candidate : FallbackCandidate
  isFallback : Bool
  startedAt : Stream.Duration
  result : Except TransportError UpstreamResponse
  usage : UsageAttempt

structure World where
  moment : Moment := 0
  log : List Attempted := []

def World.at (w : World) (n : Moment) : World := { w with moment := n }

section Attempt

variable (env : Env) (context : AttemptContext)

def execute (candidate : FallbackCandidate) (attemptNo : Nat) (isFallback : Bool) (w : World) :
    AttemptResult × World :=
  let prepared :=
    prepareModelRequest context.parse context.body context.model candidate.upstreamModel
  let answer := env.forward w.moment candidate prepared.body
  let (statusCode, success) : Nat × Bool :=
    match answer with
    | .ok response => (response.status, isSuccess response.status)
    | .error error => (error.statusCode, false)
  let usage : UsageAttempt :=
    { attemptNo := attemptNo
      providerId := candidate.providerId
      sourceId := candidate.sourceId
      accountId := candidate.account.id
      upstreamModelId := some prepared.upstreamModelId
      statusCode := statusCode
      success := success
      latencyMs := env.elapsed (w.moment + 1) - env.elapsed w.moment }
  ({ result := answer.map (.upstream w.log.length)
     usage := usage
     requestBody := prepared.body },
    { moment := w.moment + 1
      log := w.log ++ [⟨candidate, isFallback, env.elapsed w.moment, answer, usage⟩] })

end Attempt

/-- The upstream a request is accounted to. -/
structure FinalUpstream where
  providerId : String
  sourceId : String
  accountId : String
  upstreamModelId : String
  protocol : Protocol
  mode : String
  degraded : Bool
  deriving DecidableEq

namespace FinalUpstream

def route (route : ResolvedRoute) : FinalUpstream where
  providerId := route.providerId
  sourceId := route.sourceId
  accountId := route.primaryAccountId
  upstreamModelId := route.upstreamModelId
  protocol := route.protocolUpstream
  mode := route.mode
  degraded := route.isDegraded

def candidate (candidate : FallbackCandidate) : FinalUpstream where
  providerId := candidate.providerId
  sourceId := candidate.sourceId
  accountId := candidate.account.id
  upstreamModelId := candidate.upstreamModel
  protocol := candidate.protocolUpstream
  mode := candidate.mode
  degraded := !candidate.degradedFeatures.isEmpty

end FinalUpstream

structure UsageEvent where
  requestId : String
  virtualKeyId : Option Int
  providerId : String
  accountId : String
  model : String
  logicalModel : String
  upstreamModelId : Option String
  sourceId : String
  clientSource : String
  protocolIn : String
  protocolUpstream : String
  mode : String
  statusCode : Nat
  success : Bool
  retryCount : Nat
  latencyMs : Nat
  ttftMs : Option Nat
  inputTokens : Int
  outputTokens : Int
  reasoningTokens : Int
  cachedTokens : Int
  cacheReadTokens : Int
  cacheCreationTokens : Int
  totalTokens : Int
  usageSource : String
  degraded : Bool
  routeId : Option String
  streamed : Bool
  errorSummary : Option String
  fallbackReason : Option String
  responseModel : Option String
  requestedReasoningEffort : Option String
  responseReasoningEffort : Option String

def requestedReasoningEffort (parse : Bytes → Option Value) (body : Bytes) : Option String :=
  (parse body).bind fun value =>
    (Usage.nonEmptyString (value.get "reasoning_effort")).orElse fun _ =>
      (Usage.nonEmptyString ((value.get "reasoning").bind (Value.get · "effort"))).orElse fun _ =>
        Usage.nonEmptyString (value.get "effort")

/-- What the client receives and what is recorded about the request.  A request
refused before the policies have an account leaves no record. -/
structure Completion where
  response : ClientResponse
  event : Option UsageEvent
  attempts : List UsageAttempt
  world : World

section Completion

variable (env : Env) (context : AttemptContext) (route : ResolvedRoute)

def usageEvent (response : ClientResponse) (upstream : FinalUpstream)
    (attempts : List UsageAttempt) (requestBody : Bytes)
    (fallbackReason errorSummary : Option String) (w : World) : UsageEvent :=
  let usage := response.usage
  { requestId := context.requestId
    virtualKeyId := context.virtualKeyId
    providerId := upstream.providerId
    accountId := upstream.accountId
    model := context.model
    logicalModel := context.model
    upstreamModelId := some upstream.upstreamModelId
    sourceId := upstream.sourceId
    clientSource := context.clientSource
    protocolIn := context.protocol.toText
    protocolUpstream := upstream.protocol.toText
    mode := upstream.mode
    statusCode := response.status
    success := isSuccess response.status
    retryCount := attempts.length - 1
    latencyMs := env.elapsed w.moment
    ttftMs := none
    inputTokens := (usage.map (·.inputTokens)).getD 0
    outputTokens := (usage.map (·.outputTokens)).getD 0
    reasoningTokens := (usage.map (·.reasoningTokens)).getD 0
    cachedTokens := (usage.map (·.cachedTokens)).getD 0
    cacheReadTokens := (usage.map (·.cacheReadTokens)).getD 0
    cacheCreationTokens := (usage.map (·.cacheCreationTokens)).getD 0
    totalTokens := (usage.map (·.totalTokens)).getD 0
    usageSource := (usage.map (·.source)).getD "missing"
    degraded := upstream.degraded
    routeId := some route.routeId
    streamed := context.isStreamed
    errorSummary := errorSummary.orElse fun _ =>
      if isSuccess response.status then none else some ("HTTP " ++ toString response.status)
    fallbackReason := fallbackReason
    responseModel := response.identity.model
    requestedReasoningEffort := requestedReasoningEffort context.parse requestBody
    responseReasoningEffort := response.identity.reasoningEffort }

def finish (response : ClientResponse) (upstream : FinalUpstream) (attempts : List UsageAttempt)
    (requestBody : Bytes) (fallbackReason errorSummary : Option String) (w : World) :
    Completion where
  response := response
  event := some (usageEvent env context route response upstream attempts requestBody
    fallbackReason errorSummary w)
  attempts := attempts
  world := w

end Completion

/-- The gateway's answer to a failed attempt. -/
def transportResponse (code : String) (error : TransportError) : ClientResponse :=
  .gateway (transportErrorStatus error) code error.message

def upstreamRequestFailed (error : TransportError) : ClientResponse :=
  transportResponse "upstream_request_failed" error

def responseOr (result : Except TransportError ClientResponse)
    (onError : TransportError → ClientResponse) : ClientResponse :=
  match result with
  | .ok response => response
  | .error error => onError error

section Policies

variable (env : Env) (config : GatewayConfig) (context : AttemptContext) (route : ResolvedRoute)

def unavailableResponse (account : AccountConfig) : ClientResponse :=
  .gateway 503 (if account.enabled then "account_cooling_down" else "account_disabled")
    "primary account is unavailable and no fallback succeeded"

/-- The primary cannot be tried: one fallback, or an error. -/
def weightedWithoutPrimary (account : AccountConfig) (reason : String) (w : World) : Completion :=
  let selected := selectFallbackCandidate env config route context.model context.protocol w.moment
  match selected.1 with
  | none =>
    finish env context route (unavailableResponse account) (.route route) [] context.body
      (some reason) none (w.at selected.2)
  | some candidate =>
    let attempted := execute env context candidate 0 true (w.at selected.2)
    let response := responseOr attempted.1.result fun error =>
      if error.isTimeout then upstreamRequestFailed error else unavailableResponse account
    finish env context route response (.candidate candidate) [attempted.1.usage]
      attempted.1.requestBody (some reason) none attempted.2

/-- How the attempts on an available primary end. -/
structure WeightedEnd where
  response : ClientResponse
  finalCandidate : FallbackCandidate
  attempts : List UsageAttempt
  fallbackReason : Option String
  world : World

/-- A delay worth waiting for before the primary is asked again. -/
def sameAccountRetry (answer : UpstreamResponse) (n : Moment) : Option Health.Duration :=
  if answer.status = 429 then retryAfterDelay context.parseDate (env.now n) answer.headers else none

/-- The primary answered with a retryable status.  A short `Retry-After` is
waited for when nothing else is available; otherwise one fallback is tried, and
the primary's answer is kept if that attempt fails in transport. -/
def weightedAfterAnswer (primary : FallbackCandidate) (attempt : Nat) (answer : UpstreamResponse)
    (first : UsageAttempt) (w : World) : WeightedEnd :=
  let reason := some ("upstream_http_" ++ toString answer.status)
  let available := selectFallbackCandidate env config route context.model context.protocol w.moment
  if (sameAccountRetry env context answer w.moment).isSome ∧ available.1.isNone then
    let retried := execute env context primary 1 false (w.at available.2)
    { response := responseOr retried.1.result upstreamRequestFailed
      finalCandidate := primary
      attempts := [first, retried.1.usage]
      fallbackReason := reason
      world := retried.2 }
  else
    let selected :=
      selectFallbackCandidate env config route context.model context.protocol available.2
    match selected.1 with
    | some fallback =>
      let attempted := execute env context fallback 1 true (w.at selected.2)
      { response := responseOr attempted.1.result fun _ => .upstream attempt answer
        finalCandidate := fallback
        attempts := [first, attempted.1.usage]
        fallbackReason := reason
        world := attempted.2 }
    | none =>
      { response := .upstream attempt answer
        finalCandidate := primary
        attempts := [first]
        fallbackReason := reason
        world := w.at selected.2 }

/-- The attempt on the primary failed in transport. -/
def weightedAfterError (primary : FallbackCandidate) (error : TransportError)
    (first : UsageAttempt) (w : World) : WeightedEnd :=
  let reason := some "upstream_transport_error"
  let selected := selectFallbackCandidate env config route context.model context.protocol w.moment
  match selected.1 with
  | some fallback =>
    let attempted := execute env context fallback 1 true (w.at selected.2)
    { response := responseOr attempted.1.result upstreamRequestFailed
      finalCandidate := fallback
      attempts := [first, attempted.1.usage]
      fallbackReason := reason
      world := attempted.2 }
  | none =>
    { response := upstreamRequestFailed error
      finalCandidate := primary
      attempts := [first]
      fallbackReason := reason
      world := w.at selected.2 }

def weightedWithPrimary (primary : FallbackCandidate) (w : World) : WeightedEnd :=
  let attempted := execute env context primary 0 false w
  match attempted.1.result with
  | .ok (.upstream attempt response) =>
    if isRetryable response.status then
      weightedAfterAnswer env config context route primary attempt response attempted.1.usage
        attempted.2
    else ⟨.upstream attempt response, primary, [attempted.1.usage], none, attempted.2⟩
  | .ok response => ⟨response, primary, [attempted.1.usage], none, attempted.2⟩
  | .error error =>
    weightedAfterError env config context route primary error attempted.1.usage attempted.2

def proxyWeighted (w : World) : Completion :=
  match config.provider route.sourceId with
  | none =>
    ⟨.gateway 502 "provider_not_found" "route references an unknown provider", none, [], w⟩
  | some provider =>
    match config.account route.primaryAccountId with
    | none =>
      ⟨.gateway 502 "account_not_found" "route references an unknown account", none, [], w⟩
    | some account =>
      let health := env.health w.moment account.id
      let w := w.at (w.moment + 1)
      if !account.enabled then
        weightedWithoutPrimary env config context route account "account_disabled" w
      else if !health.available then
        weightedWithoutPrimary env config context route account (primaryUnavailableReason health) w
      else
        let ended := weightedWithPrimary env config context route
          (.primary route account provider context.model) w
        finish env context route ended.response (.candidate ended.finalCandidate) ended.attempts
          context.body (if 1 < ended.attempts.length then ended.fallbackReason else none) none
          ended.world

/-- The accumulators of the ordered loop. -/
structure OrderedState where
  attempts : List UsageAttempt := []
  lastResponse : Option ClientResponse := none
  finalCandidate : Option FallbackCandidate := none
  usageRequestBody : Bytes
  totalTimeout : Bool := false
  fallbackReason : Option String
  world : World

def isAccountReason (reason : Option String) : Bool :=
  reason.any fun text => startsWith text "account_"

/-- One attempt of the ordered loop; the flag says that the loop goes on. -/
def orderedAttempt (candidate : FallbackCandidate) (s : OrderedState) : OrderedState × Bool :=
  let isFallback := !s.attempts.isEmpty || isAccountReason s.fallbackReason
  let attempted := execute env context candidate s.attempts.length isFallback s.world
  let s :=
    { s with
      usageRequestBody := attempted.1.requestBody
      attempts := s.attempts ++ [attempted.1.usage]
      finalCandidate := some candidate
      world := attempted.2 }
  match attempted.1.result with
  | .ok response =>
    let retryable := isRetryable response.status
    let reason :=
      if retryable && s.fallbackReason.isNone then
        some ("upstream_http_" ++ toString response.status)
      else s.fallbackReason
    ({ s with lastResponse := some response, fallbackReason := reason }, retryable)
  | .error error =>
    let totalTimeout := error = .timeout .totalTimeout
    let code := if totalTimeout then "gateway_total_timeout" else "upstream_request_failed"
    ({ s with
       lastResponse := some (transportResponse code error)
       fallbackReason := s.fallbackReason.orElse fun _ => some "upstream_transport_error"
       totalTimeout := totalTimeout }, !totalTimeout)

/-- Lines that are unavailable when their turn comes are skipped and cost no
retry. -/
def orderedLoop (attemptLimit : Nat) : List FallbackCandidate → OrderedState → OrderedState
  | [], s => s
  | candidate :: rest, s =>
    if attemptLimit ≤ s.attempts.length then s
    else
      let available := (env.health s.world.moment candidate.account.id).available
      let s := { s with world := s.world.at (s.world.moment + 1) }
      if !available then orderedLoop attemptLimit rest s
      else if context.totalTimeout ≠ 0 ∧ context.totalTimeout ≤ env.elapsed s.world.moment then
        { s with
          totalTimeout := true
          lastResponse := some (.gateway 504 "gateway_total_timeout"
            Stream.StreamTermination.totalTimeout.message)
          world := s.world.at (s.world.moment + 1) }
      else
        let attempted := orderedAttempt env context candidate
          { s with world := s.world.at (s.world.moment + 1) }
        if attempted.2 then orderedLoop attemptLimit rest attempted.1 else attempted.1

def maxUsize : Nat := 2 ^ 64 - 1

/-- `value as usize + 1` of a 32-bit retry allowance. -/
def attemptLimit (maxRetries : Option Int) : Nat :=
  match maxRetries with
  | some value => ((value % 2 ^ 64).toNat + 1) % 2 ^ 64
  | none => maxUsize

/-- The primary, when it can be tried, and the reason when it cannot. -/
def orderedPrimary (n : Moment) : List FallbackCandidate × Option String × Moment :=
  match config.account route.primaryAccountId, config.provider route.sourceId with
  | some account, some provider =>
    let health := env.health n account.id
    if account.enabled && health.available then
      ([.primary route account provider context.model], none, n + 1)
    else
      ([], some (if account.enabled then primaryUnavailableReason health else "account_disabled"),
        n + 1)
  | _, _ => ([], none, n)

def proxyOrdered (w : World) : Completion :=
  let primary := orderedPrimary env config context route w.moment
  let fallbacks := availableFallbackCandidates env config route context.model context.protocol
    primary.2.2
  let s := orderedLoop env context (attemptLimit route.maxRetries) (primary.1 ++ fallbacks.1)
    { usageRequestBody := context.body
      fallbackReason := primary.2.1
      world := w.at fallbacks.2 }
  let response := s.lastResponse.getD
    (.gateway 503 "route_unavailable" "no upstream line is currently available")
  let upstream := (s.finalCandidate.map FinalUpstream.candidate).getD (.route route)
  let fallbackReason :=
    if 1 < s.attempts.length || isAccountReason s.fallbackReason then s.fallbackReason else none
  finish env context route response upstream s.attempts s.usageRequestBody fallbackReason
    (if s.totalTimeout then some "gateway_total_timeout" else none) s.world

/-- The policy the route asks for. -/
def proxyRoute (w : World) : Completion :=
  if route.strategy = "ordered_fallback" then proxyOrdered env config context route w
  else proxyWeighted env config context route w

end Policies

end AiGateway.Proxy
