import AiGateway.Infra.Auth
import AiGateway.Infra.UsageQueries
import AiGateway.Infra.UsageWrites
import AiGateway.Proxy.OrderedRun
import AiGateway.Proxy.SettledOnce
import AiGateway.Proxy.Transport

/-!
# The rows that the proxy writes

Whichever policy served a request, and whether or not its answer is a stream, it is recorded
with its attempts numbered in their order, with the id of the key that let it in, and with
one of the names of the usage readings.
-/

namespace AiGateway.Proxy

set_option autoImplicit false

open AiGateway.Checked AiGateway.Config AiGateway.Json AiGateway.Reports AiGateway.Routing
  AiGateway.Stream AiGateway.Text AiGateway.Usage

/-! ## Streams -/

/-- What is noted of a stream that failed. -/
def errorSummary : StreamTermination → String
  | .upstreamError => "upstream stream error"
  | .transportError => "upstream body transport error"
  | .incompleteStream => "upstream stream ended without a terminal event"
  | .bufferLimitExceeded => "upstream stream observation limit exceeded"
  | .emptyStream => "upstream stream ended without an event"
  | .clientCancelled => "client disconnected"
  | .connectionTimeout => "upstream connection timeout"
  | .firstEventTimeout => "first event timeout"
  | .idleTimeout => "upstream idle timeout"
  | .totalTimeout => "stream total timeout"
  | .completed => ""

/-- The attempt whose answer the stream was has failed with it. -/
def failLast (termination : StreamTermination) : List UsageAttempt → List UsageAttempt
  | [] => []
  | [last] => [{ last with statusCode := termination.statusCode, success := false }]
  | first :: rest => first :: failLast termination rest

/-- The record of a request once its stream has ended. -/
def finalizeStreamUsage (countTokens : String → Nat) (event : UsageEvent)
    (attempts : List UsageAttempt) (requestBody : Bytes) (observation : StreamObservation) :
    UsageEvent × List UsageAttempt :=
  let event :=
    { event with
      -- A time since the start of the request: not negative.
      ttftMs := observation.ttftMs.map Int.toNat
      responseModel := observation.responseModel
      responseReasoningEffort := observation.responseReasoningEffort }
  let termination :=
    if observation.failed && !observation.termination.isFailure then .upstreamError
    else observation.termination
  let failed :=
    { event with
      statusCode := termination.statusCode
      success := false
      errorSummary := some (errorSummary termination) }
  let event := if termination.isFailure then failed else event
  let report := usageForStreamObservation countTokens event.success requestBody observation
  ({ event with
      inputTokens := report.inputTokens
      outputTokens := report.outputTokens
      reasoningTokens := report.reasoningTokens
      cachedTokens := report.cachedTokens
      cacheReadTokens := report.cacheReadTokens
      cacheCreationTokens := report.cacheCreationTokens
      totalTokens := report.totalTokens
      usageSource := report.source },
    if termination.isFailure then failLast termination attempts else attempts)

/-! ## The names of the readings -/

/-- A report is named after the way it was read. -/
def Named (report : UsageReport) : Prop := report.source ∈ usageSources

theorem named_missing : Named .missing := by
  unfold Named
  decide

theorem named_estimate (countTokens : String → Nat) (input output : Bytes) :
    Named (estimate countTokens input output) := by
  have hSource : (estimate countTokens input output).source = "estimated" := rfl
  rw [Named, hSource]
  decide

theorem named_extractJson {value : Value} {report : UsageReport}
    (h : extractJson value = some report) : Named report := by
  obtain ⟨usage, -, hReport⟩ := Option.bind_eq_some_iff.mp h
  dsimp only at hReport
  split at hReport
  · obtain rfl := Option.some.inj hReport
    have hSource : (reportFromUsage usage).source = "upstream" := rfl
    rw [Named, hSource]
    decide
  · cases hReport

theorem named_streamed {acc : SseUsageAccumulator} {report : UsageReport}
    (h : acc.report = some report) : Named report := by
  rw [SseUsageAccumulator.report] at h
  split at h
  · cases h
  · obtain rfl := Option.some.inj h
    change "parsed" ∈ usageSources
    decide

theorem named_observeJsonResponse (countTokens : String → Nat) (success : Bool)
    (request response : Bytes) (parsed : Option Value) :
    Named (observeJsonResponse countTokens success request response parsed).1 := by
  rw [observeJsonResponse]
  cases hRead : parsed.bind extractJson with
  | some report =>
    obtain ⟨value, -, hReport⟩ := Option.bind_eq_some_iff.mp hRead
    exact named_extractJson hReport
  | none =>
    dsimp only [Option.getD_none]
    split
    · exact named_estimate countTokens request response
    · exact named_missing

theorem named_usageForStreamObservation (countTokens : String → Nat) (success : Bool)
    (request : Bytes) {o : StreamObservation} (h : ∀ report ∈ o.parsedUsage, Named report) :
    Named (usageForStreamObservation countTokens success request o) := by
  have hRead : Named (o.parsedUsage.getD
      (if success && !o.captureTruncated then estimate countTokens request o.captured
        else UsageReport.missing)) := by
    cases hParsed : o.parsedUsage with
    | some report => exact h report hParsed
    | none =>
      dsimp only [Option.getD_none]
      split
      · exact named_estimate countTokens request o.captured
      · exact named_missing
  unfold usageForStreamObservation
  extract_lets report
  have hReport : Named report := hRead
  split
  · exact hReport
  · exact hReport

/-- The usage that the transport hands on with a buffered body is named. -/
theorem named_forwardUrl {parse : Bytes → Option Value} {countTokens : String → Nat}
    {client : SourceHttpClient} {moments : Moments} {ticks : List Tick} {url : String}
    {account : AccountConfig} {credential : Option String} {protocol : Protocol}
    {requestHeaders : HeaderMap} {body : Bytes} {config : StreamConfig} {requestStarted : Instant}
    {response : ForwardedResponse}
    (h : forwardUrlWithConfig parse countTokens client moments ticks url account credential protocol
      requestHeaders body config requestStarted = .ok response) :
    ∀ report ∈ response.usage, Named report := by
  obtain ⟨_, -, h⟩ := bind_eq_ok.mp h
  obtain ⟨upstream, -, h⟩ := bind_eq_ok.mp h
  dsimp only at h
  split at h
  · obtain ⟨bytes, -, h⟩ := bind_eq_ok.mp h
    obtain rfl := pure_eq_ok.mp h
    intro report hReport
    obtain rfl := Option.some.inj hReport
    exact named_observeJsonResponse countTokens _ body bytes (parse bytes)
  · obtain rfl := pure_eq_ok.mp h
    intro report hReport
    cases hReport

/-! ## What is observed of a stream -/

namespace ObservationGuard

variable (parse : String → Option Value) (countTokens : String → Nat)

/-- What the callback was called with carries a named report, if any. -/
def ReportsNamed (g : ObservationGuard) : Prop :=
  ∀ o ∈ g.reported, ∀ report ∈ o.parsedUsage, Named report

variable {g : ObservationGuard}

theorem reportsNamed_complete (h : ReportsNamed g) (termination : StreamTermination) :
    ReportsNamed (g.complete termination) := by
  unfold ObservationGuard.complete
  split
  · exact h
  · intro o hReported report hReport
    obtain rfl := Option.some.inj hReported
    exact named_streamed hReport

theorem reportsNamed_step (h : ReportsNamed g) (event : BodyEvent) :
    ReportsNamed (g.step parse countTokens event) := by
  cases event with
  | chunk bytes elapsedMs =>
    unfold ReportsNamed
    rw [ObservationGuard.step, ObservationGuard.observe_reported]
    exact h
  | error => exact reportsNamed_complete h _
  | eof =>
    rw [ObservationGuard.step]
    exact reportsNamed_complete (g := { g with tracker := (g.tracker.finishEof parse).1 }) h _
  | drop => exact reportsNamed_complete h _

theorem reportsNamed_run (h : ReportsNamed g) (events : List BodyEvent) :
    ReportsNamed (g.run parse countTokens events) := by
  induction events generalizing g with
  | nil => exact h
  | cons event rest ih => exact ih (reportsNamed_step parse countTokens h event)

end ObservationGuard

/-! ## The numbers of attempts -/

/-- Attempts with their positions as their numbers. -/
def Numbered (attempts : List UsageAttempt) : Prop :=
  attempts.map UsageAttempt.attemptNo = List.range attempts.length

theorem numbered_nil : Numbered [] := rfl

theorem numbered_one {first : UsageAttempt} (h : first.attemptNo = 0) : Numbered [first] :=
  congrArg (fun n => [n]) h

theorem numbered_two {first second : UsageAttempt} (h : first.attemptNo = 0)
    (h' : second.attemptNo = 1) : Numbered [first, second] := by
  rw [Numbered, List.map_cons, List.map_singleton, h, h']
  rfl

theorem failLast_attemptNo (termination : StreamTermination) (attempts : List UsageAttempt) :
    (failLast termination attempts).map UsageAttempt.attemptNo =
      attempts.map UsageAttempt.attemptNo := by
  fun_induction failLast termination attempts with
  | case1 => rfl
  | case2 last => rfl
  | case3 first rest hRest ih => rw [List.map_cons, List.map_cons, ih]

theorem Numbered.failLast {attempts : List UsageAttempt} (h : Numbered attempts)
    (termination : StreamTermination) : Numbered (failLast termination attempts) := by
  have hSame := failLast_attemptNo termination attempts
  have hLength := congrArg List.length hSame
  rw [List.length_map, List.length_map] at hLength
  rw [Numbered, hSame, hLength]
  exact h

theorem Numbered.nodup {attempts : List UsageAttempt} (h : Numbered attempts) :
    (attempts.map UsageAttempt.attemptNo).Nodup := by
  rw [h]
  exact List.nodup_range

/-! ## Requests -/

/-- The usage that comes with the answers of the upstreams is what the transport read. -/
def Env.Transported (env : Env) : Prop :=
  ∀ n candidate body answer, env.forward n candidate body = .ok answer →
    ∃ parse countTokens client moments ticks url account credential protocol requestHeaders config
      requestStarted response,
      forwardUrlWithConfig parse countTokens client moments ticks url account credential protocol
        requestHeaders body config requestStarted = .ok response ∧ answer.usage = response.usage

def Env.NamesUsage (env : Env) : Prop :=
  ∀ n candidate body answer, env.forward n candidate body = .ok answer →
    ∀ report ∈ answer.usage, Named report

theorem Env.Transported.namesUsage {env : Env} (hEnv : env.Transported) : env.NamesUsage := by
  intro n candidate body answer hAnswer
  obtain ⟨_, _, _, _, _, _, _, _, _, _, _, _, _, hForward, hUsage⟩ :=
    hEnv n candidate body answer hAnswer
  exact hUsage ▸ named_forwardUrl hForward

def ClientResponse.NamesUsage (response : ClientResponse) : Prop :=
  ∀ report ∈ response.usage, Named report

theorem namesUsage_gateway (status : StatusCode) (code message : String) :
    (ClientResponse.gateway status code message).NamesUsage := by
  intro report hReport
  cases hReport

/-- What a request is recorded with. -/
structure Booked (context : AttemptContext) (event : UsageEvent) (attempts : List UsageAttempt) :
    Prop where
  key : event.virtualKeyId = context.virtualKeyId
  source : event.usageSource ∈ usageSources
  numbered : Numbered attempts

/-- The record of a completion, if it leaves one. -/
def Completion.Booked (context : AttemptContext) (done : Completion) : Prop :=
  ∀ event ∈ done.event, Proxy.Booked context event done.attempts

section Policies

variable {env : Env} {config : GatewayConfig} {context : AttemptContext} {route : ResolvedRoute}

theorem booked_finish {response : ClientResponse} {upstream : FinalUpstream}
    {attempts : List UsageAttempt} {body : Bytes} {reason summary : Option String} {w : World}
    (hResponse : response.NamesUsage) (hAttempts : Numbered attempts) :
    (finish env context route response upstream attempts body reason summary w).Booked context := by
  intro event hEvent
  obtain rfl := Option.some.inj hEvent
  refine ⟨rfl, ?_, hAttempts⟩
  change (response.usage.map (·.source)).getD "missing" ∈ usageSources
  cases hUsage : response.usage with
  | none => exact named_missing
  | some report => exact hResponse report hUsage

theorem execute_namesUsage (hEnv : env.NamesUsage) {candidate : FallbackCandidate} {number : Nat}
    {isFallback : Bool} {w : World} {response : ClientResponse}
    (h : (execute env context candidate number isFallback w).1.result = .ok response) :
    response.NamesUsage := by
  rw [execute_result] at h
  cases hAnswer : answerTo env context candidate w.moment with
  | error error =>
    rw [hAnswer] at h
    cases h
  | ok answer =>
    rw [hAnswer] at h
    obtain rfl := Except.ok.inj h
    exact hEnv _ _ _ answer hAnswer

theorem responseOr_namesUsage {result : Except TransportError ClientResponse}
    {onError : TransportError → ClientResponse}
    (hResult : ∀ response, result = .ok response → response.NamesUsage)
    (hError : ∀ error, (onError error).NamesUsage) : (responseOr result onError).NamesUsage := by
  cases result with
  | ok response => exact hResult response rfl
  | error error => exact hError error

/-! ### The weighted policy -/

/-- How the attempts on an available primary end, as they are recorded. -/
structure EndBooked (ended : WeightedEnd) : Prop where
  response : ended.response.NamesUsage
  numbered : Numbered ended.attempts

theorem weightedWithoutPrimary_booked (hEnv : env.NamesUsage) (account : AccountConfig)
    (reason : String) (w : World) :
    (weightedWithoutPrimary env config context route account reason w).Booked context := by
  rw [weightedWithoutPrimary]
  dsimp only
  split
  · exact booked_finish (namesUsage_gateway _ _ _) numbered_nil
  · next candidate hSelected =>
    refine booked_finish (responseOr_namesUsage (fun _ => execute_namesUsage hEnv) fun error => ?_)
      (numbered_one rfl)
    split
    · exact namesUsage_gateway _ _ _
    · exact namesUsage_gateway _ _ _

theorem weightedAfterError_booked (hEnv : env.NamesUsage) {primary : FallbackCandidate}
    {error : TransportError} {first : UsageAttempt} (hFirst : first.attemptNo = 0) (w : World) :
    EndBooked (weightedAfterError env config context route primary error first w) := by
  rw [weightedAfterError]
  dsimp only
  split
  · exact ⟨responseOr_namesUsage (fun _ => execute_namesUsage hEnv) fun _ =>
      namesUsage_gateway _ _ _, numbered_two hFirst rfl⟩
  · exact ⟨namesUsage_gateway _ _ _, numbered_one hFirst⟩

theorem weightedAfterAnswer_booked (hEnv : env.NamesUsage) {primary : FallbackCandidate}
    {attempt : Nat} {answer : UpstreamResponse} {first : UsageAttempt}
    (hAnswer : (ClientResponse.upstream attempt answer).NamesUsage)
    (hFirst : first.attemptNo = 0) (w : World) :
    EndBooked (weightedAfterAnswer env config context route primary attempt answer first w) := by
  rw [weightedAfterAnswer]
  dsimp only
  split
  · exact ⟨responseOr_namesUsage (fun _ => execute_namesUsage hEnv) fun _ =>
      namesUsage_gateway _ _ _, numbered_two hFirst rfl⟩
  · split
    · exact ⟨responseOr_namesUsage (fun _ => execute_namesUsage hEnv) fun _ => hAnswer,
        numbered_two hFirst rfl⟩
    · exact ⟨hAnswer, numbered_one hFirst⟩

theorem weightedWithPrimary_booked (hEnv : env.NamesUsage) (primary : FallbackCandidate)
    (w : World) : EndBooked (weightedWithPrimary env config context route primary w) := by
  rw [weightedWithPrimary]
  split
  · next attempt response hResult =>
    have hAnswer := execute_namesUsage hEnv hResult
    split
    · exact weightedAfterAnswer_booked hEnv hAnswer rfl _
    · exact ⟨hAnswer, numbered_one rfl⟩
  · next response hResult => exact ⟨execute_namesUsage hEnv hResult, numbered_one rfl⟩
  · exact weightedAfterError_booked hEnv rfl _

theorem proxyWeighted_booked (hEnv : env.NamesUsage) (w : World) :
    (proxyWeighted env config context route w).Booked context := by
  rw [proxyWeighted]
  split
  · intro event hEvent
    cases hEvent
  · split
    · intro event hEvent
      cases hEvent
    · dsimp only
      split
      · exact weightedWithoutPrimary_booked hEnv _ _ _
      · split
        · exact weightedWithoutPrimary_booked hEnv _ _ _
        · have hEnd := @weightedWithPrimary_booked env config context route hEnv
          exact booked_finish (hEnd _ _).response (hEnd _ _).numbered

/-! ### The ordered policy -/

theorem orderedAttempt_namesUsage (hEnv : env.NamesUsage) (candidate : FallbackCandidate)
    (s : OrderedState) :
    ∀ response ∈ (orderedAttempt env context candidate s).1.lastResponse, response.NamesUsage := by
  rw [orderedAttempt]
  dsimp only
  split
  · next answer hResult =>
    intro response hResponse
    obtain rfl := Option.some.inj hResponse
    exact execute_namesUsage hEnv hResult
  · intro response hResponse
    obtain rfl := Option.some.inj hResponse
    exact namesUsage_gateway _ _ _

theorem orderedLoop_namesUsage (hEnv : env.NamesUsage) (limit : Stream.Duration)
    (lines : List FallbackCandidate) {s : OrderedState} (hNone : s.lastResponse = none) :
    ∀ response ∈ (orderedLoop env context limit lines s).lastResponse, response.NamesUsage := by
  refine orderedLoop_induction (P := fun s => ∀ response ∈ s.lastResponse, response.NamesUsage)
    (fun _ _ hBefore => hBefore) ?_ (fun line s _ => orderedAttempt_namesUsage hEnv line s)
    limit lines ?_
  · intro s n hBefore response hResponse
    obtain rfl := Option.some.inj hResponse
    exact namesUsage_gateway _ _ _
  · rw [hNone]
    exact nofun

theorem proxyOrdered_numbered : Numbered (proxyOrdered env config context route {}).attempts := by
  obtain ⟨stop, hTurns, hAttempts, -⟩ := proxyOrdered_turns env config context route
  rw [Numbered, hAttempts, List.map_map, List.length_map, List.range_eq_range']
  exact hTurns.numbered

theorem proxyOrdered_booked (hEnv : env.NamesUsage) :
    (proxyOrdered env config context route {}).Booked context := by
  have hNumbered := @proxyOrdered_numbered env config context route
  rw [proxyOrdered] at hNumbered ⊢
  dsimp only at hNumbered ⊢
  refine booked_finish ?_ hNumbered
  generalize hLast : OrderedState.lastResponse _ = last
  cases last with
  | none => exact namesUsage_gateway _ _ _
  | some response => exact orderedLoop_namesUsage hEnv _ _ rfl response hLast

/-- Every request is recorded under the key that let it in, with a named reading and with its
attempts numbered. -/
theorem proxyRoute_booked (hEnv : env.NamesUsage) :
    (proxyRoute env config context route {}).Booked context := by
  rw [proxyRoute]
  split
  · exact proxyOrdered_booked hEnv
  · exact proxyWeighted_booked hEnv {}

end Policies

namespace Booked

variable {context : AttemptContext} {event : UsageEvent} {attempts : List UsageAttempt}

theorem finalizeStreamUsage_key (countTokens : String → Nat) (event : UsageEvent)
    (attempts : List UsageAttempt) (requestBody : Bytes) (o : StreamObservation) :
    (finalizeStreamUsage countTokens event attempts requestBody o).1.virtualKeyId =
      event.virtualKeyId := by
  unfold finalizeStreamUsage
  extract_lets noted termination failed settled report
  change settled.virtualKeyId = event.virtualKeyId
  cases hFailure : termination.isFailure with
  | true => rw [show settled = failed from if_pos hFailure]
  | false => rw [show settled = noted from if_neg (by rw [hFailure]; decide)]

theorem finalizeStreamUsage_attempts {countTokens : String → Nat} {event : UsageEvent}
    (hNumbered : Numbered attempts) (requestBody : Bytes) (o : StreamObservation) :
    Numbered (finalizeStreamUsage countTokens event attempts requestBody o).2 := by
  unfold finalizeStreamUsage
  extract_lets noted termination failed settled report
  dsimp only
  split
  · exact hNumbered.failLast _
  · exact hNumbered

/-- The end of its stream does not change that. -/
theorem finalize (h : Booked context event attempts) (countTokens : String → Nat)
    (requestBody : Bytes) {o : StreamObservation}
    (hObserved : ∀ report ∈ o.parsedUsage, Named report) :
    let streamed := finalizeStreamUsage countTokens event attempts requestBody o
    Booked context streamed.1 streamed.2 := by
  intro streamed
  refine ⟨?_, ?_, finalizeStreamUsage_attempts h.numbered requestBody o⟩
  · exact (finalizeStreamUsage_key countTokens event attempts requestBody o).trans h.key
  · exact named_usageForStreamObservation countTokens _ requestBody hObserved

/-- The row of a request whose key has a number of the sequence. -/
theorem recorded (h : Booked context event attempts)
    (hKey : ∀ id ∈ context.virtualKeyId, 0 < id ∧ id < 2 ^ 63) (now : Health.DateTime) :
    Recorded (Migrations.usageRow now event) where
  virtualKeyId id hId := hKey id (h.key ▸ hId)
  usageSource := h.source

/-- What the writer of the request is given. -/
def request (h : Booked context event attempts) : Accounting.Request where
  event := event
  attempts := attempts
  numbered := h.numbered.nodup

end Booked

/-- The rows of requests that were let in by keys of the table, buffered or streamed: they are
such as the reports of usage ask for, and their attempts are numbered for the writer. -/
theorem proxied_rows_recorded {hashKey : String → String} {start before now : Health.DateTime}
    {s : VirtualKeys.KeyStore} (hKeys : VirtualKeys.Runs hashKey start .empty before s)
    (hRoom : s.nextId ≤ 2 ^ 63) {sha256 : Bytes → Bytes} {var : Option String} {outage : Bool}
    {headers : List (String × Bytes)} {model : Option String} {identity : Auth.AuthIdentity}
    (hIdentity : (Auth.authorizedWithDb sha256 var (some s) outage now headers model).2 =
      some identity)
    {env : Env} {config : GatewayConfig} {context : AttemptContext} {route : ResolvedRoute}
    (hContext : context.virtualKeyId = identity.virtualKeyId) (hEnv : env.Transported)
    {event : UsageEvent} (hEvent : (proxyRoute env config context route {}).event = some event) :
    let attempts := (proxyRoute env config context route {}).attempts
    (Recorded (Migrations.usageRow now event) ∧
      ∃ request : Accounting.Request, request.event = event ∧ request.attempts = attempts) ∧
    ∀ (parse : String → Option Value) (countTokens : String → Nat) (polls : List BodyEvent),
      ∀ o ∈ (({} : ObservationGuard).run parse countTokens polls).reported,
        let streamed := finalizeStreamUsage countTokens event attempts context.body o
        Recorded (Migrations.usageRow now streamed.1) ∧
          ∃ request : Accounting.Request, request.event = streamed.1 ∧
            request.attempts = streamed.2 := by
  have hKey : ∀ id ∈ context.virtualKeyId, 0 < id ∧ id < 2 ^ 63 := by
    intro id hId
    obtain ⟨row, hRow, rfl⟩ := Auth.exists_key_of_authorized hIdentity id (hContext ▸ hId)
    have hEmpty : ∀ row ∈ VirtualKeys.KeyStore.empty.rows, 0 < row.id := by
      intro row hRow
      cases hRow
    obtain ⟨-, hPositive⟩ := hKeys.positive Int.one_pos hEmpty
    exact ⟨hPositive row hRow, Int.lt_of_lt_of_le (s.numbered row hRow) hRoom⟩
  have hBooked := proxyRoute_booked hEnv.namesUsage event hEvent
  refine ⟨⟨hBooked.recorded hKey now, hBooked.request, rfl, rfl⟩, ?_⟩
  intro parse countTokens polls o hReported
  have hNone : ObservationGuard.ReportsNamed {} := by
    intro o hReported
    cases hReported
  have hObserved := ObservationGuard.reportsNamed_run parse countTokens hNone polls o hReported
  have hStreamed := hBooked.finalize countTokens context.body hObserved
  exact ⟨hStreamed.recorded hKey now, hStreamed.request, rfl, rfl⟩

end AiGateway.Proxy
