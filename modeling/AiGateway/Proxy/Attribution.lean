import AiGateway.Proxy.Service

/-!
# Who a request is accounted to

The usage record names one upstream: the last attempt made, and the route's primary when
nothing was tried.  That is the attempt whose response the client receives, but for a primary
whose answer is kept after the fallback failed in transport.
-/

namespace AiGateway.Proxy

set_option autoImplicit false

open AiGateway.Config AiGateway.Routing AiGateway.Health AiGateway.Json AiGateway.Text

/-- The record names the source, account and upstream model of the attempt. -/
structure NamesAttempt (event : UsageEvent) (usage : UsageAttempt) : Prop where
  source : event.sourceId = usage.sourceId
  account : event.accountId = usage.accountId
  model : event.upstreamModelId = usage.upstreamModelId

structure NamesPrimary (event : UsageEvent) (route : ResolvedRoute) : Prop where
  source : event.sourceId = route.sourceId
  account : event.accountId = route.primaryAccountId
  model : event.upstreamModelId = some route.upstreamModelId

def Accounted (route : ResolvedRoute) (log : List Attempted) (response : ClientResponse)
    (event : UsageEvent) : Prop :=
  match response with
  | .upstream attempt answer =>
    ∃ made, log[attempt]? = some made ∧ made.result = .ok answer ∧ NamesAttempt event made.usage
  | .gateway _ _ _ =>
    match log.getLast? with
    | some made => NamesAttempt event made.usage
    | none => NamesPrimary event route

def FollowsResponse (route : ResolvedRoute) (done : Completion) : Prop :=
  ∀ event, done.event = some event → Accounted route done.world.log done.response event

/-- The record names the last attempt made, or else the primary. -/
def AccountedLast (route : ResolvedRoute) (log : List Attempted) (event : UsageEvent) : Prop :=
  match log.getLast? with
  | some made => NamesAttempt event made.usage
  | none => NamesPrimary event route

def NamesLast (route : ResolvedRoute) (done : Completion) : Prop :=
  ∀ event, done.event = some event → AccountedLast route done.world.log event

section

variable {env : Env} {config : GatewayConfig} {context : AttemptContext} {route : ResolvedRoute}

/-- The answer an attempt on the candidate receives at the given moment. -/
def answerTo (env : Env) (context : AttemptContext) (candidate : FallbackCandidate)
    (n : Moment) : Except TransportError UpstreamResponse :=
  env.forward n candidate
    (prepareModelRequest context.parse context.body context.model candidate.upstreamModel).body

theorem prepared_model (context : AttemptContext) (upstreamModel : String) :
    (prepareModelRequest context.parse context.body context.model upstreamModel).upstreamModelId =
      upstreamModel := by
  rw [prepareModelRequest]
  split
  · next hSame => exact hSame.symm
  · rw [context.parsed]
    have hNamed := context.named
    cases hPayload : context.payload with
    | object fields => rfl
    | _ => simp [hPayload, Value.get] at hNamed

/-- A record whose upstream is the given one. -/
structure Records (event : UsageEvent) (upstream : FinalUpstream) : Prop where
  source : event.sourceId = upstream.sourceId
  account : event.accountId = upstream.accountId
  model : event.upstreamModelId = some upstream.upstreamModelId

theorem accounted_of_records {log : List Attempted} {response : ClientResponse}
    {upstream : FinalUpstream} {event event' : UsageEvent} (hEvent : Records event upstream)
    (hEvent' : Records event' upstream) (h : Accounted route log response event) :
    Accounted route log response event' := by
  have hSource := hEvent'.source.trans hEvent.source.symm
  have hAccount := hEvent'.account.trans hEvent.account.symm
  have hModel := hEvent'.model.trans hEvent.model.symm
  cases response with
  | upstream attempt answer =>
    obtain ⟨made, hMade, hResult, hNames⟩ := h
    exact ⟨made, hMade, hResult, hSource.trans hNames.source, hAccount.trans hNames.account,
      hModel.trans hNames.model⟩
  | gateway status code message =>
    simp only [Accounted] at h ⊢
    cases hLast : log.getLast? with
    | some made =>
      rw [hLast] at h
      exact ⟨hSource.trans h.source, hAccount.trans h.account, hModel.trans h.model⟩
    | none =>
      rw [hLast] at h
      exact ⟨hSource.trans h.source, hAccount.trans h.account, hModel.trans h.model⟩

theorem followsResponse_finish {response : ClientResponse} {upstream : FinalUpstream}
    {attempts : List UsageAttempt} {body : Bytes} {reason summary : Option String} {w : World}
    (h : ∀ event, Records event upstream → Accounted route w.log response event) :
    FollowsResponse route
      (finish env context route response upstream attempts body reason summary w) := by
  intro event hEvent
  obtain rfl := Option.some.inj hEvent
  exact h _ ⟨rfl, rfl, rfl⟩

theorem execute_log (env : Env) (context : AttemptContext) (candidate : FallbackCandidate)
    (attemptNo : Nat) (isFallback : Bool) (w : World) :
    ∃ made, (execute env context candidate attemptNo isFallback w).2.log =
      w.log ++ [made] ∧ made.candidate = candidate ∧
      made.result = answerTo env context candidate w.moment ∧
      ∀ event, Records event (.candidate candidate) → NamesAttempt event made.usage := by
  refine ⟨_, rfl, rfl, rfl, fun event hEvent => ?_⟩
  constructor
  · exact hEvent.source
  · exact hEvent.account
  · rw [hEvent.model]
    exact congrArg some (prepared_model context candidate.upstreamModel).symm

theorem execute_result (candidate : FallbackCandidate) (attemptNo : Nat) (isFallback : Bool)
    (w : World) : (execute env context candidate attemptNo isFallback w).1.result =
      (answerTo env context candidate w.moment).map (.upstream w.log.length) := rfl

theorem accounted_gateway_of_last {log : List Attempted} {made : Attempted} {event : UsageEvent}
    {status : StatusCode} {code message : String} (hLast : log.getLast? = some made)
    (hNames : NamesAttempt event made.usage) :
    Accounted route log (.gateway status code message) event := by
  simpa only [Accounted, hLast] using hNames

/-- After an attempt, both its response and anything the gateway answers instead
are accounted to its candidate. -/
theorem execute_accounted {candidate : FallbackCandidate} {attemptNo : Nat} {isFallback : Bool}
    {w : World} {onError : TransportError → ClientResponse}
    (hGateway : ∀ error, ∃ status code message, onError error = .gateway status code message)
    {event : UsageEvent} (hEvent : Records event (.candidate candidate)) :
    Accounted route (execute env context candidate attemptNo isFallback w).2.log
      (responseOr (execute env context candidate attemptNo isFallback w).1.result onError)
      event := by
  obtain ⟨made, hLog, -, hResult, hNames⟩ :=
    execute_log env context candidate attemptNo isFallback w
  rw [hLog, execute_result]
  cases hAnswer : answerTo env context candidate w.moment with
  | ok answer =>
    exact ⟨made, by simp, hResult.trans hAnswer, hNames event hEvent⟩
  | error error =>
    obtain ⟨status, code, message, hGate⟩ := hGateway error
    simp only [Except.map, responseOr, hGate]
    exact accounted_gateway_of_last (by simp) (hNames event hEvent)

theorem upstreamRequestFailed_gateway (error : TransportError) :
    ∃ status code message, upstreamRequestFailed error = .gateway status code message :=
  ⟨_, _, _, rfl⟩

end

section Ordered

variable {env : Env} {config : GatewayConfig} {context : AttemptContext} {route : ResolvedRoute}

/-- The upstream the ordered loop would record if it stopped here. -/
def OrderedState.upstream (route : ResolvedRoute) (s : OrderedState) : FinalUpstream :=
  (s.finalCandidate.map FinalUpstream.candidate).getD (.route route)

/-- Every gateway answer, and the kept response if there is one, would be
accounted rightly. -/
structure OrderedAccounted (route : ResolvedRoute) (s : OrderedState) : Prop where
  gateway : ∀ status code message event, Records event (s.upstream route) →
    Accounted route s.world.log (.gateway status code message) event
  kept : ∀ response, s.lastResponse = some response → ∀ event,
    Records event (s.upstream route) → Accounted route s.world.log response event

theorem orderedAttempt_accounted (candidate : FallbackCandidate) (s : OrderedState) :
    OrderedAccounted route (orderedAttempt env context candidate s).1 := by
  obtain ⟨made, hLog, -, hResult, hNames⟩ := execute_log env context candidate
    s.attempts.length (!s.attempts.isEmpty || isAccountReason s.fallbackReason) s.world
  have hWorld : (orderedAttempt env context candidate s).1.world.log = s.world.log ++ [made] := by
    rw [orderedAttempt]
    split <;> exact hLog
  have hFinal : (orderedAttempt env context candidate s).1.upstream route =
      .candidate candidate := by
    rw [orderedAttempt]
    split <;> rfl
  constructor
  · intro status code message event hEvent
    rw [hFinal] at hEvent
    rw [hWorld]
    exact accounted_gateway_of_last (by simp) (hNames event hEvent)
  · intro response hResponse event hEvent
    rw [hFinal] at hEvent
    rw [hWorld]
    rw [orderedAttempt] at hResponse
    cases hAnswer : answerTo env context candidate s.world.moment with
    | ok answer =>
      simp only [execute_result, hAnswer, Except.map, Option.some.injEq] at hResponse
      subst hResponse
      exact ⟨made, by simp, hResult.trans hAnswer, hNames event hEvent⟩
    | error error =>
      simp only [execute_result, hAnswer, Except.map, Option.some.injEq] at hResponse
      subst hResponse
      exact accounted_gateway_of_last (by simp) (hNames event hEvent)

/-- What the ordered loop keeps: it reads the clock, it gives up at the deadline, and it makes
attempts. -/
theorem orderedLoop_induction {P : OrderedState → Prop}
    (hClock : ∀ s n, P s → P { s with world := s.world.at n })
    (hDeadline : ∀ s n, P s →
      P { s with
          totalTimeout := true
          lastResponse := some (.gateway 504 "gateway_total_timeout"
            Stream.StreamTermination.totalTimeout.message)
          world := s.world.at n })
    (hAttempt : ∀ candidate s, P s → P (orderedAttempt env context candidate s).1)
    (limit : Nat) (candidates : List FallbackCandidate) {s : OrderedState} (h : P s) :
    P (orderedLoop env context limit candidates s) := by
  induction candidates generalizing s with
  | nil => exact h
  | cons candidate rest ih =>
    rw [orderedLoop]
    split
    · exact h
    · dsimp only
      split
      · exact ih (hClock s _ h)
      · split
        · exact hDeadline s _ h
        · have hNext := hAttempt candidate _ (hClock s (s.world.moment + 2) h)
          split
          · exact ih hNext
          · exact hNext

theorem orderedLoop_accounted (limit : Nat) (candidates : List FallbackCandidate)
    (s : OrderedState) (h : OrderedAccounted route s) :
    OrderedAccounted route (orderedLoop env context limit candidates s) := by
  refine orderedLoop_induction ?_ ?_ ?_ limit candidates h
  · exact fun s n hBefore => ⟨hBefore.gateway, hBefore.kept⟩
  · intro s n hBefore
    refine ⟨hBefore.gateway, fun response hResponse event hEvent => ?_⟩
    obtain rfl := Option.some.inj hResponse
    exact hBefore.gateway _ _ _ event hEvent
  · exact fun candidate s _ => orderedAttempt_accounted candidate s

/-- Before the first attempt the primary is the one to name. -/
theorem orderedAccounted_start {body : Bytes} {reason : Option String} {w : World}
    (hLog : w.log = []) :
    OrderedAccounted route { usageRequestBody := body, fallbackReason := reason, world := w } where
  gateway status code message event hEvent := by
    simp only [Accounted, hLog, List.getLast?_nil]
    exact ⟨hEvent.source, hEvent.account, hEvent.model⟩
  kept response hResponse := by cases hResponse

theorem proxyOrdered_follows (w : World) (hLog : w.log = []) :
    FollowsResponse route (proxyOrdered env config context route w) := by
  rw [proxyOrdered]
  set s := orderedLoop env context (attemptLimit route.maxRetries) _ _ with hs
  have hAccounted : OrderedAccounted route s :=
    orderedLoop_accounted _ _ _ (orderedAccounted_start hLog)
  apply followsResponse_finish
  intro event hEvent
  cases hLast : s.lastResponse with
  | none => exact hAccounted.gateway _ _ _ event hEvent
  | some response => exact hAccounted.kept response hLast event hEvent

end Ordered

section Weighted

variable {env : Env} {config : GatewayConfig} {context : AttemptContext} {route : ResolvedRoute}

theorem account_id {id : String} {account : AccountConfig} (h : config.account id = some account) :
    account.id = id := by
  simpa using List.find?_some h

theorem bindingCandidates_other (hWeighted : route.strategy ≠ "ordered_fallback")
    (bindings : List ResolvedBinding) (n : Moment) {candidate : FallbackCandidate}
    (h : candidate ∈ (bindingCandidates env config route bindings n).1) :
    candidate.account.id ≠ route.primaryAccountId := by
  induction bindings generalizing n with
  | nil => cases h
  | cons binding rest ih =>
    rw [bindingCandidates] at h
    split at h
    · exact ih n h
    · next hOther =>
      split at h
      · exact ih n h
      · next account hAccount =>
        split at h
        · exact ih n h
        · split at h
          · exact ih _ h
          · split at h
            · exact ih _ h
            · obtain rfl | hLater := List.mem_cons.mp h
              · intro hSame
                rw [account_id hAccount] at hSame
                simp [repeatsPrimary, hSame, hWeighted] at hOther
              · exact ih _ hLater

theorem accountCandidates_other {model : String} {protocol : Protocol} (ids : List String)
    (n : Moment) {candidate : FallbackCandidate}
    (h : candidate ∈ (accountCandidates env config route model protocol ids n).1) :
    candidate.account.id ≠ route.primaryAccountId := by
  induction ids generalizing n with
  | nil => cases h
  | cons id rest ih =>
    rw [accountCandidates] at h
    split at h
    · exact ih n h
    · next hOther =>
      split at h
      · exact ih n h
      · next account hAccount =>
        split at h
        · exact ih n h
        · split at h
          · exact ih _ h
          · split at h
            · exact ih _ h
            · dsimp only at h
              split at h
              · exact ih _ h
              · obtain rfl | hLater := List.mem_cons.mp h
                · rw [account_id hAccount]
                  exact hOther
                · exact ih _ hLater

/-- Off the ordered strategy a fallback is never on the primary account. -/
theorem selectFallbackCandidate_other (hWeighted : route.strategy ≠ "ordered_fallback")
    {model : String} {protocol : Protocol} {n : Moment} {candidate : FallbackCandidate}
    (h : (selectFallbackCandidate env config route model protocol n).1 = some candidate) :
    candidate.account.id ≠ route.primaryAccountId := by
  rw [selectFallbackCandidate] at h
  dsimp only at h
  split at h
  · cases h
  · have hMem := List.mem_of_getElem? h
    rw [availableFallbackCandidates] at hMem
    split at hMem
    · exact accountCandidates_other _ _ hMem
    · dsimp only at hMem
      split at hMem
      · exact bindingCandidates_other hWeighted _ _ (List.mem_filter.mp hMem).1
      · exact bindingCandidates_other hWeighted _ _ hMem

theorem weightedWithoutPrimary_follows (account : AccountConfig) (reason : String) (w : World)
    (hLog : w.log = []) :
    FollowsResponse route (weightedWithoutPrimary env config context route account reason w) := by
  rw [weightedWithoutPrimary]
  dsimp only
  split
  · apply followsResponse_finish
    intro event hEvent
    simp only [Accounted, unavailableResponse, World.at, hLog, List.getLast?_nil]
    exact ⟨hEvent.source, hEvent.account, hEvent.model⟩
  · apply followsResponse_finish
    intro event hEvent
    apply execute_accounted _ hEvent
    intro error
    split
    · exact upstreamRequestFailed_gateway error
    · exact ⟨_, _, _, rfl⟩

/-- After a retryable answer a fallback is chosen, the primary is not simply
asked again, and the attempt on the fallback fails in transport. -/
def FallbackFails (env : Env) (config : GatewayConfig) (context : AttemptContext)
    (route : ResolvedRoute) (answer : UpstreamResponse) (n : Moment) : Prop :=
  let first := selectFallbackCandidate env config route context.model context.protocol n
  let second := selectFallbackCandidate env config route context.model context.protocol first.2
  ¬ ((sameAccountRetry env context answer n).isSome = true ∧ first.1.isNone = true) ∧
    ∃ fallback error, second.1 = some fallback ∧
      answerTo env context fallback second.2 = .error error

/-- An available primary answers with a retryable status, and the fallback tried
after it fails in transport. -/
structure LosesFallback (env : Env) (config : GatewayConfig) (context : AttemptContext)
    (route : ResolvedRoute) (provider : ProviderConfig) (account : AccountConfig)
    (answer : UpstreamResponse) : Prop where
  weighted : route.strategy ≠ "ordered_fallback"
  knownProvider : config.provider route.sourceId = some provider
  knownAccount : config.account route.primaryAccountId = some account
  enabled : account.enabled = true
  available : (env.health 0 account.id).available = true
  answered : answerTo env context (.primary route account provider context.model) 1 = .ok answer
  retryable : isRetryable answer.status = true
  fails : FallbackFails env config context route answer 2

/-- However it is recorded, the end of the attempts is accounted rightly. -/
def EndAccounted (route : ResolvedRoute) (ended : WeightedEnd) : Prop :=
  ∀ event, Records event (.candidate ended.finalCandidate) →
    Accounted route ended.world.log ended.response event

theorem weightedAfterError_accounted {primary : FallbackCandidate} {error : TransportError}
    {first : UsageAttempt} {w : World} {made : Attempted} (hLog : w.log = [made])
    (hNames : ∀ event, Records event (.candidate primary) → NamesAttempt event made.usage) :
    EndAccounted route (weightedAfterError env config context route primary error first w) := by
  intro event
  rw [weightedAfterError]
  dsimp only
  split
  · intro hEvent
    exact execute_accounted upstreamRequestFailed_gateway hEvent
  · intro hEvent
    have hLast : (w.at (selectFallbackCandidate env config route context.model context.protocol
        w.moment).2).log.getLast? = some made := by
      simp [World.at, hLog]
    exact accounted_gateway_of_last hLast (hNames event hEvent)

/-- The response of the only attempt is kept. -/
theorem accounted_first {log : List Attempted} {made : Attempted} {answer : UpstreamResponse}
    {event : UsageEvent} (hLog : log = [made]) (hResult : made.result = .ok answer)
    (hNames : NamesAttempt event made.usage) :
    Accounted route log (.upstream 0 answer) event :=
  ⟨made, by simp [hLog], hResult, hNames⟩

theorem exists_records (env : Env) (context : AttemptContext) (route : ResolvedRoute)
    (upstream : FinalUpstream) : ∃ event, Records event upstream :=
  ⟨usageEvent env context route (.gateway 0 "" "") upstream [] [] none none {}, rfl, rfl, rfl⟩

/-- A fallback after the primary's answer: a transport failure keeps that answer
but records the fallback. -/
theorem fallback_accounted_iff {fallback : FallbackCandidate} {answer : UpstreamResponse}
    {w : World} {made : Attempted} (hLog : w.log = [made])
    (hOther : fallback.account.id ≠ made.usage.accountId) :
    (∀ event, Records event (.candidate fallback) →
      Accounted route (execute env context fallback 1 true w).2.log
        (responseOr (execute env context fallback 1 true w).1.result
          fun _ => .upstream 0 answer) event) ↔
      ∃ response, answerTo env context fallback w.moment = .ok response := by
  obtain ⟨later, hLater, -, hSecond, hNames⟩ :=
    execute_log env context fallback 1 true w
  rw [hLater, execute_result, hLog]
  cases hAnswer : answerTo env context fallback w.moment with
  | ok response =>
    refine iff_of_true (fun event hEvent => ?_) ⟨response, rfl⟩
    exact ⟨later, by simp, hSecond.trans hAnswer, hNames event hEvent⟩
  | error error =>
    refine iff_of_false (fun hAccounted => ?_) (by simp)
    obtain ⟨event, hEvent⟩ := exists_records env context route (.candidate fallback)
    obtain ⟨kept, hKept, -, hKeptNames⟩ := hAccounted event hEvent
    simp only [List.singleton_append, List.getElem?_cons_zero, Option.some.injEq] at hKept
    subst hKept
    exact hOther (hEvent.account.symm.trans hKeptNames.account)

theorem weightedAfterAnswer_accounted_iff {primary : FallbackCandidate}
    {answer : UpstreamResponse} {first : UsageAttempt} {w : World} {made : Attempted}
    (hWeighted : route.strategy ≠ "ordered_fallback")
    (hPrimary : made.usage.accountId = route.primaryAccountId) (hLog : w.log = [made])
    (hResult : made.result = .ok answer)
    (hNames : ∀ event, Records event (.candidate primary) → NamesAttempt event made.usage) :
    EndAccounted route (weightedAfterAnswer env config context route primary 0 answer first w) ↔
      ¬ FallbackFails env config context route answer w.moment := by
  rw [weightedAfterAnswer, FallbackFails]
  rcases hFirst : selectFallbackCandidate env config route context.model context.protocol w.moment
    with ⟨available, n₁⟩
  rcases hSecond : selectFallbackCandidate env config route context.model context.protocol n₁
    with ⟨selected, n₂⟩
  dsimp only
  by_cases hRetry : (sameAccountRetry env context answer w.moment).isSome = true ∧
      available.isNone = true
  · -- the primary is asked again, and its second attempt decides
    rw [if_pos hRetry]
    refine iff_of_true (fun event hEvent => ?_) (fun hFails => hFails.1 hRetry)
    exact execute_accounted upstreamRequestFailed_gateway hEvent
  · rw [if_neg hRetry]
    cases selected with
    | some fallback =>
      have hOther : fallback.account.id ≠ made.usage.accountId := by
        rw [hPrimary]
        exact selectFallbackCandidate_other hWeighted (congrArg Prod.fst hSecond)
      refine (fallback_accounted_iff (w := w.at n₂) hLog hOther).trans ?_
      cases hAnswer : answerTo env context fallback n₂ with
      | ok response => simp [World.at, hAnswer]
      | error error =>
        refine iff_of_false (by simp [World.at, hAnswer]) (not_not_intro ⟨hRetry, ?_⟩)
        exact ⟨fallback, error, rfl, hAnswer⟩
    | none =>
      refine iff_of_true (fun event hEvent => ?_) (by simp)
      exact accounted_first hLog hResult (hNames event hEvent)

theorem weightedWithPrimary_accounted_iff {provider : ProviderConfig} {account : AccountConfig}
    {w : World} (hWeighted : route.strategy ≠ "ordered_fallback")
    (hAccount : config.account route.primaryAccountId = some account) (hLog : w.log = []) :
    EndAccounted route (weightedWithPrimary env config context route
        (.primary route account provider context.model) w) ↔
      ¬ ∃ answer, answerTo env context (.primary route account provider context.model) w.moment =
          .ok answer ∧ isRetryable answer.status = true ∧
        FallbackFails env config context route answer (w.moment + 1) := by
  obtain ⟨made, hMade, -, hAnswered, hNames⟩ :=
    execute_log env context (.primary route account provider context.model) 0 false w
  rw [hLog, List.nil_append] at hMade
  have hPrimary : made.usage.accountId = route.primaryAccountId := by
    obtain ⟨event, hEvent⟩ := exists_records env context route
      (.candidate (.primary route account provider context.model))
    rw [← (hNames event hEvent).account, hEvent.account]
    exact account_id hAccount
  rw [weightedWithPrimary]
  simp only [execute_result, hLog, List.length_nil]
  cases hAnswer : answerTo env context (.primary route account provider context.model) w.moment with
  | ok answer =>
    simp only [Except.map]
    by_cases hRetryable : isRetryable answer.status = true
    · rw [if_pos hRetryable]
      refine (weightedAfterAnswer_accounted_iff hWeighted hPrimary hMade
        (hAnswered.trans hAnswer) hNames).trans ?_
      simp [hRetryable, execute]
    · rw [if_neg hRetryable]
      refine iff_of_true (fun event hEvent => ?_) (by simp [hRetryable])
      exact accounted_first hMade (hAnswered.trans hAnswer) (hNames event hEvent)
  | error error =>
    refine iff_of_true ?_ (by simp)
    exact weightedAfterError_accounted hMade hNames

theorem followsResponse_weightedEnd {ended : WeightedEnd} {body : Bytes}
    {reason summary : Option String} :
    FollowsResponse route (finish env context route ended.response
        (.candidate ended.finalCandidate) ended.attempts body reason summary ended.world) ↔
      EndAccounted route ended := by
  constructor
  · intro hFollows event hEvent
    exact accounted_of_records ⟨rfl, rfl, rfl⟩ hEvent (hFollows _ rfl)
  · exact followsResponse_finish

theorem proxyWeighted_follows_iff (hWeighted : route.strategy ≠ "ordered_fallback") :
    FollowsResponse route (proxyWeighted env config context route {}) ↔
      ¬ ∃ provider account answer,
        LosesFallback env config context route provider account answer := by
  rw [proxyWeighted]
  split
  · next hProvider =>
    refine iff_of_true (fun event hEvent => by cases hEvent) ?_
    rintro ⟨provider, account, answer, hLoses⟩
    simpa [hProvider] using hLoses.knownProvider
  · next provider hProvider =>
    split
    · next hAccount =>
      refine iff_of_true (fun event hEvent => by cases hEvent) ?_
      rintro ⟨provider, account, answer, hLoses⟩
      simpa [hAccount] using hLoses.knownAccount
    · next account hAccount =>
      have hKnown : ∀ {p a answer}, LosesFallback env config context route p a answer →
          provider = p ∧ account = a := fun hLoses =>
        ⟨Option.some.inj (hProvider.symm.trans hLoses.knownProvider),
          Option.some.inj (hAccount.symm.trans hLoses.knownAccount)⟩
      dsimp only
      split
      · next hDisabled =>
        refine iff_of_true (weightedWithoutPrimary_follows _ _ _ rfl) ?_
        rintro ⟨p, a, answer, hLoses⟩
        obtain ⟨rfl, rfl⟩ := hKnown hLoses
        simp [hLoses.enabled] at hDisabled
      · next hEnabled =>
        split
        · next hUnavailable =>
          refine iff_of_true (weightedWithoutPrimary_follows _ _ _ rfl) ?_
          rintro ⟨p, a, answer, hLoses⟩
          obtain ⟨rfl, rfl⟩ := hKnown hLoses
          simp [hLoses.available] at hUnavailable
        · next hAvailable =>
          refine followsResponse_weightedEnd.trans
            ((weightedWithPrimary_accounted_iff hWeighted hAccount rfl).trans (not_congr ?_))
          constructor
          · rintro ⟨answer, hAnswered, hRetryable, hFails⟩
            exact ⟨provider, account, answer, hWeighted, hProvider, hAccount,
              by simpa using hEnabled, by simpa using hAvailable, hAnswered, hRetryable, hFails⟩
          · rintro ⟨p, a, answer, hLoses⟩
            obtain ⟨rfl, rfl⟩ := hKnown hLoses
            exact ⟨answer, hLoses.answered, hLoses.retryable, hLoses.fails⟩

end Weighted

/-- A request is accounted to the attempt it was answered by except when the
weighted policy keeps the primary's answer after a fallback failed in
transport. -/
theorem proxyRoute_follows_iff (env : Env) (config : GatewayConfig) (context : AttemptContext)
    (route : ResolvedRoute) :
    FollowsResponse route (proxyRoute env config context route {}) ↔
      ¬ ∃ provider account answer,
        LosesFallback env config context route provider account answer := by
  rw [proxyRoute]
  split
  · next hOrdered =>
    refine iff_of_true (proxyOrdered_follows {} rfl) ?_
    rintro ⟨provider, account, answer, hLoses⟩
    exact hLoses.weighted hOrdered
  · next hWeighted => exact proxyWeighted_follows_iff hWeighted

/-! ## The last attempt -/

section Last

variable {env : Env} {config : GatewayConfig} {context : AttemptContext} {route : ResolvedRoute}

theorem accountedLast_of_last {log : List Attempted} {made : Attempted} {event : UsageEvent}
    (hLast : log.getLast? = some made) (hNames : NamesAttempt event made.usage) :
    AccountedLast route log event := by
  simpa only [AccountedLast, hLast] using hNames

theorem accountedLast_of_nil {event : UsageEvent} (hEvent : Records event (.route route)) :
    AccountedLast route [] event :=
  ⟨hEvent.source, hEvent.account, hEvent.model⟩

theorem execute_accountedLast {candidate : FallbackCandidate} {attemptNo : Nat}
    {isFallback : Bool} {w : World} {event : UsageEvent}
    (hEvent : Records event (.candidate candidate)) :
    AccountedLast route (execute env context candidate attemptNo isFallback w).2.log event := by
  obtain ⟨made, hLog, -, -, hNames⟩ := execute_log env context candidate attemptNo isFallback w
  rw [hLog]
  exact accountedLast_of_last (by simp) (hNames event hEvent)

theorem namesLast_finish {response : ClientResponse} {upstream : FinalUpstream}
    {attempts : List UsageAttempt} {body : Bytes} {reason summary : Option String} {w : World}
    (h : ∀ event, Records event upstream → AccountedLast route w.log event) :
    NamesLast route
      (finish env context route response upstream attempts body reason summary w) := by
  intro event hEvent
  obtain rfl := Option.some.inj hEvent
  exact h _ ⟨rfl, rfl, rfl⟩

theorem proxyOrdered_namesLast (w : World) (hLog : w.log = []) :
    NamesLast route (proxyOrdered env config context route w) := by
  rw [proxyOrdered]
  set s := orderedLoop env context (attemptLimit route.maxRetries) _ _ with hs
  have hAccounted : OrderedAccounted route s :=
    orderedLoop_accounted _ _ _ (orderedAccounted_start hLog)
  apply namesLast_finish
  intro event hEvent
  exact hAccounted.gateway 0 "" "" event hEvent

theorem weightedWithoutPrimary_namesLast (account : AccountConfig) (reason : String) (w : World)
    (hLog : w.log = []) :
    NamesLast route (weightedWithoutPrimary env config context route account reason w) := by
  rw [weightedWithoutPrimary]
  dsimp only
  split
  · apply namesLast_finish
    intro event hEvent
    rw [World.at, hLog]
    exact accountedLast_of_nil hEvent
  · apply namesLast_finish
    intro event hEvent
    exact execute_accountedLast hEvent

/-- After the attempts on an available primary the final candidate is the last one tried. -/
def EndsLast (route : ResolvedRoute) (ended : WeightedEnd) : Prop :=
  ∀ event, Records event (.candidate ended.finalCandidate) →
    AccountedLast route ended.world.log event

theorem weightedAfterError_endsLast {primary : FallbackCandidate} {error : TransportError}
    {first : UsageAttempt} {w : World}
    (h : ∀ event, Records event (.candidate primary) → AccountedLast route w.log event) :
    EndsLast route (weightedAfterError env config context route primary error first w) := by
  intro event
  rw [weightedAfterError]
  dsimp only
  split
  · exact execute_accountedLast
  · exact h event

theorem weightedAfterAnswer_endsLast {primary : FallbackCandidate} {attempt : Nat}
    {answer : UpstreamResponse} {first : UsageAttempt} {w : World}
    (h : ∀ event, Records event (.candidate primary) → AccountedLast route w.log event) :
    EndsLast route
      (weightedAfterAnswer env config context route primary attempt answer first w) := by
  intro event
  rw [weightedAfterAnswer]
  dsimp only
  split
  · exact execute_accountedLast
  · split
    · exact execute_accountedLast
    · exact h event

theorem weightedWithPrimary_endsLast (primary : FallbackCandidate) (w : World) :
    EndsLast route (weightedWithPrimary env config context route primary w) := by
  have hFirst : ∀ event, Records event (.candidate primary) →
      AccountedLast route (execute env context primary 0 false w).2.log event :=
    fun event hEvent => execute_accountedLast hEvent
  rw [weightedWithPrimary]
  split
  · split
    · exact weightedAfterAnswer_endsLast hFirst
    · exact hFirst
  · exact hFirst
  · exact weightedAfterError_endsLast hFirst

theorem proxyWeighted_namesLast (w : World) (hLog : w.log = []) :
    NamesLast route (proxyWeighted env config context route w) := by
  rw [proxyWeighted]
  split
  · intro event hEvent
    cases hEvent
  · split
    · intro event hEvent
      cases hEvent
    · dsimp only
      split
      · exact weightedWithoutPrimary_namesLast _ _ _ hLog
      · split
        · exact weightedWithoutPrimary_namesLast _ _ _ hLog
        · apply namesLast_finish
          exact weightedWithPrimary_endsLast _ _

end Last

/-- A request is accounted to the last attempt made, or to the primary if none was.  That is
the attempt it was answered by, except when the weighted policy keeps the primary's answer
after a fallback failed in transport. -/
theorem proxyRoute_namesLast (env : Env) (config : GatewayConfig) (context : AttemptContext)
    (route : ResolvedRoute) :
    NamesLast route (proxyRoute env config context route {}) ∧
      (FollowsResponse route (proxyRoute env config context route {}) ↔
        ¬ ∃ provider account answer,
          LosesFallback env config context route provider account answer) := by
  refine ⟨?_, proxyRoute_follows_iff env config context route⟩
  rw [proxyRoute]
  split
  · exact proxyOrdered_namesLast {} rfl
  · exact proxyWeighted_namesLast {} rfl

namespace LostFallback

def account (id : String) : AccountConfig := { id := id, providerId := "s", displayName := id }

def provider : ProviderConfig := { id := "s", name := "s", baseUrl := "https://up.example" }

def config : GatewayConfig :=
  { listenAddr := "", providers := [provider], accounts := [account "a", account "b"] }

def binding (id : Int) (accountId : String) : ResolvedBinding :=
  { bindingId := id
    sourceId := "s"
    providerId := "s"
    accountId := accountId
    upstreamModelId := "m"
    protocolUpstream := .openAiChatCompletions
    upstreamEndpoint := "https://up.example/chat"
    mode := "native"
    adapter := none
    effectiveCapabilities := {}
    degradedFeatures := [] }

def route : ResolvedRoute :=
  { routeId := "r"
    strategy := "primary_then_weighted_fallback"
    requestTimeoutMs := none
    maxRetries := none
    protocolIn := .openAiChatCompletions
    protocolUpstream := .openAiChatCompletions
    model := "m"
    upstreamModelId := "m"
    sourceId := "s"
    providerId := "s"
    primaryAccountId := "a"
    fallbackAccounts := ["b"]
    fallbackBindings := [binding 2 "b"]
    bindingId := some 1
    upstreamEndpoint := "https://up.example/chat"
    mode := "native"
    adapter := none
    effectiveCapabilities := {}
    degradedFeatures := []
    allowLossyConversion := false }

def payload : Value := .object [("model", .string "m")]

def context : AttemptContext where
  parse _ := some payload
  parseDate _ := none
  body := utf8 (render payload)
  payload := payload
  model := "m"
  protocol := .openAiChatCompletions
  requestId := "request"
  virtualKeyId := none
  clientSource := "client"
  isStreamed := false
  totalTimeout := 0
  parsed := rfl
  named := rfl

/-- The primary is overloaded and the fallback cannot be reached. -/
def env : Env where
  health _ _ := { unknownHealth true "unknown" with status := "healthy" }
  elapsed _ := 0
  now _ := 0
  subsecNanos _ := 0
  forward _ candidate _ :=
    if candidate.account.id = "a" then .ok { status := 503 } else .error .request

end LostFallback

/-- The client receives the primary's 503 while the record names the fallback. -/
theorem lostFallback_not_follows :
    ¬ FollowsResponse LostFallback.route (proxyRoute LostFallback.env LostFallback.config
      LostFallback.context LostFallback.route {}) := by
  rw [proxyRoute, if_neg (by decide), proxyWeighted_follows_iff (by decide), not_not]
  refine ⟨LostFallback.provider, LostFallback.account "a", { status := 503 }, by decide, rfl, rfl,
    rfl, rfl, rfl, rfl, by decide, ?_⟩
  exact ⟨_, .request, rfl, rfl⟩

end AiGateway.Proxy
