import AiGateway.Domain.Routing
import AiGateway.Proxy.Policy

/-!
# Upstream candidates of a request

Everything a request awaits is read from an environment at a moment, one moment
for each reading, so that health, clock and upstream answers may change in any
way between two readings.
-/

namespace AiGateway.Proxy

set_option autoImplicit false

open AiGateway.Config AiGateway.Routing AiGateway.Health

structure FallbackCandidate where
  account : AccountConfig
  provider : ProviderConfig
  providerId : String
  sourceId : String
  upstreamModel : String
  protocolUpstream : Protocol
  mode : String
  upstreamEndpoint : Option String
  degradedFeatures : List String

abbrev Moment := Nat

structure Env where
  health : Moment → String → AccountHealth
  /-- Time since the request started. -/
  elapsed : Moment → Stream.Duration
  now : Moment → DateTime
  subsecNanos : Moment → UInt32
  /-- The answer of an upstream; the body is the one sent to it. -/
  forward : Moment → FallbackCandidate → Text.Bytes → Except TransportError UpstreamResponse

def FallbackCandidate.primary (route : ResolvedRoute) (account : AccountConfig)
    (provider : ProviderConfig) (model : String) : FallbackCandidate where
  account := account
  provider := provider
  providerId := route.providerId
  sourceId := route.sourceId
  upstreamModel :=
    if route.bindingId.isNone then (account.modelMap.get model).getD route.upstreamModelId
    else route.upstreamModelId
  protocolUpstream := route.protocolUpstream
  mode := route.mode
  upstreamEndpoint := some route.upstreamEndpoint
  degradedFeatures := route.degradedFeatures

section Candidates

variable (env : Env) (config : GatewayConfig) (route : ResolvedRoute)

/-- A binding on the primary account is no fallback, except on an ordered route
with another upstream model. -/
def repeatsPrimary (binding : ResolvedBinding) : Bool :=
  binding.accountId = route.primaryAccountId &&
    (route.strategy ≠ "ordered_fallback" || binding.upstreamModelId = route.upstreamModelId)

def bindingCandidates : List ResolvedBinding → Moment → List FallbackCandidate × Moment
  | [], n => ([], n)
  | binding :: rest, n =>
    if repeatsPrimary route binding then bindingCandidates rest n
    else
      match config.account binding.accountId with
      | none => bindingCandidates rest n
      | some account =>
        if !account.enabled then bindingCandidates rest n
        else if !(env.health n account.id).available then bindingCandidates rest (n + 1)
        else
          match config.provider binding.sourceId with
          | none => bindingCandidates rest (n + 1)
          | some provider =>
            let later := bindingCandidates rest (n + 1)
            ({ account := account
               provider := provider
               providerId := binding.providerId
               sourceId := binding.sourceId
               upstreamModel := binding.upstreamModelId
               protocolUpstream := binding.protocolUpstream
               mode := binding.mode
               upstreamEndpoint := some binding.upstreamEndpoint
               degradedFeatures := binding.degradedFeatures } :: later.1, later.2)

def accountCandidates (model : String) (protocol : Protocol) :
    List String → Moment → List FallbackCandidate × Moment
  | [], n => ([], n)
  | id :: rest, n =>
    if id = route.primaryAccountId then accountCandidates model protocol rest n
    else
      match config.account id with
      | none => accountCandidates model protocol rest n
      | some account =>
        if !account.enabled then accountCandidates model protocol rest n
        else if !(env.health n account.id).available then
          accountCandidates model protocol rest (n + 1)
        else
          match config.provider account.providerId with
          | none => accountCandidates model protocol rest (n + 1)
          | some provider =>
            let later := accountCandidates model protocol rest (n + 1)
            if account.providerId ≠ route.sourceId ∧
                (config.protocolCapability provider.id (some account.id) model protocol).mode ≠
                  .native then later
            else
              ({ account := account
                 provider := provider
                 providerId := provider.id
                 sourceId := provider.id
                 upstreamModel := (account.modelMap.get model).getD model
                 protocolUpstream := route.protocolUpstream
                 mode := route.mode
                 upstreamEndpoint := none
                 degradedFeatures := route.degradedFeatures } :: later.1, later.2)

def availableFallbackCandidates (model : String) (protocol : Protocol) (n : Moment) :
    List FallbackCandidate × Moment :=
  if route.fallbackBindings.isEmpty then
    accountCandidates env config route model protocol route.fallbackAccounts n
  else
    let found := bindingCandidates env config route route.fallbackBindings n
    if route.strategy ≠ "ordered_fallback" && found.1.any fun c => c.mode = "native" then
      (found.1.filter fun c => c.mode = "native", found.2)
    else found

/-- The first candidate whose running weight sum exceeds the tick, counted in
32-bit arithmetic, or the first of all. -/
def selectedIndex (tick : UInt32) : UInt32 → Nat → List FallbackCandidate → Nat
  | _, _, [] => 0
  | cursor, i, candidate :: rest =>
    let cursor := cursor + max candidate.account.weight 1
    if tick < cursor then i else selectedIndex tick cursor (i + 1) rest

def totalWeight (candidates : List FallbackCandidate) : UInt32 :=
  (candidates.map fun c => max c.account.weight 1).sum

def selectFallbackCandidate (model : String) (protocol : Protocol) (n : Moment) :
    Option FallbackCandidate × Moment :=
  let available := availableFallbackCandidates env config route model protocol n
  if available.1.isEmpty then (none, available.2)
  else
    let tick := env.subsecNanos available.2 % max (totalWeight available.1) 1
    (available.1[selectedIndex tick 0 0 available.1]?, available.2 + 1)

end Candidates

end AiGateway.Proxy
