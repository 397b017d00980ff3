import AiGateway.Domain.Config
import Mathlib.Data.List.Sort

/-!
# Route resolution

The configuration resolver ranks the routes of a configuration by how closely
their pattern matches; the runtime resolver looks a model up in the routes of a
published snapshot.
-/

namespace AiGateway.Routing

set_option autoImplicit false

open AiGateway.Config AiGateway.Text

/-- A validated route candidate built from one confirmed model binding. -/
structure RuntimeBinding where
  bindingId : Int
  sourceId : String
  providerId : String
  accountId : String
  upstreamModelId : String
  protocolUpstream : Protocol
  upstreamEndpoint : String
  mode : String
  adapter : Option String
  effectiveCapabilities : Capabilities
  degradedFeatures : List String
  deriving DecidableEq

/-- A route with its routable bindings in order of preference. -/
structure RuntimeRoute where
  routeId : String
  model : String
  protocol : Protocol
  strategy : String
  requestTimeoutMs : Option Int
  maxRetries : Option Int
  allowLossyConversion : Bool
  bindings : List RuntimeBinding
  deriving DecidableEq

abbrev ResolvedBinding := RuntimeBinding

structure ResolvedRoute where
  routeId : String
  strategy : String
  requestTimeoutMs : Option Int
  maxRetries : Option Int
  protocolIn : Protocol
  protocolUpstream : Protocol
  model : String
  upstreamModelId : String
  sourceId : String
  providerId : String
  primaryAccountId : String
  fallbackAccounts : List String
  fallbackBindings : List ResolvedBinding
  bindingId : Option Int
  upstreamEndpoint : String
  mode : String
  adapter : Option String
  effectiveCapabilities : Capabilities
  degradedFeatures : List String
  allowLossyConversion : Bool
  deriving DecidableEq

def ResolvedRoute.isDegraded (route : ResolvedRoute) : Bool := !route.degradedFeatures.isEmpty

structure RouteResolutionError where
  code : String
  message : String
  routeId : Option String
  deriving DecidableEq

/-- Whether the pattern is the model itself, and how many octets it fixes. -/
def modelMatchRank (pattern model : String) : Option (Bool × Nat) :=
  if pattern = model then some (true, pattern.utf8ByteSize)
  else if pattern = "*" then some (false, 0)
  else if prefixMatches pattern model then some (false, pattern.utf8ByteSize - 1)
  else none

def trimEndMatches (c : Char) (s : String) : String :=
  String.ofList (s.toList.reverse.dropWhile (· = c)).reverse

def trimStartMatches (c : Char) (s : String) : String := String.ofList (s.toList.dropWhile (· = c))

def joinEndpoint (base endpoint : String) : String :=
  if startsWith endpoint "http://" || startsWith endpoint "https://" then endpoint
  else trimEndMatches '/' base ++ "/" ++ trimStartMatches '/' endpoint

/-- One feature: the mode it keeps and its name when it is degraded. -/
def intersectFeature (name : String) (source : CapabilityMode) (adapter : Option CapabilityMode)
    (allowLossy : Bool) : Except String (CapabilityMode × List String) :=
  match adapter.getD .native with
  | .unsupported =>
    if source ≠ .unsupported then
      if allowLossy then .ok (.unsupported, [name]) else .error name
    else .ok (.unsupported, [])
  | .translated =>
    if source = .native then .ok (.translated, [name])
    else if source = .unsupported then .ok (.unsupported, [])
    else .ok (.translated, [])
  | .native => .ok (if source = .unsupported then .unsupported else .native, [])

def intersectCapabilities (model : Capabilities) (adapter : Option Capabilities)
    (allowLossy : Bool) : Except String (Capabilities × List String) := do
  let (streaming, d1) ← intersectFeature "streaming" model.streaming
    (adapter.map (·.streaming)) allowLossy
  let (tools, d2) ← intersectFeature "tools" model.tools (adapter.map (·.tools)) allowLossy
  let (toolStreaming, d3) ← intersectFeature "tool_streaming" model.toolStreaming
    (adapter.map (·.toolStreaming)) allowLossy
  let (thinking, d4) ← intersectFeature "thinking" model.thinking
    (adapter.map (·.thinking)) allowLossy
  let (webSearch, d5) ← intersectFeature "web_search" model.webSearch
    (adapter.map (·.webSearch)) allowLossy
  let (fileSearch, d6) ← intersectFeature "file_search" model.fileSearch
    (adapter.map (·.fileSearch)) allowLossy
  let (vision, d7) ← intersectFeature "vision" model.vision (adapter.map (·.vision)) allowLossy
  let (usage, d8) ← intersectFeature "usage" model.usage (adapter.map (·.usage)) allowLossy
  return ({ streaming, tools, toolStreaming, thinking, webSearch, fileSearch, vision, usage },
    d1 ++ d2 ++ d3 ++ d4 ++ d5 ++ d6 ++ d7 ++ d8)

def routeNotFound (protocol : Protocol) (model : String) : RouteResolutionError :=
  ⟨"route_not_found",
    "no route matches protocol " ++ protocol.toText ++ " and model '" ++ model ++ "'", none⟩

section ConfigResolver

variable (config : GatewayConfig)

/-- The upstream protocol, mode, adapter name and adapter features of a route
for a client protocol. -/
def resolveMode (route : RouteConfig) (provider : ProviderConfig) (account : AccountConfig)
    (protocol : Protocol) (model : String) :
    Except RouteResolutionError (Protocol × String × Option String × Option Capabilities) :=
  let declared := config.protocolCapability provider.id (some account.id) model protocol
  let fail (code message : String) : Except RouteResolutionError
      (Protocol × String × Option String × Option Capabilities) :=
    .error ⟨code, message, some route.id⟩
  if route.mode = "native" then
    if declared.mode = .native then .ok (protocol, "native", none, none)
    else fail "unsupported_protocol"
      ("protocol " ++ protocol.toText ++ " is not natively supported for model '" ++ model ++ "'")
  else if route.mode = "adapter" then
    match route.adapter with
    | none => fail "adapter_missing" "adapter route requires an adapter name"
    | some name =>
      match adapterDefinition name with
      | none => fail "adapter_unknown" ("unknown adapter '" ++ name ++ "'")
      | some definition =>
        if definition.fromProtocol ≠ protocol then
          fail "adapter_direction_mismatch" ("adapter '" ++ name ++ "' accepts " ++
            definition.fromProtocol.toText ++ ", not " ++ protocol.toText)
        else if declared.mode ≠ .adapter ∨ declared.adapter ≠ some name ∨
            declared.sourceProtocol ≠ some definition.toProtocol then
          fail "adapter_capability_mismatch" ("route adapter '" ++ name ++
            "' does not match the effective protocol capability")
        else if (config.protocolCapability provider.id (some account.id) model
            definition.toProtocol).mode ≠ .native then
          fail "adapter_source_unsupported" ("adapter source protocol " ++
            definition.toProtocol.toText ++ " is not natively available")
        else .ok (definition.toProtocol, "adapter", some name, some definition.features)
  else if route.mode = "unsupported" then
    fail "unsupported_protocol" ("route '" ++ route.id ++ "' explicitly marks protocol " ++
      protocol.toText ++ " unsupported")
  else fail "invalid_route_mode" ("unknown route mode '" ++ route.mode ++ "'")

def checkFallbacks (route : RouteConfig) (provider : ProviderConfig) :
    List String → Except RouteResolutionError Unit
  | [] => .ok ()
  | fallback :: rest =>
    match config.account fallback with
    | none => .error ⟨"fallback_account_not_found",
        "route references unknown fallback account '" ++ fallback ++ "'", some route.id⟩
    | some account =>
      if account.providerId ≠ provider.id then
        .error ⟨"fallback_provider_mismatch", "fallback account '" ++ fallback ++
          "' belongs to provider '" ++ account.providerId ++ "'", some route.id⟩
      else checkFallbacks route provider rest

/-- A disabled primary stays in the resolved route: the data plane owns the
decision to fall back. -/
def resolveCandidate (route : RouteConfig) (protocol : Protocol) (model : String) :
    Except RouteResolutionError ResolvedRoute :=
  match config.provider route.providerId with
  | none => .error ⟨"provider_not_found",
      "route references unknown provider '" ++ route.providerId ++ "'", some route.id⟩
  | some provider =>
  match config.account route.primaryAccountId with
  | none => .error ⟨"account_not_found",
      "route references unknown primary account '" ++ route.primaryAccountId ++ "'",
      some route.id⟩
  | some account =>
  if account.providerId ≠ provider.id then
    .error ⟨"account_provider_mismatch", "primary account '" ++ account.id ++
      "' belongs to provider '" ++ account.providerId ++ "'", some route.id⟩
  else
  match checkFallbacks config route provider route.fallbackAccounts with
  | .error error => .error error
  | .ok () =>
  match resolveMode config route provider account protocol model with
  | .error error => .error error
  | .ok (upstream, mode, adapterName, adapterFeatures) =>
  match provider.endpoints.get upstream with
  | none => .error ⟨"endpoint_missing",
      "provider '" ++ provider.id ++ "' has no endpoint for " ++ upstream.toText, some route.id⟩
  | some endpoint =>
  if trim endpoint = "" then
    .error ⟨"endpoint_missing",
      "provider '" ++ provider.id ++ "' has an empty endpoint for " ++ upstream.toText,
      some route.id⟩
  else
  match intersectCapabilities (config.capabilities provider.id (some account.id) model)
      adapterFeatures route.allowLossyConversion with
  | .error feature => .error ⟨"lossy_conversion_not_allowed",
      "feature '" ++ feature ++ "' cannot be represented by adapter", some route.id⟩
  | .ok (effective, degraded) =>
    .ok
      { routeId := route.id
        strategy := route.strategy
        requestTimeoutMs := none
        maxRetries := none
        protocolIn := protocol
        protocolUpstream := upstream
        model := model
        upstreamModelId := model
        sourceId := provider.id
        providerId := provider.id
        primaryAccountId := account.id
        fallbackAccounts := route.fallbackAccounts
        fallbackBindings := []
        bindingId := none
        upstreamEndpoint := joinEndpoint provider.baseUrl endpoint
        mode := mode
        adapter := adapterName
        effectiveCapabilities := effective
        degradedFeatures := degraded
        allowLossyConversion := route.allowLossyConversion }

/-- A matching route with the key it is sorted by: inexact, octets fixed, mode. -/
structure Ranked where
  index : Nat
  route : RouteConfig
  specificity : Nat
  exact : Bool
  modeRank : Nat

def Ranked.le (a b : Ranked) : Bool :=
  if a.exact ≠ b.exact then a.exact
  else if a.specificity ≠ b.specificity then b.specificity < a.specificity
  else a.modeRank ≤ b.modeRank

def rankedCandidates (protocol : Protocol) (model : String) : List Ranked :=
  (config.routes.mapIdx fun index route =>
    if route.protocols.contains protocol then
      (modelMatchRank route.model model).map fun rank =>
        ⟨index, route, rank.2, rank.1, if route.mode = "native" then 0 else 1⟩
    else none).filterMap id

def tryCandidates (protocol : Protocol) (model : String) :
    Option RouteResolutionError → List Ranked → Except RouteResolutionError (Nat × ResolvedRoute)
  | lastError, [] => .error (lastError.getD (routeNotFound protocol model))
  | _, candidate :: rest =>
    match resolveCandidate config candidate.route protocol model with
    | .ok route => .ok (candidate.index, route)
    | .error error => tryCandidates protocol model (some error) rest

/-- Exact model, then the longest prefix, then the wildcard; ties retain the
order of the configuration. -/
def resolveSelected (protocol : Protocol) (model : String) :
    Except RouteResolutionError (Nat × ResolvedRoute) :=
  tryCandidates config protocol model none
    ((rankedCandidates config protocol model).insertionSort fun a b => Ranked.le a b)

end ConfigResolver

def resolveRuntimeRoute (routes : List RuntimeRoute) (protocol : Protocol) (model : String) :
    Except RouteResolutionError ResolvedRoute :=
  match routes.find? fun route => route.protocol = protocol ∧ route.model = model with
  | none => .error (routeNotFound protocol model)
  | some route =>
    match route.bindings with
    | [] => .error ⟨"route_unavailable",
        "route '" ++ route.routeId ++ "' has no available binding", some route.routeId⟩
    | primary :: fallbackBindings =>
      .ok
        { routeId := route.routeId
          strategy := route.strategy
          requestTimeoutMs := route.requestTimeoutMs
          maxRetries := route.maxRetries
          protocolIn := protocol
          protocolUpstream := primary.protocolUpstream
          model := model
          upstreamModelId := primary.upstreamModelId
          sourceId := primary.sourceId
          providerId := primary.providerId
          primaryAccountId := primary.accountId
          fallbackAccounts := fallbackBindings.map RuntimeBinding.accountId
          fallbackBindings := fallbackBindings
          bindingId := some primary.bindingId
          upstreamEndpoint := primary.upstreamEndpoint
          mode := primary.mode
          adapter := primary.adapter
          effectiveCapabilities := primary.effectiveCapabilities
          degradedFeatures := primary.degradedFeatures
          allowLossyConversion := route.allowLossyConversion }

/-- A resolver over a published snapshot, or over a plain configuration. -/
structure RouteResolver where
  config : GatewayConfig
  runtimeRoutes : Option (List RuntimeRoute)

def RouteResolver.resolveDetailed (resolver : RouteResolver) (protocol : Protocol)
    (model : String) : Except RouteResolutionError ResolvedRoute :=
  match resolver.runtimeRoutes with
  | some routes => resolveRuntimeRoute routes protocol model
  | none => (resolveSelected resolver.config protocol model).map Prod.snd

end AiGateway.Routing
