import AiGateway.Base.Table
import AiGateway.Base.Text
import AiGateway.Domain.Protocol

/-!
# The gateway configuration

Providers, accounts and routes with their capability declarations, the lookups
the resolver uses and the validation an imported configuration must pass.
-/

namespace AiGateway.Config

set_option autoImplicit false

open AiGateway.Text

inductive ProtocolMode where
  | native
  | adapter
  | unsupported
  deriving DecidableEq, Repr

structure ProtocolCapability where
  mode : ProtocolMode
  sourceProtocol : Option Protocol := none
  adapter : Option String := none
  deriving DecidableEq, Repr

inductive CapabilityMode where
  | native
  | translated
  | unsupported
  deriving DecidableEq, Repr

structure Capabilities where
  streaming : CapabilityMode := .unsupported
  tools : CapabilityMode := .unsupported
  toolStreaming : CapabilityMode := .unsupported
  thinking : CapabilityMode := .unsupported
  webSearch : CapabilityMode := .unsupported
  fileSearch : CapabilityMode := .unsupported
  vision : CapabilityMode := .unsupported
  usage : CapabilityMode := .unsupported
  deriving DecidableEq, Repr

structure AdapterDefinition where
  name : String
  fromProtocol : Protocol
  toProtocol : Protocol
  features : Capabilities
  deriving DecidableEq, Repr

/-- No production adapter is registered. -/
def adapterRegistry : List AdapterDefinition := []

def adapterDefinition (name : String) : Option AdapterDefinition :=
  adapterRegistry.find? fun definition => definition.name = name

abbrev ProtocolCapabilityMatrix := Table Protocol ProtocolCapability

namespace ProtocolCapability

def native : ProtocolCapability := { mode := .native }

def unsupported : ProtocolCapability := { mode := .unsupported }

def validate (capability : ProtocolCapability) (target : Protocol) : Except String Unit :=
  let name := target.toText
  match capability.mode with
  | .native =>
    if capability.sourceProtocol.isSome || capability.adapter.isSome then
      .error (name ++ ": native mode cannot set source_protocol or adapter")
    else .ok ()
  | .adapter =>
    match capability.sourceProtocol with
    | none => .error (name ++ ": adapter mode requires source_protocol")
    | some source =>
      if source = target then
        .error (name ++ ": adapter source_protocol must differ from target")
      else
        match capability.adapter with
        | some adapter =>
          if trim adapter = "" then .error (name ++ ": adapter mode requires adapter") else .ok ()
        | none => .error (name ++ ": adapter mode requires adapter")
  | .unsupported =>
    if capability.sourceProtocol.isSome || capability.adapter.isSome then
      .error (name ++ ": unsupported mode cannot set source_protocol or adapter")
    else .ok ()

end ProtocolCapability

structure ModelCapabilityOverride where
  protocolCapabilities : ProtocolCapabilityMatrix := .empty
  capabilities : Option Capabilities := none

structure ProviderConfig where
  id : String
  name : String
  baseUrl : String
  models : List String := []
  nativeProtocols : List Protocol := []
  endpoints : Table Protocol String := .empty
  capabilities : Capabilities := {}
  protocolCapabilities : ProtocolCapabilityMatrix := .empty
  modelOverrides : Table String ModelCapabilityOverride := .empty

structure AccountConfig where
  id : String
  providerId : String
  displayName : String
  credentialEnv : Option String := none
  credentialCiphertext : Option String := none
  credential : Option String := none
  enabled : Bool := true
  weight : UInt32 := 100
  protocolCapabilities : ProtocolCapabilityMatrix := .empty
  capabilities : Option Capabilities := none
  modelOverrides : Table String ModelCapabilityOverride := .empty
  modelMap : Table String String := .empty

structure RouteConfig where
  id : String
  model : String
  providerId : String
  protocols : List Protocol := []
  primaryAccountId : String
  fallbackAccounts : List String := []
  strategy : String := "primary_then_weighted_fallback"
  mode : String := "native"
  adapter : Option String := none
  allowLossyConversion : Bool := false

structure GatewayConfig where
  listenAddr : String
  providers : List ProviderConfig := []
  accounts : List AccountConfig := []
  routes : List RouteConfig := []

/-- The text before a final `*`. -/
def patternPrefix (pattern : String) : Option (List Char) :=
  if pattern.toList.getLast? = some '*' then some pattern.toList.dropLast else none

/-- A pattern that ends in `*` and whose other characters start the model. -/
def prefixMatches (pattern model : String) : Bool :=
  match patternPrefix pattern with
  | some start => start.isPrefixOf model.toList
  | none => false

/-- An exact key wins; otherwise the first matching pattern in iteration order. -/
def findModelOverride (overrides : Table String ModelCapabilityOverride) (model : String) :
    Option ModelCapabilityOverride :=
  (overrides.get model).orElse fun _ =>
    (overrides.entries.find? fun entry => entry.1 = "*" || prefixMatches entry.1 model).map
      Prod.snd

namespace GatewayConfig

def provider (config : GatewayConfig) (id : String) : Option ProviderConfig :=
  config.providers.find? fun provider => provider.id = id

def account (config : GatewayConfig) (id : String) : Option AccountConfig :=
  config.accounts.find? fun account => account.id = id

/-- Precedence: account and model, provider and model, account, provider, then
the legacy protocol list. -/
def protocolCapability (config : GatewayConfig) (providerId : String) (accountId : Option String)
    (model : String) (protocol : Protocol) : ProtocolCapability :=
  let provider := config.provider providerId
  let account := accountId.bind config.account
  let overridden (overrides : Table String ModelCapabilityOverride) :=
    (findModelOverride overrides model).bind fun entry => entry.protocolCapabilities.get protocol
  ((account.bind fun account => overridden account.modelOverrides).orElse fun _ =>
    (provider.bind fun provider => overridden provider.modelOverrides).orElse fun _ =>
    (account.bind fun account => account.protocolCapabilities.get protocol).orElse fun _ =>
    (provider.bind fun provider =>
      (provider.protocolCapabilities.get protocol).orElse fun _ =>
        if provider.nativeProtocols.contains protocol && provider.endpoints.containsKey protocol
        then some .native else none)).getD .unsupported

def capabilities (config : GatewayConfig) (providerId : String) (accountId : Option String)
    (model : String) : Capabilities :=
  let provider := config.provider providerId
  let account := accountId.bind config.account
  let overridden (overrides : Table String ModelCapabilityOverride) :=
    (findModelOverride overrides model).bind fun entry => entry.capabilities
  ((account.bind fun account => overridden account.modelOverrides).orElse fun _ =>
    (provider.bind fun provider => overridden provider.modelOverrides).orElse fun _ =>
    (account.bind fun account => account.capabilities).orElse fun _ =>
    provider.map fun provider => provider.capabilities).getD {}

end GatewayConfig

def hasEndpoint (endpoints : Table Protocol String) (protocol : Protocol) : Bool :=
  (endpoints.get protocol).any fun endpoint => trim endpoint ≠ ""

section Validation

variable (matrix : ProtocolCapabilityMatrix) (endpoints : Table Protocol String)
  (legacyNative : List Protocol) (scope : String)

def validateLegacyNative : List Protocol → Except String Unit
  | [] => .ok ()
  | protocol :: rest =>
    if hasEndpoint endpoints protocol then validateLegacyNative rest
    else .error (scope ++ ".native_protocols." ++ protocol.toText ++
      ": native protocol requires an endpoint")

def validateEntry (protocol : Protocol) (capability : ProtocolCapability) : Except String Unit :=
  let field := scope ++ ".protocol_capabilities." ++ protocol.toText
  match capability.validate protocol with
  | .error error => .error (field ++ ": " ++ error)
  | .ok () =>
    if capability.mode = .native ∧ hasEndpoint endpoints protocol = false then
      .error (field ++ ": native protocol requires an endpoint")
    else
      match capability.mode, capability.sourceProtocol, capability.adapter with
      | .adapter, some source, some name =>
        match adapterDefinition name with
        | none => .error (field ++ ".adapter: unknown adapter '" ++ name ++ "'")
        | some definition =>
          if definition.fromProtocol ≠ protocol ∨ definition.toProtocol ≠ source then
            .error (field ++ ": adapter '" ++ name ++ "' direction is " ++
              definition.fromProtocol.toText ++ " -> " ++ definition.toProtocol.toText ++
              ", configured " ++ protocol.toText ++ " -> " ++ source.toText)
          else .ok ()
      | _, _, _ => .ok ()

/-- An adapter's source must be directly available. -/
def validateAdapterSource (protocol : Protocol) (capability : ProtocolCapability) :
    Except String Unit :=
  let field := scope ++ ".protocol_capabilities." ++ protocol.toText ++ ".source_protocol: "
  match capability.mode, capability.sourceProtocol with
  | .adapter, some source =>
    match matrix.get source with
    | some sourceCapability =>
      match sourceCapability.mode with
      | .native =>
        if hasEndpoint endpoints source then .ok ()
        else .error (field ++ "native source " ++ source.toText ++ " requires an endpoint")
      | .adapter =>
        .error (field ++ "multi-segment adapter chain via " ++ source.toText ++
          " is not allowed")
      | .unsupported =>
        .error (field ++ "source protocol " ++ source.toText ++ " is unsupported")
    | none =>
      if hasEndpoint endpoints source || legacyNative.contains source then .ok ()
      else .error (field ++ "source protocol " ++ source.toText ++ " is unavailable")
  | _, _ => .ok ()

def validateBaseSource (base : ProtocolCapabilityMatrix) (target : Protocol)
    (capability : ProtocolCapability) : Except String Unit :=
  let field := scope ++ ".protocol_capabilities." ++ target.toText ++ ".source_protocol: "
  match capability.mode, capability.sourceProtocol with
  | .adapter, some source =>
    match base.get source with
    | some baseCapability =>
      match baseCapability.mode with
      | .unsupported =>
        .error (field ++ "source protocol " ++ source.toText ++
          " is unsupported in the base matrix")
      | .adapter =>
        .error (field ++ "multi-segment adapter chain via " ++ source.toText ++
          " is not allowed")
      | .native =>
        if hasEndpoint endpoints source then .ok ()
        else .error (field ++ "native source " ++ source.toText ++ " requires an endpoint")
    | none => .ok ()
  | _, _ => .ok ()

def forEntries (check : Protocol → ProtocolCapability → Except String Unit) :
    List (Protocol × ProtocolCapability) → Except String Unit
  | [] => .ok ()
  | entry :: rest =>
    match check entry.1 entry.2 with
    | .error error => .error error
    | .ok () => forEntries check rest

def validateMatrix : Except String Unit := do
  validateLegacyNative endpoints scope legacyNative
  forEntries (validateEntry endpoints scope) matrix.entries
  forEntries (validateAdapterSource matrix endpoints legacyNative scope) matrix.entries

def validateOverrideMatrix (base : ProtocolCapabilityMatrix) : Except String Unit := do
  validateMatrix matrix endpoints legacyNative scope
  forEntries (validateBaseSource endpoints scope base) matrix.entries

end Validation

/-- The message of a failed check, if it failed. -/
def errorOf (result : Except String Unit) : List String :=
  match result with
  | .ok () => []
  | .error error => [error]

namespace GatewayConfig

def validateProvider (index : Nat) (provider : ProviderConfig) : List String :=
  let scope := "providers[" ++ toString index ++ "] (" ++ provider.id ++ ")"
  errorOf (validateMatrix provider.protocolCapabilities provider.endpoints
      provider.nativeProtocols scope) ++
    provider.modelOverrides.entries.flatMap fun entry =>
      errorOf (validateOverrideMatrix entry.2.protocolCapabilities provider.endpoints
        provider.nativeProtocols (scope ++ ".model_overrides." ++ entry.1)
        provider.protocolCapabilities)

def validateAccount (config : GatewayConfig) (index : Nat) (account : AccountConfig) :
    List String :=
  let scope := "accounts[" ++ toString index ++ "] (" ++ account.id ++ ")"
  let provider := config.provider account.providerId
  let endpoints := (provider.map ProviderConfig.endpoints).getD .empty
  let native := (provider.map ProviderConfig.nativeProtocols).getD []
  let baseMatrix := (provider.map ProviderConfig.protocolCapabilities).getD .empty
  let accountBaseMatrix := baseMatrix.extend account.protocolCapabilities
  errorOf (validateOverrideMatrix account.protocolCapabilities endpoints native scope
      baseMatrix) ++
    account.modelOverrides.entries.flatMap fun entry =>
      errorOf (validateOverrideMatrix entry.2.protocolCapabilities endpoints native
        (scope ++ ".model_overrides." ++ entry.1) accountBaseMatrix)

def validateRouteProtocol (config : GatewayConfig) (scope : String) (route : RouteConfig)
    (provider : ProviderConfig) (index : Nat) (protocol : Protocol) : List String :=
  let protocolScope :=
    scope ++ ".protocols[" ++ toString index ++ "] (" ++ protocol.toText ++ ")"
  if route.mode = "native" then
    let capability :=
      config.protocolCapability provider.id (some route.primaryAccountId) route.model protocol
    if capability.mode = .native then []
    else [protocolScope ++ ": native route requires a native protocol capability"]
  else if route.mode = "adapter" then
    match route.adapter with
    | none => [protocolScope ++ ".adapter: adapter route requires adapter"]
    | some name =>
      match adapterDefinition name with
      | none => [protocolScope ++ ".adapter: unknown adapter '" ++ name ++ "'"]
      | some definition =>
        if definition.fromProtocol = protocol then []
        else [protocolScope ++ ".adapter: adapter '" ++ name ++ "' accepts " ++
          definition.fromProtocol.toText ++ ", not " ++ protocol.toText]
  else if route.mode = "unsupported" then
    if route.adapter.isSome then
      [protocolScope ++ ".adapter: unsupported route cannot set adapter"]
    else []
  else [scope ++ ".mode: unknown route mode '" ++ route.mode ++
    "' (expected native, adapter, or unsupported)"]

def validateRouteFallback (config : GatewayConfig) (scope : String) (route : RouteConfig)
    (provider : ProviderConfig) (index : Nat) (fallbackId : String) : List String :=
  let fbScope := scope ++ ".fallback_accounts[" ++ toString index ++ "] (" ++ fallbackId ++ ")"
  match config.account fallbackId with
  | none => [fbScope ++ ": unknown account"]
  | some fbAccount =>
    if fbAccount.providerId = provider.id then []
    else
      (if route.mode = "adapter" then
        [fbScope ++ ": adapter route cannot have cross-provider fallback"] else []) ++
      match config.provider fbAccount.providerId with
      | none => [fbScope ++ ": unknown provider '" ++ fbAccount.providerId ++ "'"]
      | some fbProvider =>
        route.protocols.flatMap fun protocol =>
          let capability :=
            config.protocolCapability fbProvider.id (some fbAccount.id) route.model protocol
          if capability.mode = .native then []
          else [fbScope ++ ": cross-provider fallback requires native protocol " ++
            protocol.toText ++ " on provider '" ++ fbProvider.id ++ "'"]

def validateRoute (config : GatewayConfig) (index : Nat) (route : RouteConfig) : List String :=
  let scope := "routes[" ++ toString index ++ "] (" ++ route.id ++ ")"
  match config.provider route.providerId with
  | none => [scope ++ ".provider_id: unknown provider " ++ route.providerId]
  | some provider =>
    (if route.protocols.isEmpty then
      [scope ++ ".protocols: must contain at least one protocol"] else []) ++
    (route.protocols.mapIdx fun i protocol =>
      validateRouteProtocol config scope route provider i protocol).flatten ++
    (route.fallbackAccounts.mapIdx fun i fallbackId =>
      validateRouteFallback config scope route provider i fallbackId).flatten

def validationErrors (config : GatewayConfig) : List String :=
  (config.providers.mapIdx validateProvider).flatten ++
    (config.accounts.mapIdx config.validateAccount).flatten ++
    (config.routes.mapIdx config.validateRoute).flatten

def validate (config : GatewayConfig) : Except (List String) Unit :=
  if config.validationErrors.isEmpty then .ok () else .error config.validationErrors

end GatewayConfig

end AiGateway.Config
