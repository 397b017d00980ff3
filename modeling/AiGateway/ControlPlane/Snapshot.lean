import AiGateway.ControlPlane.Schema
import AiGateway.Domain.Routing

/-!
# Runtime snapshots

The routable bindings of the committed rows, joined and ordered as the snapshot
query does, and the configuration, routes and published models built from them.
A row that cannot be used adds an error; a snapshot is published only without
errors.
-/

namespace AiGateway.ControlPlane

set_option autoImplicit false

open AiGateway.Catalog AiGateway.Checked AiGateway.Config AiGateway.Health AiGateway.Json
  AiGateway.Routing AiGateway.Text

inductive SourceUrlPolicyError where
  | invalidAllowlist
  | invalidUrl
  | disallowedTarget
  | dnsResolutionFailed
  | noResolvedAddresses
  | redirectBlocked
  deriving DecidableEq, Repr

inductive ControlPlaneError where
  | database
  | json
  | notFound (message : String)
  | conflict (message : String)
  | validation (errors : List String)
  | credential
  | noCiphertext
  deriving DecidableEq, Repr

/-- What the service is configured with and what its environment decides: the
policy on source addresses, the text order of the database, the row it gives
where a query asks for any one, and the text a JSON reader gives for a value it
cannot read. -/
structure Service where
  listenAddr : String
  validateBaseUrl : String → Except SourceUrlPolicyError Unit
  collation : String → String → Bool
  limitOne : List String → Option String
  jsonError : Value → String

/-! ## Stored JSON -/

def protocolOfName (name : String) : Option Protocol :=
  Protocol.all.find? fun protocol => protocol.toText = name

/-- A unit variant is a string, or an object whose only member is null. -/
def protocolOfValue : Value → Option Protocol
  | .string name => protocolOfName name
  | .object [(name, .null)] => protocolOfName name
  | _ => none

def protocolsOfValue : Value → Option (List Protocol)
  | .array items => items.mapM protocolOfValue
  | _ => none

def protocolsValue (protocols : List Protocol) : Value :=
  .array (protocols.map fun protocol => .string protocol.toText)

theorem protocolsOfValue_protocolsValue (protocols : List Protocol) :
    protocolsOfValue (protocolsValue protocols) = some protocols := by
  have hOne : ∀ protocol : Protocol, protocolOfValue (.string protocol.toText) = some protocol := by
    intro protocol
    cases protocol <;> decide
  induction protocols with
  | nil => rfl
  | cons protocol rest ih =>
    simp only [protocolsValue, protocolsOfValue, List.map_cons, List.mapM_cons, hOne] at ih ⊢
    rw [ih]
    rfl

def endpointsOfValue : Value → Option (Table Protocol String)
  | .object fields =>
    fields.foldlM (fun endpoints entry => do
      let protocol ← protocolOfName entry.1
      let endpoint ← entry.2.asStr
      return endpoints.insert protocol endpoint) .empty
  | _ => none

def endpointsValue (endpoints : Table Protocol String) : Value :=
  .ofFields (endpoints.entries.map fun entry => (entry.1.toText, .string entry.2))

def modeFromCatalog : Option Value → Except String CapabilityMode
  | none => .ok .unsupported
  | some (.bool true) => .ok .native
  | some (.bool false) => .ok .unsupported
  | some (.string text) =>
    if text = "supported" ∨ text = "native" then .ok .native
    else if text = "translated" then .ok .translated
    else if text = "unsupported" ∨ text = "unknown" then .ok .unsupported
    else .error ("unknown capability value '" ++ text ++ "'")
  | some _ => .error "capability values must be booleans or strings"

def capabilitiesFromCatalog (value : Value) : Except String Capabilities :=
  match value with
  | .null => .ok {}
  | .object fields => do
    let streaming ← modeFromCatalog (Fields.get fields "streaming")
    let tools ← modeFromCatalog (Fields.get fields "tools")
    let toolStreaming ← modeFromCatalog (Fields.get fields "tool_streaming")
    let thinking ← modeFromCatalog (Fields.get fields "thinking")
    let webSearch ← modeFromCatalog (Fields.get fields "web_search")
    let fileSearch ← modeFromCatalog (Fields.get fields "file_search")
    let vision ← modeFromCatalog (Fields.get fields "vision")
    let usage ← modeFromCatalog (Fields.get fields "usage")
    return { streaming, tools, toolStreaming, thinking, webSearch, fileSearch, vision, usage }
  | _ => .error "expected a JSON object"

/-! ## The snapshot query -/

structure SnapshotRow where
  routeId : String
  strategy : String
  requestTimeoutMs : Option Int
  maxRetries : Option Int
  publicName : String
  displayName : String
  routeProtocols : Value
  allowLossyConversion : Bool
  bindingId : Int
  priority : Int
  sourceId : String
  providerPresetId : String
  sourceDisplayName : String
  baseUrl : String
  endpoints : Value
  accountId : String
  accountDisplayName : String
  credentialEnv : Option String
  credentialCiphertext : Option String
  accountEnabled : Bool
  sourceEnabled : Bool
  weight : Int
  upstreamModelId : String
  protocol : Protocol
  mode : SourceProtocolMode
  sourceProtocol : Option Protocol
  adapter : Option String
  featureCapabilities : Value

/-- Whether a source model is confirmed and available. -/
def Tables.isUsable (t : Tables) (sourceId upstreamModelId : String) : Bool :=
  (t.sourceModel? sourceId upstreamModelId).any fun model =>
    model.confirmationStatus = .confirmed && model.availabilityStatus = .available

section Query

variable (usable : String → String → Bool) (t : Tables)

/-- The row a route and a binding contribute, if every join and condition of the
query holds.  The condition on the source model is a parameter. -/
def joinedRow (route : RouteRow) (binding : BindingRow) : Option SnapshotRow := do
  guard route.enabled
  let lm ← route.logicalModelId.bind t.logicalModel?
  guard (lm.enabled ∧ lm.status = .confirmed ∧ binding.logicalModelId = lm.id ∧ binding.isLive)
  let source ← t.source? binding.sourceId
  let account ← t.account? binding.accountId
  guard (account.sourceId = binding.sourceId ∧
    usable binding.sourceId binding.upstreamModelId)
  let capability ← t.capability? binding.sourceId binding.upstreamModelId binding.protocol
  guard (capability.status = .confirmed ∧ capability.mode.isRoutable)
  return {
    routeId := route.id
    strategy := route.strategy
    requestTimeoutMs := lm.requestTimeoutMs
    maxRetries := lm.maxRetries
    publicName := lm.publicName
    displayName := lm.displayName
    routeProtocols := route.protocols
    allowLossyConversion := route.allowLossyConversion
    bindingId := binding.id
    priority := binding.priority
    sourceId := binding.sourceId
    providerPresetId := source.providerPresetId
    sourceDisplayName := source.displayName
    baseUrl := source.baseUrl
    endpoints := source.endpoints
    accountId := binding.accountId
    accountDisplayName := account.displayName
    credentialEnv := account.credentialEnv
    credentialCiphertext := account.credentialCiphertext
    accountEnabled := account.enabled
    sourceEnabled := source.enabled
    weight := account.weight
    upstreamModelId := binding.upstreamModelId
    protocol := binding.protocol
    mode := capability.mode
    sourceProtocol := capability.sourceProtocol
    adapter := capability.adapter
    featureCapabilities := capability.featureCapabilities }

def joinedRows : List SnapshotRow :=
  t.routes.flatMap fun route => t.bindings.filterMap (joinedRow usable t route)

end Query

def protocolRank : Protocol → Nat
  | .openAiChatCompletions => 0
  | .openAiResponses => 1
  | .anthropicMessages => 2

/-- Route, protocol, falling priority, native before adapter, binding id. -/
def SnapshotRow.before (collation : String → String → Bool) (a b : SnapshotRow) : Bool :=
  if a.routeId ≠ b.routeId then collation a.routeId b.routeId
  else if a.protocol ≠ b.protocol then protocolRank a.protocol ≤ protocolRank b.protocol
  else if a.priority ≠ b.priority then b.priority ≤ a.priority
  else if (a.mode = .native) ≠ (b.mode = .native) then a.mode = .native
  else a.bindingId ≤ b.bindingId

def orderedRows (collation : String → String → Bool) (rows : List SnapshotRow) :
    List SnapshotRow :=
  rows.insertionSort fun a b => SnapshotRow.before collation a b

def snapshotRows (service : Service) (t : Tables) : List SnapshotRow :=
  orderedRows service.collation (joinedRows t.isUsable t)

/-! ## One row of the query -/

/-- What a usable row stands for at run time. -/
structure RowPlan where
  endpoints : Table Protocol String
  protocolUpstream : Protocol
  endpoint : String
  effectiveCapabilities : Capabilities
  degradedFeatures : List String

def bindingLabel (row : SnapshotRow) : String := "binding " ++ toString row.bindingId

def upstreamProtocol (row : SnapshotRow) : Except String (Option Protocol) :=
  match row.mode with
  | .native => .ok (some row.protocol)
  | .adapter =>
    match row.sourceProtocol with
    | some protocol => .ok (some protocol)
    | none => .error (bindingLabel row ++ " adapter capability is missing source_protocol")
  | .unknown | .unsupported => .ok none

def adapterFeatures (row : SnapshotRow) (upstream : Protocol) :
    Except String (Option Capabilities) :=
  if row.mode = .adapter then do
    let name ← require row.adapter (bindingLabel row ++ " is missing adapter")
    let definition ← require (adapterDefinition name)
      (bindingLabel row ++ " uses unknown adapter '" ++ name ++ "'")
    ensure (definition.fromProtocol = row.protocol ∧ definition.toProtocol = upstream)
      (bindingLabel row ++ " adapter '" ++ name ++ "' direction does not match " ++
        row.protocol.toText ++ " -> " ++ upstream.toText)
    return some definition.features
  else .ok none

def planUpstream (row : SnapshotRow) (endpoints : Table Protocol String) (upstream : Protocol) :
    Except String RowPlan := do
  let endpoint ← require ((endpoints.get upstream).filter fun endpoint => trim endpoint ≠ "")
    (bindingLabel row ++ " source '" ++ row.sourceId ++ "' has no endpoint for " ++
      upstream.toText)
  let source ← (capabilitiesFromCatalog row.featureCapabilities).mapError fun error =>
    bindingLabel row ++ " feature_capabilities is invalid: " ++ error
  let adapter ← adapterFeatures row upstream
  let (effective, degraded) ←
    (intersectCapabilities source adapter row.allowLossyConversion).mapError fun feature =>
      "route '" ++ row.routeId ++ "' " ++ bindingLabel row ++ " would lose feature '" ++ feature ++
        "' without allow_lossy_conversion"
  return ⟨endpoints, upstream, endpoint, effective, degraded⟩

/-- Nothing when the route does not serve the protocol of the binding. -/
def planRow (service : Service) (row : SnapshotRow) : Except String (Option RowPlan) :=
  match protocolsOfValue row.routeProtocols with
  | none => .error ("route '" ++ row.routeId ++ "'.protocols is invalid: " ++
      service.jsonError row.routeProtocols)
  | some protocols =>
    if row.protocol ∉ protocols then .ok none
    else
      match endpointsOfValue row.endpoints with
      | none => .error ("source '" ++ row.sourceId ++ "'.endpoints is invalid: " ++
          service.jsonError row.endpoints)
      | some endpoints =>
        match upstreamProtocol row with
        | .error error => .error error
        | .ok none => .ok none
        | .ok (some upstream) => (planUpstream row endpoints upstream).map some

/-! ## The snapshot under construction -/

structure Builder where
  providers : Table String ProviderConfig := .empty
  accounts : Table String AccountConfig := .empty
  routes : List RuntimeRoute := []
  models : List PublishedModel := []
  errors : List String := []

namespace Builder

def fail (builder : Builder) (error : String) : Builder :=
  { builder with errors := builder.errors ++ [error] }

def providerOf (builder : Builder) (row : SnapshotRow) (plan : RowPlan) : ProviderConfig :=
  let provider := (builder.providers.get row.sourceId).getD
    { id := row.sourceId, name := row.sourceDisplayName, baseUrl := row.baseUrl,
      endpoints := plan.endpoints }
  if provider.models.contains row.upstreamModelId then provider
  else { provider with models := provider.models ++ [row.upstreamModelId] }

def accountOf (builder : Builder) (row : SnapshotRow) : AccountConfig :=
  (builder.accounts.get row.accountId).getD
    { id := row.accountId
      providerId := row.sourceId
      displayName := row.accountDisplayName
      credentialEnv := row.credentialEnv
      credentialCiphertext := row.credentialCiphertext
      enabled := row.accountEnabled && row.sourceEnabled
      weight := UInt32.ofNat row.weight.toNat }

def runtimeBinding (row : SnapshotRow) (plan : RowPlan) : RuntimeBinding where
  bindingId := row.bindingId
  sourceId := row.sourceId
  providerId := row.providerPresetId
  accountId := row.accountId
  upstreamModelId := row.upstreamModelId
  protocolUpstream := plan.protocolUpstream
  upstreamEndpoint := joinEndpoint row.baseUrl plan.endpoint
  mode := if row.mode = .native then "native" else "adapter"
  adapter := row.adapter
  effectiveCapabilities := plan.effectiveCapabilities
  degradedFeatures := plan.degradedFeatures

def addRoute (row : SnapshotRow) (binding : RuntimeBinding) : List RuntimeRoute → List RuntimeRoute
  | [] =>
    [{ routeId := row.routeId
       model := row.publicName
       protocol := row.protocol
       strategy := row.strategy
       requestTimeoutMs := row.requestTimeoutMs
       maxRetries := row.maxRetries
       allowLossyConversion := row.allowLossyConversion
       bindings := [binding] }]
  | route :: rest =>
    if route.routeId = row.routeId ∧ route.model = row.publicName ∧ route.protocol = row.protocol
    then { route with bindings := route.bindings ++ [binding] } :: rest
    else route :: addRoute row binding rest

def addModel (row : SnapshotRow) : List PublishedModel → List PublishedModel
  | [] => [⟨row.publicName, row.displayName, [row.accountId]⟩]
  | model :: rest =>
    if model.id = row.publicName then
      (if model.accountIds.contains row.accountId then model
       else { model with accountIds := model.accountIds ++ [row.accountId] }) :: rest
    else model :: addModel row rest

def addBinding (builder : Builder) (row : SnapshotRow) (plan : RowPlan) : Builder :=
  { builder with
    routes := addRoute row (runtimeBinding row plan) builder.routes
    models := addModel row builder.models }

/-- An account serves a public name with one upstream model, unless the route
tries its bindings in order. -/
def addAccount (builder : Builder) (row : SnapshotRow) (plan : RowPlan) : Builder :=
  let account := builder.accountOf row
  match account.modelMap.get row.publicName with
  | some existing =>
    let builder := { builder with accounts := builder.accounts.insert row.accountId account }
    if existing ≠ row.upstreamModelId ∧ row.strategy ≠ "ordered_fallback" then
      builder.fail ("account '" ++ row.accountId ++
        "' has multiple upstream models for logical model '" ++ row.publicName ++ "'")
    else builder.addBinding row plan
  | none =>
    let account := { account with
      modelMap := account.modelMap.insert row.publicName row.upstreamModelId }
    addBinding { builder with accounts := builder.accounts.insert row.accountId account } row plan

def addPlanned (builder : Builder) (row : SnapshotRow) (plan : RowPlan) : Builder :=
  let builder := { builder with
    providers := builder.providers.insert row.sourceId (builder.providerOf row plan) }
  if row.weight ≤ 0 then
    builder.fail ("account '" ++ row.accountId ++ "' has non-positive weight")
  else builder.addAccount row plan

def addRow (service : Service) (builder : Builder) (row : SnapshotRow) : Builder :=
  match planRow service row with
  | .error error => builder.fail error
  | .ok none => builder
  | .ok (some plan) => builder.addPlanned row plan

end Builder

structure RuntimeSnapshot where
  config : GatewayConfig
  resolver : RouteResolver
  models : List PublishedModel
  revision : Int
  generatedAt : DateTime

def sortedById {α : Type} (id : α → String) (items : List α) : List α :=
  items.insertionSort fun a b => id a ≤ id b

def buildRows (service : Service) (rows : List SnapshotRow) : Builder :=
  rows.foldl (Builder.addRow service) {}

def snapshotOf (service : Service) (builder : Builder) (revision : Int)
    (generatedAt : DateTime) : RuntimeSnapshot :=
  let config : GatewayConfig :=
    { listenAddr := service.listenAddr
      providers := sortedById ProviderConfig.id (builder.providers.entries.map Prod.snd)
      accounts := sortedById AccountConfig.id (builder.accounts.entries.map Prod.snd)
      routes := [] }
  { config := config
    resolver := { config := config, runtimeRoutes := some builder.routes }
    models := sortedById PublishedModel.id builder.models
    revision := revision
    generatedAt := generatedAt }

def buildSnapshot (service : Service) (t : Tables) : Except ControlPlaneError RuntimeSnapshot := do
  let builder := buildRows service (snapshotRows service t)
  collected builder.errors .validation
  return snapshotOf service builder t.revision t.snapshotUpdatedAt

end AiGateway.ControlPlane
