import AiGateway.ControlPlane.ModelRouting

/-!
# Importing a configuration

A configuration is stored as rows: its providers become sources, each pattern of
a route is expanded to the models its provider lists, and every model gets a
logical model, a route, and one binding per account and protocol.
-/

namespace AiGateway.ControlPlane

set_option autoImplicit false

open AiGateway.Catalog AiGateway.Checked AiGateway.Config AiGateway.Health AiGateway.Json
  AiGateway.Text

/-! ## Stored values -/

def protocolModeName : ProtocolMode → String
  | .native => "native"
  | .adapter => "adapter"
  | .unsupported => "unsupported"

def protocolCapabilityValue (capability : ProtocolCapability) : Value :=
  .ofFields
    ([("mode", .string (protocolModeName capability.mode))] ++
    (capability.sourceProtocol.toList.map fun protocol =>
      ("source_protocol", .string protocol.toText)) ++
    capability.adapter.toList.map fun name => ("adapter", .string name))

def matrixValue (matrix : ProtocolCapabilityMatrix) : Value :=
  .ofFields (matrix.entries.map fun entry => (entry.1.toText, protocolCapabilityValue entry.2))

def capabilityModeName : CapabilityMode → String
  | .native => "native"
  | .translated => "translated"
  | .unsupported => "unsupported"

def capabilitiesValue (capabilities : Capabilities) : Value :=
  .ofFields
    [("streaming", .string (capabilityModeName capabilities.streaming)),
      ("tools", .string (capabilityModeName capabilities.tools)),
      ("tool_streaming", .string (capabilityModeName capabilities.toolStreaming)),
      ("thinking", .string (capabilityModeName capabilities.thinking)),
      ("web_search", .string (capabilityModeName capabilities.webSearch)),
      ("file_search", .string (capabilityModeName capabilities.fileSearch)),
      ("vision", .string (capabilityModeName capabilities.vision)),
      ("usage", .string (capabilityModeName capabilities.usage))]

/-- The built-in preset of the provider's name in its latest version, else the
custom one with the provider's own declarations. -/
def resolveImportProviderPreset (t : Tables) (provider : ProviderConfig) : String × Int × Value :=
  let named := (t.providerPresets.filter fun row => row.id = provider.id && row.id ≠ "custom")
  match (named.insertionSort fun a b => b.version ≤ a.version).head? with
  | some row => (provider.id, row.version, row.definition)
  | none =>
    ("custom", 1, .ofFields
      [("base_url", .string provider.baseUrl),
        ("endpoints", endpointsValue provider.endpoints),
        ("protocol_capabilities", matrixValue provider.protocolCapabilities),
        ("native_protocols", protocolsValue provider.nativeProtocols),
        ("capabilities", capabilitiesValue provider.capabilities)])

/-- `value as i32` of an unsigned 32-bit number. -/
def asInt32 (value : UInt32) : Int :=
  if value.toNat < 2 ^ 31 then value.toNat else (value.toNat : Int) - 2 ^ 32

/-! ## Expansion of patterns -/

def patternModels (provider : ProviderConfig) (pattern : String) : List String :=
  if pattern = "*" then provider.models
  else if (patternPrefix pattern).isSome then
    provider.models.filter fun model => prefixMatches pattern model
  else [pattern]

/-- The models a route stands for, sorted and without repetitions. -/
def routeModels (config : GatewayConfig) (route : RouteConfig) : List String :=
  match config.provider route.providerId with
  | none => []
  | some provider =>
    ((patternModels provider route.model).insertionSort fun a b => a ≤ b).dedup

def expandRouteModels (config : GatewayConfig) (route : RouteConfig) :
    Except ControlPlaneError (List String) := do
  let _ ← require (config.provider route.providerId)
    (.validation ["route '" ++ route.id ++ "' references unknown provider '" ++ route.providerId ++
      "'"])
  ensure (routeModels config route ≠ [])
    (.validation ["route '" ++ route.id ++ "' pattern '" ++ route.model ++
      "' matched no provider models"])
  return routeModels config route

def logicalModelId (publicName : String) : String := "logical:" ++ publicName

def importRouteId (route : RouteConfig) (models : List String) (index : Nat) : String :=
  if models.length = 1 then route.id else route.id ++ ":" ++ toString index

/-! ## Rows -/

section Import

variable (now : DateTime)

/-- Reading the definition of a preset for its authentication is left to the
JSON reader; the import fails when it cannot be read. -/
def importedAuth (readAuth : Value → Option Value) (preset : String × Int × Value) :
    Except ControlPlaneError Value :=
  if preset.1 = "custom" then .ok (.object []) else require (readAuth preset.2.2) .json

def importSource (readAuth : Value → Option Value) (db : Db) (provider : ProviderConfig) :
    Except ControlPlaneError Db := do
  let preset := resolveImportProviderPreset db.toTables provider
  let authConfig ← importedAuth readAuth preset
  statement (db.insertSource
    { id := provider.id
      displayName := provider.name
      providerPresetId := preset.1
      providerPresetVersion := preset.2.1
      providerPresetSnapshot := preset.2.2
      baseUrl := provider.baseUrl
      endpoints := endpointsValue provider.endpoints
      authConfig := authConfig
      protocolCapabilities := matrixValue provider.protocolCapabilities
      enabled := true
      createdAt := now
      updatedAt := now })

def importAccount (db : Db) (account : AccountConfig) : Except ControlPlaneError Db :=
  statement (db.insertAccount
    { id := account.id
      sourceId := account.providerId
      displayName := account.displayName
      credentialEnv := account.credentialEnv
      credentialCiphertext := none
      enabled := account.enabled
      weight := asInt32 account.weight
      health := { updatedAt := some now }
      createdAt := now
      updatedAt := now })

def importLogicalModel (name : String) (db : Db) : Except DbError Db :=
  match Rows.find LogicalModelRow.publicName name db.logicalModels with
  | none =>
    db.insertLogicalModel
      { id := logicalModelId name
        publicName := name
        displayName := name
        status := .confirmed
        metadata := .object []
        fieldSources := .object []
        enabled := true
        requestTimeoutMs := none
        maxRetries := none
        confirmedAt := some now
        unavailableAt := none
        createdAt := now
        updatedAt := now }
  | some existing =>
    db.updateLogicalModel existing.id fun row =>
      { row with
        displayName := name
        status := .confirmed
        enabled := true
        confirmedAt := some (row.confirmedAt.getD now)
        updatedAt := now }

def ensureImportedSourceModel (sourceId upstreamModelId : String) (db : Db) : Except DbError Db :=
  let snapshot : Value := .object [("origin", .string "GATEWAY_CONFIG_JSON")]
  match db.sourceModel? sourceId upstreamModelId with
  | none =>
    db.insertSourceModel
      { sourceId := sourceId
        upstreamModelId := upstreamModelId
        confirmationStatus := .confirmed
        availabilityStatus := .available
        rawSnapshot := snapshot
        metadata := .object []
        fieldSources := .object []
        matchedModelPreset := none
        firstDiscoveredAt := now
        lastDiscoveredAt := now
        confirmedAt := some now
        unavailableAt := none
        createdAt := now
        updatedAt := now }
  | some _ =>
    db.updateSourceModel sourceId upstreamModelId fun row =>
      { row with
        confirmationStatus := .confirmed
        availabilityStatus := .available
        rawSnapshot := snapshot
        confirmedAt := some (row.confirmedAt.getD now)
        unavailableAt := none
        updatedAt := now }

/-- A confirmed capability with the given columns, set by the user. -/
def putImportedCapability (sourceId upstreamModelId : String) (protocol : Protocol)
    (mode : SourceProtocolMode) (sourceProtocol : Option Protocol) (adapter : Option String)
    (features : Value) (db : Db) : Except DbError Db :=
  match db.capability? sourceId upstreamModelId protocol with
  | none =>
    db.insertCapability
      { sourceId := sourceId
        upstreamModelId := upstreamModelId
        protocol := protocol
        status := .confirmed
        mode := mode
        sourceProtocol := sourceProtocol
        adapter := adapter
        featureCapabilities := features
        fieldSource := .user
        observedAt := now
        confirmedAt := some now
        unavailableAt := none
        updatedAt := now }
  | some _ =>
    db.updateCapability sourceId upstreamModelId protocol fun row =>
      { row with
        status := .confirmed
        mode := mode
        sourceProtocol := sourceProtocol
        adapter := adapter
        featureCapabilities := features
        fieldSource := .user
        confirmedAt := some (row.confirmedAt.getD now)
        unavailableAt := none
        updatedAt := now }

def ensureImportedNativeCapability (sourceId upstreamModelId : String) (protocol : Protocol)
    (features : Value) (db : Db) : Except DbError Db :=
  putImportedCapability now sourceId upstreamModelId protocol .native none none features db

def ensureImportedCapability (config : GatewayConfig) (account : AccountConfig)
    (logicalModel upstreamModelId : String) (protocol : Protocol) (db : Db) :
    Except ControlPlaneError Db :=
  let capability :=
    config.protocolCapability account.providerId (some account.id) logicalModel protocol
  let features :=
    capabilitiesValue (config.capabilities account.providerId (some account.id) logicalModel)
  match capability.mode with
  | .native =>
    statement (putImportedCapability now account.providerId upstreamModelId protocol .native none
      none features db)
  | .adapter => do
    let sourceProtocol ← require capability.sourceProtocol
      (.validation ["imported adapter capability " ++ account.providerId ++ "/" ++
        protocol.toText ++ " is missing source_protocol"])
    let db ← statement (ensureImportedNativeCapability now account.providerId upstreamModelId
      sourceProtocol features db)
    statement (putImportedCapability now account.providerId upstreamModelId protocol .adapter
      (some sourceProtocol) capability.adapter features db)
  | .unsupported =>
    .error (.validation ["route import cannot bind unsupported protocol " ++ protocol.toText ++
      " on source '" ++ account.providerId ++ "'"])

/-- The trigger sees the row that would be inserted, and again the row that an
existing one becomes; the sequence moves on either way. -/
def importBinding (row : Int → BindingRow) (db : Db) : Except DbError Db :=
  let new := row db.nextBindingId
  match Rows.find BindingRow.tuple new.tuple db.bindings with
  | none => db.insertBinding row
  | some existing =>
    let merged : BindingRow :=
      { existing with
        status := .confirmed
        enabled := new.enabled
        priority := max existing.priority new.priority
        confirmedAt := some (existing.confirmedAt.getD now)
        updatedAt := now }
    if (new.isLive && !db.isRoutable new) || (merged.isLive && !db.isRoutable merged) then
      .error .checkViolation
    else
      enforce { db.toTables with
        bindings := Rows.updateWhere (fun row => row.id = existing.id) (fun _ => merged) db.bindings
        nextBindingId := db.nextBindingId + 1 }

def importedBinding (logicalModelId : String) (account : AccountConfig) (upstreamModelId : String)
    (protocol : Protocol) (priority id : Int) : BindingRow where
  id := id
  logicalModelId := logicalModelId
  sourceId := account.providerId
  accountId := account.id
  upstreamModelId := upstreamModelId
  protocol := protocol
  status := .confirmed
  enabled := account.enabled
  priority := priority
  confirmedAt := some now
  unavailableAt := none
  createdAt := now
  updatedAt := now

/-- The accounts of a route: the primary, then the fallbacks. -/
def routeAccountIds (route : RouteConfig) : List String :=
  route.primaryAccountId :: route.fallbackAccounts

section Route

variable (config : GatewayConfig) (route : RouteConfig)

def importAccountProtocol (storedId model : String) (account : AccountConfig)
    (upstreamModelId : String) (priority : Int) (db : Db) (protocol : Protocol) :
    Except ControlPlaneError Db := do
  let db ← ensureImportedCapability now config account model upstreamModelId protocol db
  statement (importBinding now
    (importedBinding now storedId account upstreamModelId protocol priority) db)

def importRouteAccount (storedId model : String) (db : Db) (entry : String × Nat) :
    Except ControlPlaneError Db := do
  let (accountId, index) := entry
  let account ← require (config.account accountId)
    (.validation ["route '" ++ route.id ++ "' references unknown account '" ++ accountId ++ "'"])
  let upstreamModelId := (account.modelMap.get model).getD model
  let db ← statement (ensureImportedSourceModel now account.providerId upstreamModelId db)
  let priority : Int := if index = 0 then 10000 else 1000 - index
  route.protocols.foldlM
    (importAccountProtocol now config storedId model account upstreamModelId priority) db

def importRouteModel (models : List String) (db : Db) (entry : String × Nat) :
    Except ControlPlaneError Db := do
  let (model, index) := entry
  let db ← statement (importLogicalModel now model db)
  let stored ← require (Rows.find LogicalModelRow.publicName model db.logicalModels) .database
  let db ← statement (db.insertRoute
    { id := importRouteId route models index
      logicalModelId := some stored.id
      modelPattern := model
      protocols := protocolsValue route.protocols
      strategy := route.strategy
      allowLossyConversion := route.allowLossyConversion
      enabled := true
      createdAt := now
      updatedAt := now })
  (routeAccountIds route).zipIdx.foldlM
    (importRouteAccount now config route stored.id model) db

end Route

def importRoute (config : GatewayConfig) (db : Db) (route : RouteConfig) :
    Except ControlPlaneError Db := do
  let models ← expandRouteModels config route
  models.zipIdx.foldlM (importRouteModel now config route models) db

def importGatewayConfig (readAuth : Value → Option Value) (config : GatewayConfig) (db : Db) :
    Except ControlPlaneError Db := do
  let db ← config.providers.foldlM (importSource now readAuth) db
  let db ← config.accounts.foldlM (importAccount now) db
  config.routes.foldlM (importRoute now config) db

/-! ## Initialization -/

def Tables.rowCount (t : Tables) : Nat :=
  t.sources.length + t.accounts.length + t.logicalModels.length + t.bindings.length +
    t.routes.length

/-- Every row of the control plane is removed; the presets stay. -/
def Tables.cleared (t : Tables) : Tables :=
  { t with
    sources := []
    accounts := []
    sourceModels := []
    capabilities := []
    logicalModels := []
    bindings := []
    routes := [] }

def clearForImport (db : Db) : Except ControlPlaneError Db :=
  if 0 < db.rowCount then statement (enforce db.toTables.cleared) else .ok db

def configErrors (service : Service) (config : GatewayConfig) : List String :=
  config.validationErrors ++
    (config.providers.mapIdx fun index provider =>
      match service.validateBaseUrl provider.baseUrl with
      | .ok () => []
      | .error error =>
        [sourceUrlValidationMessage ("providers[" ++ toString index ++ "].base_url") error]).flatten

def initializeFromConfig (service : Service) (readAuth : Value → Option Value)
    (config : GatewayConfig) (force : Bool) (db : Db) :
    Except ControlPlaneError (Option Committed) := do
  collected (configErrors service config) .validation
  ensure (config.accounts.all fun account => account.credential.isNone)
    (.validation ["GATEWAY_CONFIG_JSON cannot import plaintext account credentials; use " ++
      "credential_env"])
  if 0 < db.rowCount ∧ force = false then return none
  else do
    let db ← clearForImport db
    let db ← importGatewayConfig now readAuth config db
    let committed ← finishWrite service now db
    return some committed

end Import

end AiGateway.ControlPlane
