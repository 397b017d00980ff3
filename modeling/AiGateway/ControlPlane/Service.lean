import AiGateway.ControlPlane.Validation

/-!
# Control-plane writes

Each write is one transaction: it checks its input, edits rows, and is committed
only if the candidate database passes the checks that precede a snapshot and the
snapshot itself is built without errors.
-/

namespace AiGateway.ControlPlane

set_option autoImplicit false

open AiGateway.Catalog AiGateway.Checked AiGateway.Config AiGateway.Health AiGateway.Json
  AiGateway.Text

def ControlPlaneError.ofDb (error : DbError) : ControlPlaneError :=
  match error with
  | .uniqueViolation => .conflict error.message
  | .foreignKeyViolation | .checkViolation => .validation [error.message]

def statement (result : Except DbError Db) : Except ControlPlaneError Db :=
  result.mapError ControlPlaneError.ofDb

/-- The database after a commit and the snapshot published from it. -/
structure Committed where
  db : Db
  snapshot : RuntimeSnapshot

def loadSnapshot (service : Service) (t : Tables) : Except ControlPlaneError RuntimeSnapshot := do
  validatePersistedSourceUrls service t
  validateCapabilityChains service t
  buildSnapshot service t

def finishWrite (service : Service) (now : DateTime) (db : Db) :
    Except ControlPlaneError Committed := do
  validatePersistedSourceUrls service db.toTables
  validateCapabilityChains service db.toTables
  let db ← statement (db.publish now)
  let snapshot ← buildSnapshot service db.toTables
  return ⟨db, snapshot⟩

section Writes

variable (service : Service) (now : DateTime)

/-! ## Sources -/

def manualHealth (enabled : Bool) (row : AccountRow) : AccountRow :=
  { row with
    health := { row.health with
      status := if enabled then "unknown" else "disabled"
      source := "manual"
      updatedAt := some now
      cooldownUntil := none
      consecutiveFailures := 0
      failureWindowStartedAt := none
      lastError := none
      lastSuccessAt := none
      lastProbeError := none } }

def createSource (input : SourceWrite) (db : Db) : Except ControlPlaneError Committed := do
  validateSourceInput service input
  ensure (db.source? input.id = none) (.conflict ("source '" ++ input.id ++ "' already exists"))
  let preset ← require (db.preset? input.providerPresetId input.providerPresetVersion)
    (.notFound ("provider preset '" ++ input.providerPresetId ++ "@" ++
      toString input.providerPresetVersion ++ "' not found"))
  let authConfig ← normalizeObject input.authConfig "source auth_config"
  let protocolCapabilities ←
    normalizeObject input.protocolCapabilities "source protocol_capabilities"
  let db ← statement (db.insertSource
    { id := input.id
      displayName := input.displayName
      providerPresetId := input.providerPresetId
      providerPresetVersion := input.providerPresetVersion
      providerPresetSnapshot := preset.definition
      baseUrl := input.baseUrl
      endpoints := endpointsValue input.endpoints
      authConfig := authConfig
      protocolCapabilities := protocolCapabilities
      enabled := input.enabled
      createdAt := now
      updatedAt := now })
  finishWrite service now db

/-- Switching a source resets the health of its accounts. -/
def switchSourceHealth (id : String) (previous enabled : Bool) (db : Db) :
    Except ControlPlaneError Db :=
  if previous ≠ enabled then
    statement (db.updateAccounts (fun row => row.sourceId = id) (manualHealth now enabled))
  else .ok db

def updateSource (id : String) (input : SourceWrite) (db : Db) :
    Except ControlPlaneError Committed := do
  validateResourceId id input.id "source"
  validateSourceInput service input
  let current ← require (db.source? id) (.notFound ("source '" ++ id ++ "' not found"))
  ensure (current.providerPresetId = input.providerPresetId ∧
      current.providerPresetVersion = input.providerPresetVersion)
    (.validation ["a Source provider preset snapshot is immutable after creation"])
  let authConfig ← normalizeObject input.authConfig "source auth_config"
  let protocolCapabilities ←
    normalizeObject input.protocolCapabilities "source protocol_capabilities"
  let db ← statement (db.updateSource id fun row =>
    { row with
      displayName := input.displayName
      baseUrl := input.baseUrl
      endpoints := endpointsValue input.endpoints
      authConfig := authConfig
      protocolCapabilities := protocolCapabilities
      enabled := input.enabled
      updatedAt := now })
  let db ← switchSourceHealth now id current.enabled input.enabled db
  finishWrite service now db

def setSourceEnabled (id : String) (enabled : Bool) (db : Db) :
    Except ControlPlaneError Committed := do
  let current ← require (db.source? id) (.notFound ("source '" ++ id ++ "' not found"))
  let db ← statement (db.updateSource id fun row =>
    { row with enabled := enabled, updatedAt := now })
  let db ← switchSourceHealth now id current.enabled enabled db
  finishWrite service now db

def deleteSource (id : String) (db : Db) : Except ControlPlaneError Committed := do
  let _ ← require (db.source? id) (.notFound ("source '" ++ id ++ "' not found"))
  let db ← statement (db.deleteSource id)
  finishWrite service now db

/-! ## Accounts -/

def accountNotFound (id : String) : ControlPlaneError :=
  .notFound ("account '" ++ id ++ "' not found")

def ensureSourceExists (t : Tables) (id : String) : Except ControlPlaneError Unit :=
  ensure ((t.source? id).isSome) (.notFound ("source '" ++ id ++ "' not found"))

/-- Re-encryption of a ciphertext is the work of the secret resolver. -/
def rotateAccountCredential (rotate : String → String → String → Option String) (id : String)
    (db : Db) : Except ControlPlaneError Committed := do
  let account ← require (db.account? id) (.notFound "account not found")
  let ciphertext ← require account.credentialCiphertext .noCiphertext
  let rotated ← require (rotate account.sourceId id ciphertext) .credential
  let db ← statement (db.updateAccounts (fun row => row.id = id) fun row =>
    { row with credentialCiphertext := some rotated, updatedAt := now })
  finishWrite service now db

def createAccount (input : AccountWrite) (db : Db) : Except ControlPlaneError Committed := do
  validateAccountInput input
  ensure (db.account? input.id = none) (.conflict ("account '" ++ input.id ++ "' already exists"))
  ensureSourceExists db.toTables input.sourceId
  let row : AccountRow :=
    { id := input.id
      sourceId := input.sourceId
      displayName := input.displayName
      credentialEnv := input.credentialEnv
      credentialCiphertext := input.credentialCiphertext
      enabled := input.enabled
      weight := input.weight
      -- the time of an insert is the default of the column
      health := { updatedAt := some now }
      createdAt := now
      updatedAt := now }
  let db ← statement (db.insertAccount
    (if input.enabled then row else manualHealth now false row))
  finishWrite service now db

def updateAccount (id : String) (input : AccountWrite) (db : Db) :
    Except ControlPlaneError Committed := do
  validateResourceId id input.id "account"
  validateAccountInput input
  ensureSourceExists db.toTables input.sourceId
  let previous ← require (db.account? id) (accountNotFound id)
  let db ← statement (db.updateAccounts (fun row => row.id = id) fun row =>
    let row := { row with
      sourceId := input.sourceId
      displayName := input.displayName
      credentialCiphertext := input.credentialCiphertext
      credentialEnv := input.credentialEnv
      enabled := input.enabled
      weight := input.weight
      updatedAt := now }
    if previous.sourceId ≠ input.sourceId ∨ previous.enabled ≠ input.enabled
    then manualHealth now input.enabled row else row)
  finishWrite service now db

def setAccountEnabled (id : String) (enabled : Bool) (db : Db) :
    Except ControlPlaneError Committed := do
  let _ ← require (db.account? id) (accountNotFound id)
  let db ← statement (db.updateAccounts (fun row => row.id = id) fun row =>
    manualHealth now enabled { row with enabled := enabled, updatedAt := now })
  finishWrite service now db

def deleteAccount (id : String) (db : Db) : Except ControlPlaneError Committed := do
  let _ ← require (db.account? id) (accountNotFound id)
  let db ← statement (db.deleteAccount id)
  finishWrite service now db

/-! ## Logical models -/

def logicalModelNotFound (id : String) : ControlPlaneError :=
  .notFound ("logical model '" ++ id ++ "' not found")

/-- The stamp of a row inserted with a status. -/
def stampIf (condition : Prop) [Decidable condition] : Option DateTime :=
  if condition then some now else none

/-- The confirmation stamp an update keeps or sets. -/
def confirmedStamp (status : CatalogStatus) (old : Option DateTime) : Option DateTime :=
  if status = .confirmed then some (old.getD now) else old

def createLogicalModel (input : LogicalModelWrite) (db : Db) :
    Except ControlPlaneError Committed := do
  validateLogicalModelInput input
  ensure (db.logicalModel? input.id = none)
    (.conflict ("logical model '" ++ input.id ++ "' already exists"))
  let metadata ← normalizeObject input.metadata "logical model metadata"
  let fieldSources ← normalizeObject input.fieldSources "logical model field_sources"
  let db ← statement (db.insertLogicalModel
    { id := input.id
      publicName := input.publicName
      displayName := input.displayName
      status := input.status
      metadata := metadata
      fieldSources := fieldSources
      enabled := input.enabled
      requestTimeoutMs := none
      maxRetries := none
      confirmedAt := stampIf now (input.status = .confirmed)
      unavailableAt := stampIf now (input.status = .unavailable)
      createdAt := now
      updatedAt := now })
  finishWrite service now db

def updateLogicalModel (id : String) (input : LogicalModelWrite) (db : Db) :
    Except ControlPlaneError Committed := do
  validateResourceId id input.id "logical model"
  validateLogicalModelInput input
  let current ← require (db.logicalModel? id) (logicalModelNotFound id)
  validateStatusTransition current.status input.status "logical model"
  let metadata ← normalizeObject input.metadata "logical model metadata"
  let fieldSources ← normalizeObject input.fieldSources "logical model field_sources"
  let db ← statement (db.updateLogicalModel id fun row =>
    { row with
      publicName := input.publicName
      displayName := input.displayName
      status := input.status
      metadata := metadata
      fieldSources := fieldSources
      enabled := input.enabled
      confirmedAt := confirmedStamp now input.status row.confirmedAt
      unavailableAt := stampIf now (input.status = .unavailable)
      updatedAt := now })
  finishWrite service now db

def setLogicalModelEnabled (id : String) (enabled : Bool) (db : Db) :
    Except ControlPlaneError Committed := do
  let _ ← require (db.logicalModel? id) (logicalModelNotFound id)
  let db ← statement (db.updateLogicalModel id fun row =>
    { row with enabled := enabled, updatedAt := now })
  finishWrite service now db

def deleteLogicalModel (id : String) (db : Db) : Except ControlPlaneError Committed := do
  let _ ← require (db.logicalModel? id) (logicalModelNotFound id)
  let db ← statement (db.deleteLogicalModel id)
  finishWrite service now db

/-! ## Bindings -/

def bindingNotFound (id : Int) : ControlPlaneError :=
  .notFound ("model binding '" ++ toString id ++ "' not found")

def newBinding (input : ModelBindingWrite) (id : Int) : BindingRow where
  id := id
  logicalModelId := input.logicalModelId
  sourceId := input.sourceId
  accountId := input.accountId
  upstreamModelId := input.upstreamModelId
  protocol := input.protocol
  status := input.status
  enabled := input.enabled
  priority := input.priority
  confirmedAt := stampIf now (input.status = .confirmed)
  unavailableAt := stampIf now (input.status = .unavailable)
  createdAt := now
  updatedAt := now

def createModelBinding (input : ModelBindingWrite) (db : Db) :
    Except ControlPlaneError Committed := do
  validateBindingInputShape input
  validateBindingReference service db.toTables input
  let db ← statement (db.insertBinding (newBinding now input))
  finishWrite service now db

def updateModelBinding (id : Int) (input : ModelBindingWrite) (db : Db) :
    Except ControlPlaneError Committed := do
  validateBindingInputShape input
  let current ← require (db.binding? id) (bindingNotFound id)
  validateStatusTransition current.status input.status "model binding"
  validateBindingReference service db.toTables input
  let db ← statement (db.updateBinding id fun row =>
    { row with
      logicalModelId := input.logicalModelId
      sourceId := input.sourceId
      accountId := input.accountId
      upstreamModelId := input.upstreamModelId
      protocol := input.protocol
      status := input.status
      enabled := input.enabled
      priority := input.priority
      confirmedAt := confirmedStamp now input.status row.confirmedAt
      unavailableAt := stampIf now (input.status = .unavailable)
      updatedAt := now })
  finishWrite service now db

def BindingRow.asWrite (row : BindingRow) (enabled : Bool) : ModelBindingWrite where
  logicalModelId := row.logicalModelId
  sourceId := row.sourceId
  accountId := row.accountId
  upstreamModelId := row.upstreamModelId
  protocol := row.protocol
  status := row.status
  enabled := enabled
  priority := row.priority

def setModelBindingEnabled (id : Int) (enabled : Bool) (db : Db) :
    Except ControlPlaneError Committed := do
  let existing ← require (db.binding? id) (bindingNotFound id)
  onlyIf enabled (validateBindingReference service db.toTables (existing.asWrite enabled))
  let db ← statement (db.updateBinding id fun row =>
    { row with enabled := enabled, updatedAt := now })
  finishWrite service now db

def deleteModelBinding (id : Int) (db : Db) : Except ControlPlaneError Committed := do
  let _ ← require (db.binding? id) (bindingNotFound id)
  let db ← statement (db.deleteBindings fun row => row.id = id)
  finishWrite service now db

/-! ## Routes -/

def routeNotFound (id : String) : ControlPlaneError := .notFound ("route '" ++ id ++ "' not found")

def newRoute (input : RouteWrite) (publicName : String) : RouteRow where
  id := input.id
  logicalModelId := some input.logicalModelId
  modelPattern := publicName
  protocols := protocolsValue input.protocols
  strategy := input.strategy
  allowLossyConversion := input.allowLossyConversion
  enabled := input.enabled
  createdAt := now
  updatedAt := now

def createRoute (input : RouteWrite) (db : Db) : Except ControlPlaneError Committed := do
  validateRouteInputShape input
  ensure (db.route? input.id = none) (.conflict ("route '" ++ input.id ++ "' already exists"))
  validateRouteReference service db.toTables input
  let lm ← require (db.logicalModel? input.logicalModelId) .database
  let db ← statement (db.insertRoute (newRoute now input lm.publicName))
  finishWrite service now db

def updateRoute (id : String) (input : RouteWrite) (db : Db) :
    Except ControlPlaneError Committed := do
  validateResourceId id input.id "route"
  validateRouteInputShape input
  validateRouteReference service db.toTables input
  let lm ← require (db.logicalModel? input.logicalModelId) .database
  let _ ← require (db.route? id) (routeNotFound id)
  let db ← statement (db.updateRoute id fun row =>
    { newRoute now input lm.publicName with id := row.id, createdAt := row.createdAt })
  finishWrite service now db

def setRouteEnabled (id : String) (enabled : Bool) (db : Db) :
    Except ControlPlaneError Committed := do
  let current ← require (db.route? id) (routeNotFound id)
  let logicalModelId ← require current.logicalModelId (routeNotFound id)
  onlyIf enabled do
    let protocols ← require (protocolsOfValue current.protocols) .json
    validateRouteReference service db.toTables
      { id := current.id
        logicalModelId := logicalModelId
        protocols := protocols
        strategy := current.strategy
        allowLossyConversion := current.allowLossyConversion
        enabled := enabled }
  let db ← statement (db.updateRoute id fun row =>
    { row with enabled := enabled, updatedAt := now })
  finishWrite service now db

def deleteRoute (id : String) (db : Db) : Except ControlPlaneError Committed := do
  let _ ← require (db.route? id) (routeNotFound id)
  let db ← statement (db.deleteRoutes fun row => row.id = id)
  finishWrite service now db

end Writes

end AiGateway.ControlPlane
