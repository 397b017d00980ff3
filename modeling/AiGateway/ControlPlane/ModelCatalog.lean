import AiGateway.ControlPlane.ModelRouting

/-!
# Source models and their capabilities

Discovery lists the models of a source, a user confirms them and declares their
protocol capabilities.  Discovery, confirmation and metadata overrides commit
without building a snapshot; a capability write goes through one.
-/

namespace AiGateway.ControlPlane

set_option autoImplicit false

open AiGateway.Catalog AiGateway.Checked AiGateway.Health AiGateway.Json AiGateway.Text

inductive CatalogError where
  | database
  | json
  | notFound (message : String)
  | invalidMetadata (message : String)
  | invalidState (message : String)
  deriving DecidableEq, Repr

def CatalogError.ofDomain : Catalog.CatalogError → CatalogError
  | .json => .json
  | .invalidMetadata message => .invalidMetadata message
  | .invalidState message => .invalidState message

def ControlPlaneError.ofCatalog : CatalogError → ControlPlaneError
  | .database => .database
  | .json => .json
  | .notFound message => .notFound message
  | .invalidMetadata message | .invalidState message => .validation [message]

def catalogStatement (result : Except DbError Db) : Except CatalogError Db :=
  result.mapError fun _ => .database

def domainCheck {α : Type} (result : Except Catalog.CatalogError α) : Except CatalogError α :=
  result.mapError CatalogError.ofDomain

def SourceModelRow.catalogMetadata (row : SourceModelRow) : Except CatalogError CatalogMetadata :=
  domainCheck (CatalogMetadata.fromJson row.metadata row.fieldSources)

def sourceModelNotFound (sourceId upstreamModelId : String) : CatalogError :=
  .notFound ("source model " ++ sourceId ++ "/" ++ upstreamModelId ++ " not found")

section Catalogue

variable (now : DateTime)

/-! ## User decisions -/

def updateSourceModelUserOverrides (sourceId upstreamModelId : String)
    (overrides : MetadataValues) (db : Db) : Except CatalogError Db := do
  let existing ← require (db.sourceModel? sourceId upstreamModelId)
    (sourceModelNotFound sourceId upstreamModelId)
  let metadata ← existing.catalogMetadata
  let metadata ← domainCheck (metadata.applyUserOverrides overrides)
  catalogStatement (db.updateSourceModel sourceId upstreamModelId fun row =>
    { row with
      metadata := metadata.toJson.1, fieldSources := metadata.toJson.2, updatedAt := now })

structure SourceModelConfirmation where
  upstreamModelId : String
  userOverrides : MetadataValues

def confirmSourceModel (sourceId : String) (db : Db) (confirmation : SourceModelConfirmation) :
    Except CatalogError Db := do
  let existing ← require (db.sourceModel? sourceId confirmation.upstreamModelId)
    (sourceModelNotFound sourceId confirmation.upstreamModelId)
  ensure (existing.availabilityStatus = .available)
    (.invalidState ("only an available source model can be confirmed: " ++
      confirmation.upstreamModelId))
  let metadata ← existing.catalogMetadata
  let metadata ← domainCheck (metadata.applyUserOverrides confirmation.userOverrides)
  catalogStatement (db.updateSourceModel sourceId confirmation.upstreamModelId fun row =>
    { row with
      confirmationStatus := .confirmed
      metadata := metadata.toJson.1
      fieldSources := metadata.toJson.2
      confirmedAt := some (row.confirmedAt.getD now)
      updatedAt := now })

def confirmSourceModels (sourceId : String) (confirmations : List SourceModelConfirmation)
    (db : Db) : Except CatalogError Db := do
  ensure (confirmations ≠ [])
    (.invalidState "at least one source model confirmation is required")
  ensure (confirmations.map SourceModelConfirmation.upstreamModelId).Nodup
    (.invalidState "source model confirmation IDs must be unique")
  let ordered := confirmations.insertionSort fun a b => a.upstreamModelId ≤ b.upstreamModelId
  ordered.foldlM (confirmSourceModel now sourceId) db

/-! ## Discovery -/

structure SourceModelRefresh where
  sourceId : String
  upstreamModelId : String
  rawSnapshot : Value
  upstreamMetadata : MetadataValues
  matchedPreset : Option ModelPresetRef
  presetMetadata : Option MetadataValues
  discoveredAt : DateTime

structure DiscoveryApplyInput where
  sourceId : String
  accountId : Option String
  rawSnapshot : Value
  models : List SourceModelRefresh
  httpStatus : Int
  latencyMs : Int
  startedAt : DateTime
  completedAt : DateTime

def validateSourceModelRefresh (refresh : SourceModelRefresh) : Except CatalogError Unit := do
  ensure (trim refresh.sourceId ≠ "" ∧ trim refresh.upstreamModelId ≠ "")
    (.invalidMetadata "source and upstream model IDs cannot be empty")
  ensure (isObject refresh.rawSnapshot)
    (.invalidMetadata "source model raw snapshot must be an object")
  ensure (refresh.matchedPreset.isSome = refresh.presetMetadata.isSome)
    (.invalidMetadata "matched model preset reference and metadata must be provided together")
  domainCheck (MetadataValues.validate refresh.upstreamMetadata)
  match refresh.presetMetadata with
  | some metadata => domainCheck (MetadataValues.validate metadata)
  | none => return ()

/-- A listed model is inserted as pending, or made available again; a confirmed
one keeps its metadata and preset. -/
def refreshSourceModel (db : Db) (refresh : SourceModelRefresh) : Except CatalogError Db := do
  validateSourceModelRefresh refresh
  let discovered ←
    domainCheck (CatalogMetadata.resolve refresh.upstreamMetadata refresh.presetMetadata)
  match db.sourceModel? refresh.sourceId refresh.upstreamModelId with
  | none =>
    catalogStatement (db.insertSourceModel
      { sourceId := refresh.sourceId
        upstreamModelId := refresh.upstreamModelId
        confirmationStatus := .pending
        availabilityStatus := .available
        rawSnapshot := refresh.rawSnapshot
        metadata := discovered.toJson.1
        fieldSources := discovered.toJson.2
        matchedModelPreset := refresh.matchedPreset
        firstDiscoveredAt := refresh.discoveredAt
        lastDiscoveredAt := refresh.discoveredAt
        confirmedAt := none
        unavailableAt := none
        createdAt := now
        updatedAt := now })
  | some existing =>
    let metadata ← existing.catalogMetadata
    let refreshed ← domainCheck (metadata.refreshedPreservingUserFields
      (existing.confirmationStatus = .confirmed) refresh.upstreamMetadata refresh.presetMetadata)
    catalogStatement (db.updateSourceModel refresh.sourceId refresh.upstreamModelId fun row =>
      { row with
        availabilityStatus := .available
        rawSnapshot := refresh.rawSnapshot
        metadata := refreshed.toJson.1
        fieldSources := refreshed.toJson.2
        matchedModelPreset :=
          if existing.confirmationStatus = .confirmed then existing.matchedModelPreset
          else refresh.matchedPreset
        lastDiscoveredAt := refresh.discoveredAt
        unavailableAt := none
        updatedAt := now })

def DiscoveryApplyInput.modelIds (input : DiscoveryApplyInput) : List String :=
  input.models.map SourceModelRefresh.upstreamModelId

def validateDiscovery (input : DiscoveryApplyInput) : Except CatalogError Unit := do
  ensure (200 ≤ input.httpStatus ∧ input.httpStatus ≤ 299)
    (.invalidState "successful discovery requires a 2xx HTTP status")
  ensure (0 ≤ input.latencyMs ∧ input.startedAt ≤ input.completedAt)
    (.invalidState "discovery timing metadata is invalid")
  ensure (isNull input.rawSnapshot = false)
    (.invalidMetadata "discovery raw snapshot cannot be null")
  ensure input.modelIds.Nodup
    (.invalidMetadata "discovery result contains duplicate model IDs")

def validateDiscovered (input : DiscoveryApplyInput) (refresh : SourceModelRefresh) :
    Except CatalogError Unit := do
  validateSourceModelRefresh refresh
  ensure (refresh.sourceId = input.sourceId)
    (.invalidState "discovery models must belong to the requested source")

/-- A model of the source that was not listed becomes unavailable. -/
def markMissing (input : DiscoveryApplyInput) (db : Db) (previous : SourceModelRow) :
    Except CatalogError Db :=
  if previous.upstreamModelId ∈ input.modelIds ∨ previous.availabilityStatus = .unavailable then
    .ok db
  else
    catalogStatement (db.updateSourceModel input.sourceId previous.upstreamModelId fun row =>
      { row with
        availabilityStatus := .unavailable
        unavailableAt := some input.completedAt
        updatedAt := now })

def validateAccountForSource (t : Tables) (sourceId : String) (accountId : Option String) :
    Except CatalogError Unit :=
  match accountId with
  | none => .ok ()
  | some accountId =>
    ensure ((t.account? accountId).any fun row => row.sourceId = sourceId && row.enabled)
      (.notFound ("enabled account " ++ accountId ++ " for source " ++ sourceId ++
        " not found"))

/-- The record of the run and its diff, which no other operation reads, are left
out. -/
def applyDiscovery (input : DiscoveryApplyInput) (db : Db) : Except CatalogError Db := do
  validateDiscovery input
  let discovered := input.models.insertionSort fun a b => a.upstreamModelId ≤ b.upstreamModelId
  discovered.forM (validateDiscovered input)
  let _ ← require (db.source? input.sourceId)
    (.notFound ("source " ++ input.sourceId ++ " not found"))
  validateAccountForSource db.toTables input.sourceId input.accountId
  let before := db.sourceModels.filter fun row => row.sourceId = input.sourceId
  let db ← discovered.foldlM (refreshSourceModel now) db
  let db ← before.foldlM (markMissing now input) db
  ensure (input.models.length < 2 ^ 31)
    (.invalidState "discovery result contains too many models")
  return db

/-! ## Capabilities -/

def featureKeys : List String :=
  ["tools", "thinking", "web_search", "structured_output", "streaming", "usage"]

/-- Features the metadata states; a missing or malformed one is not guessed. -/
def deriveFeatureCapabilities (metadata : Value) : Table String CapabilitySupport :=
  let features := featureKeys.foldl (fun (features : Table String CapabilitySupport) key =>
    match (metadata.get key).bind Value.asStr |>.bind CapabilitySupport.ofName with
    | some support => features.insert key support
    | none => features) .empty
  match (metadata.get "input_modalities").bind Value.asArray with
  | some modalities =>
    if modalities.all fun modality => modality.asStr.isSome then
      features.insert "vision"
        (if modalities.any fun modality => modality.asStr = some "image"
         then .supported else .unsupported)
    else features
  | none => features

def featuresValue (features : Table String CapabilitySupport) : Value :=
  .ofFields (features.entries.map fun entry => (entry.1, .string entry.2.name))

def ensureTransition (current next : CatalogStatus) (entity : String) :
    Except CatalogError Unit :=
  ensure (current.canTransitionTo next)
    (.invalidState ("invalid " ++ entity ++ " status transition: " ++ current.debugName ++
      " -> " ++ next.debugName))

def checkAdapterSource (t : Tables) (input : SourceModelCapabilityInput) :
    Except CatalogError Unit :=
  match input.mode, input.sourceProtocol with
  | .adapter, some sourceProtocol =>
    ensure ((t.capability? input.sourceId input.upstreamModelId sourceProtocol).any
        fun capability => capability.status = .confirmed && capability.mode = .native)
      (.invalidState ("adapter source protocol " ++ sourceProtocol.toText ++
        " must be confirmed native"))
  | _, _ => .ok ()

def upsertCapabilityRow (input : SourceModelCapabilityInput) (db : Db) : Except DbError Db :=
  let row : CapabilityRow :=
    { sourceId := input.sourceId
      upstreamModelId := input.upstreamModelId
      protocol := input.protocol
      status := input.status
      mode := input.mode
      sourceProtocol := input.sourceProtocol
      adapter := input.adapter
      featureCapabilities := featuresValue input.featureCapabilities
      fieldSource := input.fieldSource
      observedAt := input.observedAt
      confirmedAt := stampIf now (input.status = .confirmed)
      unavailableAt := stampIf now (input.status = .unavailable)
      updatedAt := now }
  match db.capability? input.sourceId input.upstreamModelId input.protocol with
  | none => db.insertCapability row
  | some _ =>
    db.updateCapability input.sourceId input.upstreamModelId input.protocol fun old =>
      { row with confirmedAt := confirmedStamp now input.status old.confirmedAt }

/-- A confirmed declaration is replaced only by a user. -/
def upsertSourceModelCapabilityConn (input : SourceModelCapabilityInput) (db : Db) :
    Except CatalogError Db := do
  domainCheck input.validate
  match db.capability? input.sourceId input.upstreamModelId input.protocol with
  | some current =>
    ensureTransition current.status input.status "source model capability"
    if current.status = .confirmed ∧ input.status = .confirmed ∧ input.fieldSource ≠ .user then
      return db
    else do
      checkAdapterSource db.toTables input
      catalogStatement (upsertCapabilityRow now input db)
  | none =>
    checkAdapterSource db.toTables input
    catalogStatement (upsertCapabilityRow now input db)

def resolvedCapability (input : SourceModelCapabilityInput) (metadata : Value) :
    SourceModelCapabilityInput :=
  if input.featureCapabilities.entries = [] then
    { input with featureCapabilities := deriveFeatureCapabilities metadata }
  else input

def upsertSourceModelCapability (service : Service) (input : SourceModelCapabilityInput)
    (db : Db) : Except ControlPlaneError Committed := do
  let model ← require (db.sourceModel? input.sourceId input.upstreamModelId)
    (.validation ["source model " ++ input.sourceId ++ "/" ++ input.upstreamModelId ++
      " not found"])
  let db ← (upsertSourceModelCapabilityConn now (resolvedCapability input model.metadata) db).mapError
    ControlPlaneError.ofCatalog
  finishWrite service now db

end Catalogue

end AiGateway.ControlPlane
