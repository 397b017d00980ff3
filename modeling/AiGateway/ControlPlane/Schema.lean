import AiGateway.Domain.Catalog
import AiGateway.Infra.Health
import Mathlib.Tactic.MkIffOfInductiveProp

/-!
# The control-plane tables

Rows of the control-plane tables, the constraints the schema declares on them
and the statements that edit them.  A database is a set of tables that meets the
constraints: a statement whose result would not is refused as a whole.

Legacy columns that every write leaves null or empty (`accounts.provider_id`,
`routes.provider_id`, `routes.primary_account_id` and the like) are left out, and
one reading of the clock serves all stamps of a write.
-/

namespace AiGateway.ControlPlane

set_option autoImplicit false

open AiGateway.Catalog AiGateway.Health AiGateway.Json

structure PresetRow where
  id : String
  version : Int
  displayName : String
  definition : Value
  createdAt : DateTime

structure ModelPresetRow where
  id : String
  version : Int
  canonicalModelId : String
  aliases : Value
  metadata : Value
  fieldSources : Value
  createdAt : DateTime
  updatedAt : DateTime

structure SourceRow where
  id : String
  displayName : String
  providerPresetId : String
  providerPresetVersion : Int
  providerPresetSnapshot : Value
  baseUrl : String
  endpoints : Value
  authConfig : Value
  protocolCapabilities : Value
  enabled : Bool
  createdAt : DateTime
  updatedAt : DateTime

structure HealthColumns where
  status : String := "unknown"
  source : String := "unknown"
  updatedAt : Option DateTime := none
  cooldownUntil : Option DateTime := none
  consecutiveFailures : Int := 0
  failureWindowStartedAt : Option DateTime := none
  lastError : Option String := none
  lastSuccessAt : Option DateTime := none
  lastProbeAt : Option DateTime := none
  lastProbeStatus : Option String := none
  lastProbeError : Option String := none

structure AccountRow where
  id : String
  sourceId : String
  displayName : String
  credentialEnv : Option String
  credentialCiphertext : Option String
  enabled : Bool
  weight : Int
  health : HealthColumns
  createdAt : DateTime
  updatedAt : DateTime

structure SourceModelRow where
  sourceId : String
  upstreamModelId : String
  confirmationStatus : CatalogStatus
  availabilityStatus : CatalogAvailability
  rawSnapshot : Value
  metadata : Value
  fieldSources : Value
  matchedModelPreset : Option ModelPresetRef
  firstDiscoveredAt : DateTime
  lastDiscoveredAt : DateTime
  confirmedAt : Option DateTime
  unavailableAt : Option DateTime
  createdAt : DateTime
  updatedAt : DateTime

structure CapabilityRow where
  sourceId : String
  upstreamModelId : String
  protocol : Protocol
  status : CatalogStatus
  mode : SourceProtocolMode
  sourceProtocol : Option Protocol
  adapter : Option String
  featureCapabilities : Value
  fieldSource : MetadataSource
  observedAt : DateTime
  confirmedAt : Option DateTime
  unavailableAt : Option DateTime
  updatedAt : DateTime

structure LogicalModelRow where
  id : String
  publicName : String
  displayName : String
  status : CatalogStatus
  metadata : Value
  fieldSources : Value
  enabled : Bool
  requestTimeoutMs : Option Int
  maxRetries : Option Int
  confirmedAt : Option DateTime
  unavailableAt : Option DateTime
  createdAt : DateTime
  updatedAt : DateTime

structure BindingRow where
  id : Int
  logicalModelId : String
  sourceId : String
  accountId : String
  upstreamModelId : String
  protocol : Protocol
  status : CatalogStatus
  enabled : Bool
  priority : Int
  confirmedAt : Option DateTime
  unavailableAt : Option DateTime
  createdAt : DateTime
  updatedAt : DateTime

/-- A legacy route has no logical model. -/
structure RouteRow where
  id : String
  logicalModelId : Option String
  modelPattern : String
  protocols : Value
  strategy : String
  allowLossyConversion : Bool
  enabled : Bool
  createdAt : DateTime
  updatedAt : DateTime

def SourceModelRow.key (row : SourceModelRow) : String × String :=
  (row.sourceId, row.upstreamModelId)

def CapabilityRow.key (row : CapabilityRow) : String × String × Protocol :=
  (row.sourceId, row.upstreamModelId, row.protocol)

def BindingRow.tuple (row : BindingRow) : String × String × String × String × Protocol :=
  (row.logicalModelId, row.sourceId, row.accountId, row.upstreamModelId, row.protocol)

/-- A binding that takes part in routing as far as its own columns go. -/
def BindingRow.isLive (row : BindingRow) : Bool := row.status = .confirmed && row.enabled

structure Tables where
  providerPresets : List PresetRow := []
  modelPresets : List ModelPresetRow := []
  sources : List SourceRow := []
  accounts : List AccountRow := []
  sourceModels : List SourceModelRow := []
  capabilities : List CapabilityRow := []
  logicalModels : List LogicalModelRow := []
  bindings : List BindingRow := []
  routes : List RouteRow := []
  /-- The next value of the binding id sequence. -/
  nextBindingId : Int := 1
  revision : Int := 0
  snapshotUpdatedAt : DateTime := 0

namespace Tables

def source? (t : Tables) (id : String) : Option SourceRow := Rows.find SourceRow.id id t.sources

def account? (t : Tables) (id : String) : Option AccountRow :=
  Rows.find AccountRow.id id t.accounts

def sourceModel? (t : Tables) (sourceId upstreamModelId : String) : Option SourceModelRow :=
  Rows.find SourceModelRow.key (sourceId, upstreamModelId) t.sourceModels

def capability? (t : Tables) (sourceId upstreamModelId : String) (protocol : Protocol) :
    Option CapabilityRow :=
  Rows.find CapabilityRow.key (sourceId, upstreamModelId, protocol) t.capabilities

def logicalModel? (t : Tables) (id : String) : Option LogicalModelRow :=
  Rows.find LogicalModelRow.id id t.logicalModels

def binding? (t : Tables) (id : Int) : Option BindingRow := Rows.find BindingRow.id id t.bindings

def route? (t : Tables) (id : String) : Option RouteRow := Rows.find RouteRow.id id t.routes

def preset? (t : Tables) (id : String) (version : Int) : Option PresetRow :=
  Rows.find (fun row => (row.id, row.version)) (id, version) t.providerPresets

end Tables

/-! ## Constraints -/

@[mk_iff]
structure Tables.Keys (t : Tables) : Prop where
  providerPresets : (t.providerPresets.map fun row => (row.id, row.version)).Nodup
  modelPresets : (t.modelPresets.map fun row => (row.id, row.version)).Nodup
  sources : (t.sources.map SourceRow.id).Nodup
  accounts : (t.accounts.map AccountRow.id).Nodup
  sourceModels : (t.sourceModels.map SourceModelRow.key).Nodup
  capabilities : (t.capabilities.map CapabilityRow.key).Nodup
  logicalModels : (t.logicalModels.map LogicalModelRow.id).Nodup
  publicNames : (t.logicalModels.map LogicalModelRow.publicName).Nodup
  bindings : (t.bindings.map BindingRow.id).Nodup
  bindingTuples : (t.bindings.map BindingRow.tuple).Nodup
  routes : (t.routes.map RouteRow.id).Nodup

@[mk_iff]
structure Tables.References (t : Tables) : Prop where
  sourcePreset : ∀ row ∈ t.sources, (row.providerPresetId, row.providerPresetVersion) ∈
    t.providerPresets.map fun preset => (preset.id, preset.version)
  accountSource : ∀ row ∈ t.accounts, row.sourceId ∈ t.sources.map SourceRow.id
  sourceModelSource : ∀ row ∈ t.sourceModels, row.sourceId ∈ t.sources.map SourceRow.id
  matchedPreset : ∀ row ∈ t.sourceModels, ∀ preset ∈ row.matchedModelPreset,
    (preset.id, preset.version) ∈ t.modelPresets.map fun row => (row.id, row.version)
  capabilityModel : ∀ row ∈ t.capabilities, (row.sourceId, row.upstreamModelId) ∈
    t.sourceModels.map SourceModelRow.key
  bindingLogicalModel : ∀ row ∈ t.bindings,
    row.logicalModelId ∈ t.logicalModels.map LogicalModelRow.id
  bindingModel : ∀ row ∈ t.bindings, (row.sourceId, row.upstreamModelId) ∈
    t.sourceModels.map SourceModelRow.key
  bindingCapability : ∀ row ∈ t.bindings, (row.sourceId, row.upstreamModelId, row.protocol) ∈
    t.capabilities.map CapabilityRow.key
  bindingAccount : ∀ row ∈ t.bindings, (row.accountId, row.sourceId) ∈
    t.accounts.map fun account => (account.id, account.sourceId)
  routeLogicalModel : ∀ row ∈ t.routes, ∀ id ∈ row.logicalModelId,
    id ∈ t.logicalModels.map LogicalModelRow.id

def StatusStamped (status : CatalogStatus) (confirmedAt unavailableAt : Option DateTime) : Prop :=
  (status = .confirmed → confirmedAt.isSome) ∧ (status = .unavailable → unavailableAt.isSome)

instance (status : CatalogStatus) (confirmedAt unavailableAt : Option DateTime) :
    Decidable (StatusStamped status confirmedAt unavailableAt) :=
  inferInstanceAs (Decidable (_ ∧ _))

def SourceModelRow.Check (row : SourceModelRow) : Prop :=
  row.confirmationStatus ≠ .unavailable ∧
  isObject row.metadata ∧ isObject row.fieldSources ∧
  (row.confirmationStatus = .confirmed → row.confirmedAt.isSome) ∧
  (row.availabilityStatus = .unavailable → row.unavailableAt.isSome)

instance (row : SourceModelRow) : Decidable row.Check := inferInstanceAs (Decidable (_ ∧ _))

/-- The trim of the database removes spaces only. -/
def sqlTrimmedEmpty (s : String) : Bool := s.toList.all (· = ' ')

def CapabilityRow.Check (row : CapabilityRow) : Prop :=
  isObject row.featureCapabilities ∧
  (if row.mode = .adapter then
    row.sourceProtocol.isSome ∧ row.adapter.any (fun name => !sqlTrimmedEmpty name) ∧
      row.sourceProtocol ≠ some row.protocol
  else row.sourceProtocol = none ∧ row.adapter = none) ∧
  (row.status = .confirmed → row.mode ≠ .unknown) ∧
  StatusStamped row.status row.confirmedAt row.unavailableAt

instance (row : CapabilityRow) : Decidable row.Check := inferInstanceAs (Decidable (_ ∧ _))

def LogicalModelRow.Check (row : LogicalModelRow) : Prop :=
  isObject row.metadata ∧ isObject row.fieldSources ∧
  (∀ timeout ∈ row.requestTimeoutMs, 0 < timeout) ∧
  (∀ retries ∈ row.maxRetries, 0 ≤ retries) ∧
  StatusStamped row.status row.confirmedAt row.unavailableAt

instance (row : LogicalModelRow) : Decidable row.Check := inferInstanceAs (Decidable (_ ∧ _))

def healthStatuses : List String :=
  ["unknown", "healthy", "cooling_down", "unhealthy", "stale", "disabled"]

def healthSources : List String := ["unknown", "passive", "probe", "manual", "startup"]

def AccountRow.Check (row : AccountRow) : Prop :=
  row.health.status ∈ healthStatuses ∧ row.health.source ∈ healthSources ∧
  0 ≤ row.health.consecutiveFailures

instance (row : AccountRow) : Decidable row.Check := inferInstanceAs (Decidable (_ ∧ _))

@[mk_iff]
structure Tables.Checks (t : Tables) : Prop where
  accounts : ∀ row ∈ t.accounts, row.Check
  sourceModels : ∀ row ∈ t.sourceModels, row.Check
  capabilities : ∀ row ∈ t.capabilities, row.Check
  logicalModels : ∀ row ∈ t.logicalModels, row.Check
  bindings : ∀ row ∈ t.bindings, StatusStamped row.status row.confirmedAt row.unavailableAt
  revision : 0 ≤ t.revision ∧ t.revision < 2 ^ 63

instance (t : Tables) : Decidable t.Keys := decidable_of_iff' _ (Tables.keys_iff t)
set_option synthInstance.maxSize 512 in
instance (t : Tables) : Decidable t.References := decidable_of_iff' _ (Tables.references_iff t)
instance (t : Tables) : Decidable t.Checks := decidable_of_iff' _ (Tables.checks_iff t)

structure Db extends Tables where
  keys : toTables.Keys
  references : toTables.References
  checks : toTables.Checks

inductive DbError where
  | uniqueViolation
  | foreignKeyViolation
  | checkViolation
  deriving DecidableEq, Repr

def DbError.message : DbError → String
  | .uniqueViolation => "duplicate key value violates unique constraint"
  | .foreignKeyViolation => "insert or update violates foreign key constraint"
  | .checkViolation => "new row violates check constraint"

/-- The end of a statement: its result stands if it meets every constraint. -/
def enforce (t : Tables) : Except DbError Db :=
  if hKeys : t.Keys then
    if hReferences : t.References then
      if hChecks : t.Checks then .ok ⟨t, hKeys, hReferences, hChecks⟩
      else .error .checkViolation
    else .error .foreignKeyViolation
  else .error .uniqueViolation

theorem enforce_ok {t : Tables} {db : Db} (h : enforce t = .ok db) : db.toTables = t := by
  unfold enforce at h
  split at h
  · split at h
    · split at h
      · cases h
        rfl
      · cases h
    · cases h
  · cases h

theorem exists_enforce {t : Tables} (hKeys : t.Keys) (hReferences : t.References)
    (hChecks : t.Checks) : ∃ db : Db, enforce t = .ok db ∧ db.toTables = t :=
  ⟨⟨t, hKeys, hReferences, hChecks⟩, by simp [enforce, hKeys, hReferences, hChecks], rfl⟩

/-! ## Statements -/

namespace Tables

/-- What the trigger on bindings asks of a row that is confirmed and enabled. -/
def isRoutable (t : Tables) (row : BindingRow) : Bool :=
  ((t.logicalModel? row.logicalModelId).any fun lm => lm.status = .confirmed && lm.enabled) &&
  ((t.source? row.sourceId).any fun source => source.enabled) &&
  ((t.account? row.accountId).any fun account =>
    account.sourceId = row.sourceId && account.enabled) &&
  ((t.sourceModel? row.sourceId row.upstreamModelId).any fun model =>
    model.confirmationStatus = .confirmed && model.availabilityStatus = .available) &&
  (t.capability? row.sourceId row.upstreamModelId row.protocol).any fun capability =>
    capability.status = .confirmed && capability.mode.isRoutable

/-- A source takes its accounts, models, capabilities and bindings with it. -/
def withoutSource (t : Tables) (id : String) : Tables :=
  { t with
    sources := t.sources.filter fun row => row.id ≠ id
    accounts := t.accounts.filter fun row => row.sourceId ≠ id
    sourceModels := t.sourceModels.filter fun row => row.sourceId ≠ id
    capabilities := t.capabilities.filter fun row => row.sourceId ≠ id
    bindings := t.bindings.filter fun row => row.sourceId ≠ id }

def withoutAccount (t : Tables) (id : String) : Tables :=
  { t with
    accounts := t.accounts.filter fun row => row.id ≠ id
    bindings := t.bindings.filter fun row => row.accountId ≠ id }

def withoutLogicalModel (t : Tables) (id : String) : Tables :=
  { t with
    logicalModels := t.logicalModels.filter fun row => row.id ≠ id
    bindings := t.bindings.filter fun row => row.logicalModelId ≠ id
    routes := t.routes.filter fun row => row.logicalModelId ≠ some id }

end Tables

namespace Db

variable (db : Db)

def insertSource (row : SourceRow) : Except DbError Db :=
  enforce { db.toTables with sources := db.sources ++ [row] }

def updateSource (id : String) (f : SourceRow → SourceRow) : Except DbError Db :=
  enforce { db.toTables with sources := Rows.updateWhere (fun row => row.id = id) f db.sources }

def deleteSource (id : String) : Except DbError Db := enforce (db.toTables.withoutSource id)

def insertAccount (row : AccountRow) : Except DbError Db :=
  enforce { db.toTables with accounts := db.accounts ++ [row] }

def updateAccounts (p : AccountRow → Bool) (f : AccountRow → AccountRow) : Except DbError Db :=
  enforce { db.toTables with accounts := Rows.updateWhere p f db.accounts }

def deleteAccount (id : String) : Except DbError Db := enforce (db.toTables.withoutAccount id)

def insertSourceModel (row : SourceModelRow) : Except DbError Db :=
  enforce { db.toTables with sourceModels := db.sourceModels ++ [row] }

def updateSourceModel (sourceId upstreamModelId : String) (f : SourceModelRow → SourceModelRow) :
    Except DbError Db :=
  enforce { db.toTables with
    sourceModels :=
      Rows.updateWhere (fun row => row.key = (sourceId, upstreamModelId)) f db.sourceModels }

def insertCapability (row : CapabilityRow) : Except DbError Db :=
  enforce { db.toTables with capabilities := db.capabilities ++ [row] }

def updateCapability (sourceId upstreamModelId : String) (protocol : Protocol)
    (f : CapabilityRow → CapabilityRow) : Except DbError Db :=
  enforce { db.toTables with
    capabilities :=
      Rows.updateWhere (fun row => row.key = (sourceId, upstreamModelId, protocol)) f
        db.capabilities }

def insertLogicalModel (row : LogicalModelRow) : Except DbError Db :=
  enforce { db.toTables with logicalModels := db.logicalModels ++ [row] }

def updateLogicalModel (id : String) (f : LogicalModelRow → LogicalModelRow) :
    Except DbError Db :=
  enforce { db.toTables with
    logicalModels := Rows.updateWhere (fun row => row.id = id) f db.logicalModels }

def deleteLogicalModel (id : String) : Except DbError Db :=
  enforce (db.toTables.withoutLogicalModel id)

/-- The row takes the next value of the sequence as its id. -/
def insertBinding (row : Int → BindingRow) : Except DbError Db :=
  if (row db.nextBindingId).isLive ∧ db.isRoutable (row db.nextBindingId) = false then
    .error .checkViolation
  else
    enforce { db.toTables with
      bindings := db.bindings ++ [row db.nextBindingId]
      nextBindingId := db.nextBindingId + 1 }

def updateBinding (id : Int) (f : BindingRow → BindingRow) : Except DbError Db :=
  if db.bindings.any fun row => row.id = id && (f row).isLive && !db.isRoutable (f row) then
    .error .checkViolation
  else
    enforce { db.toTables with
      bindings := Rows.updateWhere (fun row => row.id = id) f db.bindings }

def deleteBindings (p : BindingRow → Bool) : Except DbError Db :=
  enforce { db.toTables with bindings := db.bindings.filter fun row => !p row }

def insertRoute (row : RouteRow) : Except DbError Db :=
  enforce { db.toTables with routes := db.routes ++ [row] }

def updateRoute (id : String) (f : RouteRow → RouteRow) : Except DbError Db :=
  enforce { db.toTables with routes := Rows.updateWhere (fun row => row.id = id) f db.routes }

def deleteRoutes (p : RouteRow → Bool) : Except DbError Db :=
  enforce { db.toTables with routes := db.routes.filter fun row => !p row }

/-- The counter of publications moves on. -/
def publish (now : DateTime) : Except DbError Db :=
  enforce { db.toTables with revision := db.revision + 1, snapshotUpdatedAt := now }

end Db

end AiGateway.ControlPlane
