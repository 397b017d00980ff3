import AiGateway.ControlPlane.Service
import AiGateway.Infra.Redaction

/-!
# Export and restore of the control plane

An export is the rows of the control-plane tables, redacted, with the revision
and the fingerprint of the snapshot they produce.  A restore empties the tables
if asked, inserts the rows of an export in the order of their references, takes
over the revision and is committed only if the tables produce the fingerprint.

The rows of an export are kept as records: a member of the JSON row is the column
of its name.  Legacy providers and virtual keys, which no snapshot reads, are left
out.
-/

namespace AiGateway.Ops

set_option autoImplicit false

open AiGateway.Catalog AiGateway.Checked AiGateway.Config AiGateway.ControlPlane AiGateway.Health
  AiGateway.Json AiGateway.Routing AiGateway.Text

inductive OpsError where
  | database
  | json
  | validation (message : String)
  | notFound (message : String)
  | conflict (message : String)
  | snapshot (message : String)
  deriving DecidableEq, Repr

def OpsError.ofDb : DbError → OpsError
  | .uniqueViolation => .conflict "operation already exists"
  | .foreignKeyViolation | .checkViolation =>
    .validation "operation data violates a database constraint"

def OpsError.ofControlPlane : ControlPlaneError → OpsError
  | .notFound message => .notFound message
  | .conflict message => .conflict message
  | .validation errors => .validation ("; ".intercalate errors)
  | .json => .json
  | .database => .database
  -- reading a snapshot opens no credential
  | .credential => .validation ""
  | .noCiphertext => .validation "account does not have an encrypted credential"

def currentSchemaVersion : Int := 28
def currentMigrationVersion : Int := 28
def maxExportRows : Nat := 100000

structure SchemaMetadata where
  schemaVersion : Int
  migrationVersion : Int

/-! ## Redacted rows -/

section Rows

variable (urls : Urls)

def PresetRow.sanitize (row : PresetRow) : PresetRow :=
  { row with
    id := sanitizeText urls row.id
    displayName := sanitizeText urls row.displayName
    definition := sanitizeMember urls row.definition }

def ModelPresetRow.sanitize (row : ModelPresetRow) : ModelPresetRow :=
  { row with
    id := sanitizeText urls row.id
    canonicalModelId := sanitizeText urls row.canonicalModelId
    aliases := sanitizeMember urls row.aliases
    metadata := sanitizeMember urls row.metadata
    fieldSources := sanitizeMember urls row.fieldSources }

def SourceRow.sanitize (row : SourceRow) : SourceRow :=
  { row with
    id := sanitizeText urls row.id
    displayName := sanitizeText urls row.displayName
    providerPresetId := sanitizeText urls row.providerPresetId
    providerPresetSnapshot := sanitizeMember urls row.providerPresetSnapshot
    baseUrl := sanitizeText urls row.baseUrl
    endpoints := sanitizeMember urls row.endpoints
    authConfig := sanitizeMember urls row.authConfig
    protocolCapabilities := sanitizeMember urls row.protocolCapabilities }

def HealthColumns.sanitize (health : HealthColumns) : HealthColumns :=
  { health with
    status := sanitizeText urls health.status
    source := sanitizeText urls health.source
    lastError := health.lastError.map (sanitizeText urls)
    lastProbeStatus := health.lastProbeStatus.map (sanitizeText urls)
    lastProbeError := health.lastProbeError.map (sanitizeText urls) }

/-- The ciphertext column has a sensitive name. -/
def AccountRow.sanitize (row : AccountRow) : AccountRow :=
  { row with
    id := sanitizeText urls row.id
    sourceId := sanitizeText urls row.sourceId
    displayName := sanitizeText urls row.displayName
    credentialEnv := row.credentialEnv.map (sanitizeText urls)
    credentialCiphertext := some redacted
    health := HealthColumns.sanitize urls row.health }

def SourceModelRow.sanitize (row : SourceModelRow) : SourceModelRow :=
  { row with
    sourceId := sanitizeText urls row.sourceId
    upstreamModelId := sanitizeText urls row.upstreamModelId
    rawSnapshot := sanitizeMember urls row.rawSnapshot
    metadata := sanitizeMember urls row.metadata
    fieldSources := sanitizeMember urls row.fieldSources
    matchedModelPreset := row.matchedModelPreset.map fun preset =>
      { preset with id := sanitizeText urls preset.id } }

def CapabilityRow.sanitize (row : CapabilityRow) : CapabilityRow :=
  { row with
    sourceId := sanitizeText urls row.sourceId
    upstreamModelId := sanitizeText urls row.upstreamModelId
    adapter := row.adapter.map (sanitizeText urls)
    featureCapabilities := sanitizeMember urls row.featureCapabilities }

def LogicalModelRow.sanitize (row : LogicalModelRow) : LogicalModelRow :=
  { row with
    id := sanitizeText urls row.id
    publicName := sanitizeText urls row.publicName
    displayName := sanitizeText urls row.displayName
    metadata := sanitizeMember urls row.metadata
    fieldSources := sanitizeMember urls row.fieldSources }

def BindingRow.sanitize (row : BindingRow) : BindingRow :=
  { row with
    logicalModelId := sanitizeText urls row.logicalModelId
    sourceId := sanitizeText urls row.sourceId
    accountId := sanitizeText urls row.accountId
    upstreamModelId := sanitizeText urls row.upstreamModelId }

def RouteRow.sanitize (row : RouteRow) : RouteRow :=
  { row with
    id := sanitizeText urls row.id
    logicalModelId := row.logicalModelId.map (sanitizeText urls)
    modelPattern := sanitizeText urls row.modelPattern
    protocols := sanitizeMember urls row.protocols
    strategy := sanitizeText urls row.strategy }

/-- The source's own pass over two columns follows the pass over the row. -/
def sanitizeSourceRow (row : SourceRow) : SourceRow :=
  { row with
    authConfig := sanitizeJson urls row.authConfig
    providerPresetSnapshot := sanitizeJson urls row.providerPresetSnapshot }

end Rows

/-- An account in an export, with the entry that stands in for its secret. -/
structure ExportedAccount where
  row : AccountRow
  credential : Value

def credentialKind (kind : String) : Value := .object [("kind", .string kind)]

/-- The row has been redacted before, so its ciphertext column is never null. -/
def sanitizeAccountRow (row : AccountRow) : ExportedAccount where
  row := { row with credentialCiphertext := none }
  credential :=
    match row.credentialEnv with
    | some name =>
      if trim name ≠ "" then
        .object [("kind", .string "secret_ref"), ("name", .string name)]
      else credentialKind "none"
    | none =>
      if row.credentialCiphertext.isSome then credentialKind "redacted"
      else credentialKind "none"

def exportAccount (urls : Urls) (row : AccountRow) : ExportedAccount :=
  sanitizeAccountRow { AccountRow.sanitize urls row with credentialEnv := row.credentialEnv }

/-! ## Exports -/

structure RuntimeSnapshotMetadata where
  revision : Int
  generatedAt : DateTime
  fingerprint : String

structure ControlPlaneExport where
  format : String
  version : Int
  timezone : String
  schemaVersion : Int
  migrationVersion : Int
  runtimeSnapshot : RuntimeSnapshotMetadata
  providerPresets : List PresetRow
  modelPresets : List ModelPresetRow
  sources : List SourceRow
  accounts : List ExportedAccount
  sourceModels : List SourceModelRow
  capabilities : List CapabilityRow
  logicalModels : List LogicalModelRow
  bindings : List BindingRow
  routes : List RouteRow

/-- What the digest of a snapshot is taken over. -/
structure FingerprintInput where
  config : GatewayConfig
  models : List PublishedModel
  routes : List RuntimeRoute

/-- The database and the libraries an operation uses. -/
structure OpsRepository where
  urls : Urls
  /-- The hexadecimal digest of the rendered input. -/
  sha256Json : FingerprintInput → String
  metadata : SchemaMetadata

def AccountConfig.withoutCiphertext (account : AccountConfig) : AccountConfig :=
  { account with credentialCiphertext := none }

/-- The listener is removed, and a ciphertext is never rendered. -/
def fingerprintInput (snapshot : RuntimeSnapshot) : FingerprintInput where
  config := { snapshot.config with
    listenAddr := ""
    accounts := snapshot.config.accounts.map AccountConfig.withoutCiphertext }
  models := snapshot.models
  routes := snapshot.resolver.runtimeRoutes.getD []

namespace OpsRepository

variable (ops : OpsRepository)

def runtimeSnapshotFingerprint (snapshot : RuntimeSnapshot) : String :=
  ops.sha256Json (fingerprintInput snapshot)

def runtimeSnapshotMetadata (snapshot : RuntimeSnapshot) : RuntimeSnapshotMetadata where
  revision := snapshot.revision
  generatedAt := snapshot.generatedAt
  fingerprint := ops.runtimeSnapshotFingerprint snapshot

def schemaMetadata : Except OpsError SchemaMetadata := do
  ensure (ops.metadata.schemaVersion ≤ currentSchemaVersion ∧
      ops.metadata.migrationVersion ≤ currentMigrationVersion)
    (.validation "database schema/migration is newer than this gateway")
  return ops.metadata

/-! ### Export -/

/-- Rows in the order of one or more text columns. -/
def orderBy {α : Type} (collation : String → String → Bool) (columns : α → List String)
    (rows : List α) : List α :=
  rows.insertionSort fun a b => before (columns a) (columns b)
where
  before : List String → List String → Bool
    | x :: xs, y :: ys => if x = y then before xs ys else collation x y
    | [], _ => true
    | _ :: _, [] => false

/-- The order of a primary key of a text and a number. -/
def orderByVersion {α : Type} (collation : String → String → Bool) (id : α → String)
    (version : α → Int) (rows : List α) : List α :=
  rows.insertionSort fun a b =>
    if id a = id b then version a ≤ version b else collation (id a) (id b)

/-- The number of rows of each table of an export. -/
def rowCounts (exported : ControlPlaneExport) : List Nat :=
  [exported.providerPresets.length, exported.modelPresets.length, exported.sources.length,
    exported.accounts.length, exported.sourceModels.length, exported.capabilities.length,
    exported.logicalModels.length, exported.bindings.length, exported.routes.length]

def exportOf (service : Service) (db : Db) (metadata : SchemaMetadata)
    (snapshot : RuntimeSnapshot) : ControlPlaneExport :=
  let order := service.collation
  { format := "my-ai-gateway.control-plane"
    version := 1
    timezone := "UTC"
    schemaVersion := metadata.schemaVersion
    migrationVersion := metadata.migrationVersion
    runtimeSnapshot := ops.runtimeSnapshotMetadata snapshot
    providerPresets := (orderByVersion order PresetRow.id PresetRow.version
      db.providerPresets).map (PresetRow.sanitize ops.urls)
    modelPresets := (orderByVersion order ModelPresetRow.id ModelPresetRow.version
      db.modelPresets).map (ModelPresetRow.sanitize ops.urls)
    sources := (orderBy order (fun row => [row.id]) db.sources).map fun row =>
      sanitizeSourceRow ops.urls (SourceRow.sanitize ops.urls row)
    accounts := (orderBy order (fun row => [row.id]) db.accounts).map (exportAccount ops.urls)
    sourceModels := (orderBy order (fun row => [row.sourceId, row.upstreamModelId])
      db.sourceModels).map (SourceModelRow.sanitize ops.urls)
    capabilities := (db.capabilities.insertionSort fun a b => CapabilityRow.before order a b).map
      (CapabilityRow.sanitize ops.urls)
    logicalModels := (orderBy order (fun row => [row.id]) db.logicalModels).map
      (LogicalModelRow.sanitize ops.urls)
    bindings := (db.bindings.insertionSort fun a b => a.id ≤ b.id).map
      (BindingRow.sanitize ops.urls)
    routes := (orderBy order (fun row => [row.id]) db.routes).map (RouteRow.sanitize ops.urls) }

def buildControlPlaneExport (service : Service) (metadata : SchemaMetadata) (db : Db) :
    Except OpsError ControlPlaneExport := do
  let snapshot ← (loadSnapshot service db.toTables).mapError .ofControlPlane
  let exported := ops.exportOf service db metadata snapshot
  ensure (∀ count ∈ rowCounts exported, count ≤ maxExportRows)
    (.validation ("control-plane export exceeds " ++ toString maxExportRows ++
      " rows in one table"))
  return exported

def exportControlPlane (service : Service) (db : Db) : Except OpsError ControlPlaneExport := do
  let metadata ← ops.schemaMetadata
  ops.buildControlPlaneExport service metadata db

/-! ### Checks of an import -/

/-- The JSON columns of a table of an export. -/
def documents (exported : ControlPlaneExport) : List (List Value) :=
  [exported.providerPresets.map PresetRow.definition,
    exported.modelPresets.flatMap fun row => [row.aliases, row.metadata, row.fieldSources],
    exported.sources.flatMap fun row =>
      [row.providerPresetSnapshot, row.endpoints, row.authConfig, row.protocolCapabilities],
    exported.accounts.map fun account =>
      .object ([("credential", account.credential)] ++
        (account.row.credentialCiphertext.map fun text =>
          ("credential_ciphertext", .string text)).toList),
    exported.sourceModels.flatMap fun row => [row.rawSnapshot, row.metadata, row.fieldSources],
    exported.capabilities.map CapabilityRow.featureCapabilities,
    exported.logicalModels.flatMap fun row => [row.metadata, row.fieldSources],
    [],
    exported.routes.map RouteRow.protocols]

def isHexDigit (c : Char) : Bool :=
  ('0' ≤ c && c ≤ '9') || ('a' ≤ c && c ≤ 'f') || ('A' ≤ c && c ≤ 'F')

def isFingerprint (text : String) : Bool :=
  text.utf8ByteSize = 64 && text.toList.all isHexDigit

def validateExportShape (exported : ControlPlaneExport) : Except OpsError Unit := do
  ensure (exported.format = "my-ai-gateway.control-plane" ∧ exported.version = 1)
    (.validation "unsupported control-plane export format or version")
  ensure (exported.timezone = "UTC") (.validation "control-plane exports must use UTC")
  ensure (0 < exported.schemaVersion ∧ 0 < exported.migrationVersion)
    (.validation "control-plane export schema metadata is invalid")
  ensure (isFingerprint exported.runtimeSnapshot.fingerprint)
    (.validation "control-plane runtime snapshot fingerprint is invalid")
  ((rowCounts exported).zip (documents exported)).forM fun table => do
    ensure (table.1 ≤ maxExportRows)
      (.validation ("control-plane export exceeds " ++ toString maxExportRows ++ " rows"))
    ensure (table.2.all fun value => !hasPlaintextSecret value)
      (.validation "control-plane export contains a plaintext credential field")

end OpsRepository

/-! ## Statements of a restore -/

/-- An insert that leaves a row with the same key alone.  The checks on the row
come before the key is looked at. -/
def onConflictDoNothing (check : Prop) [Decidable check] (present : Bool) (db : Db)
    (insert : Except DbError Db) : Except DbError Db :=
  if check then if present then .ok db else insert
  else .error .checkViolation

def isArray : Value → Bool
  | .array _ => true
  | _ => false

namespace Restore

variable (db : Db)

def clearControlPlane : Except DbError Db :=
  enforce { db.toTables with
    routes := []
    bindings := []
    logicalModels := []
    capabilities := []
    sourceModels := []
    accounts := []
    sources := [] }

def insertProviderPreset (row : PresetRow) : Except DbError Db :=
  onConflictDoNothing (0 < row.version) (db.preset? row.id row.version).isSome db
    (enforce { db.toTables with providerPresets := db.providerPresets ++ [row] })

def insertModelPreset (row : ModelPresetRow) : Except DbError Db :=
  onConflictDoNothing
    (0 < row.version ∧ isArray row.aliases ∧ isObject row.metadata ∧ isObject row.fieldSources)
    (db.modelPresets.any fun other => other.id = row.id && other.version = row.version) db
    (if db.modelPresets.any fun other =>
        other.canonicalModelId = row.canonicalModelId && other.version = row.version
     then .error .uniqueViolation
     else enforce { db.toTables with modelPresets := db.modelPresets ++ [row] })

def insertSource (row : SourceRow) : Except DbError Db :=
  onConflictDoNothing True (db.source? row.id).isSome db (db.insertSource row)

def insertAccount (row : AccountRow) : Except DbError Db :=
  onConflictDoNothing row.Check (db.account? row.id).isSome db (db.insertAccount row)

def insertSourceModel (row : SourceModelRow) : Except DbError Db :=
  onConflictDoNothing row.Check (db.sourceModel? row.sourceId row.upstreamModelId).isSome db
    (db.insertSourceModel row)

def insertCapability (row : CapabilityRow) : Except DbError Db :=
  onConflictDoNothing row.Check
    (db.capability? row.sourceId row.upstreamModelId row.protocol).isSome db
    (db.insertCapability row)

def insertLogicalModel (row : LogicalModelRow) : Except DbError Db :=
  onConflictDoNothing row.Check (db.logicalModel? row.id).isSome db (db.insertLogicalModel row)

/-- The row comes with its id, and the trigger looks at it first. -/
def insertBinding (row : BindingRow) : Except DbError Db :=
  if row.isLive ∧ db.isRoutable row = false then .error .checkViolation
  else
    onConflictDoNothing (StatusStamped row.status row.confirmedAt row.unavailableAt)
      (db.binding? row.id).isSome db
      (enforce { db.toTables with bindings := db.bindings ++ [row] })

def insertRoute (row : RouteRow) : Except DbError Db :=
  onConflictDoNothing True (db.route? row.id).isSome db (db.insertRoute row)

def setSnapshotState (revision : Int) (updatedAt : DateTime) : Except DbError Db :=
  enforce { db.toTables with revision := revision, snapshotUpdatedAt := updatedAt }

end Restore

def opsStatement (result : Except DbError Db) : Except OpsError Db := result.mapError .ofDb

/-- One insert for each row of a table. -/
def restoreTable {α : Type} (insert : Db → α → Except DbError Db) (rows : List α) (db : Db) :
    Except OpsError Db :=
  rows.foldlM (fun db row => opsStatement (insert db row)) db

/-- The ciphertext of an imported account is never taken over. -/
def restoredAccount (urls : Urls) (account : ExportedAccount) : AccountRow :=
  { AccountRow.sanitize urls account.row with credentialCiphertext := none }

def restoreSnapshotState (metadata : RuntimeSnapshotMetadata) (db : Db) : Except OpsError Db := do
  ensure (0 ≤ metadata.revision)
    (.validation "runtime snapshot revision must not be negative")
  opsStatement (Restore.setSnapshotState db metadata.revision metadata.generatedAt)

/-- The sequence continues after the largest id; its values start at one. -/
def resetSequences (db : Db) : Except OpsError Db := do
  let last := (db.bindings.map BindingRow.id).max?.getD 1
  ensure (1 ≤ last) .database
  opsStatement (enforce { db.toTables with nextBindingId := last + 1 })

def emptied (replace : Bool) (db : Db) : Except OpsError Db :=
  if replace then opsStatement (Restore.clearControlPlane db) else .ok db

def isEmptyControlPlane (t : Tables) : Bool :=
  t.sources.isEmpty && t.accounts.isEmpty && t.logicalModels.isEmpty && t.bindings.isEmpty &&
    t.routes.isEmpty

namespace OpsRepository

variable (ops : OpsRepository)

/-- The rows of an export, table by table in the order of their references. -/
def restoreTables (exported : ControlPlaneExport) (db : Db) : Except OpsError Db := do
  let urls := ops.urls
  let db ← restoreTable Restore.insertProviderPreset
    (exported.providerPresets.map (PresetRow.sanitize urls)) db
  let db ← restoreTable Restore.insertModelPreset
    (exported.modelPresets.map (ModelPresetRow.sanitize urls)) db
  let db ← restoreTable Restore.insertSource
    (exported.sources.map (SourceRow.sanitize urls)) db
  let db ← restoreTable Restore.insertAccount (exported.accounts.map (restoredAccount urls)) db
  let db ← restoreTable Restore.insertSourceModel
    (exported.sourceModels.map (SourceModelRow.sanitize urls)) db
  let db ← restoreTable Restore.insertCapability
    (exported.capabilities.map (CapabilityRow.sanitize urls)) db
  let db ← restoreTable Restore.insertLogicalModel
    (exported.logicalModels.map (LogicalModelRow.sanitize urls)) db
  let db ← restoreTable Restore.insertBinding
    (exported.bindings.map (BindingRow.sanitize urls)) db
  restoreTable Restore.insertRoute (exported.routes.map (RouteRow.sanitize urls)) db

def fingerprintMismatch : OpsError :=
  .snapshot "restored control plane does not produce the exported runtime snapshot"

def restoreRows (service : Service) (exported : ControlPlaneExport) (replace : Bool) (db : Db) :
    Except OpsError Committed := do
  ensure (isEmptyControlPlane db.toTables ∨ replace)
    (.conflict "destination control plane is not empty; pass replace=true explicitly")
  let db ← emptied replace db
  let db ← ops.restoreTables exported db
  let db ← restoreSnapshotState exported.runtimeSnapshot db
  let db ← resetSequences db
  let snapshot ← (loadSnapshot service db.toTables).mapError .ofControlPlane
  ensure (ops.runtimeSnapshotFingerprint snapshot = exported.runtimeSnapshot.fingerprint)
    fingerprintMismatch
  return ⟨db, snapshot⟩

def restoreControlPlane (service : Service) (exported : ControlPlaneExport) (replace : Bool)
    (db : Db) : Except OpsError Committed := do
  validateExportShape exported
  let metadata ← ops.schemaMetadata
  ensure (exported.schemaVersion ≤ metadata.schemaVersion ∧
      exported.migrationVersion ≤ metadata.migrationVersion)
    (.validation "export was created by a newer schema/migration than this database")
  let committed ← ops.restoreRows service exported replace db
  -- the fingerprint is compared once more after the commit
  ensure (ops.runtimeSnapshotFingerprint committed.snapshot =
    exported.runtimeSnapshot.fingerprint) fingerprintMismatch
  return committed

end OpsRepository

end AiGateway.Ops
