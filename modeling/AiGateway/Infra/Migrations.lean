import AiGateway.Infra.Restore
import AiGateway.Proxy.Service

/-!
# The migrations

What the scripts do to the rows of a database whose tables have their final columns.
Every script is run again at each startup.  Some of them look into the registry of
applied scripts first, the others rely on finding nothing to do.

Surrogate ids of usage rows and the columns of legacy providers that no script reads
are left out.
-/

namespace AiGateway.Migrations

set_option autoImplicit false

open AiGateway.Catalog AiGateway.Checked AiGateway.Config AiGateway.ControlPlane AiGateway.Health
  AiGateway.Json AiGateway.Ops AiGateway.Proxy

/-! ## Rows -/

/-- A provider of the control plane before sources. -/
structure ProviderRow where
  id : String
  name : String
  baseUrl : String
  enabled : Bool
  capabilities : Value
  endpoints : Value
  createdAt : DateTime
  updatedAt : DateTime

/-- A recorded event.  The two columns the scripts look at stand beside it. -/
structure UsageEventRow where
  providerId : String
  sourceId : Option String
  event : UsageEvent
  createdAt : DateTime

structure UsageAttemptRow where
  requestId : String
  providerId : String
  sourceId : Option String
  attempt : UsageAttempt
  createdAt : DateTime

structure VirtualKeyRow where
  id : Int
  name : String
  keyPrefix : String
  keyHash : String
  keyCiphertext : Option String
  allowedModels : Value
  scopes : Value
  keyGroup : Option String
  enabled : Bool
  origin : String
  expiresAt : Option DateTime
  replacedById : Option Int
  overlapUntil : Option DateTime
  revokedAt : Option DateTime
  lastUsedAt : Option DateTime
  createdAt : DateTime
  updatedAt : DateTime

def keyOrigins : List String := ["created", "static_migration", "rotated"]

def VirtualKeyRow.Check (row : VirtualKeyRow) : Prop :=
  isArray row.scopes ∧ row.origin ∈ keyOrigins

instance (row : VirtualKeyRow) : Decidable row.Check := inferInstanceAs (Decidable (_ ∧ _))

structure VirtualKeys where
  rows : List VirtualKeyRow := []
  checked : ∀ row ∈ rows, row.Check := by simp

structure Database where
  control : Db
  providers : List ProviderRow := []
  usageEvents : List UsageEventRow := []
  usageEventAttempts : List UsageAttemptRow := []
  virtualKeys : VirtualKeys := {}
  /-- The versions in the registry of applied scripts. -/
  applied : List Nat := []

inductive MigrationError where
  | database (error : DbError)
  /-- A path was set in a value that is no object. -/
  | invalidJson
  deriving DecidableEq, Repr

/-- A statement on the control-plane tables. -/
def Database.edit (d : Database) (t : Tables) : Except MigrationError Database := do
  let control ← (enforce t).mapError .database
  return { d with control := control }

def Database.register (d : Database) (version : Nat) : Database :=
  if version ∈ d.applied then d else { d with applied := d.applied ++ [version] }

/-- A script that does its work only once. -/
def Database.once (d : Database) (version : Nat)
    (script : Database → Except MigrationError Database) : Except MigrationError Database :=
  if version ∈ d.applied then .ok d
  else do
    let d ← script d
    return d.register version

def insertPreset (preset : PresetRow) (t : Tables) : Tables :=
  if (t.preset? preset.id preset.version).isSome then t
  else { t with providerPresets := t.providerPresets ++ [preset] }

def jsonbSet (value : Value) (key : String) (member : Value) : Except MigrationError Value :=
  match value with
  | .object fields => .ok (.object (Fields.insert fields key member))
  | _ => .error .invalidJson

/-- The concatenation of two objects. -/
def jsonbConcat (value : Value) (fields : Fields) : Value :=
  match value with
  | .object old => .object (fields.foldl (fun all field => Fields.insert all field.1 field.2) old)
  | value => value

/-! ## Scripts that are replayed -/

section Scripts

variable (now : DateTime)

def customPreset : PresetRow := ⟨"custom", 1, "Custom", .object [], now⟩

/-- A provider becomes a source of the same id with a custom preset. -/
def sourceOfProvider (provider : ProviderRow) : SourceRow where
  id := provider.id
  displayName := provider.name
  providerPresetId := "custom"
  providerPresetVersion := 1
  providerPresetSnapshot := .ofFields [("base_url", .string provider.baseUrl),
    ("endpoints", provider.endpoints), ("capabilities", provider.capabilities)]
  baseUrl := provider.baseUrl
  endpoints := provider.endpoints
  authConfig := .object []
  protocolCapabilities := .object []
  enabled := provider.enabled
  createdAt := provider.createdAt
  updatedAt := provider.updatedAt

/-- 0003 -/
def modelCatalog (d : Database) : Except MigrationError Database := do
  let d ← d.edit (insertPreset (customPreset now) d.control.toTables)
  let missing := d.providers.filter fun provider => (d.control.source? provider.id).isNone
  d.edit { d.control.toTables with
    sources := d.control.sources ++ missing.map sourceOfProvider }

/-- The preset of the source a usage row names. -/
def vendor (t : Tables) (sourceId : String) : String :=
  ((t.source? sourceId).map SourceRow.providerPresetId).getD "unknown"

/-- A provider that is one of the placeholders of the row's source gives way to the
preset of that source. -/
def attributed (t : Tables) (placeholders : String → List String) (sourceId : Option String)
    (providerId : String) : String :=
  match sourceId with
  | none => providerId
  | some source => if providerId ∈ placeholders source then vendor t source else providerId

def attributeUsage (placeholders : String → List String) (d : Database) : Database :=
  let provider := attributed d.control.toTables placeholders
  { d with
    usageEvents := d.usageEvents.map fun row =>
      { row with providerId := provider row.sourceId row.providerId }
    usageEventAttempts := d.usageEventAttempts.map fun row =>
      { row with providerId := provider row.sourceId row.providerId } }

/-- 0010 -/
def usageProviderAttribution (d : Database) : Database := attributeUsage (fun source => [source]) d

def stampHealth (row : AccountRow) : AccountRow :=
  let health := row.health
  if health.updatedAt.isNone ∨ health.consecutiveFailures < 0 ∨ sqlTrimmedEmpty health.source then
    { row with
      health := { health with
        updatedAt := (health.updatedAt.or health.lastSuccessAt).or (some row.updatedAt)
        consecutiveFailures := max health.consecutiveFailures 0
        source := if sqlTrimmedEmpty health.source then "unknown" else health.source } }
  else row

def knownHealthStatuses : List String :=
  ["unknown", "healthy", "cooling_down", "unhealthy", "disabled"]

def resetUnknownStatus (row : AccountRow) : AccountRow :=
  if row.health.status ∈ knownHealthStatuses then row
  else { row with health := { row.health with status := "unknown" } }

/-- 0012 -/
def healthPersistence (d : Database) : Except MigrationError Database := do
  let d ← d.edit { d.control.toTables with accounts := d.control.accounts.map stampHealth }
  d.edit { d.control.toTables with accounts := d.control.accounts.map resetUnknownStatus }

def repairScopes (row : VirtualKeyRow) : VirtualKeyRow :=
  if isArray row.scopes then row else { row with scopes := .array [.string "gateway:invoke"] }

def repairOrigin (row : VirtualKeyRow) : VirtualKeyRow :=
  if sqlTrimmedEmpty row.origin then { row with origin := "created" } else row

theorem repairScopes_of_check {row : VirtualKeyRow} (h : row.Check) : repairScopes row = row := by
  rw [repairScopes, if_pos h.1]

theorem repairOrigin_of_check {row : VirtualKeyRow} (h : row.Check) : repairOrigin row = row := by
  have hNotEmpty : ∀ origin ∈ keyOrigins, sqlTrimmedEmpty origin = false := by decide
  simp [repairOrigin, hNotEmpty row.origin h.2]

/-- The constraints leave 0015 nothing to repair. -/
theorem repaired_virtualKeys {rows : List VirtualKeyRow} (h : ∀ row ∈ rows, row.Check) :
    (rows.map repairScopes).map repairOrigin = rows := by
  rw [List.map_map]
  refine (List.map_congr_left fun row hRow => ?_).trans (List.map_id rows)
  rw [Function.comp_apply, repairScopes_of_check (h row hRow), repairOrigin_of_check (h row hRow)]
  rfl

/-- 0015 -/
def virtualKeyLifecycle (d : Database) : Database :=
  { d with
    virtualKeys :=
      { rows := (d.virtualKeys.rows.map repairScopes).map repairOrigin
        checked := by
          rw [repaired_virtualKeys d.virtualKeys.checked]
          exact d.virtualKeys.checked } }

def builtinProviders : List String := ["minimax", "deepseek", "kimi_code"]

def latestPreset? (presets : List PresetRow) (id : String) : Option PresetRow :=
  presets.find? fun preset => preset.id = id &&
    presets.all fun other => other.id ≠ id || other.version ≤ preset.version

/-- A custom source that is named like a built-in provider takes over its preset. -/
def restorePreset (presets : List PresetRow) (row : SourceRow) : SourceRow :=
  if row.providerPresetId = "custom" ∧ row.id ∈ builtinProviders then
    match latestPreset? presets row.id with
    | some preset =>
      { row with
        providerPresetId := preset.id
        providerPresetVersion := preset.version
        providerPresetSnapshot := preset.definition
        updatedAt := now }
    | none => row
  else row

/-- 0017 -/
def restoreBuiltinProviderPresets (d : Database) : Except MigrationError Database := do
  let d ← d.edit { d.control.toTables with
    sources := d.control.sources.map (restorePreset now d.control.providerPresets) }
  return attributeUsage (fun source => ["custom", source]) d

def isEmptyObject : Value → Bool
  | .object [] => true
  | _ => false

/-- The credential header a preset defines as an object. -/
def credentialHeader (preset : PresetRow) : Option Value :=
  (preset.definition.get "credential_header").filter isObject

def repairAuth (t : Tables) (row : SourceRow) : SourceRow :=
  if row.providerPresetId ∈ builtinProviders ∧ isEmptyObject row.authConfig then
    match t.preset? row.providerPresetId row.providerPresetVersion with
    | some preset =>
      match credentialHeader preset with
      | some header =>
        { row with
          authConfig := .ofFields [("credential_header", header), ("default_headers",
            (preset.definition.get "default_headers").getD (.object []))]
          updatedAt := now }
      | none => row
    | none => row
  else row

/-- 0021 -/
def repairBuiltinSourceAuthSnapshots (d : Database) : Except MigrationError Database :=
  d.edit { d.control.toTables with
    sources := d.control.sources.map (repairAuth now d.control.toTables) }

/-! ## Scripts that are not -/

def resetFailures (row : AccountRow) : AccountRow :=
  if 0 < row.health.consecutiveFailures ∨ row.health.cooldownUntil.isSome then
    { row with
      health := { row.health with
        status := if row.enabled then "unknown" else "disabled"
        cooldownUntil := none
        consecutiveFailures := 0
        failureWindowStartedAt := none
        lastError := none
        source := "unknown"
        updatedAt := some now } }
  else row

/-- 0022 -/
def healthFailureWindow (d : Database) : Except MigrationError Database :=
  d.once 22 fun d =>
    d.edit { d.control.toTables with accounts := d.control.accounts.map (resetFailures now) }

/-- The documents the scripts carry. -/
structure Documents where
  kimiCode : Value
  kimiResponses : Value
  kimiDiscovery : Value
  modelPresets : List ModelPresetRow

variable (documents : Documents)

def nativeResponses (definition : Value) (row : SourceRow) : Except MigrationError SourceRow :=
  if row.providerPresetId = "kimi_code" then do
    let endpoints ← jsonbSet row.endpoints "openai_responses" (.string "/v1/responses")
    let protocolCapabilities ←
      jsonbSet row.protocolCapabilities "openai_responses" documents.kimiResponses
    return { row with
      providerPresetVersion := 4
      providerPresetSnapshot := definition
      endpoints := endpoints
      protocolCapabilities := protocolCapabilities
      updatedAt := now }
  else return row

def retireAdapter (row : CapabilityRow) : CapabilityRow :=
  if row.adapter = some "kimi_responses_adapter" ∧ row.protocol = .openAiResponses then
    { row with mode := .native, sourceProtocol := none, adapter := none, updatedAt := now }
  else row

def presetDefinition (t : Tables) (id : String) (version : Int) : Value :=
  ((t.preset? id version).map PresetRow.definition).getD .null

/-- 0023 -/
def kimiNativeResponses (d : Database) : Except MigrationError Database :=
  d.once 23 fun d => do
    let d ← d.edit (insertPreset ⟨"kimi_code", 4, "Kimi Code", documents.kimiCode, now⟩
      d.control.toTables)
    let definition := presetDefinition d.control.toTables "kimi_code" 4
    let sources ← d.control.sources.mapM (nativeResponses now documents definition)
    let d ← d.edit { d.control.toTables with sources := sources }
    d.edit { d.control.toTables with capabilities := d.control.capabilities.map (retireAdapter now) }

def rediscovered (row : SourceRow) : Except MigrationError SourceRow :=
  if row.providerPresetId = "kimi_code" ∧ row.providerPresetVersion < 5 then do
    let snapshot ← jsonbSet row.providerPresetSnapshot "discovery" documents.kimiDiscovery
    return { row with
      providerPresetVersion := 5
      providerPresetSnapshot := snapshot
      displayName := if row.displayName = "Kimi Code" then "Kimi Code CN" else row.displayName
      updatedAt := now }
  else return row

def renameAccount (t : Tables) (row : AccountRow) : AccountRow :=
  if (t.source? row.sourceId).any (fun source => source.providerPresetId = "kimi_code") ∧
      row.displayName = "Kimi Code" then
    { row with displayName := "Kimi Code CN", updatedAt := now }
  else row

/-- 0026 -/
def kimiCodeCnDiscovery (d : Database) : Except MigrationError Database :=
  d.once 26 fun d => do
    let d ←
      match d.control.preset? "kimi_code" 4 with
      | none => pure d
      | some preset => do
        let definition ← jsonbSet preset.definition "discovery" documents.kimiDiscovery
        d.edit (insertPreset ⟨"kimi_code", 5, "Kimi Code CN", definition, now⟩ d.control.toTables)
    let sources ← d.control.sources.mapM (rediscovered now documents)
    let d ← d.edit { d.control.toTables with sources := sources }
    d.edit { d.control.toTables with
      accounts := d.control.accounts.map (renameAccount now d.control.toTables) }

def insertModelPreset (t : Tables) (preset : ModelPresetRow) : Tables :=
  if t.modelPresets.any fun other => other.id = preset.id && other.version = preset.version then t
  else { t with
    modelPresets := t.modelPresets ++ [{ preset with createdAt := now, updatedAt := now }] }

def deepseekModels : List String :=
  ["deepseek-flash", "deepseek-v4-flash", "deepseek-v4-flash-vision-exp"]

def kimiModels : List (String × String) :=
  [("k3", "kimi-k3"), ("k3-256k", "kimi-k3-256k"), ("kimi-for-coding", "kimi-for-coding"),
    ("kimi-for-coding-highspeed", "kimi-for-coding-highspeed")]

def kimiPresetId (model : String) : Option String :=
  (kimiModels.find? fun entry => entry.1 = model).map Prod.snd

/-- The preset a model moves to.  A logical model has no provider to look at. -/
def visionPresetId (provider : Option String) (model : String) : Option String :=
  if provider.all (· = "deepseek") ∧ model ∈ deepseekModels then some "deepseek-v4-flash"
  else if provider.all (· = "kimi_code") then kimiPresetId model
  else none

def visionPreset? (t : Tables) (provider : Option String) (model : String) :
    Option ModelPresetRow :=
  (visionPresetId provider model).bind fun id =>
    t.modelPresets.find? fun preset => preset.id = id && preset.version = 2

def rebasedFields : List String := ["display_name", "context_window", "input_modalities"]

def isUserField (fieldSources : Value) (field : String) : Bool :=
  ((fieldSources.get field).bind Value.asStr).any (· = "user")

/-- Fields the user has set keep their value and their origin. -/
def rebaseMetadata (preset : ModelPresetRow) (metadata fieldSources : Value) : Value :=
  jsonbConcat metadata (rebasedFields.map fun field => (field,
    ((if isUserField fieldSources field then metadata else preset.metadata).get field).getD .null))

def rebaseFieldSources (fieldSources : Value) : Value :=
  jsonbConcat fieldSources (rebasedFields.map fun field => (field,
    if isUserField fieldSources field then (fieldSources.get field).getD .null
    else .string "preset"))

def providerOf (t : Tables) (sourceId : String) : Option String :=
  (t.source? sourceId).map SourceRow.providerPresetId

def rebaseSourceModel (t : Tables) (row : SourceModelRow) : SourceModelRow :=
  match (providerOf t row.sourceId).bind fun provider =>
      visionPreset? t (some provider) row.upstreamModelId with
  | some preset =>
    { row with
      metadata := rebaseMetadata preset row.metadata row.fieldSources
      fieldSources := rebaseFieldSources row.fieldSources
      matchedModelPreset := some ⟨preset.id, preset.version⟩
      updatedAt := now }
  | none => row

def rebaseLogicalModel (t : Tables) (row : LogicalModelRow) : LogicalModelRow :=
  match visionPreset? t none row.publicName with
  | some preset =>
    { row with
      metadata := rebaseMetadata preset row.metadata row.fieldSources
      fieldSources := rebaseFieldSources row.fieldSources
      updatedAt := now }
  | none => row

def seesImages (t : Tables) (row : CapabilityRow) : Bool :=
  (providerOf t row.sourceId).any fun provider =>
    (visionPresetId (some provider) row.upstreamModelId).isSome

def addVision (t : Tables) (row : CapabilityRow) : Except MigrationError CapabilityRow :=
  if seesImages t row then do
    let features ← jsonbSet row.featureCapabilities "vision" (.string "supported")
    return { row with featureCapabilities := features, updatedAt := now }
  else return row

/-- 0027 -/
def multimodalModelCapabilities (d : Database) : Except MigrationError Database :=
  d.once 27 fun d => do
    let d ← d.edit (documents.modelPresets.foldl (insertModelPreset now) d.control.toTables)
    let d ← d.edit { d.control.toTables with
      sourceModels := d.control.sourceModels.map (rebaseSourceModel now d.control.toTables) }
    let d ← d.edit { d.control.toTables with
      logicalModels := d.control.logicalModels.map (rebaseLogicalModel now d.control.toTables) }
    let capabilities ← d.control.capabilities.mapM (addVision now d.control.toTables)
    d.edit { d.control.toTables with capabilities := capabilities }

/-! ## All of them -/

/-- The scripts in their order; those that change no row of these tables are left out. -/
def migrate (d : Database) : Except MigrationError Database := do
  let d ← modelCatalog now d
  let d := usageProviderAttribution d
  let d ← healthPersistence d
  let d := virtualKeyLifecycle d
  let d ← restoreBuiltinProviderPresets now d
  let d ← repairBuiltinSourceAuthSnapshots now d
  let d ← healthFailureWindow now d
  let d ← kimiNativeResponses now documents d
  let d ← kimiCodeCnDiscovery now documents d
  multimodalModelCapabilities now documents d

end Scripts

end AiGateway.Migrations
