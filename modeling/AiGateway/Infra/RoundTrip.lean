import AiGateway.ControlPlane.Publication
import AiGateway.Infra.RestoreSteps
import AiGateway.Infra.SameSnapshot

/-!
# Export and restore as a round trip

Where no text a snapshot depends on is redacted, an export restored over its own
database reproduces the rows and the snapshot, unless a live binding has stopped
being routable: the trigger on bindings admits by update what it refuses by insert.
-/

namespace AiGateway.Ops

set_option autoImplicit false

open AiGateway.Catalog AiGateway.Checked AiGateway.Config AiGateway.ControlPlane AiGateway.Health
  AiGateway.Json AiGateway.Order OpsRepository

/-- No key and no text a snapshot reads is touched by the redaction. -/
structure Unredacted (urls : Urls) (t : Tables) : Prop where
  providerPresets : ∀ row ∈ t.providerPresets, Kept urls row.id
  modelPresets : ∀ row ∈ t.modelPresets, Kept urls row.id
  sources : ∀ row ∈ t.sources, Kept urls row.id ∧ Kept urls row.displayName ∧
    Kept urls row.baseUrl ∧ sanitizeMember urls row.endpoints = row.endpoints
  accounts : ∀ row ∈ t.accounts, Kept urls row.id ∧ Kept urls row.displayName ∧
    ∀ name ∈ row.credentialEnv, Kept urls name
  sourceModels : ∀ row ∈ t.sourceModels, Kept urls row.upstreamModelId
  capabilities : ∀ row ∈ t.capabilities, ∀ name ∈ row.adapter, Kept urls name
  logicalModels : ∀ row ∈ t.logicalModels, Kept urls row.id ∧ Kept urls row.publicName ∧
    Kept urls row.displayName
  routes : ∀ row ∈ t.routes, Kept urls row.id ∧ Kept urls row.strategy

/-! ## One row through export and restore -/

theorem map_of_kept {urls : Urls} {text : Option String} (h : ∀ name ∈ text, Kept urls name) :
    text.map (sanitizeText urls) = text := by
  cases text with
  | none => rfl
  | some name => exact congrArg some (h name rfl)

theorem map_twiceText (urls : Urls) (text : Option String) :
    (text.map (sanitizeText urls)).map (sanitizeText urls) = text.map (twiceText urls) := by
  cases text with
  | none => simp only [Option.map_none]
  | some value => simp only [Option.map_some, twiceText_eq]

theorem isPlainText_healthStatus : ∀ text ∈ healthStatuses, isPlainText text = true := by
  decide

theorem isPlainText_healthSource : ∀ text ∈ healthSources, isPlainText text = true := by
  decide

section Rows

variable {urls : Urls} {db : Db} (h : Unredacted urls db.toTables)

include h

theorem kept_sourceId {id : String} (hId : id ∈ db.sources.map SourceRow.id) : Kept urls id := by
  obtain ⟨row, hRow, rfl⟩ := List.mem_map.mp hId
  exact (h.sources row hRow).1

theorem kept_modelKey {sourceId upstreamModelId : String}
    (hKey : (sourceId, upstreamModelId) ∈ db.sourceModels.map SourceModelRow.key) :
    Kept urls sourceId ∧ Kept urls upstreamModelId := by
  obtain ⟨row, hRow, hEq⟩ := List.mem_map.mp hKey
  obtain ⟨rfl, rfl⟩ := Prod.mk.inj hEq
  exact ⟨kept_sourceId h (db.references.sourceModelSource row hRow), h.sourceModels row hRow⟩

theorem restored_source {row : SourceRow} (hRow : row ∈ db.sources) :
    SourceRow.sanitize urls (sanitizeSourceRow urls (SourceRow.sanitize urls row)) =
      redactedSource urls row := by
  obtain ⟨hId, hName, hUrl, hEndpoints⟩ := h.sources row hRow
  obtain ⟨preset, hPreset, hEq⟩ := List.mem_map.mp (db.references.sourcePreset row hRow)
  have hPresetId : Kept urls row.providerPresetId := by
    rw [← (Prod.mk.inj hEq).1]
    exact h.providerPresets preset hPreset
  simp only [Kept] at hId hName hUrl hPresetId
  simp only [SourceRow.sanitize, sanitizeSourceRow, redactedSource, twice, thrice, hId, hName, hUrl,
    hPresetId, hEndpoints]

theorem restored_account (hUrls : urls.NeedsScheme) {row : AccountRow} (hRow : row ∈ db.accounts) :
    restoredAccount urls (exportAccount urls row) = redactedAccount urls row := by
  obtain ⟨hId, hName, hEnv⟩ := h.accounts row hRow
  have hSource := kept_sourceId h (db.references.accountSource row hRow)
  obtain ⟨hStatus, hHealthSource, -⟩ := db.checks.accounts row hRow
  have hStatus := kept_of_isPlainText hUrls (isPlainText_healthStatus _ hStatus)
  have hHealthSource := kept_of_isPlainText hUrls (isPlainText_healthSource _ hHealthSource)
  have hEnv := map_of_kept hEnv
  simp only [Kept] at hId hName hSource hStatus hHealthSource
  simp only [restoredAccount, exportAccount, sanitizeAccountRow, AccountRow.sanitize,
    HealthColumns.sanitize, redactedAccount, hId, hName, hSource, hStatus, hHealthSource, hEnv,
    map_twiceText]

theorem restored_sourceModel {row : SourceModelRow} (hRow : row ∈ db.sourceModels) :
    SourceModelRow.sanitize urls (SourceModelRow.sanitize urls row) =
      redactedSourceModel urls row := by
  obtain ⟨hSource, hModel⟩ := kept_modelKey h (List.mem_map_of_mem hRow)
  have hMatched : ∀ preset ∈ row.matchedModelPreset, Kept urls preset.id := by
    intro preset hPreset
    obtain ⟨other, hOther, hEq⟩ :=
      List.mem_map.mp (db.references.matchedPreset row hRow preset hPreset)
    rw [← (Prod.mk.inj hEq).1]
    exact h.modelPresets other hOther
  have hPreset : (row.matchedModelPreset.map fun preset =>
      { preset with id := sanitizeText urls preset.id }) = row.matchedModelPreset := by
    cases hEq : row.matchedModelPreset with
    | none => rfl
    | some preset =>
      have hKept : sanitizeText urls preset.id = preset.id := hMatched preset hEq
      simp [hKept]
  simp only [Kept] at hSource hModel
  simp only [SourceModelRow.sanitize, redactedSourceModel, twice, hSource, hModel, hPreset]

theorem restored_capability {row : CapabilityRow} (hRow : row ∈ db.capabilities) :
    CapabilityRow.sanitize urls (CapabilityRow.sanitize urls row) = redactedCapability urls row := by
  obtain ⟨hSource, hModel⟩ := kept_modelKey h (db.references.capabilityModel row hRow)
  have hAdapter := map_of_kept (h.capabilities row hRow)
  simp only [Kept] at hSource hModel
  simp only [CapabilityRow.sanitize, redactedCapability, twice, hSource, hModel, hAdapter]

theorem restored_logicalModel {row : LogicalModelRow} (hRow : row ∈ db.logicalModels) :
    LogicalModelRow.sanitize urls (LogicalModelRow.sanitize urls row) =
      redactedLogicalModel urls row := by
  obtain ⟨hId, hPublic, hName⟩ := h.logicalModels row hRow
  simp only [Kept] at hId hPublic hName
  simp only [LogicalModelRow.sanitize, redactedLogicalModel, twice, hId, hPublic, hName]

theorem kept_logicalModelId {id : String} (hId : id ∈ db.logicalModels.map LogicalModelRow.id) :
    Kept urls id := by
  obtain ⟨row, hRow, rfl⟩ := List.mem_map.mp hId
  exact (h.logicalModels row hRow).1

theorem restored_binding {row : BindingRow} (hRow : row ∈ db.bindings) :
    BindingRow.sanitize urls (BindingRow.sanitize urls row) = row := by
  have hLogical := kept_logicalModelId h (db.references.bindingLogicalModel row hRow)
  obtain ⟨hSource, hModel⟩ := kept_modelKey h (db.references.bindingModel row hRow)
  obtain ⟨account, hAccount, hEq⟩ := List.mem_map.mp (db.references.bindingAccount row hRow)
  have hAccountId : Kept urls row.accountId := by
    rw [← (Prod.mk.inj hEq).1]
    exact (h.accounts account hAccount).1
  simp only [Kept] at hLogical hSource hModel hAccountId
  simp only [BindingRow.sanitize, hLogical, hSource, hModel, hAccountId]

theorem restored_route {row : RouteRow} (hRow : row ∈ db.routes) :
    RouteRow.sanitize urls (RouteRow.sanitize urls row) = redactedRoute urls row := by
  obtain ⟨hId, hStrategy⟩ := h.routes row hRow
  have hLogical : row.logicalModelId.map (sanitizeText urls) = row.logicalModelId :=
    map_of_kept fun id hId => kept_logicalModelId h (db.references.routeLogicalModel row hRow id hId)
  simp only [Kept] at hId hStrategy
  simp only [RouteRow.sanitize, redactedRoute, twice, twiceText_eq, hId, hStrategy, hLogical]

end Rows

/-! ## The tables a restore aims at -/

def restoredTables (service : Service) (urls : Urls) (t : Tables) : Tables :=
  { t with
    sources := (orderBy service.collation (fun row => [row.id]) t.sources).map
      (redactedSource urls)
    accounts := (orderBy service.collation (fun row => [row.id]) t.accounts).map
      (redactedAccount urls)
    sourceModels := (orderBy service.collation (fun row => [row.sourceId, row.upstreamModelId])
      t.sourceModels).map (redactedSourceModel urls)
    capabilities := (t.capabilities.insertionSort fun a b =>
      CapabilityRow.before service.collation a b).map (redactedCapability urls)
    logicalModels := (orderBy service.collation (fun row => [row.id]) t.logicalModels).map
      (redactedLogicalModel urls)
    bindings := t.bindings.insertionSort fun a b => a.id ≤ b.id
    routes := (orderBy service.collation (fun row => [row.id]) t.routes).map
      (redactedRoute urls) }

theorem perm_orderBy {α : Type} (collation : String → String → Bool) (columns : α → List String)
    (rows : List α) : (orderBy collation columns rows).Perm rows :=
  List.perm_insertionSort _ rows

theorem reproduced_restoredTables (service : Service) (urls : Urls) (t : Tables) :
    Reproduced urls t (restoredTables service urls t) where
  providerPresets := rfl
  modelPresets := rfl
  sources := (perm_orderBy _ _ _).map _
  accounts := (perm_orderBy _ _ _).map _
  sourceModels := (perm_orderBy _ _ _).map _
  capabilities := (List.perm_insertionSort _ _).map _
  logicalModels := (perm_orderBy _ _ _).map _
  bindings := List.perm_insertionSort _ _
  routes := (perm_orderBy _ _ _).map _

/-- Exported rows are restored as the rows of the target. -/
theorem map_restored {α β γ : Type} {rows sorted : List α} (hPerm : sorted.Perm rows) {f : α → β}
    {g : β → γ} {target : α → γ} (h : ∀ row ∈ rows, g (f row) = target row) :
    (sorted.map f).map g = sorted.map target := by
  rw [List.map_map]
  exact List.map_congr_left fun row hRow => h row (hPerm.mem_iff.mp hRow)

/-- The constraints the schema puts on presets. -/
structure PresetsValid (t : Tables) : Prop where
  providerPresets : ∀ row ∈ t.providerPresets, 0 < row.version
  modelPresets : ∀ row ∈ t.modelPresets, 0 < row.version ∧ isArray row.aliases = true ∧
    isObject row.metadata = true ∧ isObject row.fieldSources = true

theorem isArray_sanitizeMember (urls : Urls) (value : Value) :
    isArray (sanitizeMember urls value) = isArray value := by
  cases value <;> simp [sanitizeMember, sanitizeJson, hideSecret, isArray]

section Presets

variable {urls : Urls} {t : Tables} {db : Db} (h : Unredacted urls t) (hValid : PresetsValid t)

include h hValid

theorem restore_providerPreset (hDb : db.providerPresets = t.providerPresets) {row : PresetRow}
    (hRow : row ∈ t.providerPresets) :
    Restore.insertProviderPreset db (PresetRow.sanitize urls (PresetRow.sanitize urls row)) =
      .ok db := by
  have hId : sanitizeText urls row.id = row.id := h.providerPresets row hRow
  have hPresent : (db.preset? row.id row.version).isSome = true := by
    rw [Tables.preset?, Rows.find_isSome_iff, hDb]
    exact List.mem_map_of_mem (f := fun row => (row.id, row.version)) hRow
  unfold Restore.insertProviderPreset
  simp only [PresetRow.sanitize, hId, hPresent]
  exact onConflictDoNothing_present (hValid.providerPresets row hRow)

theorem restore_modelPreset (hDb : db.modelPresets = t.modelPresets) {row : ModelPresetRow}
    (hRow : row ∈ t.modelPresets) :
    Restore.insertModelPreset db (ModelPresetRow.sanitize urls (ModelPresetRow.sanitize urls row)) =
      .ok db := by
  have hId : sanitizeText urls row.id = row.id := h.modelPresets row hRow
  have hPresent : (db.modelPresets.any fun other =>
      other.id = row.id && other.version = row.version) = true := by
    rw [hDb, List.any_eq_true]
    exact ⟨row, hRow, by simp⟩
  unfold Restore.insertModelPreset
  simp only [ModelPresetRow.sanitize, hId, hPresent, isArray_sanitizeMember,
    isObject_sanitizeMember]
  exact onConflictDoNothing_present (hValid.modelPresets row hRow)

end Presets

/-! ## The restore -/

def target (service : Service) (urls : Urls) (db : Db) : Db where
  toTables := restoredTables service urls db.toTables
  keys := (reproduced_restoredTables service urls db.toTables).keys db.keys
  references := (reproduced_restoredTables service urls db.toTables).references db.references
  checks := (reproduced_restoredTables service urls db.toTables).checks db.checks rfl

theorem ok_bind {ε α β : Type} (a : α) (f : α → Except ε β) : (Except.ok a >>= f) = f a := rfl

section Restore

variable {ops : OpsRepository} {service : Service} {db : Db} (hUrls : ops.urls.NeedsScheme)
  (h : Unredacted ops.urls db.toTables) (hValid : PresetsValid db.toTables)

/-- The rows an export hands to a restore are those of the target. -/
structure RestoresRows (urls : Urls) (exported : ControlPlaneExport) (r : Tables) : Prop where
  sources : exported.sources.map (SourceRow.sanitize urls) = r.sources
  accounts : exported.accounts.map (restoredAccount urls) = r.accounts
  sourceModels : exported.sourceModels.map (SourceModelRow.sanitize urls) = r.sourceModels
  capabilities : exported.capabilities.map (CapabilityRow.sanitize urls) = r.capabilities
  logicalModels : exported.logicalModels.map (LogicalModelRow.sanitize urls) = r.logicalModels
  bindings : exported.bindings.map (BindingRow.sanitize urls) = r.bindings
  routes : exported.routes.map (RouteRow.sanitize urls) = r.routes

theorem exported_rows (service : Service) (hUrls : ops.urls.NeedsScheme)
    (h : Unredacted ops.urls db.toTables) (metadata : SchemaMetadata)
    (snapshot : RuntimeSnapshot) :
    RestoresRows ops.urls (ops.exportOf service db metadata snapshot)
      (target service ops.urls db).toTables where
  sources := map_restored (perm_orderBy _ _ _) fun _ hRow => restored_source h hRow
  accounts := map_restored (perm_orderBy _ _ _) fun _ hRow => restored_account h hUrls hRow
  sourceModels := map_restored (perm_orderBy _ _ _) fun _ hRow => restored_sourceModel h hRow
  capabilities :=
    map_restored (List.perm_insertionSort _ _) fun _ hRow => restored_capability h hRow
  logicalModels := map_restored (perm_orderBy _ _ _) fun _ hRow => restored_logicalModel h hRow
  bindings := by
    refine (map_restored (List.perm_insertionSort _ _) fun _ hRow => restored_binding h hRow).trans
      (List.map_id _)
  routes := map_restored (perm_orderBy _ _ _) fun _ hRow => restored_route h hRow

theorem clear_ok (service : Service) (urls : Urls) (db : Db) :
    ∃ cleared : Db, emptied true db = .ok cleared ∧
      cleared.toTables = part (target service urls db).toTables [] [] [] [] [] [] [] := by
  have hStage : Stage (target service urls db).toTables
      (part (target service urls db).toTables [] [] [] [] [] [] []) := by
    constructor <;> simp [part]
  obtain ⟨cleared, hEnforce, hTables⟩ := exists_stage _ hStage
  refine ⟨cleared, ?_, hTables⟩
  rw [emptied, if_pos rfl, opsStatement, mapError_ok]
  exact hEnforce

include hUrls h hValid

/-- All tables but the last two are filled as the target has them. -/
theorem restoreTables_eq (metadata : SchemaMetadata) (snapshot : RuntimeSnapshot) {cleared : Db}
    (hCleared : cleared.toTables =
      part (target service ops.urls db).toTables [] [] [] [] [] [] []) :
    ∃ filled : Db, filled.toTables = part (target service ops.urls db).toTables
        (target service ops.urls db).sources (target service ops.urls db).accounts
        (target service ops.urls db).sourceModels (target service ops.urls db).capabilities
        (target service ops.urls db).logicalModels [] [] ∧
      ops.restoreTables (ops.exportOf service db metadata snapshot) cleared =
        (restoreTable Restore.insertBinding (target service ops.urls db).bindings filled >>=
          restoreTable Restore.insertRoute (target service ops.urls db).routes) := by
  have hPresets : cleared.providerPresets = db.providerPresets := by
    rw [hCleared]
    rfl
  have hModelPresets : cleared.modelPresets = db.modelPresets := by
    rw [hCleared]
    rfl
  have hProviders : restoreTable Restore.insertProviderPreset
      ((ops.exportOf service db metadata snapshot).providerPresets.map
        (PresetRow.sanitize ops.urls)) cleared = .ok cleared := by
    refine restoreTable_present fun row hRow => ?_
    simp only [exportOf, orderByVersion, List.map_map, List.mem_map, List.mem_insertionSort] at hRow
    obtain ⟨old, hOld, rfl⟩ := hRow
    exact restore_providerPreset h hValid hPresets hOld
  have hModels : restoreTable Restore.insertModelPreset
      ((ops.exportOf service db metadata snapshot).modelPresets.map
        (ModelPresetRow.sanitize ops.urls)) cleared = .ok cleared := by
    refine restoreTable_present fun row hRow => ?_
    simp only [exportOf, orderByVersion, List.map_map, List.mem_map, List.mem_insertionSort] at hRow
    obtain ⟨old, hOld, rfl⟩ := hRow
    exact restore_modelPreset h hValid hModelPresets hOld
  obtain ⟨db1, hSources, hDb1⟩ := fill_sources (target service ops.urls db) hCleared
  obtain ⟨db2, hAccounts, hDb2⟩ := fill_accounts _ hDb1
  obtain ⟨db3, hSourceModels, hDb3⟩ := fill_sourceModels _ hDb2
  obtain ⟨db4, hCapabilities, hDb4⟩ := fill_capabilities _ hDb3
  obtain ⟨filled, hLogicalModels, hFilled⟩ := fill_logicalModels _ hDb4
  refine ⟨filled, hFilled, ?_⟩
  have hRows := exported_rows service hUrls h metadata snapshot
  unfold OpsRepository.restoreTables
  dsimp only
  rw [hProviders, ok_bind, hModels, ok_bind, hRows.sources, hSources, ok_bind, hRows.accounts,
    hAccounts, ok_bind, hRows.sourceModels, hSourceModels, ok_bind, hRows.capabilities,
    hCapabilities, ok_bind, hRows.logicalModels, hLogicalModels, ok_bind, hRows.bindings,
    hRows.routes]

end Restore

/-! ## An export is a well-formed import -/

/-- What the libraries and the migrated database guarantee. -/
structure Standard (ops : OpsRepository) : Prop where
  urls : ops.urls.NeedsScheme
  digest : ∀ input, isFingerprint (ops.sha256Json input) = true
  schema : 0 < ops.metadata.schemaVersion ∧ ops.metadata.schemaVersion ≤ currentSchemaVersion
  migration : 0 < ops.metadata.migrationVersion ∧
    ops.metadata.migrationVersion ≤ currentMigrationVersion

theorem forM_eq_ok {ε α : Type} {items : List α} {f : α → Except ε PUnit}
    (h : ∀ item ∈ items, f item = .ok ⟨⟩) : items.forM f = .ok ⟨⟩ := by
  induction items with
  | nil => rfl
  | cons item rest ih =>
    have hItem : (item :: rest).forM f = (f item >>= fun _ => rest.forM f) := rfl
    rw [hItem, h item List.mem_cons_self]
    exact ih fun item hItem => h item (List.mem_cons_of_mem _ hItem)

/-- The entry that stands in for a secret is no secret. -/
theorem credential_exportAccount (urls : Urls) (row : AccountRow) :
    hasPlaintextSecret (.object [("credential", (exportAccount urls row).credential)]) = false := by
  have hKind : plaintextNames.contains (Text.toAsciiLowercase "kind") = false := by decide
  have hName : plaintextNames.contains (Text.toAsciiLowercase "name") = false := by decide
  have hPair : ∀ name : String, hasPlaintextSecret (.object [("credential",
      .object [("kind", .string "secret_ref"), ("name", .string name)])]) = false := by
    intro name
    simp only [hasPlaintextSecret, fieldsHavePlaintextSecret, isPlaintextField,
      Value.asStr, hKind, hName, Option.any_none, Bool.and_false, Bool.false_and, Bool.or_false]
  have hSingle : ∀ kind : String, hasPlaintextSecret (.object [("credential",
      credentialKind kind)]) = false := by
    intro kind
    simp only [credentialKind, hasPlaintextSecret, fieldsHavePlaintextSecret, isPlaintextField,
      Value.asStr, hKind, Option.any_none, Bool.and_false, Bool.false_and, Bool.or_false]
  simp only [exportAccount, sanitizeAccountRow]
  split
  · split
    · exact hPair _
    · exact hSingle _
  · split
    · exact hSingle _
    · exact hSingle _

/-- No document of an export holds a secret in plain text. -/
theorem documents_exportOf (ops : OpsRepository) (service : Service) (db : Db)
    (metadata : SchemaMetadata) (snapshot : RuntimeSnapshot) :
    ∀ values ∈ documents (ops.exportOf service db metadata snapshot), ∀ value ∈ values,
      hasPlaintextSecret value = false := by
  have hMember := hasPlaintextSecret_sanitizeMember ops.urls
  have hJson := hasPlaintextSecret_sanitizeJson ops.urls
  intro values hValues value hValue
  simp only [documents, exportOf, List.mem_cons, List.not_mem_nil, or_false] at hValues
  obtain rfl | rfl | rfl | rfl | rfl | rfl | rfl | rfl | rfl := hValues
  · simp only [List.mem_map] at hValue
    obtain ⟨_, ⟨row, -, rfl⟩, rfl⟩ := hValue
    exact hMember row.definition
  · simp only [List.mem_flatMap, List.mem_map, List.mem_cons, List.not_mem_nil, or_false] at hValue
    obtain ⟨_, ⟨row, -, rfl⟩, rfl | rfl | rfl⟩ := hValue
    · exact hMember row.aliases
    · exact hMember row.metadata
    · exact hMember row.fieldSources
  · simp only [List.mem_flatMap, List.mem_map, List.mem_cons, List.not_mem_nil, or_false] at hValue
    obtain ⟨_, ⟨row, -, rfl⟩, rfl | rfl | rfl | rfl⟩ := hValue
    · exact hJson _
    · exact hMember row.endpoints
    · exact hJson _
    · exact hMember row.protocolCapabilities
  · simp only [List.mem_map] at hValue
    obtain ⟨_, ⟨row, -, rfl⟩, rfl⟩ := hValue
    exact credential_exportAccount ops.urls row
  · simp only [List.mem_flatMap, List.mem_map, List.mem_cons, List.not_mem_nil, or_false] at hValue
    obtain ⟨_, ⟨row, -, rfl⟩, rfl | rfl | rfl⟩ := hValue
    · exact hMember row.rawSnapshot
    · exact hMember row.metadata
    · exact hMember row.fieldSources
  · simp only [List.mem_map] at hValue
    obtain ⟨_, ⟨row, -, rfl⟩, rfl⟩ := hValue
    exact hMember row.featureCapabilities
  · simp only [List.mem_flatMap, List.mem_map, List.mem_cons, List.not_mem_nil, or_false] at hValue
    obtain ⟨_, ⟨row, -, rfl⟩, rfl | rfl⟩ := hValue
    · exact hMember row.metadata
    · exact hMember row.fieldSources
  · cases hValue
  · simp only [List.mem_map] at hValue
    obtain ⟨_, ⟨row, -, rfl⟩, rfl⟩ := hValue
    exact hMember row.protocols

theorem validateExportShape_exportOf {ops : OpsRepository} (hOps : Standard ops)
    (service : Service) (db : Db) (snapshot : RuntimeSnapshot)
    (hCounts : ∀ count ∈ rowCounts (ops.exportOf service db ops.metadata snapshot),
      count ≤ maxExportRows) :
    validateExportShape (ops.exportOf service db ops.metadata snapshot) = .ok () := by
  have hTables : ((rowCounts (ops.exportOf service db ops.metadata snapshot)).zip
      (documents (ops.exportOf service db ops.metadata snapshot))).forM
      (fun table => (do
        ensure (table.1 ≤ maxExportRows)
          (.validation ("control-plane export exceeds " ++ toString maxExportRows ++ " rows"))
        ensure (table.2.all fun value => !hasPlaintextSecret value)
          (.validation "control-plane export contains a plaintext credential field") :
        Except OpsError Unit)) = .ok () := by
    refine forM_eq_ok fun table hTable => ?_
    obtain ⟨hCount, hDocuments⟩ := List.of_mem_zip hTable
    rw [bind_eq_ok]
    refine ⟨(), ensure_eq_ok.mpr (hCounts _ hCount), ensure_eq_ok.mpr ?_⟩
    rw [List.all_eq_true]
    intro value hValue
    simp [documents_exportOf ops service db ops.metadata snapshot _ hDocuments value hValue]
  simp only [validateExportShape, bind_eq_ok]
  exact ⟨(), ensure_eq_ok.mpr ⟨rfl, rfl⟩, (), ensure_eq_ok.mpr rfl, (),
    ensure_eq_ok.mpr ⟨hOps.schema.1, hOps.migration.1⟩, (), ensure_eq_ok.mpr (hOps.digest _), hTables⟩

/-! ## The whole restore -/

/-- The counters are no part of the rows. -/
theorem Reproduced.withCounters {urls : Urls} {t t' : Tables} (h : Reproduced urls t t')
    (revision : Int) (updatedAt : DateTime) (next : Int) :
    Reproduced urls t { t' with
      revision := revision, snapshotUpdatedAt := updatedAt, nextBindingId := next } where
  providerPresets := h.providerPresets
  modelPresets := h.modelPresets
  sources := h.sources
  accounts := h.accounts
  sourceModels := h.sourceModels
  capabilities := h.capabilities
  logicalModels := h.logicalModels
  bindings := h.bindings
  routes := h.routes

theorem one_le_max {ids : List Int} (h : ∀ id ∈ ids, 1 ≤ id) : 1 ≤ ids.max?.getD 1 := by
  cases hMax : ids.max? with
  | none => exact le_refl 1
  | some id => exact h id (List.max?_mem hMax)

section Counters

variable {urls : Urls} {db restored : Db} (h : Reproduced urls db.toTables restored.toTables)

include h

/-- The counters may be set as long as the revision stays. -/
theorem exists_withCounters {revision : Int} (hRevision : revision = db.revision)
    (updatedAt : DateTime) (next : Int) :
    ∃ db' : Db,
      enforce { restored.toTables with
        revision := revision, snapshotUpdatedAt := updatedAt, nextBindingId := next } = .ok db' ∧
      Reproduced urls db.toTables db'.toTables ∧ db'.revision = db.revision := by
  have hCounters := h.withCounters revision updatedAt next
  obtain ⟨db', hEnforce, hTables⟩ := exists_enforce (hCounters.keys db.keys)
    (hCounters.references db.references) (hCounters.checks db.checks hRevision)
  refine ⟨db', hEnforce, hTables ▸ hCounters, ?_⟩
  rw [hTables]
  exact hRevision

theorem restoreSnapshotState_ok (metadata : RuntimeSnapshotMetadata)
    (hRevision : metadata.revision = db.revision) :
    ∃ db', restoreSnapshotState metadata restored = .ok db' ∧
      Reproduced urls db.toTables db'.toTables ∧ db'.revision = db.revision := by
  obtain ⟨db', hEnforce, hKept⟩ :=
    exists_withCounters h hRevision metadata.generatedAt restored.nextBindingId
  refine ⟨db', ?_, hKept⟩
  rw [restoreSnapshotState, bind_eq_ok]
  refine ⟨(), ensure_eq_ok.mpr (hRevision ▸ db.checks.revision.1), ?_⟩
  rw [opsStatement, mapError_ok]
  exact hEnforce

theorem resetSequences_ok (hRevision : restored.revision = db.revision)
    (hIds : ∀ row ∈ db.bindings, 1 ≤ row.id) :
    ∃ db', resetSequences restored = .ok db' ∧ Reproduced urls db.toTables db'.toTables := by
  have hLast : 1 ≤ (restored.bindings.map BindingRow.id).max?.getD 1 := by
    apply one_le_max
    intro id hId
    obtain ⟨row, hRow, rfl⟩ := List.mem_map.mp hId
    exact hIds row (h.bindings.mem_iff.mp hRow)
  obtain ⟨db', hEnforce, hKept, -⟩ := exists_withCounters h hRevision restored.snapshotUpdatedAt
    ((restored.bindings.map BindingRow.id).max?.getD 1 + 1)
  refine ⟨db', ?_, hKept⟩
  rw [resetSequences, bind_eq_ok]
  refine ⟨(), ensure_eq_ok.mpr hLast, ?_⟩
  rw [opsStatement, mapError_ok]
  exact hEnforce

end Counters

/-- No table is longer than an export may be. -/
def FitsExport (t : Tables) : Prop :=
  ∀ count ∈ [t.providerPresets.length, t.modelPresets.length, t.sources.length, t.accounts.length,
    t.sourceModels.length, t.capabilities.length, t.logicalModels.length, t.bindings.length,
    t.routes.length], count ≤ maxExportRows

theorem rowCounts_exportOf {ops : OpsRepository} {service : Service} {db : Db}
    {metadata : SchemaMetadata} {snapshot : RuntimeSnapshot} :
    (∀ count ∈ rowCounts (ops.exportOf service db metadata snapshot), count ≤ maxExportRows) ↔
      FitsExport db.toTables := by
  simp only [rowCounts, exportOf, orderBy, orderByVersion, List.length_map,
    List.length_insertionSort, FitsExport]

/-- Every live binding still meets the conditions its trigger asks for. -/
def LiveRoutable (t : Tables) : Prop :=
  ∀ row ∈ t.bindings, row.isLive = true → t.isRoutable row = true

/-- An export restored over its own database succeeds, brings back every row up to
what the exporter redacts, and gives a snapshot with the same fingerprint. -/
def RoundTrips (ops : OpsRepository) (service : Service) (db : Db) : Prop :=
  ∃ exported committed snapshot, ops.exportControlPlane service db = .ok exported ∧
    ops.restoreControlPlane service exported true db = .ok committed ∧
    Reproduced ops.urls db.toTables committed.db.toTables ∧
    loadSnapshot service db.toTables = .ok snapshot ∧
    ops.runtimeSnapshotFingerprint committed.snapshot = ops.runtimeSnapshotFingerprint snapshot

theorem schemaMetadata_ok {ops : OpsRepository} (hOps : Standard ops) :
    ops.schemaMetadata = .ok ops.metadata := by
  rw [schemaMetadata, bind_eq_ok]
  exact ⟨(), ensure_eq_ok.mpr ⟨hOps.schema.2, hOps.migration.2⟩, rfl⟩

theorem exportControlPlane_eq_ok {ops : OpsRepository} (hOps : Standard ops) {service : Service}
    {db : Db} {exported : ControlPlaneExport} :
    ops.exportControlPlane service db = .ok exported ↔
      ∃ snapshot, loadSnapshot service db.toTables = .ok snapshot ∧ FitsExport db.toTables ∧
        exported = ops.exportOf service db ops.metadata snapshot := by
  rw [exportControlPlane, schemaMetadata_ok hOps, ok_bind]
  simp only [buildControlPlaneExport, bind_eq_ok, pure_eq_ok, mapError_ok]
  constructor
  · rintro ⟨snapshot, hLoad, ⟨⟩, hCounts, hExported⟩
    exact ⟨snapshot, hLoad, rowCounts_exportOf.mp (ensure_eq_ok.mp hCounts), hExported.symm⟩
  · rintro ⟨snapshot, hLoad, hFits, rfl⟩
    exact ⟨snapshot, hLoad, (), ensure_eq_ok.mpr (rowCounts_exportOf.mpr hFits), rfl⟩

section Whole

variable {ops : OpsRepository} {service : Service} {db : Db} (hOps : Standard ops)
  (h : Unredacted ops.urls db.toTables) (hValid : PresetsValid db.toTables)

include hOps h hValid

theorem restoreTables_ok (hLive : LiveRoutable db.toTables) (metadata : SchemaMetadata)
    (snapshot : RuntimeSnapshot) {cleared : Db}
    (hCleared : cleared.toTables =
      part (target service ops.urls db).toTables [] [] [] [] [] [] []) :
    ∃ restored : Db, restored.toTables = (target service ops.urls db).toTables ∧
      ops.restoreTables (ops.exportOf service db metadata snapshot) cleared = .ok restored := by
  obtain ⟨filled, hFilled, hTables⟩ :=
    restoreTables_eq hOps.urls h hValid metadata snapshot hCleared
  have hReproduced := reproduced_restoredTables service ops.urls db.toTables
  have hTrigger : LiveRoutable (target service ops.urls db).toTables := by
    intro row hRow hIsLive
    exact (hReproduced.isRoutable db.keys row).trans
      (hLive row (hReproduced.bindings.mem_iff.mp hRow) hIsLive)
  obtain ⟨bound, hBindings, hBound⟩ := fill_bindings _ hFilled hTrigger
  obtain ⟨restored, hRoutes, hRestored⟩ := fill_routes _ hBound
  refine ⟨restored, hRestored, ?_⟩
  rw [hTables, hBindings, ok_bind, hRoutes]

theorem liveRoutable_of_restoreTables {metadata : SchemaMetadata} {snapshot : RuntimeSnapshot}
    {cleared restored : Db}
    (hCleared : cleared.toTables =
      part (target service ops.urls db).toTables [] [] [] [] [] [] [])
    (hRestore : ops.restoreTables (ops.exportOf service db metadata snapshot) cleared =
      .ok restored) : LiveRoutable db.toTables := by
  obtain ⟨filled, hFilled, hTables⟩ :=
    restoreTables_eq hOps.urls h hValid metadata snapshot hCleared
  rw [hTables, bind_eq_ok] at hRestore
  obtain ⟨bound, hBindings, -⟩ := hRestore
  have hReproduced := reproduced_restoredTables service ops.urls db.toTables
  intro row hRow hIsLive
  have hRoutable :=
    routable_of_restore hBindings row (hReproduced.bindings.mem_iff.mpr hRow) hIsLive
  rw [hFilled, isRoutable_part] at hRoutable
  exact (hReproduced.isRoutable db.keys row).symm.trans hRoutable

theorem restoreRows_ok (hCollation : Linear service.collation) (hSound : db.Sound)
    (hIds : ∀ row ∈ db.bindings, 1 ≤ row.id) (hLive : LiveRoutable db.toTables)
    (metadata : SchemaMetadata) {snapshot : RuntimeSnapshot}
    (hLoad : loadSnapshot service db.toTables = .ok snapshot) :
    ∃ committed,
      ops.restoreRows service (ops.exportOf service db metadata snapshot) true db = .ok committed ∧
      Reproduced ops.urls db.toTables committed.db.toTables ∧
      ops.runtimeSnapshotFingerprint committed.snapshot =
        ops.runtimeSnapshotFingerprint snapshot := by
  obtain ⟨cleared, hEmptied, hCleared⟩ := clear_ok service ops.urls db
  obtain ⟨restored, hRestored, hTables⟩ :=
    restoreTables_ok hOps h hValid hLive metadata snapshot hCleared
  have hReproduced : Reproduced ops.urls db.toTables restored.toTables :=
    hRestored ▸ reproduced_restoredTables service ops.urls db.toTables
  obtain ⟨stamped, hState, hStamped, hRevision⟩ := restoreSnapshotState_ok hReproduced
    (ops.runtimeSnapshotMetadata snapshot) (loadSnapshot_revision hLoad)
  obtain ⟨numbered, hSequences, hNumbered⟩ := resetSequences_ok hStamped hRevision hIds
  obtain ⟨reloaded, hReload, hInput⟩ :=
    hNumbered.loadSnapshot db.keys hOps.urls hSound hCollation hLoad
  have hFingerprint : ops.runtimeSnapshotFingerprint reloaded =
      ops.runtimeSnapshotFingerprint snapshot := congrArg ops.sha256Json hInput
  refine ⟨⟨numbered, reloaded⟩, ?_, hNumbered, hFingerprint⟩
  simp only [restoreRows, bind_eq_ok, pure_eq_ok]
  refine ⟨(), ensure_eq_ok.mpr (.inr trivial), cleared, hEmptied, restored, hTables, stamped, hState, ?_⟩
  refine ⟨numbered, hSequences, reloaded, mapError_ok.mpr hReload, (), ?_, rfl⟩
  exact ensure_eq_ok.mpr hFingerprint

/-- A state whose snapshot loads makes the round trip exactly when its tables fit into
an export and its live bindings would be accepted anew. -/
theorem roundTrips_iff (hCollation : Linear service.collation) (hSound : db.Sound)
    (hIds : ∀ row ∈ db.bindings, 1 ≤ row.id) (hLoadable : Loadable service db.toTables) :
    RoundTrips ops service db ↔ FitsExport db.toTables ∧ LiveRoutable db.toTables := by
  constructor
  · rintro ⟨exported, committed, snapshot, hExport, hRestore, -⟩
    obtain ⟨_, -, hFits, rfl⟩ := (exportControlPlane_eq_ok hOps).mp hExport
    simp only [restoreControlPlane, restoreRows, bind_eq_ok] at hRestore
    obtain ⟨-, -, -, -, -, -, -, ⟨-, -, cleared, hEmptied, restored, hTables, -⟩, -⟩ := hRestore
    obtain ⟨cleared', hEmptied', hCleared⟩ := clear_ok service ops.urls db
    obtain rfl := Except.ok.inj (hEmptied.symm.trans hEmptied')
    exact ⟨hFits, liveRoutable_of_restoreTables hOps h hValid hCleared hTables⟩
  · rintro ⟨hFits, hLive⟩
    obtain ⟨snapshot, hLoad⟩ := hLoadable
    obtain ⟨committed, hRows, hReproduced, hFingerprint⟩ :=
      restoreRows_ok hOps h hValid hCollation hSound hIds hLive ops.metadata hLoad
    have hShape := validateExportShape_exportOf hOps service db snapshot
      (rowCounts_exportOf.mpr hFits)
    refine ⟨_, committed, snapshot, (exportControlPlane_eq_ok hOps).mpr ⟨snapshot, hLoad, hFits, rfl⟩,
      ?_, hReproduced, hLoad, hFingerprint⟩
    rw [restoreControlPlane, hShape, ok_bind, schemaMetadata_ok hOps, ok_bind]
    simp only [bind_eq_ok, pure_eq_ok]
    exact ⟨(), ensure_eq_ok.mpr ⟨le_refl _, le_refl _⟩, committed, hRows, (),
      ensure_eq_ok.mpr hFingerprint, rfl⟩

end Whole

end AiGateway.Ops
