import AiGateway.ControlPlane.Sound
import AiGateway.Infra.Restore

/-!
# Tables reproduced by a restore

The rows a restore writes for the rows of an export: in the order of the export,
with their documents redacted and without ciphertexts.  Where no text a snapshot
reads is redacted, such tables meet every constraint the original tables meet, and
every lookup finds the same row in both.
-/

namespace AiGateway.Ops

set_option autoImplicit false

open AiGateway.Catalog AiGateway.Checked AiGateway.ControlPlane AiGateway.Health AiGateway.Json

/-! ## Rows without their secrets -/

section Rows

variable (urls : Urls)

-- irreducible, so that comparing two rows does not run the redaction
/-- A column that is redacted by the export and again by the restore. -/
@[irreducible] def twice (value : Value) : Value := sanitizeMember urls (sanitizeMember urls value)

@[irreducible] def twiceText (value : String) : String := sanitizeText urls (sanitizeText urls value)

theorem twiceText_eq (value : String) :
    twiceText urls value = sanitizeText urls (sanitizeText urls value) := by
  unfold twiceText
  with_reducible rfl

/-- Two columns of a source have a third pass between the two. -/
@[irreducible] def thrice (value : Value) : Value :=
  sanitizeMember urls (sanitizeJson urls (sanitizeMember urls value))

def redactedSource (row : SourceRow) : SourceRow :=
  { row with
    providerPresetSnapshot := thrice urls row.providerPresetSnapshot
    authConfig := thrice urls row.authConfig
    protocolCapabilities := twice urls row.protocolCapabilities }

def redactedAccount (row : AccountRow) : AccountRow :=
  { row with
    credentialCiphertext := none
    health := { row.health with
      lastError := row.health.lastError.map (twiceText urls)
      lastProbeStatus := row.health.lastProbeStatus.map (twiceText urls)
      lastProbeError := row.health.lastProbeError.map (twiceText urls) } }

def redactedSourceModel (row : SourceModelRow) : SourceModelRow :=
  { row with
    rawSnapshot := twice urls row.rawSnapshot
    metadata := twice urls row.metadata
    fieldSources := twice urls row.fieldSources }

def redactedCapability (row : CapabilityRow) : CapabilityRow :=
  { row with featureCapabilities := twice urls row.featureCapabilities }

def redactedLogicalModel (row : LogicalModelRow) : LogicalModelRow :=
  { row with
    metadata := twice urls row.metadata
    fieldSources := twice urls row.fieldSources }

def redactedRoute (row : RouteRow) : RouteRow :=
  { row with
    modelPattern := twiceText urls row.modelPattern
    protocols := twice urls row.protocols }

end Rows

/-- The rows of every table, up to what the exporter redacts and up to order. -/
structure Reproduced (urls : Urls) (t t' : Tables) : Prop where
  providerPresets : t'.providerPresets = t.providerPresets
  modelPresets : t'.modelPresets = t.modelPresets
  sources : t'.sources.Perm (t.sources.map (redactedSource urls))
  accounts : t'.accounts.Perm (t.accounts.map (redactedAccount urls))
  sourceModels : t'.sourceModels.Perm (t.sourceModels.map (redactedSourceModel urls))
  capabilities : t'.capabilities.Perm (t.capabilities.map (redactedCapability urls))
  logicalModels : t'.logicalModels.Perm (t.logicalModels.map (redactedLogicalModel urls))
  bindings : t'.bindings.Perm t.bindings
  routes : t'.routes.Perm (t.routes.map (redactedRoute urls))

theorem isObject_sanitizeMember (urls : Urls) (value : Value) :
    isObject (sanitizeMember urls value) = isObject value := by
  cases value <;> simp [sanitizeMember, sanitizeJson, hideSecret, isObject]

theorem isObject_twice (urls : Urls) (value : Value) :
    isObject (twice urls value) = isObject value := by
  rw [twice, isObject_sanitizeMember, isObject_sanitizeMember]

/-- A column of the reproduced rows is a column of the original ones. -/
theorem perm_column {α β : Type} {rows rows' : List α} {f : α → α}
    (hPerm : rows'.Perm (rows.map f)) (column : α → β)
    (hColumn : ∀ row, column (f row) = column row) :
    (rows'.map column).Perm (rows.map column) := by
  have hMap : (rows.map f).map column = rows.map column := by
    simp [hColumn]
  exact hMap ▸ hPerm.map column

/-- What holds of every changed row holds of every reproduced row. -/
theorem forall_reproduced {α : Type} {rows rows' : List α} {f : α → α} {P : α → Prop}
    (hPerm : rows'.Perm (rows.map f)) (h : ∀ row ∈ rows, P (f row)) : ∀ row ∈ rows', P row := by
  intro row hRow
  obtain ⟨old, hOld, rfl⟩ := List.mem_map.mp (hPerm.mem_iff.mp hRow)
  exact h old hOld

section Reproduced

variable {urls : Urls} {t t' : Tables} (h : Reproduced urls t t')

include h

/-! ## Constraints -/

theorem Reproduced.keys (hKeys : t.Keys) : t'.Keys where
  providerPresets := h.providerPresets ▸ hKeys.providerPresets
  modelPresets := h.modelPresets ▸ hKeys.modelPresets
  sources := (perm_column h.sources SourceRow.id fun _ => rfl).nodup_iff.mpr hKeys.sources
  accounts := (perm_column h.accounts AccountRow.id fun _ => rfl).nodup_iff.mpr hKeys.accounts
  sourceModels :=
    (perm_column h.sourceModels SourceModelRow.key fun _ => rfl).nodup_iff.mpr hKeys.sourceModels
  capabilities :=
    (perm_column h.capabilities CapabilityRow.key fun _ => rfl).nodup_iff.mpr hKeys.capabilities
  logicalModels :=
    (perm_column h.logicalModels LogicalModelRow.id fun _ => rfl).nodup_iff.mpr
      hKeys.logicalModels
  publicNames :=
    (perm_column h.logicalModels LogicalModelRow.publicName fun _ => rfl).nodup_iff.mpr
      hKeys.publicNames
  bindings := (h.bindings.map BindingRow.id).nodup_iff.mpr hKeys.bindings
  bindingTuples := (h.bindings.map BindingRow.tuple).nodup_iff.mpr hKeys.bindingTuples
  routes := (perm_column h.routes RouteRow.id fun _ => rfl).nodup_iff.mpr hKeys.routes

theorem Reproduced.references (hReferences : t.References) : t'.References := by
  have hSources {id : String} : id ∈ t'.sources.map SourceRow.id ↔ id ∈ t.sources.map SourceRow.id :=
    (perm_column h.sources SourceRow.id fun _ => rfl).mem_iff
  have hModels {key : String × String} :
      key ∈ t'.sourceModels.map SourceModelRow.key ↔ key ∈ t.sourceModels.map SourceModelRow.key :=
    (perm_column h.sourceModels SourceModelRow.key fun _ => rfl).mem_iff
  have hLogical {id : String} : id ∈ t'.logicalModels.map LogicalModelRow.id ↔
      id ∈ t.logicalModels.map LogicalModelRow.id :=
    (perm_column h.logicalModels LogicalModelRow.id fun _ => rfl).mem_iff
  have hBindings {row : BindingRow} : row ∈ t'.bindings → row ∈ t.bindings := h.bindings.mem_iff.mp
  refine ⟨?_, ?_, ?_, ?_, ?_, ?_, ?_, ?_, ?_, ?_⟩
  · rw [h.providerPresets]
    exact forall_reproduced h.sources hReferences.sourcePreset
  · exact forall_reproduced h.accounts fun row hRow =>
      hSources.mpr (hReferences.accountSource row hRow)
  · exact forall_reproduced h.sourceModels fun row hRow =>
      hSources.mpr (hReferences.sourceModelSource row hRow)
  · rw [h.modelPresets]
    exact forall_reproduced h.sourceModels hReferences.matchedPreset
  · exact forall_reproduced h.capabilities fun row hRow =>
      hModels.mpr (hReferences.capabilityModel row hRow)
  · exact fun row hRow => hLogical.mpr (hReferences.bindingLogicalModel row (hBindings hRow))
  · exact fun row hRow => hModels.mpr (hReferences.bindingModel row (hBindings hRow))
  · intro row hRow
    rw [(perm_column h.capabilities CapabilityRow.key fun _ => rfl).mem_iff]
    exact hReferences.bindingCapability row (hBindings hRow)
  · intro row hRow
    rw [(perm_column h.accounts (fun row => (row.id, row.sourceId)) fun _ => rfl).mem_iff]
    exact hReferences.bindingAccount row (hBindings hRow)
  · exact forall_reproduced h.routes fun row hRow id hId =>
      hLogical.mpr (hReferences.routeLogicalModel row hRow id hId)

theorem Reproduced.checks (hChecks : t.Checks) (hRevision : t'.revision = t.revision) :
    t'.Checks where
  accounts := forall_reproduced h.accounts hChecks.accounts
  sourceModels := by
    refine forall_reproduced h.sourceModels fun row hRow => ?_
    obtain ⟨hStatus, hMetadata, hFieldSources, hStamps⟩ := hChecks.sourceModels row hRow
    refine ⟨hStatus, ?_, ?_, hStamps⟩
    · exact (isObject_twice urls row.metadata).trans hMetadata
    · exact (isObject_twice urls row.fieldSources).trans hFieldSources
  capabilities := by
    refine forall_reproduced h.capabilities fun row hRow => ?_
    obtain ⟨hFeatures, hRest⟩ := hChecks.capabilities row hRow
    exact ⟨(isObject_twice urls row.featureCapabilities).trans hFeatures, hRest⟩
  logicalModels := by
    refine forall_reproduced h.logicalModels fun row hRow => ?_
    obtain ⟨hMetadata, hFieldSources, hRest⟩ := hChecks.logicalModels row hRow
    refine ⟨?_, ?_, hRest⟩
    · exact (isObject_twice urls row.metadata).trans hMetadata
    · exact (isObject_twice urls row.fieldSources).trans hFieldSources
  bindings := fun row hRow => hChecks.bindings row (h.bindings.mem_iff.mp hRow)
  revision := hRevision ▸ hChecks.revision

/-! ## Lookups -/

variable (hKeys : t.Keys)

include hKeys

theorem Reproduced.source? (id : String) :
    t'.source? id = (t.source? id).map (redactedSource urls) :=
  Rows.find_of_perm_map h.sources (fun _ => rfl) hKeys.sources id

theorem Reproduced.account? (id : String) :
    t'.account? id = (t.account? id).map (redactedAccount urls) :=
  Rows.find_of_perm_map h.accounts (fun _ => rfl) hKeys.accounts id

theorem Reproduced.sourceModel? (sourceId upstreamModelId : String) :
    t'.sourceModel? sourceId upstreamModelId =
      (t.sourceModel? sourceId upstreamModelId).map (redactedSourceModel urls) :=
  Rows.find_of_perm_map h.sourceModels (fun _ => rfl) hKeys.sourceModels _

theorem Reproduced.capability? (sourceId upstreamModelId : String) (protocol : Protocol) :
    t'.capability? sourceId upstreamModelId protocol =
      (t.capability? sourceId upstreamModelId protocol).map (redactedCapability urls) :=
  Rows.find_of_perm_map h.capabilities (fun _ => rfl) hKeys.capabilities _

theorem Reproduced.logicalModel? (id : String) :
    t'.logicalModel? id = (t.logicalModel? id).map (redactedLogicalModel urls) :=
  Rows.find_of_perm_map h.logicalModels (fun _ => rfl) hKeys.logicalModels id

theorem Reproduced.isUsable (sourceId upstreamModelId : String) :
    t'.isUsable sourceId upstreamModelId = t.isUsable sourceId upstreamModelId := by
  rw [Tables.isUsable, h.sourceModel? hKeys, Option.any_map]
  rfl

theorem Reproduced.isRoutable (row : BindingRow) : t'.isRoutable row = t.isRoutable row := by
  simp only [Tables.isRoutable, h.source? hKeys, h.account? hKeys, h.sourceModel? hKeys,
    h.capability? hKeys, h.logicalModel? hKeys, Option.any_map]
  rfl

end Reproduced

end AiGateway.Ops
