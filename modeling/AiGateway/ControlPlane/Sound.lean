import AiGateway.ControlPlane.ModelCatalog

/-!
# What every control-plane state keeps

Facts about stored rows that the snapshot relies on and the schema does not
declare: weights are positive, stored features and route protocols can be read
back, and the source model of a live binding is confirmed.  Every write keeps
them, whether or not it goes through a snapshot.
-/

namespace AiGateway.ControlPlane

set_option autoImplicit false

open AiGateway.Catalog AiGateway.Checked AiGateway.Config AiGateway.Health AiGateway.Json

namespace Tables

def isConfirmed (t : Tables) (sourceId upstreamModelId : String) : Bool :=
  (t.sourceModel? sourceId upstreamModelId).any fun model => model.confirmationStatus = .confirmed

def isAvailable (t : Tables) (sourceId upstreamModelId : String) : Bool :=
  (t.sourceModel? sourceId upstreamModelId).any fun model => model.availabilityStatus = .available

theorem isUsable_eq (t : Tables) (sourceId upstreamModelId : String) :
    t.isUsable sourceId upstreamModelId =
      (t.isConfirmed sourceId upstreamModelId && t.isAvailable sourceId upstreamModelId) := by
  unfold isUsable isConfirmed isAvailable
  cases t.sourceModel? sourceId upstreamModelId <;> rfl

theorem isConfirmed_of_isRoutable {t : Tables} {row : BindingRow} (h : t.isRoutable row = true) :
    t.isConfirmed row.sourceId row.upstreamModelId = true := by
  simp only [isRoutable, Bool.and_eq_true] at h
  obtain ⟨⟨-, hModel⟩, -⟩ := h
  unfold isConfirmed
  cases hRow : t.sourceModel? row.sourceId row.upstreamModelId with
  | none => simp [hRow] at hModel
  | some model =>
    simp only [hRow, Option.any_some, Bool.and_eq_true] at hModel ⊢
    exact hModel.1

end Tables

def readableFeatures (value : Value) : Prop :=
  ∃ capabilities, capabilitiesFromCatalog value = .ok capabilities

structure Tables.Sound (t : Tables) : Prop where
  weights : ∀ row ∈ t.accounts, 0 < row.weight
  features : ∀ row ∈ t.capabilities, readableFeatures row.featureCapabilities
  protocols : ∀ row ∈ t.routes, ∃ protocols, protocolsOfValue row.protocols = some protocols
  live : ∀ row ∈ t.bindings, row.isLive = true →
    t.isConfirmed row.sourceId row.upstreamModelId = true

/-! ## Features that were written can be read -/

theorem modeFromCatalog_name (support : CapabilitySupport) :
    ∃ mode, modeFromCatalog (some (.string support.name)) = .ok mode := by
  cases support with
  | supported => exact ⟨.native, by decide⟩
  | unsupported => exact ⟨.unsupported, by decide⟩
  | unknown => exact ⟨.unsupported, by decide⟩

/-- Every value of an object is the name of a support level. -/
def SupportValues (fields : Fields) : Prop :=
  ∀ entry ∈ fields, ∃ support : CapabilitySupport, entry.2 = .string support.name

theorem supportValues_foldl {entries fields : Fields} (hFields : SupportValues fields)
    (hEntries : SupportValues entries) :
    SupportValues
      (entries.foldl (fun fields entry => Fields.insert fields entry.1 entry.2) fields) := by
  intro entry hEntry
  obtain hNew | hOld := Fields.mem_insertAll hEntry
  · exact hEntries entry hNew
  · exact hFields entry hOld

theorem readable_of_modes {fields : Fields}
    (h : ∀ key, ∃ mode, modeFromCatalog (Fields.get fields key) = .ok mode) :
    readableFeatures (.object fields) := by
  obtain ⟨streaming, h1⟩ := h "streaming"
  obtain ⟨tools, h2⟩ := h "tools"
  obtain ⟨toolStreaming, h3⟩ := h "tool_streaming"
  obtain ⟨thinking, h4⟩ := h "thinking"
  obtain ⟨webSearch, h5⟩ := h "web_search"
  obtain ⟨fileSearch, h6⟩ := h "file_search"
  obtain ⟨vision, h7⟩ := h "vision"
  obtain ⟨usage, h8⟩ := h "usage"
  refine ⟨{ streaming, tools, toolStreaming, thinking, webSearch, fileSearch, vision, usage }, ?_⟩
  simp only [capabilitiesFromCatalog, h1, h2, h3, h4, h5, h6, h7, h8]
  rfl

theorem readable_of_supportValues {fields : Fields} (h : SupportValues fields) :
    readableFeatures (.object fields) := by
  apply readable_of_modes
  intro key
  unfold Fields.get
  cases hEntry : fields.find? fun entry => entry.1 == key with
  | none => exact ⟨.unsupported, rfl⟩
  | some entry =>
    obtain ⟨support, hSupport⟩ := h entry (List.mem_of_find?_eq_some hEntry)
    rw [Option.map_some, hSupport]
    exact modeFromCatalog_name support

theorem readable_featuresValue (features : Table String CapabilitySupport) :
    readableFeatures (featuresValue features) := by
  apply readable_of_supportValues
  apply supportValues_foldl
  · intro entry hEntry
    cases hEntry
  · intro entry hEntry
    obtain ⟨feature, -, rfl⟩ := List.mem_map.mp hEntry
    exact ⟨feature.2, rfl⟩

/-! ## Statements -/

theorem ensures_enforce {t : Tables} {P : Tables → Prop} (h : P t) :
    Ensures (enforce t) fun db => P db.toTables := by
  intro db hDb
  rw [enforce_ok hDb]
  exact h

theorem ensures_statement {x : Except DbError Db} {P : Db → Prop} (h : Ensures x P) :
    Ensures (statement x) P :=
  ensures_mapError h

/-- Rows of other sources keep their source model. -/
theorem isConfirmed_withoutSource {t : Tables} {id sourceId : String} (hNe : sourceId ≠ id)
    (upstreamModelId : String) :
    (t.withoutSource id).isConfirmed sourceId upstreamModelId =
      t.isConfirmed sourceId upstreamModelId := by
  have hFind : (t.withoutSource id).sourceModel? sourceId upstreamModelId =
      t.sourceModel? sourceId upstreamModelId := by
    apply Rows.find_filter
    rintro row - hKey
    rw [SourceModelRow.key, Prod.mk.injEq] at hKey
    simpa [hKey.1] using hNe
  rw [Tables.isConfirmed, hFind, Tables.isConfirmed]

section Statements

variable {db : Db} (h : db.Sound)

include h

theorem insertSource_sound (row : SourceRow) :
    Ensures (db.insertSource row) fun db => db.Sound :=
  ensures_enforce ⟨h.weights, h.features, h.protocols, h.live⟩

theorem updateSource_sound (id : String) (f : SourceRow → SourceRow) :
    Ensures (db.updateSource id f) fun db => db.Sound :=
  ensures_enforce ⟨h.weights, h.features, h.protocols, h.live⟩

theorem deleteSource_sound (id : String) : Ensures (db.deleteSource id) fun db => db.Sound := by
  apply ensures_enforce (P := Tables.Sound)
  refine ⟨Rows.forall_filter h.weights, Rows.forall_filter h.features, h.protocols, ?_⟩
  intro row hRow hLive
  obtain ⟨hOld, hSource⟩ := List.mem_filter.mp hRow
  rw [isConfirmed_withoutSource (by simpa using hSource)]
  exact h.live row hOld hLive

theorem insertAccount_sound {row : AccountRow} (hWeight : 0 < row.weight) :
    Ensures (db.insertAccount row) fun db => db.Sound :=
  ensures_enforce
    ⟨Rows.forall_append_singleton h.weights hWeight, h.features, h.protocols, h.live⟩

theorem updateAccounts_sound {p : AccountRow → Bool} {f : AccountRow → AccountRow}
    (hWeight : ∀ row, 0 < row.weight → 0 < (f row).weight) :
    Ensures (db.updateAccounts p f) fun db => db.Sound :=
  ensures_enforce ⟨Rows.forall_updateWhere h.weights fun row _ _ => hWeight row, h.features,
    h.protocols, h.live⟩

theorem deleteAccount_sound (id : String) : Ensures (db.deleteAccount id) fun db => db.Sound :=
  ensures_enforce
    ⟨Rows.forall_filter h.weights, h.features, h.protocols, Rows.forall_filter h.live⟩

theorem insertCapability_sound {row : CapabilityRow}
    (hFeatures : readableFeatures row.featureCapabilities) :
    Ensures (db.insertCapability row) fun db => db.Sound :=
  ensures_enforce
    ⟨h.weights, Rows.forall_append_singleton h.features hFeatures, h.protocols, h.live⟩

theorem updateCapability_sound {sourceId upstreamModelId : String} {protocol : Protocol}
    {f : CapabilityRow → CapabilityRow}
    (hFeatures : ∀ row, readableFeatures (f row).featureCapabilities) :
    Ensures (db.updateCapability sourceId upstreamModelId protocol f) fun db => db.Sound :=
  ensures_enforce ⟨h.weights, Rows.forall_updateWhere h.features fun row _ _ _ => hFeatures row,
    h.protocols, h.live⟩

theorem insertLogicalModel_sound (row : LogicalModelRow) :
    Ensures (db.insertLogicalModel row) fun db => db.Sound :=
  ensures_enforce ⟨h.weights, h.features, h.protocols, h.live⟩

theorem updateLogicalModel_sound (id : String) (f : LogicalModelRow → LogicalModelRow) :
    Ensures (db.updateLogicalModel id f) fun db => db.Sound :=
  ensures_enforce ⟨h.weights, h.features, h.protocols, h.live⟩

theorem deleteLogicalModel_sound (id : String) :
    Ensures (db.deleteLogicalModel id) fun db => db.Sound :=
  ensures_enforce
    ⟨h.weights, h.features, Rows.forall_filter h.protocols, Rows.forall_filter h.live⟩

/-- The trigger has checked the source model of a live binding. -/
theorem insertBinding_sound (row : Int → BindingRow) :
    Ensures (db.insertBinding row) fun db => db.Sound := by
  unfold Db.insertBinding
  split
  · exact ensures_error
  · next hTrigger =>
    refine ensures_enforce ⟨h.weights, h.features, h.protocols,
      Rows.forall_append_singleton h.live ?_⟩
    intro hLive
    apply Tables.isConfirmed_of_isRoutable (t := db.toTables)
    simpa [hLive] using hTrigger

theorem updateBinding_sound (id : Int) (f : BindingRow → BindingRow) :
    Ensures (db.updateBinding id f) fun db => db.Sound := by
  unfold Db.updateBinding
  split
  · exact ensures_error
  · next hTrigger =>
    refine ensures_enforce ⟨h.weights, h.features, h.protocols, ?_⟩
    apply Rows.forall_updateWhere h.live
    intro row hRow hId _ hLive
    apply Tables.isConfirmed_of_isRoutable (t := db.toTables)
    simp only [List.any_eq_true, not_exists, not_and, Bool.and_eq_true, Bool.not_eq_true'] at hTrigger
    simpa using hTrigger row hRow ⟨hId, hLive⟩

theorem deleteBindings_sound (p : BindingRow → Bool) :
    Ensures (db.deleteBindings p) fun db => db.Sound :=
  ensures_enforce ⟨h.weights, h.features, h.protocols, Rows.forall_filter h.live⟩

theorem insertRoute_sound {row : RouteRow}
    (hProtocols : ∃ protocols, protocolsOfValue row.protocols = some protocols) :
    Ensures (db.insertRoute row) fun db => db.Sound :=
  ensures_enforce
    ⟨h.weights, h.features, Rows.forall_append_singleton h.protocols hProtocols, h.live⟩

theorem updateRoute_sound {id : String} {f : RouteRow → RouteRow}
    (hProtocols : ∀ row, (∃ protocols, protocolsOfValue row.protocols = some protocols) →
      ∃ protocols, protocolsOfValue (f row).protocols = some protocols) :
    Ensures (db.updateRoute id f) fun db => db.Sound :=
  ensures_enforce ⟨h.weights, h.features,
    Rows.forall_updateWhere h.protocols fun row _ _ => hProtocols row, h.live⟩

theorem deleteRoutes_sound (p : RouteRow → Bool) :
    Ensures (db.deleteRoutes p) fun db => db.Sound :=
  ensures_enforce ⟨h.weights, h.features, Rows.forall_filter h.protocols, h.live⟩

end Statements

end AiGateway.ControlPlane
