import AiGateway.ControlPlane.DiscoveryDiff
import AiGateway.Domain.Precedence

/-!
# The rows a discovery writes

What a discovery makes of one row: the row of a model it lists, with or without
an earlier one, and the row of a model it lists no more.  A row that was just
refreshed is refreshed again to itself.
-/

namespace AiGateway.ControlPlane

set_option autoImplicit false

open AiGateway.Catalog AiGateway.Checked AiGateway.Health AiGateway.Json

/-! ## Statements on source models -/

/-- One row of the source models is written, no other row is touched. -/
structure Wrote (db db' : Db) (sourceId upstreamModelId : String) (row : SourceModelRow) :
    Prop where
  only : OnlyModels db db'
  here : db'.sourceModel? sourceId upstreamModelId = some row
  elsewhere : ∀ s m, (s, m) ≠ (sourceId, upstreamModelId) → db'.sourceModel? s m = db.sourceModel? s m

theorem wrote_of_insert {db db' : Db} {row : SourceModelRow}
    (hNew : db.sourceModel? row.sourceId row.upstreamModelId = none)
    (h : db.insertSourceModel row = .ok db') :
    Wrote db db' row.sourceId row.upstreamModelId row where
  only := onlyModels_of_insert h
  here := by
    rw [sourceModel?_insertSourceModel h, hNew]
    simp [isModel]
  elsewhere s m hOther := by
    have hModel : isModel row.sourceId row.upstreamModelId s m = false := by
      rw [Bool.eq_false_iff]
      intro hSame
      apply hOther
      simpa [isModel] using hSame
    rw [sourceModel?_insertSourceModel h, hModel]
    simp

theorem wrote_of_update {db db' : Db} {sourceId upstreamModelId : String}
    {f : SourceModelRow → SourceModelRow} {old : SourceModelRow}
    (h : db.updateSourceModel sourceId upstreamModelId f = .ok db')
    (hOld : db.sourceModel? sourceId upstreamModelId = some old)
    (hKey : ∀ row, (f row).key = row.key) :
    Wrote db db' sourceId upstreamModelId (f old) where
  only := onlyModels_of_update h
  here := by
    rw [sourceModel?_updateSourceModel h hKey, hOld]
    simp
  elsewhere s m hOther := by
    rw [sourceModel?_updateSourceModel h hKey]
    simp [hOther]

/-- An update is accepted if the rows it makes are. -/
theorem exists_updateSourceModel {db : Db} {sourceId upstreamModelId : String}
    {f : SourceModelRow → SourceModelRow} (hKey : ∀ row, (f row).key = row.key)
    (hPreset : ∀ row ∈ db.sourceModels, row.key = (sourceId, upstreamModelId) →
      ∀ preset ∈ (f row).matchedModelPreset,
        (preset.id, preset.version) ∈ db.modelPresets.map fun row => (row.id, row.version))
    (hCheck : ∀ row ∈ db.sourceModels, row.key = (sourceId, upstreamModelId) → (f row).Check) :
    ∃ db', db.updateSourceModel sourceId upstreamModelId f = .ok db' := by
  have hKeys := Rows.map_updateWhere (p := fun row : SourceModelRow =>
    row.key = (sourceId, upstreamModelId)) hKey db.sourceModels
  have hSource : ∀ row, (f row).sourceId = row.sourceId := fun row => congrArg Prod.fst (hKey row)
  obtain ⟨db', hDb, -⟩ := exists_enforce
    (t := { db.toTables with
      sourceModels :=
        Rows.updateWhere (fun row => row.key = (sourceId, upstreamModelId)) f db.sourceModels })
    { db.keys with sourceModels := by rw [hKeys]; exact db.keys.sourceModels }
    { db.references with
      sourceModelSource := by
        apply Rows.forall_updateWhere db.references.sourceModelSource
        intro row _ _ hRow
        rw [hSource]
        exact hRow
      matchedPreset := by
        apply Rows.forall_updateWhere db.references.matchedPreset
        intro row hRow hHere _
        exact hPreset row hRow (of_decide_eq_true hHere)
      capabilityModel := by rw [hKeys]; exact db.references.capabilityModel
      bindingModel := by rw [hKeys]; exact db.references.bindingModel }
    { db.checks with
      sourceModels := by
        apply Rows.forall_updateWhere db.checks.sourceModels
        intro row hRow hHere _
        exact hCheck row hRow (of_decide_eq_true hHere) }
  exact ⟨db', hDb⟩

/-! ## Listed models -/

section Rows

variable (now : DateTime) (refresh : SourceModelRefresh)

def discoveredRow : Except CatalogError SourceModelRow := do
  let discovered ←
    domainCheck (CatalogMetadata.resolve refresh.upstreamMetadata refresh.presetMetadata)
  return {
    sourceId := refresh.sourceId
    upstreamModelId := refresh.upstreamModelId
    confirmationStatus := .pending
    availabilityStatus := .available
    rawSnapshot := refresh.rawSnapshot
    metadata := discovered.toJson.1
    fieldSources := discovered.toJson.2
    matchedModelPreset := refresh.matchedPreset
    firstDiscoveredAt := refresh.discoveredAt
    lastDiscoveredAt := refresh.discoveredAt
    confirmedAt := none
    unavailableAt := none
    createdAt := now
    updatedAt := now }

def refreshedRow (existing : SourceModelRow) : Except CatalogError SourceModelRow := do
  let metadata ← existing.catalogMetadata
  let refreshed ← domainCheck (metadata.refreshedPreservingUserFields
    (existing.confirmationStatus = .confirmed) refresh.upstreamMetadata refresh.presetMetadata)
  return { existing with
    availabilityStatus := .available
    rawSnapshot := refresh.rawSnapshot
    metadata := refreshed.toJson.1
    fieldSources := refreshed.toJson.2
    matchedModelPreset :=
      if existing.confirmationStatus = .confirmed then existing.matchedModelPreset
      else refresh.matchedPreset
    lastDiscoveredAt := refresh.discoveredAt
    unavailableAt := none
    updatedAt := now }

/-- What a listed model becomes. -/
inductive Refreshed : Option SourceModelRow → SourceModelRow → Prop
  | added {row : SourceModelRow} (h : discoveredRow now refresh = .ok row) : Refreshed none row
  | known {old row : SourceModelRow} (h : refreshedRow now refresh old = .ok row) :
    Refreshed (some old) row

/-- The metadata of a refresh was validated with it. -/
def SourceModelRefresh.Valid : Prop :=
  CatalogMetadata.Valid refresh.upstreamMetadata ∧
    ∀ values ∈ refresh.presetMetadata, CatalogMetadata.Valid values

end Rows

theorem domainCheck_ok {α : Type} {x : Except Catalog.CatalogError α} {a : α} :
    domainCheck x = .ok a ↔ x = .ok a := mapError_ok

theorem catalogStatement_ok {x : Except DbError Db} {db : Db} :
    catalogStatement x = .ok db ↔ x = .ok db := mapError_ok

theorem validateSourceModelRefresh_valid {refresh : SourceModelRefresh} {u : Unit}
    (h : validateSourceModelRefresh refresh = .ok u) : refresh.Valid := by
  obtain ⟨⟨⟩, -, h⟩ := bind_eq_ok.mp h
  obtain ⟨⟨⟩, -, h⟩ := bind_eq_ok.mp h
  obtain ⟨⟨⟩, -, h⟩ := bind_eq_ok.mp h
  obtain ⟨⟨⟩, hUpstream, h⟩ := bind_eq_ok.mp h
  refine ⟨domainCheck_ok.mp hUpstream, ?_⟩
  rintro values hValues
  obtain hSome := Option.mem_def.mp hValues
  rw [hSome] at h
  exact domainCheck_ok.mp h

theorem refreshSourceModel_wrote (now : DateTime) (db : Db) (refresh : SourceModelRefresh) :
    Ensures (refreshSourceModel now db refresh) fun db' =>
      ∃ row, Refreshed now refresh (db.sourceModel? refresh.sourceId refresh.upstreamModelId) row ∧
        Wrote db db' refresh.sourceId refresh.upstreamModelId row := by
  unfold refreshSourceModel
  refine ensures_then fun _ => ensures_bind fun discovered hDiscovered => ?_
  split
  · next hNew =>
    refine ensures_mapError fun db' h => ?_
    rw [hNew]
    exact ⟨_, .added (bind_eq_ok.mpr ⟨discovered, hDiscovered, rfl⟩), wrote_of_insert hNew h⟩
  · next existing hOld =>
    refine ensures_bind fun metadata hMetadata => ensures_bind fun refreshed hRefreshed => ?_
    refine ensures_mapError fun db' h => ?_
    have hWrote := wrote_of_update h hOld fun _ => rfl
    rw [hOld]
    exact ⟨_, .known (bind_eq_ok.mpr ⟨metadata, hMetadata, bind_eq_ok.mpr
      ⟨refreshed, hRefreshed, rfl⟩⟩), hWrote⟩

/-! ## Refreshed again -/

/-- A row that a refresh with the same content leaves as it is. -/
structure SettledRow (refresh : SourceModelRefresh) (row : SourceModelRow) : Prop where
  available : row.availabilityStatus = .available
  rawSnapshot : row.rawSnapshot = refresh.rawSnapshot
  matched : row.confirmationStatus ≠ .confirmed → row.matchedModelPreset = refresh.matchedPreset
  discovered : row.lastDiscoveredAt = refresh.discoveredAt
  unavailable : row.unavailableAt = none
  metadata : ∃ metadata : CatalogMetadata, CatalogMetadata.Valid metadata.values ∧
    (row.confirmationStatus ≠ .confirmed →
      metadata.Settled refresh.upstreamMetadata refresh.presetMetadata) ∧
    (row.metadata, row.fieldSources) = metadata.toJson

section Again

variable {now : DateTime} {refresh : SourceModelRefresh} {row : SourceModelRow}

theorem Refreshed.settled (hValid : refresh.Valid) {old : Option SourceModelRow}
    (h : Refreshed now refresh old row) : SettledRow refresh row := by
  obtain ⟨hUpstream, hPreset⟩ := hValid
  cases h with
  | added h =>
    obtain ⟨discovered, hDiscovered, hRow⟩ := bind_eq_ok.mp h
    obtain rfl := pure_eq_ok.mp hRow
    have hResolved := domainCheck_ok.mp hDiscovered
    exact ⟨rfl, rfl, fun _ => rfl, rfl, rfl, discovered,
      CatalogMetadata.valid_resolved hUpstream hPreset hResolved,
      fun _ => CatalogMetadata.settled_resolve hUpstream hPreset hResolved, rfl⟩
  | known h =>
    rename_i old
    obtain ⟨metadata, hMetadata, h⟩ := bind_eq_ok.mp h
    obtain ⟨refreshed, hRefreshed, hRow⟩ := bind_eq_ok.mp h
    obtain rfl := pure_eq_ok.mp hRow
    have hOld := CatalogMetadata.fromJson_valid (domainCheck_ok.mp hMetadata)
    have hKept := domainCheck_ok.mp hRefreshed
    refine ⟨rfl, rfl, fun hPending => if_neg hPending, rfl, rfl, refreshed,
      CatalogMetadata.valid_refreshed hOld hUpstream hPreset hKept, ?_, rfl⟩
    intro hPending
    have hFalse : decide (old.confirmationStatus = .confirmed) = false := decide_eq_false hPending
    rw [hFalse] at hKept
    exact CatalogMetadata.settled_refresh hUpstream hPreset hKept

/-- A second refresh leaves its date only. -/
theorem SettledRow.refreshed (hValid : refresh.Valid) (h : SettledRow refresh row)
    (later : DateTime) :
    refreshedRow later refresh row = .ok { row with updatedAt := later } := by
  obtain ⟨metadata, hMetadata, hSettled, hJson⟩ := h.metadata
  have hValues : row.metadata = metadata.toJson.1 := congrArg Prod.fst hJson
  have hSources : row.fieldSources = metadata.toJson.2 := congrArg Prod.snd hJson
  obtain ⟨stored, hStored, hSame⟩ := CatalogMetadata.fromJson_toJson hMetadata
  have hRead : row.catalogMetadata = .ok stored := by
    rw [SourceModelRow.catalogMetadata, hValues, hSources, hStored]
    rfl
  obtain ⟨again, hAgain, hKept⟩ := CatalogMetadata.Settled.refresh
    (decide (row.confirmationStatus = .confirmed)) (fun hPending =>
      hSettled (of_decide_eq_false hPending)) hValid.1 hValid.2 hSame
  have hToJson := CatalogMetadata.toJson_congr hKept
  refine bind_eq_ok.mpr ⟨stored, hRead, bind_eq_ok.mpr ⟨again, domainCheck_ok.mpr hAgain, ?_⟩⟩
  rw [hToJson, ← hValues, ← hSources, ← h.available, ← h.rawSnapshot, ← h.discovered,
    ← h.unavailable]
  have hMatched : (if row.confirmationStatus = .confirmed then row.matchedModelPreset
      else refresh.matchedPreset) = row.matchedModelPreset := by
    split
    · rfl
    · next hPending => exact (h.matched hPending).symm
  rw [hMatched]
  rfl

end Again

/-! ## Decisions kept -/

/-- What a discovery does not take from a stored model.  Its metadata is read as
before, and stored as the same objects if those were maps. -/
structure KeepsDecisions (old new : SourceModelRow) : Prop where
  status : new.confirmationStatus = old.confirmationStatus
  matched : old.confirmationStatus = .confirmed → new.matchedModelPreset = old.matchedModelPreset
  metadata : old.confirmationStatus = .confirmed → ∀ metadata, old.catalogMetadata = .ok metadata →
    ∃ kept, new.catalogMetadata = .ok kept ∧ kept.Same metadata
  stored : old.confirmationStatus = .confirmed → old.metadata.IsMap → old.fieldSources.IsMap →
    new.metadata = old.metadata ∧ new.fieldSources = old.fieldSources
  user : ∀ metadata, old.catalogMetadata = .ok metadata →
    ∃ kept, new.catalogMetadata = .ok kept ∧
      ∀ field value, metadata.Holds field (value, .user) → kept.Holds field (value, .user)

theorem keepsDecisions_of_same {old new : SourceModelRow}
    (hStatus : new.confirmationStatus = old.confirmationStatus)
    (hMatched : new.matchedModelPreset = old.matchedModelPreset)
    (hMetadata : new.metadata = old.metadata) (hSources : new.fieldSources = old.fieldSources) :
    KeepsDecisions old new := by
  have hRead : new.catalogMetadata = old.catalogMetadata := by
    rw [SourceModelRow.catalogMetadata, SourceModelRow.catalogMetadata, hMetadata, hSources]
  refine ⟨hStatus, fun _ => hMatched, ?_, fun _ _ _ => ⟨hMetadata, hSources⟩, ?_⟩
  · rintro - metadata hOld
    exact ⟨metadata, hRead.trans hOld, fun _ => rfl⟩
  · rintro metadata hOld
    exact ⟨metadata, hRead.trans hOld, fun _ _ hUser => hUser⟩

theorem refreshedRow_keeps {now : DateTime} {refresh : SourceModelRefresh} (hValid : refresh.Valid)
    {old new : SourceModelRow} (h : refreshedRow now refresh old = .ok new) :
    KeepsDecisions old new := by
  obtain ⟨metadata, hMetadata, h⟩ := bind_eq_ok.mp h
  obtain ⟨refreshed, hRefreshed, hRow⟩ := bind_eq_ok.mp h
  have hRead := domainCheck_ok.mp hMetadata
  have hKept := domainCheck_ok.mp hRefreshed
  have hOld := CatalogMetadata.fromJson_valid hRead
  obtain ⟨hUpstream, hPreset⟩ := hValid
  have hNew := CatalogMetadata.valid_refreshed hOld hUpstream hPreset hKept
  obtain ⟨stored, hStored, hSame⟩ := CatalogMetadata.fromJson_toJson hNew
  have hNewRead : new.catalogMetadata = .ok stored := by
    rw [← pure_eq_ok.mp hRow]
    exact domainCheck_ok.mpr hStored
  have hConfirmed : old.confirmationStatus = .confirmed → refreshed = metadata := by
    intro hConfirmed
    rw [hConfirmed] at hKept
    exact (Except.ok.inj hKept).symm
  rw [← pure_eq_ok.mp hRow] at hNewRead ⊢
  refine ⟨rfl, fun hConfirmed => if_pos hConfirmed, ?_, ?_, ?_⟩
  · rintro hDone same hAgain
    obtain rfl := Except.ok.inj (hMetadata.symm.trans hAgain)
    obtain rfl := hConfirmed hDone
    exact ⟨stored, hNewRead, hSame⟩
  · rintro hDone ⟨values, hValues, hAscending⟩ ⟨sources, hSources, hAscending'⟩
    obtain rfl := hConfirmed hDone
    rw [hValues, hSources] at hRead ⊢
    exact Prod.mk.inj (CatalogMetadata.toJson_fromJson hAscending hAscending' hRead)
  · rintro same hAgain
    obtain rfl := Except.ok.inj (hMetadata.symm.trans hAgain)
    refine ⟨stored, hNewRead, ?_⟩
    intro field value hUser
    rw [CatalogMetadata.Holds, hSame field]
    cases hStatus : decide (old.confirmationStatus = .confirmed) with
    | true =>
      obtain rfl := hConfirmed (of_decide_eq_true hStatus)
      exact hUser
    | false =>
      rw [hStatus] at hKept
      obtain ⟨same, hAgain, hFields⟩ := CatalogMetadata.refresh_holds metadata hUpstream hPreset
      obtain rfl := Except.ok.inj (hKept.symm.trans hAgain)
      rw [hFields, hUser, CatalogMetadata.keptEntry_user]

/-! ## Models listed no more -/

def missedRow (now : DateTime) (input : DiscoveryApplyInput) (row : SourceModelRow) :
    SourceModelRow :=
  if row.availabilityStatus = .unavailable then row
  else
    { row with
      availabilityStatus := .unavailable
      unavailableAt := some input.completedAt
      updatedAt := now }

theorem missedRow_unavailable (now : DateTime) (input : DiscoveryApplyInput)
    (row : SourceModelRow) : (missedRow now input row).availabilityStatus = .unavailable := by
  rw [missedRow]
  split
  · next hGone => exact hGone
  · rfl

theorem missedRow_keeps (now : DateTime) (input : DiscoveryApplyInput) (row : SourceModelRow) :
    KeepsDecisions row (missedRow now input row) := by
  rw [missedRow]
  split
  · exact keepsDecisions_of_same rfl rfl rfl rfl
  · exact keepsDecisions_of_same rfl rfl rfl rfl

end AiGateway.ControlPlane
