import AiGateway.ControlPlane.Runs

/-!
# Bindings of one family, routes without overlap

The live bindings of a logical model belong to sources of one provider family,
and its enabled routes share no protocol.  The schema declares neither: each
write that adds, moves or enables a binding or a route checks it against the rows
already there.
-/

namespace AiGateway.ControlPlane

set_option autoImplicit false

open AiGateway.Catalog AiGateway.Checked AiGateway.Health AiGateway.Json

def Tables.family (t : Tables) (sourceId : String) : Option String :=
  (t.source? sourceId).map SourceRow.providerPresetId

def RouteRow.serves (row : RouteRow) (protocol : Protocol) : Bool :=
  (protocolsOfValue row.protocols).any fun protocols => protocol ∈ protocols

structure Tables.Coherent (t : Tables) : Prop where
  families : ∀ a ∈ t.bindings, ∀ b ∈ t.bindings, a.isLive = true → b.isLive = true →
    a.logicalModelId = b.logicalModelId → t.family a.sourceId = t.family b.sourceId
  protocols : ∀ a ∈ t.routes, ∀ b ∈ t.routes, a.id ≠ b.id → a.enabled = true → b.enabled = true →
    ∀ id, a.logicalModelId = some id → b.logicalModelId = some id →
      ∀ protocol, a.serves protocol = true → b.serves protocol = false

/-- The protocols of a route are stored as a list of names. -/
structure Tables.Routed (t : Tables) : Prop extends t.Coherent where
  stored : ∀ row ∈ t.routes, ∃ protocols, row.protocols = protocolsValue protocols

theorem toText_injective {a b : Protocol} (h : a.toText = b.toText) : a = b := by
  cases a <;> cases b <;> first | rfl | exact absurd h (by decide)

theorem serves_iff {row : RouteRow} {protocols : List Protocol}
    (h : row.protocols = protocolsValue protocols) (protocol : Protocol) :
    row.serves protocol = true ↔ protocol ∈ protocols := by
  rw [RouteRow.serves, h, protocolsOfValue_protocolsValue]
  simp

/-- The database finds the name of a protocol exactly when the route serves it. -/
theorem jsonContains_iff {row : RouteRow} {protocols : List Protocol}
    (h : row.protocols = protocolsValue protocols) (protocol : Protocol) :
    jsonContains row.protocols protocol.toText = row.serves protocol := by
  rw [Bool.eq_iff_iff, serves_iff h, h, protocolsValue, jsonContains, List.any_eq_true]
  constructor
  · rintro ⟨item, hItem, hName⟩
    obtain ⟨other, hOther, rfl⟩ := List.mem_map.mp hItem
    have hText : other.toText = protocol.toText := by simpa [Value.asStr] using hName
    exact toText_injective hText ▸ hOther
  · intro hIn
    exact ⟨.string protocol.toText, List.mem_map_of_mem hIn, by simp [Value.asStr]⟩

/-! ## Statements -/

theorem exists_source {db : Db} {row : BindingRow} (h : row ∈ db.bindings) :
    ∃ source, db.source? row.sourceId = some source := by
  obtain ⟨model, hModel, hKey⟩ := List.mem_map.mp (db.references.bindingModel row h)
  have hSource := db.references.sourceModelSource model hModel
  rw [show model.sourceId = row.sourceId from congrArg Prod.fst hKey] at hSource
  exact Option.isSome_iff_exists.mp (Rows.find_isSome_iff.mpr hSource)

/-- Fewer rows, of the same families. -/
theorem Tables.Routed.mono {t t' : Tables} (h : t.Routed) (hBindings : t'.bindings ⊆ t.bindings)
    (hRoutes : t'.routes ⊆ t.routes)
    (hFamily : ∀ row ∈ t'.bindings, t'.family row.sourceId = t.family row.sourceId) :
    t'.Routed := by
  refine ⟨⟨?_, ?_⟩, fun row hRow => h.stored row (hRoutes hRow)⟩
  · intro a ha b hb hLiveA hLiveB hModel
    rw [hFamily a ha, hFamily b hb]
    exact h.families a (hBindings ha) b (hBindings hb) hLiveA hLiveB hModel
  · intro a ha b hb
    exact h.protocols a (hRoutes ha) b (hRoutes hb)

/-- Every live binding of the model is of the family of the source. -/
def Tables.FitsFamily (t : Tables) (logicalModelId sourceId : String) : Prop :=
  ∀ row ∈ t.bindings, row.isLive = true → row.logicalModelId = logicalModelId →
    t.family row.sourceId = t.family sourceId

/-- No other enabled route of the model serves one of the protocols. -/
def Tables.FitsRoutes (t : Tables) (id : String) (logicalModelId : String)
    (protocols : List Protocol) : Prop :=
  ∀ row ∈ t.routes, row.id ≠ id → row.enabled = true → row.logicalModelId = some logicalModelId →
    ∀ protocol ∈ protocols, row.serves protocol = false

section Statements

variable {db : Db} (h : db.Routed)

include h

theorem insertSource_routed (row : SourceRow) :
    Ensures (db.insertSource row) fun db => db.Routed := by
  refine ensures_enforce (h.mono (List.Subset.refl _) (List.Subset.refl _) ?_)
  intro binding hBinding
  obtain ⟨source, hSource⟩ := exists_source hBinding
  have hFound : Rows.find SourceRow.id binding.sourceId (db.sources ++ [row]) = some source := by
    rw [Rows.find_append_singleton, show Rows.find SourceRow.id binding.sourceId db.sources = _
      from hSource, Option.some_or]
  rw [Tables.family, Tables.family, hSource]
  exact congrArg (Option.map SourceRow.providerPresetId) hFound

theorem updateSource_routed (id : String) {f : SourceRow → SourceRow}
    (hId : ∀ row, (f row).id = row.id)
    (hPreset : ∀ row, (f row).providerPresetId = row.providerPresetId) :
    Ensures (db.updateSource id f) fun db => db.Routed := by
  refine ensures_enforce (h.mono (List.Subset.refl _) (List.Subset.refl _) ?_)
  intro binding hBinding
  have hFind := Rows.find_updateWhere (p := fun row => row.id = id) hId binding.sourceId db.sources
  rw [Tables.family, Tables.family, Tables.source?, Tables.source?, hFind, Option.map_map]
  congr 1
  funext row
  dsimp only [Function.comp_apply]
  split
  · exact hPreset row
  · rfl

theorem deleteSource_routed (id : String) : Ensures (db.deleteSource id) fun db => db.Routed := by
  refine ensures_enforce (h.mono (List.filter_subset_self _) (List.Subset.refl _) ?_)
  intro binding hBinding
  have hOther : binding.sourceId ≠ id := by simpa using (List.mem_filter.mp hBinding).2
  have hFind : (db.withoutSource id).source? binding.sourceId = db.source? binding.sourceId := by
    apply Rows.find_filter
    rintro row - hKey
    simpa [hKey] using hOther
  rw [Tables.family, hFind, Tables.family]

theorem deleteAccount_routed (id : String) : Ensures (db.deleteAccount id) fun db => db.Routed :=
  ensures_enforce (h.mono (List.filter_subset_self _) (List.Subset.refl _) fun _ _ => rfl)

theorem deleteLogicalModel_routed (id : String) :
    Ensures (db.deleteLogicalModel id) fun db => db.Routed :=
  ensures_enforce (h.mono (List.filter_subset_self _) (List.filter_subset_self _) fun _ _ => rfl)

theorem deleteBindings_routed (p : BindingRow → Bool) :
    Ensures (db.deleteBindings p) fun db => db.Routed :=
  ensures_enforce (h.mono (List.filter_subset_self _) (List.Subset.refl _) fun _ _ => rfl)

theorem deleteRoutes_routed (p : RouteRow → Bool) :
    Ensures (db.deleteRoutes p) fun db => db.Routed :=
  ensures_enforce (h.mono (List.Subset.refl _) (List.filter_subset_self _) fun _ _ => rfl)

/-- A statement on other tables. -/
theorem enforce_routed {t : Tables} (hSources : t.sources = db.sources)
    (hBindings : t.bindings = db.bindings) (hRoutes : t.routes = db.routes) :
    Ensures (enforce t) fun db => db.Routed := by
  refine ensures_enforce (h.mono (hBindings ▸ List.Subset.refl _) (hRoutes ▸ List.Subset.refl _) ?_)
  intro row hRow
  rw [Tables.family, Tables.source?, hSources, Tables.family, Tables.source?]

theorem insertBinding_routed {row : Int → BindingRow}
    (hFits : ∀ id, (row id).isLive = true →
      db.FitsFamily (row id).logicalModelId (row id).sourceId) :
    Ensures (db.insertBinding row) fun db => db.Routed := by
  unfold Db.insertBinding
  split
  · exact ensures_error
  · refine ensures_enforce ⟨⟨?_, h.protocols⟩, h.stored⟩
    have hNew := hFits db.nextBindingId
    intro a ha b hb hLiveA hLiveB hModel
    rcases List.mem_append.mp ha with hOldA | hNewA
    · rcases List.mem_append.mp hb with hOldB | hNewB
      · exact h.families a hOldA b hOldB hLiveA hLiveB hModel
      · obtain rfl := List.mem_singleton.mp hNewB
        exact hNew hLiveB a hOldA hLiveA hModel
    · obtain rfl := List.mem_singleton.mp hNewA
      rcases List.mem_append.mp hb with hOldB | hNewB
      · exact (hNew hLiveA b hOldB hLiveB hModel.symm).symm
      · obtain rfl := List.mem_singleton.mp hNewB
        rfl

theorem updateBinding_routed {id : Int} {f : BindingRow → BindingRow}
    (hFits : ∀ row ∈ db.bindings, row.id = id → (f row).isLive = true →
      db.FitsFamily (f row).logicalModelId (f row).sourceId) :
    Ensures (db.updateBinding id f) fun db => db.Routed := by
  unfold Db.updateBinding
  split
  · exact ensures_error
  · refine ensures_enforce ⟨⟨?_, h.protocols⟩, h.stored⟩
    intro a ha b hb hLiveA hLiveB hModel
    rcases Rows.mem_updateWhere ha with hOldA | ⟨oldA, hOldA, hIdA, rfl⟩
    · rcases Rows.mem_updateWhere hb with hOldB | ⟨oldB, hOldB, hIdB, rfl⟩
      · exact h.families a hOldA b hOldB hLiveA hLiveB hModel
      · exact hFits oldB hOldB (by simpa using hIdB) hLiveB a hOldA hLiveA hModel
    · rcases Rows.mem_updateWhere hb with hOldB | ⟨oldB, hOldB, hIdB, rfl⟩
      · exact (hFits oldA hOldA (by simpa using hIdA) hLiveA b hOldB hLiveB hModel.symm).symm
      · -- an id names one binding
        have hSame : oldA.id = oldB.id := by
          rw [show oldA.id = id by simpa using hIdA, show oldB.id = id by simpa using hIdB]
        rw [List.inj_on_of_nodup_map db.keys.bindings hOldA hOldB hSame]

theorem insertRoute_routed {row : RouteRow} {protocols : List Protocol}
    (hStored : row.protocols = protocolsValue protocols)
    (hFits : row.enabled = true → ∀ id, row.logicalModelId = some id →
      db.FitsRoutes row.id id protocols) :
    Ensures (db.insertRoute row) fun db => db.Routed := by
  refine ensures_enforce ⟨⟨h.families, ?_⟩,
    Rows.forall_append_singleton h.stored ⟨protocols, hStored⟩⟩
  intro a ha b hb hId hOnA hOnB id hModelA hModelB protocol hServes
  rcases List.mem_append.mp ha with hOldA | hNewA
  · rcases List.mem_append.mp hb with hOldB | hNewB
    · exact h.protocols a hOldA b hOldB hId hOnA hOnB id hModelA hModelB protocol hServes
    · obtain rfl := List.mem_singleton.mp hNewB
      rw [← Bool.not_eq_true, serves_iff hStored]
      intro hIn
      rw [hFits hOnB id hModelB a hOldA hId hOnA hModelA protocol hIn] at hServes
      cases hServes
  · obtain rfl := List.mem_singleton.mp hNewA
    rcases List.mem_append.mp hb with hOldB | hNewB
    · have hIn := (serves_iff hStored protocol).mp hServes
      exact hFits hOnA id hModelA b hOldB (Ne.symm hId) hOnB hModelB protocol hIn
    · obtain rfl := List.mem_singleton.mp hNewB
      exact absurd rfl hId

theorem updateRoute_routed {id : String} {f : RouteRow → RouteRow}
    (hId : ∀ row, (f row).id = row.id)
    (hFits : ∀ row ∈ db.routes, row.id = id → ∃ protocols,
      (f row).protocols = protocolsValue protocols ∧
      ((f row).enabled = true → ∀ model, (f row).logicalModelId = some model →
        db.FitsRoutes id model protocols)) :
    Ensures (db.updateRoute id f) fun db => db.Routed := by
  have hStored : ∀ row ∈ Rows.updateWhere (fun row => row.id = id) f db.routes,
      ∃ protocols, row.protocols = protocolsValue protocols := by
    apply Rows.forall_updateWhere h.stored
    intro row hRow hRowId _
    obtain ⟨protocols, hProtocols, -⟩ := hFits row hRow (by simpa using hRowId)
    exact ⟨protocols, hProtocols⟩
  refine ensures_enforce ⟨⟨h.families, ?_⟩, hStored⟩
  intro a ha b hb hNe hOnA hOnB model hModelA hModelB protocol hServes
  rcases Rows.mem_updateWhere ha with hOldA | ⟨oldA, hOldA, hIdA, rfl⟩
  · rcases Rows.mem_updateWhere hb with hOldB | ⟨oldB, hOldB, hIdB, rfl⟩
    · exact h.protocols a hOldA b hOldB hNe hOnA hOnB model hModelA hModelB protocol hServes
    · have hIdB : oldB.id = id := by simpa using hIdB
      obtain ⟨protocols, hProtocols, hFree⟩ := hFits oldB hOldB hIdB
      rw [← Bool.not_eq_true, serves_iff hProtocols]
      intro hIn
      rw [hId, hIdB] at hNe
      rw [hFree hOnB model hModelB a hOldA hNe hOnA hModelA protocol hIn] at hServes
      cases hServes
  · have hIdA : oldA.id = id := by simpa using hIdA
    obtain ⟨protocols, hProtocols, hFree⟩ := hFits oldA hOldA hIdA
    rcases Rows.mem_updateWhere hb with hOldB | ⟨oldB, hOldB, hIdB, rfl⟩
    · rw [hId, hIdA] at hNe
      have hIn := (serves_iff hProtocols protocol).mp hServes
      exact hFree hOnA model hModelA b hOldB hNe.symm hOnB hModelB protocol hIn
    · rw [hId, hId, hIdA, show oldB.id = id by simpa using hIdB] at hNe
      exact absurd rfl hNe

end Statements

/-! ## Checks -/

/-- A query for any one row finds one of the rows, if there are any. -/
structure Service.FindsAny (service : Service) : Prop where
  mem : ∀ rows row, service.limitOne rows = some row → row ∈ rows
  none : ∀ rows, service.limitOne rows = none → rows = []

section Checks

variable {service : Service} {db : Db} (hAny : service.FindsAny) (h : db.Routed)

include hAny h

theorem fitsFamily_of_constraint {input : ModelBindingWrite} {source : SourceRow} {u : Unit}
    (hSource : db.source? input.sourceId = some source)
    (hValid : validateBindingFamilyConstraint service db.toTables input = .ok u) :
    db.FitsFamily input.logicalModelId input.sourceId := by
  intro row hRow hLive hModel
  rcases eq_or_ne row.sourceId input.sourceId with hSame | hOther
  · rw [hSame]
  obtain ⟨found, hFound⟩ := exists_source hRow
  unfold validateBindingFamilyConstraint at hValid
  dsimp only at hValid
  set families := db.bindings.filterMap fun row =>
    if row.logicalModelId = input.logicalModelId ∧ row.isLive ∧ row.sourceId ≠ input.sourceId
    then (db.source? row.sourceId).map SourceRow.providerPresetId else none with hFamilies
  have hIn : found.providerPresetId ∈ families := by
    rw [hFamilies, List.mem_filterMap]
    exact ⟨row, hRow, by simp [hModel, hLive, hOther, hFound]⟩
  cases hPick : service.limitOne families with
  | none =>
    rw [hAny.none families hPick] at hIn
    cases hIn
  | some existing =>
    rw [hPick, hSource] at hValid
    have hSameFamily : source.providerPresetId = existing := ensure_eq_ok.mp hValid
    -- the family found is that of a live binding of the model, so that of all of them
    obtain ⟨other, hOtherRow, hOtherFamily⟩ := List.mem_filterMap.mp (hAny.mem families existing hPick)
    split at hOtherFamily
    · next hGuard =>
      have hAgree := h.families row hRow other hOtherRow hLive hGuard.2.1
        (hModel.trans hGuard.1.symm)
      rw [hAgree, Tables.family, hOtherFamily, Tables.family, hSource, Option.map_some,
        hSameFamily]
    · cases hOtherFamily

theorem fitsFamily_of_reference {input : ModelBindingWrite} {u : Unit}
    (hLive : input.status = .confirmed ∧ input.enabled = true)
    (hValid : validateBindingReference service db.toTables input = .ok u) :
    db.FitsFamily input.logicalModelId input.sourceId := by
  unfold validateBindingReference at hValid
  simp only [bind_eq_ok, require_eq_ok, if_pos hLive] at hValid
  obtain ⟨lm, -, source, hSource, account, -, model, -, capability, -, ⟨⟩, -, ⟨⟩, -, hFamily⟩ :=
    hValid
  exact fitsFamily_of_constraint hAny h hSource hFamily

theorem fitsRoutes_of_reference {input : RouteWrite} {u : Unit} (hOn : input.enabled = true)
    (hValid : validateRouteReference service db.toTables input = .ok u) :
    db.FitsRoutes input.id input.logicalModelId input.protocols := by
  unfold validateRouteReference at hValid
  simp only [bind_eq_ok, collected_eq_ok, List.flatMap_eq_nil_iff, List.append_eq_nil_iff] at hValid
  obtain ⟨⟨⟩, -, hFree⟩ := hValid
  intro row hRow hId hEnabled hModel protocol hProtocol
  have hNone := (hFree protocol hProtocol).1
  rw [if_pos hOn] at hNone
  split at hNone
  · cases hNone
  · next hPick =>
    have hEmpty := hAny.none _ hPick
    rw [List.map_eq_nil_iff, List.filter_eq_nil_iff] at hEmpty
    obtain ⟨protocols, hStored⟩ := h.stored row hRow
    have hClear := hEmpty row hRow
    rw [jsonContains_iff hStored] at hClear
    simpa [hModel, hId, hEnabled] using hClear

end Checks

/-! ## Writes -/

section Writes

variable {service : Service} {now : DateTime} {db : Db}

theorem finishWrite_routed (h : db.Routed) :
    Ensures (finishWrite service now db) fun committed => committed.db.Routed := by
  unfold finishWrite
  iterate 2 refine ensures_then fun _ => ?_
  refine ensures_seq (ensures_statement (enforce_routed h rfl rfl rfl)) fun db hDb => ?_
  exact ensures_then fun _ => ensures_pure hDb

/-- A write of one statement. -/
theorem statement_then_finish {x : Except DbError Db} (hx : Ensures x fun db => db.Routed) :
    Ensures (statement x >>= finishWrite service now) fun committed => committed.db.Routed :=
  ensures_seq (ensures_statement hx) fun _ => finishWrite_routed

variable (h : db.Routed)

include h

theorem createSource_coherent (input : SourceWrite) :
    Ensures (createSource service now input db) fun c => c.db.Routed := by
  unfold createSource
  iterate 5 refine ensures_then fun _ => ?_
  exact statement_then_finish (insertSource_routed h _)

theorem switchSourceHealth_routed (id : String) (previous enabled : Bool) :
    Ensures (switchSourceHealth now id previous enabled db) fun db => db.Routed := by
  unfold switchSourceHealth
  split
  · exact ensures_statement (enforce_routed h rfl rfl rfl)
  · exact ensures_pure h

theorem updateSource_coherent (id : String) (input : SourceWrite) :
    Ensures (updateSource service now id input db) fun c => c.db.Routed := by
  unfold updateSource
  iterate 6 refine ensures_then fun _ => ?_
  refine ensures_seq (ensures_statement (updateSource_routed h id (fun _ => rfl) fun _ => rfl))
    fun db hDb => ?_
  exact ensures_seq (switchSourceHealth_routed hDb _ _ _) fun _ => finishWrite_routed

theorem setSourceEnabled_coherent (id : String) (enabled : Bool) :
    Ensures (setSourceEnabled service now id enabled db) fun c => c.db.Routed := by
  unfold setSourceEnabled
  refine ensures_then fun _ => ?_
  refine ensures_seq (ensures_statement (updateSource_routed h id (fun _ => rfl) fun _ => rfl))
    fun db hDb => ?_
  exact ensures_seq (switchSourceHealth_routed hDb _ _ _) fun _ => finishWrite_routed

theorem deleteSource_coherent (id : String) :
    Ensures (deleteSource service now id db) fun c => c.db.Routed := by
  unfold deleteSource
  exact ensures_then fun _ => statement_then_finish (deleteSource_routed h id)

theorem rotateAccountCredential_coherent (rotate : String → String → String → Option String)
    (id : String) :
    Ensures (rotateAccountCredential service now rotate id db) fun c => c.db.Routed := by
  unfold rotateAccountCredential
  iterate 3 refine ensures_then fun _ => ?_
  exact statement_then_finish (enforce_routed h rfl rfl rfl)

theorem createAccount_coherent (input : AccountWrite) :
    Ensures (createAccount service now input db) fun c => c.db.Routed := by
  unfold createAccount
  iterate 3 refine ensures_then fun _ => ?_
  exact statement_then_finish (enforce_routed h rfl rfl rfl)

theorem updateAccount_coherent (id : String) (input : AccountWrite) :
    Ensures (updateAccount service now id input db) fun c => c.db.Routed := by
  unfold updateAccount
  iterate 4 refine ensures_then fun _ => ?_
  exact statement_then_finish (enforce_routed h rfl rfl rfl)

theorem setAccountEnabled_coherent (id : String) (enabled : Bool) :
    Ensures (setAccountEnabled service now id enabled db) fun c => c.db.Routed := by
  unfold setAccountEnabled
  exact ensures_then fun _ => statement_then_finish (enforce_routed h rfl rfl rfl)

theorem deleteAccount_coherent (id : String) :
    Ensures (deleteAccount service now id db) fun c => c.db.Routed := by
  unfold deleteAccount
  exact ensures_then fun _ => statement_then_finish (deleteAccount_routed h id)

theorem createLogicalModel_coherent (input : LogicalModelWrite) :
    Ensures (createLogicalModel service now input db) fun c => c.db.Routed := by
  unfold createLogicalModel
  iterate 4 refine ensures_then fun _ => ?_
  exact statement_then_finish (enforce_routed h rfl rfl rfl)

theorem updateLogicalModel_coherent (id : String) (input : LogicalModelWrite) :
    Ensures (updateLogicalModel service now id input db) fun c => c.db.Routed := by
  unfold updateLogicalModel
  iterate 6 refine ensures_then fun _ => ?_
  exact statement_then_finish (enforce_routed h rfl rfl rfl)

theorem setLogicalModelEnabled_coherent (id : String) (enabled : Bool) :
    Ensures (setLogicalModelEnabled service now id enabled db) fun c => c.db.Routed := by
  unfold setLogicalModelEnabled
  exact ensures_then fun _ => statement_then_finish (enforce_routed h rfl rfl rfl)

theorem deleteLogicalModel_coherent (id : String) :
    Ensures (deleteLogicalModel service now id db) fun c => c.db.Routed := by
  unfold deleteLogicalModel
  exact ensures_then fun _ => statement_then_finish (deleteLogicalModel_routed h id)

theorem deleteModelBinding_coherent (id : Int) :
    Ensures (deleteModelBinding service now id db) fun c => c.db.Routed := by
  unfold deleteModelBinding
  exact ensures_then fun _ => statement_then_finish (deleteBindings_routed h _)

theorem deleteRoute_coherent (id : String) :
    Ensures (deleteRoute service now id db) fun c => c.db.Routed := by
  unfold deleteRoute
  exact ensures_then fun _ => statement_then_finish (deleteRoutes_routed h _)

theorem upsertCapabilityRow_routed (input : SourceModelCapabilityInput) :
    Ensures (upsertCapabilityRow now input db) fun db => db.Routed := by
  unfold upsertCapabilityRow
  dsimp only
  split
  · exact enforce_routed h rfl rfl rfl
  · exact enforce_routed h rfl rfl rfl

theorem upsertSourceModelCapability_coherent (input : SourceModelCapabilityInput) :
    Ensures (upsertSourceModelCapability now service input db) fun c => c.db.Routed := by
  unfold upsertSourceModelCapability
  refine ensures_then fun _ => ?_
  refine ensures_seq (ensures_mapError ?_) fun _ => finishWrite_routed
  exact upsertSourceModelCapabilityConn_keeps h (ensures_mapError (upsertCapabilityRow_routed h _))

theorem writeRoutingModel_routed (id : String) (input : ModelRoutingWrite) (create : Bool)
    (status : CatalogStatus) :
    Ensures (writeRoutingModel now id input create status db) fun db => db.Routed := by
  unfold writeRoutingModel
  split
  · exact enforce_routed h rfl rfl rfl
  · exact enforce_routed h rfl rfl rfl

variable (hAny : service.FindsAny)

include hAny

theorem createModelBinding_coherent (input : ModelBindingWrite) :
    Ensures (createModelBinding service now input db) fun c => c.db.Routed := by
  unfold createModelBinding
  refine ensures_then fun _ => ensures_bind fun _ hValid => ?_
  refine statement_then_finish (insertBinding_routed h ?_)
  intro id hLive
  obtain ⟨hStatus, hOn⟩ := Bool.and_eq_true_iff.mp hLive
  exact fitsFamily_of_reference hAny h ⟨of_decide_eq_true hStatus, hOn⟩ hValid

theorem updateModelBinding_coherent (id : Int) (input : ModelBindingWrite) :
    Ensures (updateModelBinding service now id input db) fun c => c.db.Routed := by
  unfold updateModelBinding
  iterate 3 refine ensures_then fun _ => ?_
  refine ensures_bind fun _ hValid => statement_then_finish (updateBinding_routed h ?_)
  intro row hRow hId hLive
  simp only [BindingRow.isLive, Bool.and_eq_true, decide_eq_true_eq] at hLive
  exact fitsFamily_of_reference hAny h hLive hValid

theorem setModelBindingEnabled_coherent (id : Int) (enabled : Bool) :
    Ensures (setModelBindingEnabled service now id enabled db) fun c => c.db.Routed := by
  unfold setModelBindingEnabled
  refine ensures_bind fun existing hExisting => ensures_bind fun _ hValid => ?_
  refine statement_then_finish (updateBinding_routed h ?_)
  intro row hRow hId hLive
  have hFound := (Rows.find_eq_some_iff db.keys.bindings).mp (require_eq_ok.mp hExisting)
  obtain rfl : existing = row :=
    List.inj_on_of_nodup_map db.keys.bindings hFound.1 hRow (hFound.2.trans hId.symm)
  simp only [BindingRow.isLive, Bool.and_eq_true, decide_eq_true_eq] at hLive
  rw [onlyIf, if_pos hLive.2] at hValid
  have hWrite : (existing.asWrite enabled).status = .confirmed ∧
      (existing.asWrite enabled).enabled = true := hLive
  exact fitsFamily_of_reference hAny h hWrite hValid

theorem createRoute_coherent (input : RouteWrite) :
    Ensures (createRoute service now input db) fun c => c.db.Routed := by
  unfold createRoute
  iterate 2 refine ensures_then fun _ => ?_
  refine ensures_bind fun _ hValid => ensures_then fun lm => ?_
  refine statement_then_finish (insertRoute_routed h rfl ?_)
  intro hOn id hModel
  obtain rfl : input.logicalModelId = id := Option.some.inj hModel
  exact fitsRoutes_of_reference hAny h hOn hValid

theorem updateRoute_coherent (id : String) (input : RouteWrite) :
    Ensures (updateRoute service now id input db) fun c => c.db.Routed := by
  unfold updateRoute
  refine ensures_bind fun _ hPath => ensures_then fun _ => ensures_bind fun _ hValid => ?_
  obtain rfl : id = input.id := ensure_eq_ok.mp hPath
  iterate 2 refine ensures_then fun _ => ?_
  refine statement_then_finish (updateRoute_routed h (fun _ => rfl) ?_)
  intro row hRow hId
  refine ⟨input.protocols, rfl, ?_⟩
  intro hOn model hModel
  obtain rfl : input.logicalModelId = model := Option.some.inj hModel
  exact fitsRoutes_of_reference hAny h hOn hValid

theorem setRouteEnabled_coherent (id : String) (enabled : Bool) :
    Ensures (setRouteEnabled service now id enabled db) fun c => c.db.Routed := by
  unfold setRouteEnabled
  refine ensures_bind fun current hCurrent => ensures_bind fun model hModel => ?_
  refine ensures_bind fun _ hValid => ?_
  refine statement_then_finish (updateRoute_routed h (fun _ => rfl) ?_)
  intro row hRow hId
  have hFound := (Rows.find_eq_some_iff db.keys.routes).mp (require_eq_ok.mp hCurrent)
  obtain rfl : current = row :=
    List.inj_on_of_nodup_map db.keys.routes hFound.1 hRow (hFound.2.trans hId.symm)
  obtain ⟨protocols, hStored⟩ := h.stored current hRow
  refine ⟨protocols, hStored, ?_⟩
  intro hOn id' hId'
  obtain rfl : model = id' := Option.some.inj ((require_eq_ok.mp hModel).symm.trans hId')
  rw [onlyIf, if_pos hOn] at hValid
  obtain ⟨read, hRead, hReference⟩ := bind_eq_ok.mp hValid
  rw [require_eq_ok, hStored, protocolsOfValue_protocolsValue, Option.some.injEq] at hRead
  subst hRead
  have hFits := fitsRoutes_of_reference hAny h hOn hReference
  rwa [hId] at hFits

theorem insertLine_routed (id : String) (seen : List Protocol)
    (entry : ModelRoutingLineWrite × Nat) :
    Ensures (insertLine service now id (db, seen) entry) fun state => state.1.Routed := by
  unfold insertLine
  refine ensures_then fun _ => ensures_seq (P := fun db => db.Routed) ?_ fun db hDb => ?_
  · refine ensures_foldlM (fun db hDb protocol _ => ?_) h
    unfold insertLineBinding
    refine ensures_bind fun _ hValid => ensures_statement (insertBinding_routed hDb ?_)
    intro _ _
    exact fitsFamily_of_reference hAny hDb ⟨rfl, rfl⟩ hValid
  · exact ensures_pure hDb

theorem insertRoutingRoute_routed (id routeId publicName : String) (protocols : List Protocol) :
    Ensures (insertRoutingRoute service now id routeId publicName protocols db)
      fun db => db.Routed := by
  unfold insertRoutingRoute
  split
  · exact ensures_pure h
  · refine ensures_bind fun _ hValid => ensures_statement (insertRoute_routed h rfl ?_)
    intro hOn model hModel
    obtain rfl : id = model := Option.some.inj hModel
    exact fitsRoutes_of_reference hAny h rfl hValid

theorem writeModelRouting_coherent (id : String) (input : ModelRoutingWrite) (create : Bool)
    (uuid : String) :
    Ensures (writeModelRouting service now id input create uuid db) fun c => c.db.Routed := by
  unfold writeModelRouting
  iterate 3 refine ensures_then fun _ => ?_
  refine ensures_seq (ensures_statement (writeRoutingModel_routed h id input create _))
    fun db hDb => ?_
  refine ensures_seq (ensures_statement (deleteRoutes_routed hDb _)) fun db hDb => ?_
  refine ensures_seq (ensures_statement (deleteBindings_routed hDb _)) fun db hDb => ?_
  refine ensures_seq (P := fun state : Db × List Protocol => state.1.Routed) ?_ ?_
  · refine ensures_foldlM (fun state hState entry _ => ?_) hDb
    exact insertLine_routed hState hAny id state.2 entry
  · rintro ⟨db, protocols⟩ hDb
    refine ensures_seq (insertRoutingRoute_routed hDb hAny id _ _ _) fun db hDb => ?_
    exact statement_then_finish (enforce_routed hDb rfl rfl rfl)

theorem commitWrite_coherent (write : Write) :
    Ensures (commitWrite service now db write) fun c => c.db.Routed := by
  cases write with
  | createSource input => exact createSource_coherent h input
  | updateSource id input => exact updateSource_coherent h id input
  | setSourceEnabled id enabled => exact setSourceEnabled_coherent h id enabled
  | deleteSource id => exact deleteSource_coherent h id
  | createAccount input => exact createAccount_coherent h input
  | updateAccount id input => exact updateAccount_coherent h id input
  | setAccountEnabled id enabled => exact setAccountEnabled_coherent h id enabled
  | rotateAccountCredential rotate id => exact rotateAccountCredential_coherent h rotate id
  | deleteAccount id => exact deleteAccount_coherent h id
  | createLogicalModel input => exact createLogicalModel_coherent h input
  | updateLogicalModel id input => exact updateLogicalModel_coherent h id input
  | setLogicalModelEnabled id enabled => exact setLogicalModelEnabled_coherent h id enabled
  | deleteLogicalModel id => exact deleteLogicalModel_coherent h id
  | createModelBinding input => exact createModelBinding_coherent h hAny input
  | updateModelBinding id input => exact updateModelBinding_coherent h hAny id input
  | setModelBindingEnabled id enabled => exact setModelBindingEnabled_coherent h hAny id enabled
  | deleteModelBinding id => exact deleteModelBinding_coherent h id
  | createRoute input => exact createRoute_coherent h hAny input
  | updateRoute id input => exact updateRoute_coherent h hAny id input
  | setRouteEnabled id enabled => exact setRouteEnabled_coherent h hAny id enabled
  | deleteRoute id => exact deleteRoute_coherent h id
  | upsertSourceModelCapability input => exact upsertSourceModelCapability_coherent h input
  | createModelRouting input modelUuid routeUuid =>
    exact writeModelRouting_coherent h hAny _ input true _
  | putModelRouting id input routeUuid =>
    exact writeModelRouting_coherent h hAny id input false routeUuid

end Writes

theorem OnlyModels.routed {db db' : Db} (h : OnlyModels db db') (hRouted : db.Routed) :
    db'.Routed := by
  unfold OnlyModels at h
  refine hRouted.mono ?_ ?_ ?_
  · rw [h]
    exact List.Subset.refl _
  · rw [h]
    exact List.Subset.refl _
  · intro row hRow
    rw [h]
    rfl

/-- Every operation but the import of a configuration keeps the tables routed. -/
theorem Action.run_coherent {service : Service} {now : DateTime} {db db' : Db} {action : Action}
    (hAny : service.FindsAny) (h : db.Routed) (hRun : action.run service now db = .ok db') :
    db'.Routed := by
  obtain ⟨request, committed, -, hCommit, rfl⟩ | ⟨-, hOnly | ⟨drawn, hDrawn⟩⟩ :=
    Action.run_cases hRun
  · exact commitWrite_coherent h hAny request committed hCommit
  · exact hOnly.routed h
  · rw [hDrawn]
    exact h.mono (List.Subset.refl _) (List.Subset.refl _) fun _ _ => rfl

end AiGateway.ControlPlane
