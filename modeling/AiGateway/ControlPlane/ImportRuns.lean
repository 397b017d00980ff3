import AiGateway.ControlPlane.Coherent
import AiGateway.ControlPlane.Import

/-!
# Runs that import configurations

The import writes its bindings and routes without the checks of the other
writes, so the tables stay coherent exactly as far as the configuration is: its
routes must not overlap once expanded, and the accounts they send one model to
must be of one family.
-/

namespace AiGateway.ControlPlane

set_option autoImplicit false

open AiGateway.Catalog AiGateway.Checked AiGateway.Config AiGateway.Health AiGateway.Json

/-- The family an imported provider gets. -/
def importFamily (presets : List PresetRow) (providerId : String) : String :=
  if presets.any fun row => row.id = providerId && row.id ≠ "custom" then providerId else "custom"

def modelsOf (config : GatewayConfig) (route : RouteConfig) : List (RouteConfig × String) :=
  (routeModels config route).map fun model => (route, model)

/-- The routes of a configuration with the models they stand for, in the order
of the import. -/
def routedModels (config : GatewayConfig) : List (RouteConfig × String) :=
  config.routes.flatMap (modelsOf config)

/-- Two routes that do not compete for requests. -/
def Apart (x y : RouteConfig × String) : Prop :=
  x.2 = y.2 → ∀ protocol ∈ x.1.protocols, protocol ∉ y.1.protocols

/-- An enabled account of the route. -/
def SendsTo (config : GatewayConfig) (route : RouteConfig) (account : AccountConfig) : Prop :=
  account.enabled = true ∧ ∃ id ∈ routeAccountIds route, config.account id = some account

/-- No two routes of one model share a protocol, and its enabled accounts are of
one family. -/
structure ConsistentImport (presets : List PresetRow) (config : GatewayConfig) : Prop where
  routes : (routedModels config).Pairwise Apart
  families : ∀ x ∈ routedModels config, ∀ y ∈ routedModels config, x.2 = y.2 →
    ∀ account other, SendsTo config x.1 account → SendsTo config y.1 other →
      importFamily presets account.providerId = importFamily presets other.providerId

theorem resolveImportProviderPreset_family (t : Tables) (provider : ProviderConfig) :
    (resolveImportProviderPreset t provider).1 = importFamily t.providerPresets provider.id := by
  unfold resolveImportProviderPreset importFamily
  dsimp only
  split
  · next row hRow =>
    have hMem := List.mem_of_head? hRow
    rw [List.mem_insertionSort, List.mem_filter] at hMem
    rw [if_pos (List.any_eq_true.mpr ⟨row, hMem.1, hMem.2⟩)]
  · next hNone =>
    rw [List.head?_eq_none_iff, ← List.length_eq_zero_iff, List.length_insertionSort,
      List.length_eq_zero_iff, List.filter_eq_nil_iff] at hNone
    rw [if_neg]
    intro hAny
    obtain ⟨row, hRow, hNamed⟩ := List.any_eq_true.mp hAny
    exact hNone row hRow hNamed

theorem logicalModelId_injective {a b : String} (h : logicalModelId a = logicalModelId b) :
    a = b :=
  (String.append_right_inj "logical:").mp h

/-! ## Rows of an import -/

/-- A binding the import wrote for a route and a model. -/
structure BindingOf (config : GatewayConfig) (pair : RouteConfig × String) (row : BindingRow) :
    Prop where
  model : row.logicalModelId = logicalModelId pair.2
  account : ∃ id ∈ routeAccountIds pair.1, ∃ account, config.account id = some account ∧
    row.sourceId = account.providerId ∧ row.enabled = account.enabled

structure RouteOf (pair : RouteConfig × String) (row : RouteRow) : Prop where
  model : row.logicalModelId = some (logicalModelId pair.2)
  protocols : row.protocols = protocolsValue pair.1.protocols

/-- What the tables hold when the routes of some models have been imported. -/
structure Imported (shipped : List PresetRow) (config : GatewayConfig)
    (pairs : List (RouteConfig × String)) (t : Tables) : Prop where
  presets : t.providerPresets = shipped
  families : ∀ row ∈ t.sources, row.providerPresetId = importFamily shipped row.id
  names : ∀ row ∈ t.logicalModels, row.id = logicalModelId row.publicName
  bindings : ∀ row ∈ t.bindings, ∃ pair ∈ pairs, BindingOf config pair row
  routes : ∀ row ∈ t.routes, ∃ pair ∈ pairs, RouteOf pair row
  apart : ∀ a ∈ t.routes, ∀ b ∈ t.routes, a.id ≠ b.id →
    ∀ id, a.logicalModelId = some id → b.logicalModelId = some id →
      ∀ protocol, a.serves protocol = true → b.serves protocol = false

section Imported

variable {shipped : List PresetRow} {config : GatewayConfig} {pairs : List (RouteConfig × String)}
  {db : Db} {now : DateTime}

theorem Imported.widen {t : Tables} {pair : RouteConfig × String}
    (h : Imported shipped config pairs t) : Imported shipped config (pairs ++ [pair]) t := by
  refine ⟨h.presets, h.families, h.names, ?_, ?_, h.apart⟩
  · intro row hRow
    obtain ⟨pair, hPair, hOf⟩ := h.bindings row hRow
    exact ⟨pair, List.mem_append_left _ hPair, hOf⟩
  · intro row hRow
    obtain ⟨pair, hPair, hOf⟩ := h.routes row hRow
    exact ⟨pair, List.mem_append_left _ hPair, hOf⟩

section Rows

variable (h : Imported shipped config pairs db.toTables)

include h

theorem importSource_imported (readAuth : Value → Option Value) (provider : ProviderConfig) :
    Ensures (importSource now readAuth db provider) fun db =>
      Imported shipped config pairs db.toTables := by
  have hFamily := resolveImportProviderPreset_family db.toTables provider
  rw [h.presets] at hFamily
  unfold importSource
  refine ensures_then fun authConfig => ensures_statement (ensures_enforce ?_)
  exact ⟨h.presets, Rows.forall_append_singleton h.families hFamily, h.names, h.bindings, h.routes,
    h.apart⟩

theorem importAccount_imported (account : AccountConfig) :
    Ensures (importAccount now db account) fun db => Imported shipped config pairs db.toTables :=
  ensures_statement
    (ensures_enforce ⟨h.presets, h.families, h.names, h.bindings, h.routes, h.apart⟩)

theorem importLogicalModel_imported (name : String) :
    Ensures (importLogicalModel now name db) fun db => Imported shipped config pairs db.toTables := by
  unfold importLogicalModel
  split
  · refine ensures_enforce ⟨h.presets, h.families, ?_, h.bindings, h.routes, h.apart⟩
    exact Rows.forall_append_singleton h.names rfl
  · refine ensures_enforce ⟨h.presets, h.families, ?_, h.bindings, h.routes, h.apart⟩
    exact Rows.forall_updateWhere h.names fun _ _ _ hName => hName

theorem ensureImportedSourceModel_imported (sourceId upstreamModelId : String) :
    Ensures (ensureImportedSourceModel now sourceId upstreamModelId db)
      fun db => Imported shipped config pairs db.toTables := by
  unfold ensureImportedSourceModel
  dsimp only
  split
  · exact ensures_enforce ⟨h.presets, h.families, h.names, h.bindings, h.routes, h.apart⟩
  · exact ensures_enforce ⟨h.presets, h.families, h.names, h.bindings, h.routes, h.apart⟩

theorem putImportedCapability_imported {sourceId upstreamModelId : String} {protocol : Protocol}
    {mode : SourceProtocolMode} {sourceProtocol : Option Protocol} {adapter : Option String}
    {features : Value} :
    Ensures (putImportedCapability now sourceId upstreamModelId protocol mode sourceProtocol adapter
      features db) fun db => Imported shipped config pairs db.toTables := by
  unfold putImportedCapability
  split
  · exact ensures_enforce ⟨h.presets, h.families, h.names, h.bindings, h.routes, h.apart⟩
  · exact ensures_enforce ⟨h.presets, h.families, h.names, h.bindings, h.routes, h.apart⟩

theorem ensureImportedCapability_imported (account : AccountConfig)
    (model upstreamModelId : String) (protocol : Protocol) :
    Ensures (ensureImportedCapability now config account model upstreamModelId protocol db)
      fun db => Imported shipped config pairs db.toTables := by
  unfold ensureImportedCapability
  dsimp only
  split
  · exact ensures_statement (putImportedCapability_imported h)
  · refine ensures_then fun sourceProtocol => ?_
    refine ensures_seq (ensures_statement (putImportedCapability_imported h)) fun db hDb => ?_
    exact ensures_statement (putImportedCapability_imported hDb)
  · exact ensures_error

theorem importBinding_imported {row : Int → BindingRow} {pair : RouteConfig × String}
    (hPair : pair ∈ pairs) (hOf : ∀ id, BindingOf config pair (row id)) :
    Ensures (importBinding now row db) fun db => Imported shipped config pairs db.toTables := by
  unfold importBinding
  dsimp only
  split
  · unfold Db.insertBinding
    split
    · exact ensures_error
    · refine ensures_enforce ⟨h.presets, h.families, h.names, ?_, h.routes, h.apart⟩
      exact Rows.forall_append_singleton h.bindings ⟨pair, hPair, hOf db.nextBindingId⟩
  · next existing hFound =>
    split
    · exact ensures_error
    · refine ensures_enforce ⟨h.presets, h.families, h.names, ?_, h.routes, h.apart⟩
      apply Rows.forall_updateWhere h.bindings
      intro _ _ _ _
      -- the merged row keeps the columns of the tuple and takes the new flag
      have hTuple := (Rows.find_key hFound).2
      simp only [BindingRow.tuple, Prod.mk.injEq] at hTuple
      obtain ⟨hModel, id, hId, account, hAccount, hSource, hEnabled⟩ := hOf db.nextBindingId
      exact ⟨pair, hPair, hTuple.1.trans hModel, id, hId, account, hAccount,
        hTuple.2.1.trans hSource, hEnabled⟩

theorem importRouteAccount_imported {route : RouteConfig} {model : String}
    (hPair : (route, model) ∈ pairs) {entry : String × Nat}
    (hEntry : entry.1 ∈ routeAccountIds route) :
    Ensures (importRouteAccount now config route (logicalModelId model) model db entry)
      fun db => Imported shipped config pairs db.toTables := by
  unfold importRouteAccount
  refine ensures_bind fun account hAccount => ?_
  have hKnown := require_eq_ok.mp hAccount
  refine ensures_seq (ensures_statement (ensureImportedSourceModel_imported h _ _))
    fun db hDb => ?_
  refine ensures_foldlM (fun db hDb protocol _ => ?_) hDb
  unfold importAccountProtocol
  refine ensures_seq (ensureImportedCapability_imported hDb account model _ protocol)
    fun db hDb => ?_
  refine ensures_statement (importBinding_imported hDb hPair ?_)
  intro id
  exact ⟨rfl, entry.1, hEntry, account, hKnown, rfl, rfl⟩

/-- The route of one more model, which no earlier route of that model overlaps. -/
theorem importRouteRow_imported {route : RouteConfig} {model : String} {row : RouteRow}
    (hRow : RouteOf (route, model) row)
    (hApart : ∀ pair ∈ pairs, Apart pair (route, model)) :
    Ensures (db.insertRoute row) fun db =>
      Imported shipped config (pairs ++ [(route, model)]) db.toTables := by
  have hWide : Imported shipped config (pairs ++ [(route, model)]) db.toTables := h.widen
  have hOther : ∀ old ∈ db.routes, ∀ id, old.logicalModelId = some id →
      row.logicalModelId = some id → ∀ protocol, old.serves protocol = true →
        row.serves protocol = false := by
    intro old hOld id hModelOld hModel protocol hServes
    obtain ⟨pair, hPair, hOf⟩ := h.routes old hOld
    have hSame : pair.2 = model := by
      apply logicalModelId_injective
      rw [← Option.some.injEq, ← hOf.model, hModelOld, ← hModel, hRow.model]
    have hIn := (serves_iff hOf.protocols protocol).mp hServes
    rw [← Bool.not_eq_true, serves_iff hRow.protocols]
    exact hApart pair hPair hSame protocol hIn
  refine ensures_enforce ⟨hWide.presets, hWide.families, hWide.names, hWide.bindings, ?_, ?_⟩
  · exact Rows.forall_append_singleton hWide.routes ⟨_, List.mem_append_right _
      (List.mem_singleton.mpr rfl), hRow⟩
  · intro a ha b hb hNe id hModelA hModelB protocol hServes
    rcases List.mem_append.mp ha with hOldA | hNewA
    · rcases List.mem_append.mp hb with hOldB | hNewB
      · exact h.apart a hOldA b hOldB hNe id hModelA hModelB protocol hServes
      · obtain rfl := List.mem_singleton.mp hNewB
        exact hOther a hOldA id hModelA hModelB protocol hServes
    · obtain rfl := List.mem_singleton.mp hNewA
      rcases List.mem_append.mp hb with hOldB | hNewB
      · rw [← Bool.not_eq_true]
        intro hServesB
        rw [hOther b hOldB id hModelB hModelA protocol hServesB] at hServes
        cases hServes
      · obtain rfl := List.mem_singleton.mp hNewB
        exact absurd rfl hNe

theorem importRouteModel_imported {route : RouteConfig} (models : List String)
    (entry : String × Nat)
    (hApart : ∀ pair ∈ pairs, Apart pair (route, entry.1)) :
    Ensures (importRouteModel now config route models db entry) fun db =>
      Imported shipped config (pairs ++ [(route, entry.1)]) db.toTables := by
  unfold importRouteModel
  refine ensures_seq (ensures_statement (importLogicalModel_imported h entry.1)) fun db hDb => ?_
  refine ensures_bind fun stored hStored => ?_
  obtain ⟨hMem, hName⟩ := Rows.find_key (require_eq_ok.mp hStored)
  have hId : stored.id = logicalModelId entry.1 := by
    rw [hDb.names stored hMem, hName]
  rw [hId]
  refine ensures_seq (ensures_statement (importRouteRow_imported hDb ⟨rfl, rfl⟩ hApart))
    fun db hDb => ?_
  refine ensures_foldlM (fun db hDb account hAccount => ?_) hDb
  refine importRouteAccount_imported hDb ?_ ?_
  · exact List.mem_append_right _ (List.mem_singleton.mpr rfl)
  · exact List.fst_mem_of_mem_zipIdx hAccount

theorem importRoute_imported {route : RouteConfig}
    (hApart : (pairs ++ modelsOf config route).Pairwise Apart) :
    Ensures (importRoute now config db route) fun db =>
      Imported shipped config (pairs ++ modelsOf config route) db.toTables := by
  unfold importRoute
  refine ensures_bind fun models hModels => ?_
  simp only [expandRouteModels, bind_eq_ok, pure_eq_ok] at hModels
  obtain ⟨_, -, _, -, rfl⟩ := hModels
  have hAll : modelsOf config route =
      (routeModels config route).zipIdx.map fun entry => (route, entry.1) := by
    rw [modelsOf, ← List.zipIdx_map_fst 0 (routeModels config route), List.map_map]
    simp
  rw [hAll] at hApart ⊢
  apply ensures_foldlM_prefix (P := fun (done : List (String × Nat)) (db : Db) =>
    Imported shipped config (pairs ++ done.map fun entry => (route, entry.1)) db.toTables)
  · intro done db entry rest hItems hDone
    rw [List.map_append, ← List.append_assoc]
    apply importRouteModel_imported hDone
    intro pair hPair
    rw [hItems, List.map_append, ← List.append_assoc, List.pairwise_append] at hApart
    exact hApart.2.2 pair hPair (route, entry.1) List.mem_cons_self
  · simpa using h

theorem importRoutes_imported (hApart : (pairs ++ routedModels config).Pairwise Apart) :
    Ensures (config.routes.foldlM (importRoute now config) db) fun db =>
      Imported shipped config (pairs ++ routedModels config) db.toTables := by
  apply ensures_foldlM_prefix (P := fun done (db : Db) => Imported shipped config
    (pairs ++ done.flatMap (modelsOf config)) db.toTables)
  · intro done db route rest hItems hDone
    rw [List.flatMap_append, List.flatMap_singleton, ← List.append_assoc]
    apply importRoute_imported hDone
    rw [routedModels, hItems, List.flatMap_append, List.flatMap_cons, ← List.append_assoc,
      ← List.append_assoc] at hApart
    exact (List.pairwise_append.mp hApart).1
  · simpa using h

end Rows

theorem importGatewayConfig_imported {readAuth : Value → Option Value}
    (h : Imported shipped config [] db.toTables)
    (hApart : (routedModels config).Pairwise Apart) :
    Ensures (importGatewayConfig now readAuth config db) fun db =>
      Imported shipped config (routedModels config) db.toTables := by
  unfold importGatewayConfig
  refine ensures_seq (P := fun db => Imported shipped config [] db.toTables) ?_ fun db hDb => ?_
  · exact ensures_foldlM (fun db hDb provider _ => importSource_imported hDb readAuth provider) h
  · refine ensures_seq (P := fun db => Imported shipped config [] db.toTables) ?_ fun db hDb => ?_
    · exact ensures_foldlM (fun db hDb account _ => importAccount_imported hDb account) hDb
    · exact importRoutes_imported hDb hApart

/-- A consistent configuration leaves coherent tables. -/
theorem Imported.routed (hConsistent : ConsistentImport shipped config)
    (h : Imported shipped config (routedModels config) db.toTables) : db.Routed := by
  have hFamily : ∀ row ∈ db.bindings,
      db.family row.sourceId = some (importFamily shipped row.sourceId) := by
    intro row hRow
    obtain ⟨source, hSource⟩ := exists_source hRow
    obtain ⟨hMem, hId⟩ := Rows.find_key hSource
    rw [Tables.family, hSource, Option.map_some, h.families source hMem, hId]
  refine ⟨⟨?_, ?_⟩, ?_⟩
  · intro a ha b hb hLiveA hLiveB hModel
    obtain ⟨x, hx, hModelA, idA, hIdA, account, hAccount, hSourceA, hOnA⟩ := h.bindings a ha
    obtain ⟨y, hy, hModelB, idB, hIdB, other, hOther, hSourceB, hOnB⟩ := h.bindings b hb
    have hSame : x.2 = y.2 := by
      apply logicalModelId_injective
      rw [← hModelA, hModel, hModelB]
    have hEnabledA : account.enabled = true := hOnA ▸ (Bool.and_eq_true_iff.mp hLiveA).2
    have hEnabledB : other.enabled = true := hOnB ▸ (Bool.and_eq_true_iff.mp hLiveB).2
    rw [hFamily a ha, hFamily b hb, hSourceA, hSourceB, hConsistent.families x hx y hy hSame account
      other ⟨hEnabledA, idA, hIdA, hAccount⟩ ⟨hEnabledB, idB, hIdB, hOther⟩]
  · intro a ha b hb hNe _ _
    exact h.apart a ha b hb hNe
  · intro row hRow
    obtain ⟨pair, -, hOf⟩ := h.routes row hRow
    exact ⟨pair.1.protocols, hOf.protocols⟩

theorem imported_of_cleared {t : Tables} (hSources : t.sources = []) (hModels : t.logicalModels = [])
    (hBindings : t.bindings = []) (hRoutes : t.routes = []) :
    Imported t.providerPresets config [] t := by
  refine ⟨rfl, ?_, ?_, ?_, ?_, ?_⟩
  · simp [hSources]
  · simp [hModels]
  · simp [hBindings]
  · simp [hRoutes]
  · simp [hRoutes]

theorem clearForImport_imported (db : Db) :
    Ensures (clearForImport db) fun cleared =>
      Imported db.providerPresets config [] cleared.toTables := by
  unfold clearForImport
  split
  · refine ensures_statement (ensures_enforce ?_)
    exact imported_of_cleared (t := db.toTables.cleared) rfl rfl rfl rfl
  · next hRows =>
    have hNone : db.rowCount = 0 := Nat.eq_zero_of_not_pos hRows
    simp only [Tables.rowCount, Nat.add_eq_zero_iff, List.length_eq_zero_iff] at hNone
    obtain ⟨⟨⟨⟨hSources, -⟩, hModels⟩, hBindings⟩, hRoutes⟩ := hNone
    exact ensures_pure (imported_of_cleared hSources hModels hBindings hRoutes)

end Imported

/-! ## Runs -/

inductive Operation where
  | act (action : Action)
  | importConfig (config : GatewayConfig) (force : Bool)

section Operations

variable (service : Service) (readAuth : Value → Option Value)

/-- An initialization that finds rows and is not forced leaves them alone. -/
def Operation.run (now : DateTime) (db : Db) : Operation → Except ControlPlaneError Db
  | .act action => action.run service now db
  | .importConfig config force => do
    let committed ← initializeFromConfig now service readAuth config force db
    return (committed.map Committed.db).getD db

inductive OperationRun (start : Db) : List (Db × Operation) → Db → Prop where
  | start : OperationRun start [] start
  | step {history : List (Db × Operation)} {db db' : Db} {now : DateTime} {operation : Operation}
      (before : OperationRun start history db)
      (next : operation.run service readAuth now db = .ok db') :
      OperationRun start (history ++ [(db, operation)]) db'

/-- Every configuration that is really imported is consistent. -/
def Operation.Consistent (db : Db) : Operation → Prop
  | .act _ => True
  | .importConfig config force =>
    db.rowCount = 0 ∨ force = true → ConsistentImport db.providerPresets config

variable {service readAuth}

theorem initializeFromConfig_routed {now : DateTime} {config : GatewayConfig} {force : Bool}
    {db : Db} (h : db.Routed) (hConsistent : (Operation.importConfig config force).Consistent db) :
    Ensures ((Operation.importConfig config force).run service readAuth now db)
      fun db => db.Routed := by
  unfold Operation.run
  refine ensures_bind fun committed hCommitted => ensures_pure ?_
  unfold initializeFromConfig at hCommitted
  obtain ⟨⟨⟩, -, hCommitted⟩ := bind_eq_ok.mp hCommitted
  obtain ⟨⟨⟩, -, hCommitted⟩ := bind_eq_ok.mp hCommitted
  split at hCommitted
  · obtain rfl := pure_eq_ok.mp hCommitted
    exact h
  · next hImports =>
    have hReal : db.rowCount = 0 ∨ force = true := by
      rcases Nat.eq_zero_or_pos db.rowCount with hNone | hSome
      · exact .inl hNone
      · exact .inr (by simpa [hSome] using hImports)
    have hConfig := hConsistent hReal
    obtain ⟨cleared, hCleared, hCommitted⟩ := bind_eq_ok.mp hCommitted
    obtain ⟨imported, hImported, hCommitted⟩ := bind_eq_ok.mp hCommitted
    obtain ⟨final, hFinal, hCommitted⟩ := bind_eq_ok.mp hCommitted
    obtain rfl := pure_eq_ok.mp hCommitted
    have hRows := importGatewayConfig_imported (clearForImport_imported db cleared hCleared)
      hConfig.routes imported hImported
    exact finishWrite_routed (hRows.routed hConfig) final hFinal

theorem Operation.run_routed {now : DateTime} {db db' : Db} {operation : Operation}
    (hAny : service.FindsAny) (h : db.Routed) (hConsistent : operation.Consistent db)
    (hRun : operation.run service readAuth now db = .ok db') : db'.Routed := by
  cases operation with
  | act action => exact action.run_coherent hAny h hRun
  | importConfig config force => exact initializeFromConfig_routed h hConsistent db' hRun

theorem routed_of_isEmpty {db : Db} (h : db.IsEmpty) : db.Routed := by
  refine ⟨⟨?_, ?_⟩, ?_⟩
  · simp [h.bindings]
  · simp [h.routes]
  · simp [h.routes]

theorem OperationRun.routed {start db : Db} {history : List (Db × Operation)}
    (hAny : service.FindsAny) (hEmpty : start.IsEmpty)
    (hRun : OperationRun service readAuth start history db)
    (hConsistent : ∀ state operation, (state, operation) ∈ history → operation.Consistent state) :
    ∀ state ∈ history.map Prod.fst ++ [db], state.Routed := by
  induction hRun with
  | start =>
    intro state hState
    obtain rfl := List.mem_singleton.mp hState
    exact routed_of_isEmpty hEmpty
  | @step history db db' now operation before next ih =>
    have hBefore := ih fun state operation hIn =>
      hConsistent state operation (List.mem_append_left _ hIn)
    have hOperation := hConsistent db operation (by simp)
    have hDb := hBefore db (by simp)
    intro state hState
    rw [List.map_append, List.mem_append] at hState
    rcases hState with hOld | hNew
    · exact hBefore state (by simpa using hOld)
    · obtain rfl := List.mem_singleton.mp hNew
      exact operation.run_routed hAny hDb hOperation next

/-- In every run from the empty control plane that imports consistent
configurations only, every state is coherent. -/
theorem coherent_of_consistent_imports {start db : Db} {history : List (Db × Operation)}
    (hAny : service.FindsAny) (hEmpty : start.IsEmpty)
    (hRun : OperationRun service readAuth start history db)
    (hConsistent : ∀ state operation, (state, operation) ∈ history → operation.Consistent state) :
    ∀ state ∈ history.map Prod.fst ++ [db], state.Coherent := by
  intro state hState
  exact (hRun.routed hAny hEmpty hConsistent state hState).toCoherent

end Operations

/-! ## Overlapping patterns -/

namespace Overlap

def provider : ProviderConfig :=
  { id := "s"
    name := "s"
    baseUrl := "https://upstream"
    models := ["m"]
    nativeProtocols := [.openAiChatCompletions]
    endpoints := Table.empty.insert .openAiChatCompletions "/v1/chat/completions" }

def account : AccountConfig :=
  { id := "a", providerId := "s", displayName := "a", credentialEnv := some "KEY" }

def route (id pattern : String) : RouteConfig :=
  { id := id
    model := pattern
    providerId := "s"
    protocols := [.openAiChatCompletions]
    primaryAccountId := "a" }

def config (routes : List RouteConfig) : GatewayConfig :=
  { listenAddr := "127.0.0.1:8080", providers := [provider], accounts := [account], routes := routes }

/-- The database after the import of the routes into the empty control plane. -/
def imported (routes : List RouteConfig) : Except ControlPlaneError Db :=
  (Operation.importConfig (config routes) false).run Relisted.service (fun _ => none) 0 Relisted.start

theorem run_of_imported {routes : List RouteConfig} {db : Db} (h : imported routes = .ok db) :
    OperationRun Relisted.service (fun _ => none) Relisted.start
      [(Relisted.start, .importConfig (config routes) false)] db :=
  .step .start h

end Overlap

theorem relisted_findsAny : Relisted.service.FindsAny := by
  constructor
  · intro rows row hRow
    exact List.mem_of_head? hRow
  · intro rows hNone
    exact List.head?_eq_none_iff.mp hNone

theorem coherent_of_consistent_imports_one_route :
    ∃ history db, OperationRun Relisted.service (fun _ => none) Relisted.start history db ∧
      db.routes.length = 1 ∧ ∀ state ∈ history.map Prod.fst ++ [db], state.Coherent := by
  obtain ⟨db, hDb, hRoutes⟩ := exists_of_succeeds (show succeeds
      (Overlap.imported [Overlap.route "r" "m"]) (fun db => db.routes.length = 1) = true by
    decide)
  have hRun := Overlap.run_of_imported hDb
  refine ⟨_, db, hRun, by simpa using hRoutes, ?_⟩
  refine coherent_of_consistent_imports relisted_findsAny (by constructor <;> rfl) hRun ?_
  intro state operation hIn
  obtain ⟨rfl, rfl⟩ := Prod.mk.inj (List.mem_singleton.mp hIn)
  intro _
  refine ⟨List.pairwise_singleton _ _, ?_⟩
  rintro x - y - - account other ⟨-, id, -, hAccount⟩ ⟨-, id', -, hOther⟩
  have hKnown : ∀ {id : String} {found : AccountConfig},
      (Overlap.config [Overlap.route "r" "m"]).account id = some found →
        found = Overlap.account := by
    intro id found hFound
    exact List.mem_singleton.mp (List.mem_of_find?_eq_some hFound)
  rw [hKnown hAccount, hKnown hOther]

/-- A route for one model and a wildcard route both come to serve the model. -/
theorem overlapping_import_not_coherent :
    ∃ history db, Relisted.start.IsEmpty ∧
      OperationRun Relisted.service (fun _ => none) Relisted.start history db ∧ ¬ db.Coherent := by
  obtain ⟨db, hDb, hRoutes⟩ := exists_of_succeeds (show succeeds
      (Overlap.imported [Overlap.route "exact" "m", Overlap.route "any" "*"]) (fun db =>
        db.routes.any fun a => db.routes.any fun b =>
          a.id = "exact" && b.id = "any" && a.enabled && b.enabled &&
          a.logicalModelId = some "logical:m" && b.logicalModelId = some "logical:m" &&
          a.serves .openAiChatCompletions && b.serves .openAiChatCompletions) = true by
    decide)
  refine ⟨_, db, by constructor <;> rfl, Overlap.run_of_imported hDb, ?_⟩
  intro hCoherent
  simp only [List.any_eq_true, Bool.and_eq_true, decide_eq_true_eq] at hRoutes
  obtain ⟨a, ha, b, hb, ⟨⟨⟨⟨⟨⟨hIdA, hIdB⟩, hOnA⟩, hOnB⟩, hModelA⟩, hModelB⟩, hServesA⟩, hServesB⟩ :=
    hRoutes
  have hNe : a.id ≠ b.id := by
    rw [hIdA, hIdB]
    decide
  rw [hCoherent.protocols a ha b hb hNe hOnA hOnB "logical:m" hModelA hModelB _ hServesA] at hServesB
  cases hServesB

end AiGateway.ControlPlane
