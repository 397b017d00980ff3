import AiGateway.ControlPlane.Discovery
import Mathlib.Data.Option.Basic

/-!
# When a discovery leaves the database loadable

The rows of a checked database can all be planned, so the only error a snapshot
can still report is an account with two upstream models for one public name.  A
discovery makes hidden bindings visible again without building a snapshot, and
its result can be loaded exactly when the rows it makes visible agree.
-/

namespace AiGateway.ControlPlane

set_option autoImplicit false

open AiGateway.Catalog AiGateway.Checked AiGateway.Config AiGateway.Json AiGateway.Routing
  AiGateway.Text

/-! ## Rows of the query -/

/-- The stored rows a row of the query is read from. -/
structure RowOrigin (t : Tables) (row : SnapshotRow) : Prop where
  route : ∃ route ∈ t.routes, row.routeProtocols = route.protocols
  account : ∃ account ∈ t.accounts, row.weight = account.weight
  capability : ∃ capability ∈ t.capabilities,
    capability.status = .confirmed ∧ capability.mode.isRoutable = true ∧
    row.protocol = capability.protocol ∧ row.mode = capability.mode ∧
    row.featureCapabilities = capability.featureCapabilities ∧
    ∃ source, t.source? capability.sourceId = some source ∧ row.endpoints = source.endpoints

theorem rowOrigin_of_joinedRow {usable : String → String → Bool} {t : Tables} {route : RouteRow}
    {binding : BindingRow} {row : SnapshotRow} (hRoute : route ∈ t.routes)
    (h : joinedRow usable t route binding = some row) : RowOrigin t row := by
  obtain ⟨lm, source, account, capability, hJoins, rfl⟩ := joinedRow_eq_some_iff.mp h
  obtain ⟨hMem, hKey⟩ := Rows.find_key hJoins.foundCapability
  simp only [CapabilityRow.key, Prod.mk.injEq] at hKey
  obtain ⟨hOwner, -, hProtocol⟩ := hKey
  refine ⟨⟨route, hRoute, rfl⟩, ⟨account, (Rows.find_key hJoins.foundAccount).1, rfl⟩, capability,
    hMem, hJoins.capabilityConfirmed, hJoins.routable, hProtocol.symm, rfl, rfl, source, ?_, rfl⟩
  rw [hOwner]
  exact hJoins.foundSource

theorem rowOrigin_of_mem {usable : String → String → Bool} {t : Tables} {row : SnapshotRow}
    (h : row ∈ joinedRows usable t) : RowOrigin t row := by
  simp only [joinedRows, List.mem_flatMap, List.mem_filterMap] at h
  obtain ⟨route, hRoute, binding, -, hRow⟩ := h
  exact rowOrigin_of_joinedRow hRoute hRow

/-- Whether the route of a row serves the protocol of its binding. -/
def SnapshotRow.servesProtocol (row : SnapshotRow) : Bool :=
  (protocolsOfValue row.routeProtocols).any fun protocols => row.protocol ∈ protocols

theorem chainErrors_of_validate {service : Service} {t : Tables}
    (h : validateCapabilityChains service t = .ok ()) {row : CapabilityRow}
    (hRow : row ∈ t.capabilities) (hStatus : row.status = .confirmed)
    (hMode : row.mode.isRoutable = true) {source : SourceRow}
    (hSource : t.source? row.sourceId = some source) :
    capabilityChainErrors service t row source = [] := by
  unfold validateCapabilityChains at h
  rw [collected_eq_ok, List.flatMap_eq_nil_iff] at h
  have hNone := h row (by
    rw [List.mem_insertionSort, List.mem_filter]
    exact ⟨hRow, by simp [hStatus, hMode]⟩)
  rwa [hSource] at hNone

/-- No adapter is registered, so a chain without errors is native and its source
has an endpoint for the protocol. -/
theorem native_of_chainErrors {service : Service} {t : Tables} {row : CapabilityRow}
    {source : SourceRow} (hMode : row.mode.isRoutable = true)
    (h : capabilityChainErrors service t row source = []) :
    row.mode = .native ∧ ∃ endpoints, endpointsOfValue source.endpoints = some endpoints ∧
      ∃ endpoint, (endpoints.get row.protocol).filter (fun endpoint => trim endpoint ≠ "") =
        some endpoint := by
  unfold capabilityChainErrors at h
  cases hEndpoints : endpointsOfValue source.endpoints with
  | none => simp [hEndpoints] at h
  | some endpoints =>
    simp only [hEndpoints] at h
    cases hRowMode : row.mode with
    | native =>
      simp only [hRowMode] at h
      refine ⟨rfl, endpoints, rfl, ?_⟩
      cases hEndpoint : endpoints.get row.protocol with
      | none => simp [hEndpoint] at h
      | some endpoint =>
        refine ⟨endpoint, ?_⟩
        simpa [hEndpoint] using h
    | adapter =>
      simp only [hRowMode] at h
      cases hProtocol : row.sourceProtocol with
      | none => simp [hProtocol] at h
      | some protocol =>
        cases hAdapter : row.adapter with
        | none => simp [hProtocol, hAdapter] at h
        | some adapter =>
          simp [hProtocol, hAdapter, adapterChainErrors, adapterDefinition, adapterRegistry] at h
    | unknown => simp [hRowMode, SourceProtocolMode.isRoutable] at hMode
    | unsupported => simp [hRowMode, SourceProtocolMode.isRoutable] at hMode

theorem intersectCapabilities_none (model : Capabilities) (allowLossy : Bool) :
    ∃ result, intersectCapabilities model none allowLossy = .ok result :=
  ⟨_, rfl⟩

theorem planUpstream_native {row : SnapshotRow} {endpoints : Table Protocol String}
    {upstream : Protocol} {endpoint : String} (hMode : row.mode = .native)
    (hEndpoint : (endpoints.get upstream).filter (fun endpoint => trim endpoint ≠ "") =
      some endpoint)
    (hFeatures : readableFeatures row.featureCapabilities) :
    ∃ plan, planUpstream row endpoints upstream = .ok plan := by
  obtain ⟨capabilities, hCapabilities⟩ := hFeatures
  obtain ⟨⟨effective, degraded⟩, hIntersect⟩ :=
    intersectCapabilities_none capabilities row.allowLossyConversion
  refine ⟨⟨endpoints, upstream, endpoint, effective, degraded⟩, ?_⟩
  have hAdapter : adapterFeatures row upstream = .ok none := by simp [adapterFeatures, hMode]
  simp only [planUpstream, bind_eq_ok, require_eq_ok, mapError_ok, pure_eq_ok]
  exact ⟨endpoint, hEndpoint, capabilities, hCapabilities, none, hAdapter, _, hIntersect, rfl⟩

/-- In a checked database every row can be planned, and is served exactly when
its route serves its protocol. -/
theorem planRow_of_origin {service : Service} {t : Tables} (hSound : t.Sound)
    (hChains : validateCapabilityChains service t = .ok ()) {row : SnapshotRow}
    (h : RowOrigin t row) :
    (∃ plan, planRow service row = .ok plan) ∧
      isServed service row = row.servesProtocol ∧ 0 < row.weight := by
  obtain ⟨⟨route, hRoute, hProtocols⟩, ⟨account, hAccount, hWeight⟩, capability, hCapability,
    hStatus, hRoutable, hProtocol, hMode, hFeatures, source, hSource, hEndpoints⟩ := h
  obtain ⟨protocols, hRead⟩ := hSound.protocols route hRoute
  obtain ⟨hNative, endpoints, hDecoded, endpoint, hEndpoint⟩ := native_of_chainErrors hRoutable
    (chainErrors_of_validate hChains hCapability hStatus hRoutable hSource)
  rw [← hEndpoints] at hDecoded
  rw [← hProtocol] at hEndpoint
  rw [← hMode] at hNative
  have hReadable : readableFeatures row.featureCapabilities := by
    rw [hFeatures]
    exact hSound.features capability hCapability
  obtain ⟨plan, hPlan⟩ := planUpstream_native hNative hEndpoint hReadable
  have hRowRead : protocolsOfValue row.routeProtocols = some protocols := by rw [hProtocols, hRead]
  have hEq : planRow service row =
      if row.protocol ∉ protocols then .ok none else .ok (some plan) := by
    simp only [planRow, hRowRead, hDecoded, upstreamProtocol, hNative, hPlan]
    rfl
  refine ⟨?_, ?_, ?_⟩
  · rw [hEq]
    split
    · exact ⟨none, rfl⟩
    · exact ⟨some plan, rfl⟩
  · rw [isServed, hEq, SnapshotRow.servesProtocol, hRowRead]
    by_cases hServed : row.protocol ∈ protocols
    · simp [hServed]
    · simp [hServed]
  · rw [hWeight]
    exact hSound.weights account hAccount

/-- A checked database can be loaded exactly when its served rows agree. -/
theorem loadable_iff_agreeing {service : Service} {t : Tables} (hSound : t.Sound)
    (hUrls : validatePersistedSourceUrls service t = .ok ())
    (hChains : validateCapabilityChains service t = .ok ()) :
    Loadable service t ↔
      Agreeing ((snapshotRows service t).filter SnapshotRow.servesProtocol) := by
  have hOrigin : ∀ row ∈ snapshotRows service t, RowOrigin t row := by
    intro row hRow
    rw [snapshotRows, orderedRows, List.mem_insertionSort] at hRow
    exact rowOrigin_of_mem hRow
  have hServed : (snapshotRows service t).filter (isServed service) =
      (snapshotRows service t).filter SnapshotRow.servesProtocol :=
    List.filter_congr fun row hRow =>
      (planRow_of_origin hSound hChains (hOrigin row hRow)).2.1
  rw [loadable_iff, buildRows_errors_iff, hServed]
  · exact ⟨fun h => h.2.2, fun h => ⟨hUrls, hChains, h⟩⟩
  · exact fun row hRow => (planRow_of_origin hSound hChains (hOrigin row hRow)).1
  · exact fun row hRow => (planRow_of_origin hSound hChains (hOrigin row hRow)).2.2

/-! ## Catalogue steps -/

/-- The query asks about the source model of live bindings only. -/
theorem joinedRows_congr {usable usable' : String → String → Bool} {t : Tables}
    (h : ∀ binding ∈ t.bindings, binding.isLive = true →
      usable binding.sourceId binding.upstreamModelId =
        usable' binding.sourceId binding.upstreamModelId) :
    joinedRows usable t = joinedRows usable' t := by
  unfold joinedRows
  congr 1
  funext route
  apply List.filterMap_congr
  intro binding hBinding
  by_cases hLive : binding.isLive = true
  · simp only [joinedRow, h binding hBinding hLive]
  · have hDead : ∀ usable, joinedRow usable t route binding = none := by
      intro usable
      cases hJoined : joinedRow usable t route binding with
      | none => rfl
      | some row =>
        unfold joinedRow at hJoined
        simp only [Option.bind_eq_bind, Option.bind_eq_some_iff, Option.guard_eq_some'] at hJoined
        obtain ⟨⟨⟩, -, lm, -, ⟨⟩, ⟨-, -, -, hIsLive⟩, -⟩ := hJoined
        exact absurd hIsLive hLive
    rw [hDead, hDead]

section OnlyModels

variable {service : Service} {db db' : Db}

theorem OnlyModels.urls (h : OnlyModels db db') :
    validatePersistedSourceUrls service db'.toTables =
      validatePersistedSourceUrls service db.toTables := by
  rw [h]
  rfl

theorem OnlyModels.chains (h : OnlyModels db db') :
    validateCapabilityChains service db'.toTables =
      validateCapabilityChains service db.toTables := by
  rw [h]
  rfl

theorem OnlyModels.joined (h : OnlyModels db db') (usable : String → String → Bool) :
    joinedRows usable db'.toTables = joinedRows usable db.toTables := by
  rw [h]
  rfl

theorem OnlyModels.sound (h : OnlyModels db db') (hSound : db.Sound)
    (hConfirmed : ∀ s m, db.isConfirmed s m = true → db'.isConfirmed s m = true) : db'.Sound := by
  refine ⟨?_, ?_, ?_, fun row hRow hLive => hConfirmed _ _ (hSound.live row ?_ hLive)⟩
  · rw [h]
    exact hSound.weights
  · rw [h]
    exact hSound.features
  · rw [h]
    exact hSound.protocols
  · rw [h] at hRow
    exact hRow

/-- A step on source models is loadable exactly when the rows it shows agree. -/
theorem OnlyModels.loadable_iff (h : OnlyModels db db') (hGood : Good service db)
    (hSound : db'.Sound) {usable : String → String → Bool}
    (hUsable : ∀ binding ∈ db.bindings, binding.isLive = true →
      db'.isUsable binding.sourceId binding.upstreamModelId =
        usable binding.sourceId binding.upstreamModelId) :
    Loadable service db'.toTables ↔
      Agreeing ((orderedRows service.collation (joinedRows usable db.toTables)).filter
        SnapshotRow.servesProtocol) := by
  obtain ⟨hUrls, hChains, -⟩ := ControlPlane.loadable_iff.mp hGood.loadable
  rw [loadable_iff_agreeing hSound (h.urls.trans hUrls) (h.chains.trans hChains), snapshotRows,
    h.joined, joinedRows_congr hUsable]

end OnlyModels

/-- Confirming a model or overriding its metadata shows no new row: the models
of live bindings are confirmed already. -/
theorem Confirming.good {service : Service} {db db' : Db} (h : Confirming db db')
    (hGood : Good service db) : Good service db' := by
  have hSound := h.only.sound hGood.sound h.confirmed
  have hUsable : ∀ binding ∈ db.bindings, binding.isLive = true →
      db'.isUsable binding.sourceId binding.upstreamModelId =
        db.isUsable binding.sourceId binding.upstreamModelId := by
    intro binding hBinding hLive
    have hOld := hGood.sound.live binding hBinding hLive
    rw [Tables.isUsable_eq, Tables.isUsable_eq, hOld, h.confirmed _ _ hOld, h.available]
  refine ⟨hSound, (h.only.loadable_iff hGood hSound hUsable).mpr ?_⟩
  exact ((OnlyModels.refl db).loadable_iff hGood hGood.sound fun _ _ _ => rfl).mp hGood.loadable

/-- The rows a discovery leaves visible, in the order of the query. -/
def listedRows (service : Service) (t : Tables) (input : DiscoveryApplyInput) :
    List SnapshotRow :=
  (orderedRows service.collation (joinedRows (input.lists t) t)).filter SnapshotRow.servesProtocol

/-- Among the bindings a discovery leaves visible, no account serves a public
name with a second upstream model. -/
def NoModelConflict (service : Service) (t : Tables) (input : DiscoveryApplyInput) : Prop :=
  Agreeing (listedRows service t input)

theorem Listed.sound {service : Service} {db db' : Db} {available : String → String → Bool}
    (h : Listed db db' available) (hGood : Good service db) : db'.Sound :=
  h.only.sound hGood.sound fun s m hConfirmed => (h.confirmed s m).trans hConfirmed

theorem Listed.loadable_iff {service : Service} {db db' : Db} {input : DiscoveryApplyInput}
    (h : Listed db db' (input.lists db.toTables)) (hGood : Good service db) :
    Loadable service db'.toTables ↔ NoModelConflict service db.toTables input := by
  apply h.only.loadable_iff hGood (h.sound hGood)
  intro binding hBinding hLive
  rw [Tables.isUsable_eq, h.confirmed, h.available, hGood.sound.live binding hBinding hLive,
    Bool.true_and]

end AiGateway.ControlPlane
