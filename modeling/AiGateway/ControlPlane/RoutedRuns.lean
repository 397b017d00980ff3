import AiGateway.ControlPlane.RoutedLines

/-!
# Written routing at run time

The rows of the snapshot query that a routing write has left for its model, and
the runtime routes built from them.
-/

namespace AiGateway.ControlPlane

set_option autoImplicit false

open AiGateway.Catalog AiGateway.Checked AiGateway.Health AiGateway.Json AiGateway.Order
  AiGateway.Routing

def SnapshotRow.key (row : SnapshotRow) : RoutingKey := ⟨row.line, row.protocol, row.priority⟩

/-! ## Rows of the query -/

section Rows

variable {usable : String → String → Bool} {t : Tables} {route : RouteRow} {binding : BindingRow}
  {row : SnapshotRow} {lm : LogicalModelRow}

/-- What a row has from its route, its model and its binding. -/
structure Joined (t : Tables) (route : RouteRow) (binding : BindingRow) (row : SnapshotRow) :
    Prop where
  model : ∃ modelId lm, route.logicalModelId = some modelId ∧ t.logicalModel? modelId = some lm ∧
    lm.enabled = true ∧ lm.publicName = row.publicName ∧ binding.logicalModelId = modelId
  routeId : row.routeId = route.id
  routeProtocols : row.routeProtocols = route.protocols
  mode : row.mode.isRoutable = true
  key : row.key = binding.key

theorem joined_of_joinedRow (h : joinedRow usable t route binding = some row) :
    Joined t route binding row := by
  obtain ⟨lm, source, account, capability, hJoins, rfl⟩ := joinedRow_eq_some_iff.mp h
  obtain ⟨modelId, hModel, hFound⟩ := Option.bind_eq_some_iff.mp hJoins.foundModel
  have hId : lm.id = modelId := (Rows.find_key hFound).2
  exact ⟨⟨modelId, lm, hModel, hFound, hJoins.modelEnabled, rfl, hJoins.sameModel.trans hId⟩, rfl,
    rfl, hJoins.routable, rfl⟩

theorem parts_of_mem_lineProtocols {line : ModelRoutingLineWrite} {protocol : Protocol}
    (h : protocol ∈ lineProtocols t line) :
    t.isUsable line.sourceId line.upstreamModelId = true ∧
    (∃ source, t.source? line.sourceId = some source) ∧
    (∃ account, t.account? line.accountId = some account ∧ account.sourceId = line.sourceId) ∧
    ∃ capability, t.capability? line.sourceId line.upstreamModelId protocol = some capability ∧
      capability.status = .confirmed ∧ capability.mode.isRoutable = true := by
  unfold lineProtocols at h
  split at h
  · next hOpen =>
    simp only [Bool.and_eq_true] at hOpen
    obtain ⟨⟨hUsable, hSource⟩, hAccount⟩ := hOpen
    obtain ⟨source, hSource, -⟩ := (Option.any_eq_true _ _).mp hSource
    obtain ⟨account, hAccount, hOwner⟩ := (Option.any_eq_true _ _).mp hAccount
    obtain ⟨capability, hCapability, hRoutable⟩ :=
      (Option.any_eq_true _ _).mp (List.mem_filter.mp h).2
    simp only [Bool.and_eq_true, decide_eq_true_eq] at hOwner hRoutable
    exact ⟨hUsable, ⟨source, hSource⟩, ⟨account, hAccount, hOwner.1⟩, capability, hCapability,
      hRoutable⟩
  · cases h

/-- A live binding of a served line is joined. -/
theorem exists_joinedRow (hRoute : route.enabled = true) {id : String}
    (hModel : route.logicalModelId = some id) (hFound : t.logicalModel? id = some lm)
    (hOn : lm.enabled = true) (hConfirmed : lm.status = .confirmed)
    (hBinding : binding.logicalModelId = id) (hLive : binding.isLive = true)
    (hServes : binding.protocol ∈ lineProtocols t binding.line) :
    ∃ row, joinedRow t.isUsable t route binding = some row ∧ row.key = binding.key := by
  obtain ⟨hUsable, ⟨source, hSource⟩, ⟨account, hAccount, hOwner⟩, capability, hCapability, hStatus,
    hMode⟩ := parts_of_mem_lineProtocols hServes
  have hId : lm.id = id := (Rows.find_key hFound).2
  refine ⟨_, joinedRow_eq_some_iff.mpr ⟨lm, source, account, capability, ?_, rfl⟩, rfl⟩
  exact ⟨hRoute, by rw [hModel, Option.bind_some, hFound], hOn, hConfirmed,
    hBinding.trans hId.symm, hLive, hSource, hAccount, hOwner, hUsable, hCapability, hStatus, hMode⟩

theorem upstreamProtocol_ne_none (hMode : row.mode.isRoutable = true) :
    upstreamProtocol row ≠ .ok none := by
  unfold upstreamProtocol
  split
  · simp
  · split <;> simp
  · next hUnknown => simp [hUnknown, SourceProtocolMode.isRoutable] at hMode
  · next hUnsupported => simp [hUnsupported, SourceProtocolMode.isRoutable] at hMode

theorem planRow_ne_skip {service : Service} {protocols : List Protocol}
    (hStored : row.routeProtocols = protocolsValue protocols) (hServed : row.protocol ∈ protocols)
    (hMode : row.mode.isRoutable = true) : planRow service row ≠ .ok none := by
  unfold planRow
  rw [hStored, protocolsOfValue_protocolsValue]
  dsimp only
  rw [if_neg (not_not.mpr hServed)]
  split
  · nofun
  · split
    · nofun
    · next hSkipped => exact absurd hSkipped (upstreamProtocol_ne_none hMode)
    · cases planUpstream row _ _ <;> nofun

theorem before_of_later {collation : String → String → Bool} {row' : SnapshotRow}
    (hRoute : row.routeId = row'.routeId) (hProtocol : row.protocol = row'.protocol)
    (h : Later row.key row'.key) : SnapshotRow.before collation row row' = true := by
  have hPriority : row.priority ≠ row'.priority := fun hSame => h.2 hSame hProtocol
  rw [SnapshotRow.before, if_neg (not_not.mpr hRoute), if_neg (not_not.mpr hProtocol),
    if_pos hPriority]
  exact decide_eq_true h.1

end Rows

/-! ## The rows of the model -/

section Filters

variable {α β : Type} {p : α → Bool} {q : β → Bool} {items : List α}

/-- Items that give nothing a filter keeps can be left out before. -/
theorem filter_flatMap_of {f : α → List β} (h : ∀ a ∈ items, ∀ b ∈ f a, q b = true → p a = true) :
    (items.flatMap f).filter q = (items.filter p).flatMap fun a => (f a).filter q := by
  induction items with
  | nil => rfl
  | cons a rest ih =>
    rw [List.forall_mem_cons] at h
    rw [List.flatMap_cons, List.filter_append, ih h.2, List.filter_cons]
    split
    · rw [List.flatMap_cons]
    · next hOut =>
      have hNil : (f a).filter q = [] := List.filter_eq_nil_iff.mpr fun b hb hq => hOut (h.1 b hb hq)
      rw [hNil, List.nil_append]

theorem filter_filterMap_of {f : α → Option β}
    (h : ∀ a ∈ items, ∀ b, f a = some b → q b = true → p a = true) :
    (items.filterMap f).filter q = ((items.filter p).filterMap f).filter q := by
  have hKept : (items.flatMap fun a => (f a).toList).filter q =
      (items.filter p).flatMap fun a => (f a).toList.filter q :=
    filter_flatMap_of fun a ha b hb => h a ha b (Option.mem_toList.mp hb)
  rw [List.filterMap_eq_flatMap_toList, List.filterMap_eq_flatMap_toList, hKept,
    List.filter_flatMap]

end Filters

section Written

variable {service : Service} {now : DateTime} {id : String} {input : ModelRoutingWrite}
  {t : Tables} {db : Db} {route : RouteRow} {binding : BindingRow} {row : SnapshotRow}

theorem RoutingWritten.lineProtocols_eq (h : RoutingWritten now id input t db.toTables) :
    lineProtocols db.toTables = lineProtocols t := by
  funext line
  simp only [lineProtocols, Tables.isUsable, Tables.sourceModel?, Tables.source?, Tables.account?,
    Tables.capability?, h.sources, h.accounts, h.sourceModels, h.capabilities]
  rfl

theorem RoutingWritten.confirmedFor_eq (h : RoutingWritten now id input t db.toTables)
    (protocol : Protocol) : confirmedFor db.toTables protocol = confirmedFor t protocol := by
  funext line
  simp only [confirmedFor, Tables.capability?, h.capabilities]

/-- A row of the model's public name comes from its route and one of its bindings. -/
theorem RoutingWritten.of_joined (h : RoutingWritten now id input t db.toTables)
    (hJoined : Joined db.toTables route binding row) (hName : row.publicName = input.publicName) :
    route.logicalModelId = some id ∧ binding.logicalModelId = id ∧ input.enabled = true := by
  obtain ⟨modelId, found, hRoute, hFound, hOn, hPublic, hBinding⟩ := hJoined.model
  obtain ⟨lm, hModel, hWritten, hEnabled, -⟩ := h.model
  obtain ⟨hFoundMem, hFoundId⟩ := Rows.find_key hFound
  obtain ⟨hModelMem, hModelId⟩ := Rows.find_key hModel
  have hSame : found = lm := List.inj_on_of_nodup_map db.keys.publicNames hFoundMem hModelMem
    ((hPublic.trans hName).trans hWritten.symm)
  subst hSame
  have hId : modelId = id := hFoundId.symm.trans hModelId
  rw [hId] at hRoute hBinding
  exact ⟨hRoute, hBinding, hEnabled.symm.trans hOn⟩

/-- Only the model's own route and bindings give rows of its public name. -/
theorem RoutingWritten.filter_joinedRows (h : RoutingWritten now id input t db.toTables)
    (protocol : Protocol) :
    (joinedRows db.isUsable db.toTables).filter (isRowFor input.publicName protocol) =
      (db.routes.filter fun route => route.logicalModelId = some id).flatMap fun route =>
        ((db.bindings.filter fun binding => binding.logicalModelId = id).filterMap
          (joinedRow db.isUsable db.toTables route)).filter (isRowFor input.publicName protocol) := by
  have hName : ∀ row, isRowFor input.publicName protocol row = true →
      row.publicName = input.publicName := by
    intro row hRow
    simp only [isRowFor, Bool.and_eq_true, decide_eq_true_eq] at hRow
    exact hRow.1
  rw [joinedRows, filter_flatMap_of]
  · apply List.flatMap_congr
    intro route _
    apply filter_filterMap_of
    intro binding _ row hJoined hRow
    exact decide_eq_true (h.of_joined (joined_of_joinedRow hJoined) (hName row hRow)).2.1
  · intro route _ row hMem hRow
    obtain ⟨binding, -, hJoined⟩ := List.mem_filterMap.mp hMem
    exact decide_eq_true (h.of_joined (joined_of_joinedRow hJoined) (hName row hRow)).1

/-- One row for each new binding, in the order of the bindings. -/
theorem RoutingWritten.keys_rows (h : RoutingWritten now id input t db.toTables)
    (hOn : input.enabled = true) (hLines : input.lines ≠ []) (hRoute : route.enabled = true)
    (hModel : route.logicalModelId = some id) (first : Int) :
    ((numbered now first (routingBindings t id input.lines)).filterMap
      (joinedRow db.isUsable db.toTables route)).map SnapshotRow.key =
        (routingBindings t id input.lines).map ModelBindingWrite.key := by
  obtain ⟨lm, hFound, -, hEnabled, hConfirmed⟩ := h.model
  rw [map_filterMap (k := BindingRow.key), map_numbered (g := ModelBindingWrite.key)
    (fun _ _ => rfl)]
  intro binding hBinding
  obtain ⟨write, hWrite, next, -, rfl⟩ := mem_numbered hBinding
  obtain ⟨entry, -, protocol, hServes, rfl⟩ := mem_routingBindings hWrite
  rw [← h.lineProtocols_eq] at hServes
  exact exists_joinedRow hRoute hModel hFound (hEnabled.trans hOn) (hConfirmed hLines) rfl rfl
    hServes

/-- Rows that the snapshot leaves in order and that all go to one route. -/
structure ModelRows (service : Service) (routeId : String) (lines : List ModelRoutingLineWrite)
    (rows : List SnapshotRow) : Prop where
  lines : rows.map SnapshotRow.line = lines
  ordered : rows.Pairwise fun a b => SnapshotRow.before service.collation a b = true
  tried : ∀ row ∈ rows, row.routeId = routeId ∧ planRow service row ≠ .ok none

theorem ModelRows.nil (service : Service) (routeId : String) : ModelRows service routeId [] [] where
  lines := rfl
  ordered := List.Pairwise.nil
  tried row hRow := by cases hRow

section Route

variable {routeId : String} {protocols : List Protocol}

/-- The route the write has inserted. -/
def writtenRoute (now : DateTime) (id : String) (input : ModelRoutingWrite) (routeId : String)
    (protocols : List Protocol) : RouteRow :=
  newRoute now (routingRoute routeId id protocols) input.publicName

theorem RoutingWritten.tried_of_joined (h : RoutingWritten now id input t db.toTables)
    (service : Service) (hProtocols : ∀ protocol, protocol ∈ protocols ↔
      ∃ line ∈ input.lines, protocol ∈ lineProtocols t line) {first : Int}
    (hBinding : binding ∈ numbered now first (routingBindings t id input.lines))
    (hJoined : Joined db.toTables (writtenRoute now id input routeId protocols) binding row) :
    row.publicName = input.publicName ∧ row.routeId = routeId ∧ planRow service row ≠ .ok none := by
  obtain ⟨modelId, found, hRoute, hFound, -, hPublic, -⟩ := hJoined.model
  obtain ⟨lm, hModel, hWritten, -, -⟩ := h.model
  obtain rfl : id = modelId := Option.some.inj hRoute
  obtain rfl : lm = found := Option.some.inj (hModel.symm.trans hFound)
  obtain ⟨write, hWrite, next, -, rfl⟩ := mem_numbered hBinding
  obtain ⟨entry, hEntry, protocol, hServes, rfl⟩ := mem_routingBindings hWrite
  have hProtocol : row.protocol = protocol := congrArg RoutingKey.protocol hJoined.key
  refine ⟨hPublic.symm.trans hWritten, hJoined.routeId, ?_⟩
  refine planRow_ne_skip hJoined.routeProtocols ?_ hJoined.mode
  rw [hProtocol, routingRoute, List.mem_insertionSort, hProtocols]
  exact ⟨entry.1, List.zipIdx_map_fst 0 input.lines ▸ List.mem_map_of_mem hEntry, hServes⟩

theorem RoutingWritten.rows_of_route (h : RoutingWritten now id input t db.toTables)
    (service : Service) (hOn : input.enabled = true) (hLines : input.lines ≠ [])
    (hProtocols : ∀ protocol, protocol ∈ protocols ↔
      ∃ line ∈ input.lines, protocol ∈ lineProtocols t line) (first : Int) (protocol : Protocol) :
    ModelRows service routeId (input.lines.filter (confirmedFor t protocol))
      (((numbered now first (routingBindings t id input.lines)).filterMap
        (joinedRow db.isUsable db.toTables (writtenRoute now id input routeId protocols))).filter
          (isRowFor input.publicName protocol)) := by
  have hKeys : ((numbered now first (routingBindings t id input.lines)).filterMap
      (joinedRow db.isUsable db.toTables (writtenRoute now id input routeId protocols))).map
        SnapshotRow.key = (routingBindings t id input.lines).map ModelBindingWrite.key :=
    h.keys_rows hOn hLines rfl rfl first
  have hTried : ∀ row ∈ (numbered now first (routingBindings t id input.lines)).filterMap
      (joinedRow db.isUsable db.toTables (writtenRoute now id input routeId protocols)),
      row.publicName = input.publicName ∧ row.routeId = routeId ∧
        planRow service row ≠ .ok none := by
    intro row hRow
    obtain ⟨binding, hBinding, hSome⟩ := List.mem_filterMap.mp hRow
    exact h.tried_of_joined service hProtocols hBinding (joined_of_joinedRow hSome)
  generalize (numbered now first (routingBindings t id input.lines)).filterMap
    (joinedRow db.isUsable db.toTables (writtenRoute now id input routeId protocols)) = rows
    at hKeys hTried ⊢
  have hFor : rows.filter (isRowFor input.publicName protocol) =
      rows.filter fun row => row.protocol = protocol := by
    apply List.filter_congr
    intro row hRow
    simp only [isRowFor, (hTried row hRow).1, decide_true, Bool.true_and]
  rw [hFor]
  constructor
  · have hSame := congrArg (fun keys => (keys.filter fun key : RoutingKey =>
      key.protocol = protocol).map RoutingKey.line) hKeys
    simp only [List.filter_map, List.map_map] at hSame
    exact hSame.trans (lines_filter_routingBindings h.served protocol)
  · have hLater : rows.Pairwise fun a b => Later a.key b.key := by
      rw [← List.pairwise_map (R := Later), hKeys, List.pairwise_map]
      exact later_routingBindings
    refine (hLater.filter _).imp_of_mem ?_
    intro a b ha hb hLater
    obtain ⟨haMem, haProtocol⟩ := List.mem_filter.mp ha
    obtain ⟨hbMem, hbProtocol⟩ := List.mem_filter.mp hb
    refine before_of_later ?_ ?_ hLater
    · exact (hTried a haMem).2.1.trans (hTried b hbMem).2.1.symm
    · exact (of_decide_eq_true haProtocol).trans (of_decide_eq_true hbProtocol).symm
  · intro row hRow
    exact (hTried row (List.mem_filter.mp hRow).1).2

end Route

theorem RoutingWritten.filter_routes (h : RoutingWritten now id input t db.toTables) :
    ∃ routeId protocols, (∀ protocol, protocol ∈ protocols ↔
      ∃ line ∈ input.lines, protocol ∈ lineProtocols t line) ∧
    db.routes.filter (fun row => row.logicalModelId = some id) =
      if protocols = [] then [] else [writtenRoute now id input routeId protocols] := by
  obtain ⟨routeId, protocols, hProtocols, hRoutes⟩ := h.routes
  refine ⟨routeId, protocols, hProtocols, ?_⟩
  have hOthers : (t.routes.filter fun row => row.logicalModelId ≠ some id).filter
      (fun row => row.logicalModelId = some id) = [] := by
    rw [List.filter_eq_nil_iff]
    intro row hRow hId
    exact of_decide_eq_true (List.mem_filter.mp hRow).2 (of_decide_eq_true hId)
  rw [hRoutes, List.filter_append, hOthers, List.nil_append]
  split
  · rfl
  · exact List.filter_eq_self.mpr (List.forall_mem_singleton.mpr (decide_eq_true rfl))

/-- The rows of an enabled model are those of its lines. -/
theorem RoutingWritten.exists_modelRows (h : RoutingWritten now id input t db.toTables)
    (service : Service) (hOn : input.enabled = true) :
    ∃ routeId, ∀ protocol, ModelRows service routeId (input.lines.filter (confirmedFor t protocol))
      ((joinedRows db.isUsable db.toTables).filter (isRowFor input.publicName protocol)) := by
  obtain ⟨first, hBindings⟩ := h.filter_bindings
  obtain ⟨routeId, protocols, hProtocols, hRoutes⟩ := h.filter_routes
  refine ⟨routeId, fun protocol => ?_⟩
  rw [h.filter_joinedRows, hBindings, hRoutes]
  by_cases hNone : protocols = []
  · have hLines : input.lines = [] := by
      rw [List.eq_nil_iff_forall_not_mem]
      intro line hLine
      obtain ⟨served, hServed⟩ := List.exists_mem_of_ne_nil _ (h.served line hLine)
      have hIn := (hProtocols served).mpr ⟨line, hLine, hServed⟩
      rw [hNone] at hIn
      cases hIn
    rw [if_pos hNone, hLines]
    exact .nil service routeId
  · have hLines : input.lines ≠ [] := by
      intro hNil
      obtain ⟨protocol, hIn⟩ := List.exists_mem_of_ne_nil _ hNone
      obtain ⟨line, hLine, -⟩ := (hProtocols protocol).mp hIn
      rw [hNil] at hLine
      cases hLine
    rw [if_neg hNone, List.flatMap_singleton]
    exact h.rows_of_route service hOn hLines hProtocols first protocol

/-- A disabled model has no rows. -/
theorem RoutingWritten.no_rows (h : RoutingWritten now id input t db.toTables)
    (hOff : input.enabled = false) (protocol : Protocol) :
    (joinedRows db.isUsable db.toTables).filter (isRowFor input.publicName protocol) = [] := by
  rw [List.filter_eq_nil_iff]
  intro row hMem hRow
  simp only [joinedRows, List.mem_flatMap, List.mem_filterMap] at hMem
  obtain ⟨route, -, binding, -, hJoined⟩ := hMem
  simp only [isRowFor, Bool.and_eq_true, decide_eq_true_eq] at hRow
  obtain ⟨-, -, hOn⟩ := h.of_joined (joined_of_joinedRow hJoined) hRow.1
  rw [hOff] at hOn
  cases hOn

/-! ## The published routes -/

theorem runtimeRoutes_of_buildSnapshot {t : Tables} {snapshot : RuntimeSnapshot}
    (h : buildSnapshot service t = .ok snapshot) :
    ∃ routes, snapshot.resolver.runtimeRoutes = some routes := by
  obtain ⟨-, -, hPure⟩ := bind_eq_ok.mp h
  rw [← pure_eq_ok.mp hPure]
  exact ⟨_, rfl⟩

/-- The rows of the model are sorted as they are, and its routes are built from them. -/
theorem tries_of_modelRows {routes : List RuntimeRoute} {snapshot : RuntimeSnapshot}
    {routeId publicName : String} {protocol : Protocol} {lines : List ModelRoutingLineWrite}
    (h : ModelRows service routeId lines
      ((joinedRows db.isUsable db.toTables).filter (isRowFor publicName protocol)))
    (hSnapshot : buildSnapshot service db.toTables = .ok snapshot)
    (hRoutes : snapshot.resolver.runtimeRoutes = some routes) :
    Tries routeId publicName protocol routes lines := by
  obtain ⟨_, hErrors, hPure⟩ := bind_eq_ok.mp hSnapshot
  have hErrors := collected_eq_ok.mp hErrors
  obtain rfl : routes = (buildRows service (snapshotRows service db.toTables)).routes := by
    rw [← pure_eq_ok.mp hPure] at hRoutes
    exact (Option.some.inj hRoutes).symm
  have hRows : (snapshotRows service db.toTables).filter (isRowFor publicName protocol) =
      (joinedRows db.isUsable db.toTables).filter (isRowFor publicName protocol) :=
    filter_insertionSort h.ordered
  have hTried : ∀ row ∈ snapshotRows service db.toTables, isRowFor publicName protocol row = true →
      row.routeId = routeId ∧ planRow service row ≠ .ok none := by
    intro row hRow hFor
    apply h.tried
    rw [← hRows]
    exact List.mem_filter.mpr ⟨hRow, hFor⟩
  have hTries := tries_foldl hErrors hTried (.none rfl)
  rw [hRows, h.lines, List.nil_append] at hTries
  exact hTries

/-- The runtime bindings of a model and a protocol, all in one route, are these lines. -/
structure ServesInOrder (routes : List RuntimeRoute) (publicName : String) (protocol : Protocol)
    (lines : List ModelRoutingLineWrite) : Prop where
  single : (routes.filter (isRouteFor publicName protocol)).length ≤ 1
  lines : ((routes.filter (isRouteFor publicName protocol)).flatMap RuntimeRoute.bindings).map
    runtimeLine = lines

theorem Tries.servesInOrder {routeId publicName : String} {protocol : Protocol}
    {routes : List RuntimeRoute} {lines : List ModelRoutingLineWrite}
    (h : Tries routeId publicName protocol routes lines) :
    ServesInOrder routes publicName protocol lines := by
  cases h with
  | none h =>
    constructor
    · rw [h]
      exact Nat.zero_le 1
    · rw [h]
      rfl
  | one h hId hBindings =>
    constructor
    · rw [h]
      exact le_refl 1
    · rw [h, List.flatMap_singleton]

theorem Tries.no_route {routeId publicName : String} {protocol : Protocol}
    {routes : List RuntimeRoute} (h : Tries routeId publicName protocol routes []) :
    routes.filter (isRouteFor publicName protocol) = [] := by
  generalize hLines : ([] : List ModelRoutingLineWrite) = lines at h
  cases h with
  | none h => exact h
  | one h hId hBindings => exact absurd (List.map_eq_nil_iff.mp hLines.symm) hBindings

theorem RoutingWritten.published {t' t'' : Tables} {revision : Int}
    (h : RoutingWritten now id input t t')
    (hSame : t'' = { t' with revision := revision, snapshotUpdatedAt := now }) :
    RoutingWritten now id input t t'' := by
  subst hSame
  exact ⟨h.sources, h.accounts, h.sourceModels, h.capabilities, h.distinct, h.served, h.model,
    h.bindings, h.routes⟩

end Written

/-- The view of a routing write: it is read before the counter of publications moves on, which
is none of what it shows. -/
def putModelRoutingView (service : Service) (now : DateTime) (id : String)
    (input : ModelRoutingWrite) (routeUuid : String) (db : Db) :
    Except ControlPlaneError (ModelRoutingView × Committed) := do
  let committed ← putModelRouting service now id input routeUuid db
  let view ← fetchModelRouting committed.db.toTables id
  return (view, committed)

/-- A routing write gives back the lines it was given, and runs them in their order: for each
protocol, those whose source model has a confirmed capability for it. -/
theorem putModelRouting_reads_and_runs {service : Service} {now : DateTime} {id : String}
    {input : ModelRoutingWrite} {routeUuid : String} {db : Db} {committed : Committed}
    (h : putModelRouting service now id input routeUuid db = .ok committed) :
    ∃ view routes,
      putModelRoutingView service now id input routeUuid db = .ok (view, committed) ∧
      committed.snapshot.resolver.runtimeRoutes = some routes ∧
      view.lines.map ModelRoutingLineView.line = input.lines ∧
      (input.enabled = true → ∀ protocol, ServesInOrder routes input.publicName protocol
        (input.lines.filter (confirmedFor committed.db.toTables protocol))) ∧
      (input.enabled = false → ∀ route ∈ routes, route.model ≠ input.publicName) := by
  obtain ⟨db', hWritten, hFinish⟩ := putModelRouting_written h
  obtain ⟨-, -, hTables, hSnapshot⟩ := finishWrite_finished committed hFinish
  have hWritten := hWritten.published hTables
  obtain ⟨lm, hModel, -⟩ := hWritten.model
  obtain ⟨view, hView⟩ : ∃ view, fetchModelRouting committed.db.toTables id = .ok view := by
    unfold fetchModelRouting
    rw [hModel]
    exact ⟨_, rfl⟩
  obtain ⟨routes, hRoutes⟩ := runtimeRoutes_of_buildSnapshot hSnapshot
  refine ⟨view, routes, ?_, hRoutes, hWritten.view_lines hView, ?_, ?_⟩
  · exact bind_eq_ok.mpr ⟨committed, h, bind_eq_ok.mpr ⟨view, hView, rfl⟩⟩
  · intro hOn protocol
    obtain ⟨routeId, hRows⟩ := hWritten.exists_modelRows service hOn
    rw [hWritten.confirmedFor_eq]
    exact (tries_of_modelRows (hRows protocol) hSnapshot hRoutes).servesInOrder
  · intro hOff route hRoute hModel
    have hRows : ModelRows service "" [] ((joinedRows committed.db.isUsable
        committed.db.toTables).filter (isRowFor input.publicName route.protocol)) := by
      rw [hWritten.no_rows hOff]
      exact .nil service ""
    have hNone := (tries_of_modelRows hRows hSnapshot hRoutes).no_route
    have hFor : isRouteFor input.publicName route.protocol route = true := by
      simp only [isRouteFor, hModel, decide_true, Bool.and_self]
    exact List.filter_eq_nil_iff.mp hNone route hRoute hFor

/-- The second model of the account before the first. -/
def Relisted.reversed : ModelRoutingWrite where
  publicName := "p"
  displayName := "p"
  enabled := true
  lines := [⟨"s", "a", "n"⟩, ⟨"s", "a", "m"⟩]
  requestTimeoutMs := none
  maxRetries := some 1

theorem putModelRouting_reads_and_runs_reversed :
    ∃ db committed routes,
      putModelRouting Relisted.service 0 "l" Relisted.reversed "" db = .ok committed ∧
      committed.snapshot.resolver.runtimeRoutes = some routes ∧ routes.length = 1 ∧
      ServesInOrder routes "p" .openAiChatCompletions (Relisted.reversed.lines.filter
        (confirmedFor committed.db.toTables .openAiChatCompletions)) := by
  obtain ⟨run, -, hWritten⟩ := exists_of_succeeds (show succeeds
      (perform Relisted.service Relisted.start (Relisted.served.map fun action => (0, action)))
      (fun run => succeeds (putModelRouting Relisted.service 0 "l" Relisted.reversed "" run.2)
        fun committed => committed.snapshot.resolver.runtimeRoutes.any fun routes =>
          routes.length = 1) = true by decide)
  obtain ⟨committed, hPut, hOne⟩ := exists_of_succeeds hWritten
  obtain ⟨-, routes, -, hRoutes, -, hServes, -⟩ := putModelRouting_reads_and_runs hPut
  rw [hRoutes] at hOne
  exact ⟨run.2, committed, routes, hPut, hRoutes, of_decide_eq_true hOne, hServes rfl _⟩

end AiGateway.ControlPlane
