import AiGateway.Base.Order
import AiGateway.ControlPlane.Closed
import AiGateway.ControlPlane.RoutingWritten

/-!
# Lines written, read and run

One list of lines is spread over bindings, grouped again by the routing view and
sorted again by the snapshot.  Each of the three keeps its order.
-/

namespace AiGateway.ControlPlane

set_option autoImplicit false

open AiGateway.Catalog AiGateway.Checked AiGateway.Health AiGateway.Json AiGateway.Order
  AiGateway.Routing

/-- A confirmed native or adapter capability of the source model. -/
def confirmedFor (t : Tables) (protocol : Protocol) (line : ModelRoutingLineWrite) : Bool :=
  (t.capability? line.sourceId line.upstreamModelId protocol).any fun capability =>
    capability.status = .confirmed && capability.mode.isRoutable

def ModelBindingWrite.line (write : ModelBindingWrite) : ModelRoutingLineWrite :=
  ⟨write.sourceId, write.accountId, write.upstreamModelId⟩

/-- What orders and groups the bindings of a model. -/
structure RoutingKey where
  line : ModelRoutingLineWrite
  protocol : Protocol
  priority : Int

def ModelBindingWrite.key (write : ModelBindingWrite) : RoutingKey :=
  ⟨write.line, write.protocol, write.priority⟩

def BindingRow.key (binding : BindingRow) : RoutingKey :=
  ⟨binding.line, binding.protocol, binding.priority⟩

/-! ## The bindings of the lines -/

section Bindings

variable {t : Tables} {id : String} {lines : List ModelRoutingLineWrite}

theorem nodup_lineProtocols (t : Tables) (line : ModelRoutingLineWrite) :
    (lineProtocols t line).Nodup := by
  have hAll : Protocol.all.Nodup := by decide
  unfold lineProtocols
  split
  · exact hAll.filter _
  · exact List.nodup_nil

theorem mem_lineProtocols_iff {line : ModelRoutingLineWrite} {protocol : Protocol}
    (hServed : lineProtocols t line ≠ []) :
    protocol ∈ lineProtocols t line ↔ confirmedFor t protocol line = true := by
  unfold lineProtocols at hServed ⊢
  split
  · rw [List.mem_filter]
    exact and_iff_right (by cases protocol <;> decide)
  · next hClosed =>
    rw [if_neg hClosed] at hServed
    exact absurd rfl hServed

/-- A later binding has no higher priority, and the same one only for another protocol. -/
def Later (key key' : RoutingKey) : Prop :=
  key'.priority ≤ key.priority ∧ (key.priority = key'.priority → key.protocol ≠ key'.protocol)

theorem mem_routingBindings {write : ModelBindingWrite} (h : write ∈ routingBindings t id lines) :
    ∃ entry ∈ lines.zipIdx, ∃ protocol ∈ lineProtocols t entry.1,
      write = lineBinding id entry.2 entry.1 protocol := by
  obtain ⟨entry, hEntry, hWrite⟩ := List.mem_flatMap.mp h
  obtain ⟨protocol, hProtocol, rfl⟩ := List.mem_map.mp hWrite
  exact ⟨entry, hEntry, protocol, hProtocol, rfl⟩

theorem pairwise_zipIdx {α : Type} (items : List α) :
    items.zipIdx.Pairwise fun a b => a.2 < b.2 := by
  rw [← List.pairwise_map (f := Prod.snd), List.zipIdx_map_snd]
  exact List.pairwise_lt_range'

theorem later_routingBindings :
    (routingBindings t id lines).Pairwise fun write write' => Later write.key write'.key := by
  rw [routingBindings, List.pairwise_flatMap]
  constructor
  · intro entry _
    rw [lineBindings, List.pairwise_map]
    refine (nodup_lineProtocols t entry.1).imp ?_
    intro protocol protocol' hNe
    exact ⟨le_refl _, fun _ => hNe⟩
  · refine (pairwise_zipIdx lines).imp ?_
    intro entry entry' hBefore write hWrite write' hWrite'
    obtain ⟨protocol, -, rfl⟩ := List.mem_map.mp hWrite
    obtain ⟨protocol', -, rfl⟩ := List.mem_map.mp hWrite'
    constructor
    · change -(entry'.2 : Int) ≤ -(entry.2 : Int)
      omega
    · intro hSame
      have hPriority : -(entry.2 : Int) = -(entry'.2 : Int) := hSame
      omega

/-- Each line is met once. -/
theorem lines_routingBindings (hDistinct : lines.Nodup)
    (hServed : ∀ line ∈ lines, lineProtocols t line ≠ []) :
    ((routingBindings t id lines).map ModelBindingWrite.line).foldl addNew [] = lines := by
  have hBlock : ∀ entry ∈ lines.zipIdx,
      (lineBindings t id entry).map ModelBindingWrite.line ≠ [] ∧
      ∀ line ∈ (lineBindings t id entry).map ModelBindingWrite.line, line = entry.1 := by
    intro entry hEntry
    have hLine : entry.1 ∈ lines := List.zipIdx_map_fst 0 lines ▸ List.mem_map_of_mem hEntry
    constructor
    · simp only [lineBindings, ne_eq, List.map_eq_nil_iff]
      exact hServed entry.1 hLine
    · intro line hMem
      rw [lineBindings, List.map_map] at hMem
      obtain ⟨protocol, -, rfl⟩ := List.mem_map.mp hMem
      rfl
  have hMet : (lines.zipIdx.flatMap fun entry => (lineBindings t id entry).map
      ModelBindingWrite.line).foldl addNew [] = [] ++ lines.zipIdx.map Prod.fst := by
    apply foldl_addNew_flatMap hBlock
    rw [List.nil_append, List.zipIdx_map_fst]
    exact hDistinct
  rw [List.nil_append, List.zipIdx_map_fst] at hMet
  rw [routingBindings, List.map_flatMap]
  exact hMet

theorem flatMap_ite {α : Type} (p : α → Bool) (items : List α) :
    (items.flatMap fun a => if p a then [a] else []) = items.filter p := by
  induction items with
  | nil => rfl
  | cons a rest ih =>
    rw [List.flatMap_cons, ih, List.filter_cons]
    split <;> rfl

theorem lines_filter_lineBindings {entry : ModelRoutingLineWrite × Nat} {protocol : Protocol}
    (hServed : lineProtocols t entry.1 ≠ []) :
    ((lineBindings t id entry).filter fun write => write.protocol = protocol).map
      ModelBindingWrite.line = if confirmedFor t protocol entry.1 then [entry.1] else [] := by
  have hCount := List.Nodup.count (nodup_lineProtocols t entry.1) (a := protocol)
  have hSame : ((lineBindings t id entry).filter fun write => write.protocol = protocol).map
      ModelBindingWrite.line =
        ((lineProtocols t entry.1).filter (· = protocol)).map fun _ => entry.1 := by
    rw [lineBindings, List.filter_map, List.map_map]
    rfl
  simp only [mem_lineProtocols_iff hServed] at hCount
  rw [hSame, List.filter_eq, hCount]
  split <;> rfl

/-- The bindings of one protocol are those of the lines that serve it. -/
theorem lines_filter_routingBindings (hServed : ∀ line ∈ lines, lineProtocols t line ≠ [])
    (protocol : Protocol) :
    ((routingBindings t id lines).filter fun write => write.protocol = protocol).map
      ModelBindingWrite.line = lines.filter (confirmedFor t protocol) := by
  rw [routingBindings, List.filter_flatMap, List.map_flatMap]
  have hBlock : ∀ entry ∈ lines.zipIdx,
      ((lineBindings t id entry).filter fun write => write.protocol = protocol).map
        ModelBindingWrite.line = if confirmedFor t protocol entry.1 then [entry.1] else [] := by
    intro entry hEntry
    apply lines_filter_lineBindings
    exact hServed entry.1 (List.zipIdx_map_fst 0 lines ▸ List.mem_map_of_mem hEntry)
  calc lines.zipIdx.flatMap (fun entry =>
        ((lineBindings t id entry).filter fun write => write.protocol = protocol).map
          ModelBindingWrite.line)
      = lines.zipIdx.flatMap (fun entry =>
          if confirmedFor t protocol entry.1 then [entry.1] else []) := List.flatMap_congr hBlock
    _ = (lines.zipIdx.map Prod.fst).flatMap (fun line =>
          if confirmedFor t protocol line then [line] else []) := by
        rw [List.flatMap_map]
    _ = lines.filter (confirmedFor t protocol) := by
        rw [List.zipIdx_map_fst, flatMap_ite]

end Bindings

/-! ## Read -/

theorem map_filterMap {α β γ : Type} {f : α → Option β} {g : β → γ} {k : α → γ} {items : List α}
    (h : ∀ a ∈ items, ∃ b, f a = some b ∧ g b = k a) :
    (items.filterMap f).map g = items.map k := by
  induction items with
  | nil => rfl
  | cons a rest ih =>
    rw [List.forall_mem_cons] at h
    obtain ⟨b, hSome, hSame⟩ := h.1
    rw [List.filterMap_cons_some hSome, List.map_cons, List.map_cons, hSame, ih h.2]

section Read

variable {now : DateTime} {id : String} {input : ModelRoutingWrite} {t t' : Tables} {db : Db}

/-- The bindings of the model are the new ones. -/
theorem RoutingWritten.filter_bindings (h : RoutingWritten now id input t t') :
    ∃ first, t'.bindings.filter (fun row => row.logicalModelId = id) =
      numbered now first (routingBindings t id input.lines) := by
  obtain ⟨first, hBindings⟩ := h.bindings
  refine ⟨first, ?_⟩
  have hOthers : (t.bindings.filter fun row => row.logicalModelId ≠ id).filter
      (fun row => row.logicalModelId = id) = [] := by
    rw [List.filter_eq_nil_iff]
    intro row hRow hId
    exact of_decide_eq_true (List.mem_filter.mp hRow).2 (of_decide_eq_true hId)
  rw [hBindings, List.filter_append, hOthers, List.nil_append, List.filter_eq_self]
  intro row hRow
  obtain ⟨write, hWrite, next, -, rfl⟩ := mem_numbered hRow
  obtain ⟨entry, -, protocol, -, rfl⟩ := mem_routingBindings hWrite
  exact decide_eq_true rfl

theorem routingOrder_of {a b : BindingRow} (hPriority : b.priority ≤ a.priority)
    (hId : a.id ≤ b.id) : routingOrder a b = true := by
  unfold routingOrder
  split
  · exact decide_eq_true hPriority
  · exact decide_eq_true hId

theorem routingOrder_numbered (first : Int) :
    (numbered now first (routingBindings t id input.lines)).Pairwise
      fun a b => routingOrder a b = true := by
  refine pairwise_numbered later_routingBindings ?_ first
  intro write write' next next' hLater hNext
  exact routingOrder_of hLater.1 hNext.le

/-- Every binding of a database has its source and its account. -/
theorem exists_routingBindingRow {binding : BindingRow} (h : binding ∈ db.bindings) :
    ∃ row, routingBindingRow db.toTables binding = some row ∧ row.line = binding.line := by
  obtain ⟨source, hSource⟩ := exists_source h
  obtain ⟨account, hAccount, hPair⟩ := List.mem_map.mp (db.references.bindingAccount binding h)
  have hFound : db.account? binding.accountId = some account :=
    (Rows.find_eq_some_iff db.keys.accounts).mpr ⟨hAccount, congrArg Prod.fst hPair⟩
  have hOwner : account.sourceId = binding.sourceId := congrArg Prod.snd hPair
  simp only [routingBindingRow, hSource, hFound, hOwner, Option.bind_eq_bind, Option.bind_some,
    guard_true, Option.pure_def, Option.some.injEq, exists_eq_left']
  rfl

theorem RoutingWritten.view_lines (h : RoutingWritten now id input t db.toTables)
    {view : ModelRoutingView} (hView : fetchModelRouting db.toTables id = .ok view) :
    view.lines.map ModelRoutingLineView.line = input.lines := by
  obtain ⟨first, hBindings⟩ := h.filter_bindings
  have hRows : (routingBindingRows db.toTables id).map RoutingBindingRow.line =
      (routingBindings t id input.lines).map ModelBindingWrite.line := by
    rw [routingBindingRows, hBindings, (routingOrder_numbered first).insertionSort_eq]
    rw [map_filterMap (k := BindingRow.line),
      map_numbered (g := ModelBindingWrite.line) (fun _ _ => rfl)]
    intro binding hBinding
    rw [← hBindings] at hBinding
    exact exists_routingBindingRow (List.mem_filter.mp hBinding).1
  rw [lines_of_fetchModelRouting hView, hRows]
  exact lines_routingBindings h.distinct h.served

end Read

/-! ## Run -/

def SnapshotRow.line (row : SnapshotRow) : ModelRoutingLineWrite :=
  ⟨row.sourceId, row.accountId, row.upstreamModelId⟩

def runtimeLine (binding : RuntimeBinding) : ModelRoutingLineWrite :=
  ⟨binding.sourceId, binding.accountId, binding.upstreamModelId⟩

def isRouteFor (publicName : String) (protocol : Protocol) (route : RuntimeRoute) : Bool :=
  route.model = publicName && route.protocol = protocol

def isRowFor (publicName : String) (protocol : Protocol) (row : SnapshotRow) : Bool :=
  row.publicName = publicName && row.protocol = protocol

/-- The runtime routes of a model and a protocol: none, or the one whose bindings are these. -/
inductive Tries (routeId publicName : String) (protocol : Protocol) (routes : List RuntimeRoute) :
    List ModelRoutingLineWrite → Prop where
  | none (h : routes.filter (isRouteFor publicName protocol) = []) :
    Tries routeId publicName protocol routes []
  | one {route : RuntimeRoute} (h : routes.filter (isRouteFor publicName protocol) = [route])
      (hId : route.routeId = routeId) (hBindings : route.bindings ≠ []) :
    Tries routeId publicName protocol routes (route.bindings.map runtimeLine)

section Loop

variable {service : Service} {builder : Builder} {row : SnapshotRow} {rows : List SnapshotRow}
  {routeId publicName : String} {protocol : Protocol} {routes : List RuntimeRoute}
  {lines : List ModelRoutingLineWrite} {binding : RuntimeBinding}

theorem Tries.addRoute_other (h : Tries routeId publicName protocol routes lines)
    (hOther : isRowFor publicName protocol row = false) :
    Tries routeId publicName protocol (Builder.addRoute row binding routes) lines := by
  have hSame : (Builder.addRoute row binding routes).filter (isRouteFor publicName protocol) =
      routes.filter (isRouteFor publicName protocol) := by
    rw [Builder.addRoute_eq_upsert]
    refine filter_upsert_of_not ?_ ?_ hOther
    · rintro route ⟨-, hModel, hProtocol⟩
      rw [isRouteFor, hModel, hProtocol]
      exact hOther
    · rintro route ⟨-, hModel, hProtocol⟩
      rw [isRouteFor, hModel, hProtocol]
      exact hOther
  cases h with
  | none h => exact .none (hSame.trans h)
  | one h hId hBindings => exact .one (hSame.trans h) hId hBindings

theorem Tries.addRoute (h : Tries routeId publicName protocol routes lines)
    (hRow : isRowFor publicName protocol row = true) (hId : row.routeId = routeId) :
    Tries routeId publicName protocol (Builder.addRoute row binding routes)
      (lines ++ [runtimeLine binding]) := by
  obtain ⟨hName, hProtocol⟩ : row.publicName = publicName ∧ row.protocol = protocol := by
    simpa [isRowFor] using hRow
  have hKept : (Builder.addRoute row binding routes).filter (isRouteFor publicName protocol) =
      Builder.addRoute row binding (routes.filter (isRouteFor publicName protocol)) := by
    rw [Builder.addRoute_eq_upsert, Builder.addRoute_eq_upsert]
    apply filter_upsert <;> simp [isRouteFor, hName, hProtocol]
  cases h with
  | none h =>
    rw [h] at hKept
    exact .one hKept hId (List.cons_ne_nil binding [])
  | @one route h hRoute hBindings =>
    have hFor : route ∈ routes.filter (isRouteFor publicName protocol) := by
      rw [h]
      exact List.mem_singleton_self route
    obtain ⟨hModel, hServes⟩ : route.model = publicName ∧ route.protocol = protocol := by
      simpa [isRouteFor] using (List.mem_filter.mp hFor).2
    have hFound : route.routeId = row.routeId ∧ route.model = row.publicName ∧
        route.protocol = row.protocol :=
      ⟨hRoute.trans hId.symm, hModel.trans hName.symm, hServes.trans hProtocol.symm⟩
    rw [h, Builder.addRoute, if_pos hFound] at hKept
    have hLines : route.bindings.map runtimeLine ++ [runtimeLine binding] =
        (route.bindings ++ [binding]).map runtimeLine := by
      rw [List.map_append, List.map_singleton]
    rw [hLines]
    exact .one hKept hRoute (List.append_ne_nil_of_left_ne_nil hBindings [binding])

theorem fail_errors_ne_nil (error : String) : (builder.fail error).errors ≠ [] :=
  List.append_ne_nil_of_right_ne_nil _ (List.cons_ne_nil error [])

theorem routes_addAccount {plan : RowPlan} (h : (builder.addAccount row plan).errors = []) :
    (builder.addAccount row plan).routes =
      Builder.addRoute row (Builder.runtimeBinding row plan) builder.routes := by
  revert h
  unfold Builder.addAccount
  dsimp only
  split
  · split
    · intro h
      exact absurd h (fail_errors_ne_nil _)
    · intro _
      rfl
  · intro _
    rfl

/-- Without an error, a row is skipped or adds its binding. -/
theorem routes_addRow (h : (builder.addRow service row).errors = []) :
    planRow service row = .ok none ∧ (builder.addRow service row).routes = builder.routes ∨
    ∃ plan, (builder.addRow service row).routes =
      Builder.addRoute row (Builder.runtimeBinding row plan) builder.routes := by
  revert h
  unfold Builder.addRow
  split
  · intro h
    exact absurd h (fail_errors_ne_nil _)
  · next hPlan =>
    intro _
    exact .inl ⟨hPlan, rfl⟩
  · next plan hPlan =>
    unfold Builder.addPlanned
    dsimp only
    split
    · intro h
      exact absurd h (fail_errors_ne_nil _)
    · intro h
      exact .inr ⟨plan, routes_addAccount h⟩

/-- The bindings of the model and protocol, in the order of the rows. -/
theorem tries_foldl
    (hErrors : (rows.foldl (Builder.addRow service) builder).errors = [])
    (hRows : ∀ row ∈ rows, isRowFor publicName protocol row = true →
      row.routeId = routeId ∧ planRow service row ≠ .ok none)
    (h : Tries routeId publicName protocol builder.routes lines) :
    Tries routeId publicName protocol (rows.foldl (Builder.addRow service) builder).routes
      (lines ++ (rows.filter (isRowFor publicName protocol)).map SnapshotRow.line) := by
  induction rows generalizing builder lines with
  | nil =>
    rw [List.filter_nil, List.map_nil, List.append_nil]
    exact h
  | cons row rest ih =>
    rw [List.forall_mem_cons] at hRows
    rw [List.foldl_cons] at hErrors ⊢
    have hHere : (builder.addRow service row).errors = [] := by
      by_contra hSome
      exact Builder.errors_foldl_ne_nil service rest hSome hErrors
    obtain ⟨hSkipped, hRoutes⟩ | ⟨plan, hRoutes⟩ := routes_addRow hHere
    · have hOther : ¬ isRowFor publicName protocol row = true := fun hRow =>
        (hRows.1 hRow).2 hSkipped
      rw [List.filter_cons_of_neg hOther]
      apply ih hErrors hRows.2
      rw [hRoutes]
      exact h
    · by_cases hRow : isRowFor publicName protocol row = true
      · rw [List.filter_cons_of_pos hRow, List.map_cons, List.append_cons]
        apply ih hErrors hRows.2
        rw [hRoutes]
        exact h.addRoute hRow (hRows.1 hRow).1
      · rw [List.filter_cons_of_neg hRow]
        apply ih hErrors hRows.2
        rw [hRoutes]
        exact h.addRoute_other (Bool.eq_false_of_not_eq_true hRow)

end Loop

end AiGateway.ControlPlane
