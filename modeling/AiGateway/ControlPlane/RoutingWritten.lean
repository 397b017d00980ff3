import AiGateway.ControlPlane.Coherent
import AiGateway.ControlPlane.RoutingView

/-!
# What a routing write leaves

The bindings of the model after a routing write are those of its lines, one line
after the other and one for each protocol of a line.  Ids rise along the list and
priorities fall from line to line.
-/

namespace AiGateway.ControlPlane

set_option autoImplicit false

open AiGateway.Catalog AiGateway.Checked AiGateway.Health AiGateway.Json

/-! ## Numbered bindings -/

section Numbered

variable (now : DateTime)

/-- New bindings with consecutive ids. -/
def numbered : Int → List ModelBindingWrite → List BindingRow
  | _, [] => []
  | id, write :: rest => newBinding now write id :: numbered (id + 1) rest

def Tables.withBindings (t : Tables) (writes : List ModelBindingWrite) : Tables :=
  { t with
    bindings := t.bindings ++ numbered now t.nextBindingId writes
    nextBindingId := t.nextBindingId + writes.length }

variable {now}

theorem numbered_append (id : Int) (writes more : List ModelBindingWrite) :
    numbered now id (writes ++ more) =
      numbered now id writes ++ numbered now (id + writes.length) more := by
  induction writes generalizing id with
  | nil => simp [numbered]
  | cons write rest ih =>
    rw [List.cons_append, numbered, numbered, ih, List.cons_append, List.length_cons]
    congr 3
    omega

theorem withBindings_withBindings (t : Tables) (writes more : List ModelBindingWrite) :
    (t.withBindings now writes).withBindings now more = t.withBindings now (writes ++ more) := by
  simp only [Tables.withBindings, numbered_append, List.append_assoc, List.length_append]
  congr 1
  omega

theorem withBindings_nil (t : Tables) : t.withBindings now [] = t := by
  simp [Tables.withBindings, numbered]

theorem mem_numbered {id : Int} {writes : List ModelBindingWrite} {binding : BindingRow}
    (h : binding ∈ numbered now id writes) :
    ∃ write ∈ writes, ∃ next, id ≤ next ∧ binding = newBinding now write next := by
  induction writes generalizing id with
  | nil => cases h
  | cons write rest ih =>
    rw [numbered, List.mem_cons] at h
    obtain rfl | hRest := h
    · exact ⟨write, List.mem_cons_self, id, le_refl id, rfl⟩
    · obtain ⟨found, hFound, next, hNext, hEq⟩ := ih hRest
      exact ⟨found, List.mem_cons_of_mem write hFound, next, by omega, hEq⟩

/-- What a binding takes from its write. -/
theorem map_numbered {β : Type} {f : BindingRow → β} {g : ModelBindingWrite → β}
    (h : ∀ write id, f (newBinding now write id) = g write) (id : Int)
    (writes : List ModelBindingWrite) : (numbered now id writes).map f = writes.map g := by
  induction writes generalizing id with
  | nil => rfl
  | cons write rest ih => rw [numbered, List.map_cons, List.map_cons, h, ih]

theorem pairwise_numbered {R : BindingRow → BindingRow → Prop} {S : ModelBindingWrite →
    ModelBindingWrite → Prop} {writes : List ModelBindingWrite} (hWrites : writes.Pairwise S)
    (h : ∀ write write' id id', S write write' → id < id' →
      R (newBinding now write id) (newBinding now write' id')) (id : Int) :
    (numbered now id writes).Pairwise R := by
  induction writes generalizing id with
  | nil => exact List.Pairwise.nil
  | cons write rest ih =>
    rw [List.pairwise_cons] at hWrites
    rw [numbered, List.pairwise_cons]
    refine ⟨?_, ih hWrites.2 (id + 1)⟩
    intro binding hBinding
    obtain ⟨found, hFound, next, hNext, rfl⟩ := mem_numbered hBinding
    exact h write found id next (hWrites.1 found hFound) (by omega)

end Numbered

/-! ## The bindings of the lines -/

def lineBindings (t : Tables) (id : String) (entry : ModelRoutingLineWrite × Nat) :
    List ModelBindingWrite :=
  (lineProtocols t entry.1).map (lineBinding id entry.2 entry.1)

def routingBindings (t : Tables) (id : String) (lines : List ModelRoutingLineWrite) :
    List ModelBindingWrite :=
  lines.zipIdx.flatMap (lineBindings t id)

section Lines

variable {service : Service} {now : DateTime} {id : String} {db db' : Db}

theorem insertLineBinding_ok {position : Nat} {line : ModelRoutingLineWrite} {protocol : Protocol}
    (h : insertLineBinding service now id position line db protocol = .ok db') :
    db'.toTables = db.withBindings now [lineBinding id position line protocol] := by
  obtain ⟨-, -, hInsert⟩ := bind_eq_ok.mp h
  have hStatement := mapError_ok.mp hInsert
  unfold Db.insertBinding at hStatement
  split at hStatement
  · cases hStatement
  · exact enforce_ok hStatement

theorem insertLineBindings_ok {position : Nat} {line : ModelRoutingLineWrite}
    {protocols : List Protocol}
    (h : protocols.foldlM (insertLineBinding service now id position line) db = .ok db') :
    db'.toTables = db.withBindings now (protocols.map (lineBinding id position line)) := by
  induction protocols generalizing db with
  | nil =>
    cases pure_eq_ok.mp h
    exact (withBindings_nil _).symm
  | cons protocol rest ih =>
    rw [List.foldlM_cons] at h
    obtain ⟨next, hNext, hRest⟩ := bind_eq_ok.mp h
    rw [ih hRest, insertLineBinding_ok hNext, withBindings_withBindings]
    rfl

theorem insertLine_ok {seen seen' : List Protocol} {entry : ModelRoutingLineWrite × Nat}
    (h : insertLine service now id (db, seen) entry = .ok (db', seen')) :
    lineProtocols db.toTables entry.1 ≠ [] ∧
    db'.toTables = db.withBindings now (lineBindings db.toTables id entry) ∧
    ∀ protocol, protocol ∈ seen' ↔
      protocol ∈ seen ∨ protocol ∈ lineProtocols db.toTables entry.1 := by
  obtain ⟨_, hServed, hRest⟩ := bind_eq_ok.mp h
  obtain ⟨next, hNext, hPure⟩ := bind_eq_ok.mp hRest
  cases pure_eq_ok.mp hPure
  refine ⟨ensure_eq_ok.mp hServed, insertLineBindings_ok hNext, ?_⟩
  intro protocol
  rw [List.mem_append, List.mem_filter, decide_eq_true_eq]
  tauto

theorem insertLines_ok {seen seen' : List Protocol} {entries : List (ModelRoutingLineWrite × Nat)}
    (h : entries.foldlM (insertLine service now id) (db, seen) = .ok (db', seen')) :
    (∀ entry ∈ entries, lineProtocols db.toTables entry.1 ≠ []) ∧
    db'.toTables = db.withBindings now (entries.flatMap (lineBindings db.toTables id)) ∧
    ∀ protocol, protocol ∈ seen' ↔
      protocol ∈ seen ∨ ∃ entry ∈ entries, protocol ∈ lineProtocols db.toTables entry.1 := by
  induction entries generalizing db seen with
  | nil =>
    cases pure_eq_ok.mp h
    refine ⟨nofun, (withBindings_nil _).symm, ?_⟩
    intro protocol
    simp
  | cons entry rest ih =>
    rw [List.foldlM_cons] at h
    obtain ⟨⟨next, met⟩, hNext, hRest⟩ := bind_eq_ok.mp h
    obtain ⟨hServed, hTables, hMet⟩ := insertLine_ok hNext
    obtain ⟨hServedRest, hTablesRest, hMetRest⟩ := ih hRest
    have hSame : lineProtocols next.toTables = lineProtocols db.toTables := by
      rw [hTables]
      rfl
    have hBindings : lineBindings next.toTables id = lineBindings db.toTables id := by
      funext line
      rw [lineBindings, lineBindings, hSame]
    rw [hSame] at hServedRest hMetRest
    refine ⟨List.forall_mem_cons.mpr ⟨hServed, hServedRest⟩, ?_, ?_⟩
    · rw [hTablesRest, hBindings, hTables, withBindings_withBindings, List.flatMap_cons]
    · intro protocol
      rw [hMetRest, hMet, or_assoc]
      simp only [List.mem_cons, exists_eq_or_imp]

end Lines

/-! ## The whole write -/

/-- The tables after a routing write. -/
structure RoutingWritten (now : DateTime) (id : String) (input : ModelRoutingWrite)
    (t t' : Tables) : Prop where
  sources : t'.sources = t.sources
  accounts : t'.accounts = t.accounts
  sourceModels : t'.sourceModels = t.sourceModels
  capabilities : t'.capabilities = t.capabilities
  distinct : input.lines.Nodup
  served : ∀ line ∈ input.lines, lineProtocols t line ≠ []
  model : ∃ lm, t'.logicalModel? id = some lm ∧ lm.publicName = input.publicName ∧
    lm.enabled = input.enabled ∧ (input.lines ≠ [] → lm.status = .confirmed)
  bindings : ∃ first, t'.bindings = (t.bindings.filter fun row => row.logicalModelId ≠ id) ++
    numbered now first (routingBindings t id input.lines)
  routes : ∃ routeId protocols,
    (∀ protocol, protocol ∈ protocols ↔ ∃ line ∈ input.lines, protocol ∈ lineProtocols t line) ∧
    t'.routes = (t.routes.filter fun row => row.logicalModelId ≠ some id) ++
      if protocols = [] then [] else
        [newRoute now (routingRoute routeId id protocols) input.publicName]

section Write

variable {service : Service} {now : DateTime} {id : String} {input : ModelRoutingWrite}
  {db db' : Db}

/-- No line is the same as one before it. -/
theorem nodup_of_routingLineErrors {lines : List ModelRoutingLineWrite}
    (h : (lines.mapIdx (routingLineErrors lines)).flatten = []) : lines.Nodup := by
  rw [List.nodup_iff_pairwise_ne, List.pairwise_iff_getElem]
  intro i j hi hj hLt hSame
  rw [List.flatten_eq_nil_iff] at h
  have hErrors := h (routingLineErrors lines j lines[j]) (by
    rw [List.mem_mapIdx]
    exact ⟨j, hj, rfl⟩)
  have hBefore : lines[j] ∈ lines.take j := by
    rw [← hSame]
    exact List.mem_take_iff_getElem.mpr ⟨i, by omega, rfl⟩
  simp [routingLineErrors, hBefore] at hErrors

theorem nodup_of_validateModelRouting {u : Unit} (h : validateModelRouting id input = .ok u) :
    input.lines.Nodup := by
  obtain ⟨-, -, hErrors⟩ := bind_eq_ok.mp h
  have hNil := collected_eq_ok.mp hErrors
  rw [List.append_eq_nil_iff] at hNil
  exact nodup_of_routingLineErrors hNil.2

/-- A model with lines is confirmed by the write. -/
theorem confirmed_of_routingStatus {current : Option CatalogStatus} {status : CatalogStatus}
    (h : routingStatus current input = .ok status) (hLines : input.lines ≠ []) :
    status = .confirmed := by
  unfold routingStatus at h
  simp only [if_neg hLines, if_true] at h
  split at h
  · exact (pure_eq_ok.mp h).symm
  · obtain ⟨-, -, hPending⟩ := bind_eq_ok.mp h
    obtain ⟨-, -, hPure⟩ := bind_eq_ok.mp hPending
    exact (pure_eq_ok.mp hPure).symm
  · obtain ⟨-, -, hPure⟩ := bind_eq_ok.mp h
    exact (pure_eq_ok.mp hPure).symm

theorem statement_enforce {t : Tables} (h : statement (enforce t) = .ok db') :
    db'.toTables = t :=
  enforce_ok (mapError_ok.mp h)

theorem insertRoutingRoute_ok {routeId publicName : String} {protocols : List Protocol}
    (h : insertRoutingRoute service now id routeId publicName protocols db = .ok db') :
    db'.toTables = { db.toTables with
      routes := db.routes ++ if protocols = [] then [] else
        [newRoute now (routingRoute routeId id protocols) publicName] } := by
  unfold insertRoutingRoute at h
  split at h
  · next hNone =>
    cases h
    rw [if_pos hNone, List.append_nil]
  · next hSome =>
    obtain ⟨-, -, hInsert⟩ := bind_eq_ok.mp h
    rw [if_neg hSome]
    exact statement_enforce hInsert

theorem exists_mem_zipIdx {α : Type} {items : List α} {P : α → Prop} :
    (∃ entry ∈ items.zipIdx, P entry.1) ↔ ∃ a ∈ items, P a := by
  have hItems := List.zipIdx_map_fst 0 items
  constructor
  · rintro ⟨entry, hEntry, hP⟩
    exact ⟨entry.1, hItems ▸ List.mem_map_of_mem hEntry, hP⟩
  · rintro ⟨a, ha, hP⟩
    rw [← hItems] at ha
    obtain ⟨entry, hEntry, rfl⟩ := List.mem_map.mp ha
    exact ⟨entry, hEntry, hP⟩

/-- The columns of the model that the write sets first. -/
def routingModel (now : DateTime) (input : ModelRoutingWrite) (status : CatalogStatus)
    (row : LogicalModelRow) : LogicalModelRow :=
  { row with
    publicName := input.publicName
    displayName := input.displayName
    status := status
    enabled := true
    confirmedAt := confirmedStamp now status row.confirmedAt
    unavailableAt := if status = .unavailable then row.unavailableAt else none
    requestTimeoutMs := input.requestTimeoutMs
    maxRetries := input.maxRetries
    updatedAt := now }

theorem find_updateWhere_id {rows : List LogicalModelRow} {row : LogicalModelRow}
    (f : LogicalModelRow → LogicalModelRow) (hId : ∀ row, (f row).id = row.id)
    (hRow : Rows.find LogicalModelRow.id id rows = some row) :
    Rows.find LogicalModelRow.id id (Rows.updateWhere (fun row => row.id = id) f rows) =
      some (f row) := by
  rw [Rows.find_updateWhere hId, hRow, Option.map_some, decide_eq_true (Rows.find_key hRow).2,
    if_pos rfl]

theorem putModelRouting_written {uuid : String} {committed : Committed}
    (h : putModelRouting service now id input uuid db = .ok committed) :
    ∃ db' : Db, RoutingWritten now id input db.toTables db'.toTables ∧
      finishWrite service now db' = .ok committed := by
  unfold putModelRouting writeModelRouting at h
  obtain ⟨_, hValid, h⟩ := bind_eq_ok.mp h
  obtain ⟨_, hCurrent, h⟩ := bind_eq_ok.mp h
  obtain ⟨status, hStatus, h⟩ := bind_eq_ok.mp h
  obtain ⟨modelled, hModel, h⟩ := bind_eq_ok.mp h
  obtain ⟨unrouted, hRoutes, h⟩ := bind_eq_ok.mp h
  obtain ⟨unbound, hBindings, h⟩ := bind_eq_ok.mp h
  obtain ⟨⟨bound, protocols⟩, hLines, h⟩ := bind_eq_ok.mp h
  obtain ⟨routed, hRoute, h⟩ := bind_eq_ok.mp h
  obtain ⟨enabled, hEnabled, hFinish⟩ := bind_eq_ok.mp h
  have hModel := statement_enforce hModel
  have hRoutes := statement_enforce hRoutes
  have hBindings := statement_enforce hBindings
  obtain ⟨hServed, hBound, hProtocols⟩ := insertLines_ok hLines
  have hRoute := insertRoutingRoute_ok hRoute
  have hEnabled := statement_enforce hEnabled
  refine ⟨enabled, ?_, hFinish⟩
  have hSame : lineProtocols unbound.toTables = lineProtocols db.toTables := by
    rw [hBindings, hRoutes, hModel]
    rfl
  have hLineBindings : lineBindings unbound.toTables id = lineBindings db.toTables id := by
    funext entry
    rw [lineBindings, lineBindings, hSame]
  rw [hSame] at hServed hProtocols
  rw [hLineBindings] at hBound
  constructor
  · rw [hEnabled, hRoute, hBound, hBindings, hRoutes, hModel]
    rfl
  · rw [hEnabled, hRoute, hBound, hBindings, hRoutes, hModel]
    rfl
  · rw [hEnabled, hRoute, hBound, hBindings, hRoutes, hModel]
    rfl
  · rw [hEnabled, hRoute, hBound, hBindings, hRoutes, hModel]
    rfl
  · exact nodup_of_validateModelRouting hValid
  · rw [← List.zipIdx_map_fst 0 input.lines]
    exact List.forall_mem_map.mpr hServed
  · have hSome : (db.logicalModel? id).map LogicalModelRow.status ≠ none :=
      (ensure_eq_ok.mp hCurrent).resolve_left Bool.false_ne_true
    obtain ⟨current, hCurrentStatus⟩ := Option.ne_none_iff_exists'.mp hSome
    obtain ⟨row, hRow, -⟩ := Option.map_eq_some_iff.mp hCurrentStatus
    have hWritten := find_updateWhere_id (routingModel now input status) (fun _ => rfl) hRow
    have hLast := find_updateWhere_id (fun row => { row with enabled := input.enabled })
      (fun _ => rfl) hWritten
    refine ⟨{ routingModel now input status row with enabled := input.enabled }, ?_, rfl, rfl,
      confirmed_of_routingStatus hStatus⟩
    rw [hEnabled, hRoute, hBound, hBindings, hRoutes, hModel]
    exact hLast
  · refine ⟨unbound.nextBindingId, ?_⟩
    rw [hEnabled, hRoute, hBound, hBindings, hRoutes, hModel]
    simp only [decide_not]
    rfl
  · refine ⟨routingRouteId service db.toTables id uuid, protocols, ?_, ?_⟩
    · intro protocol
      rw [hProtocols, exists_mem_zipIdx (P := fun line => protocol ∈ lineProtocols db.toTables line)]
      exact or_iff_right List.not_mem_nil
    · rw [hEnabled, hRoute, hBound, hBindings, hRoutes, hModel]
      simp only [decide_not]
      rfl

end Write

end AiGateway.ControlPlane
