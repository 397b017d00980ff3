import AiGateway.Domain.Capabilities

/-!
# What the capability matrix shows

Every insertion adds the cell of one binding.  As long as the bindings of each
resolved route differ in source, account or upstream model, no cell is written
twice, and in the end the cells are those of the resolved routes.
-/

namespace AiGateway.Matrix

set_option autoImplicit false

open AiGateway.Catalog AiGateway.Checked AiGateway.Config AiGateway.Health AiGateway.Routing

/-! ## What an insertion does -/

def RouteMatrixBuilder.key (row : RouteMatrixBuilder) : MatrixKey where
  model := row.model
  routeId := row.routeId
  sourceId := row.source.sourceId
  accountId := row.account.accountId
  upstreamModelId := row.upstreamModelId

/-- Every row is found by its fields and has a cell. -/
def Keyed (rows : MatrixRows) : Prop :=
  ∀ key row, rows.get key = some row →
    row.key = key ∧ ∃ protocol cell, row.protocols.get protocol = some cell

def cellAt (rows : MatrixRows) (key : MatrixKey) (protocol : Protocol) :
    Option EffectiveProtocolCapability :=
  (rows.get key).bind fun row => row.protocols.get protocol

def slot (binding : RuntimeBinding) : String × String × String :=
  (binding.sourceId, binding.accountId, binding.upstreamModelId)

def isRuntimeMode (mode : String) : Bool := mode = "native" || mode = "adapter"

/-- A cell that offers the binding. -/
structure IsCell (resolved : ResolvedRoute) (binding : ResolvedBinding)
    (cell : EffectiveProtocolCapability) : Prop where
  routable : cell.status = .routable
  protocolIn : cell.protocolIn = resolved.protocolIn
  bindingId : cell.bindingId = some binding.bindingId

/-- The cells of the bindings are there beside the old ones. -/
structure Inserted (model : PublishedModel) (resolved : ResolvedRoute)
    (bindings : List ResolvedBinding) (rows rows' : MatrixRows) : Prop where
  kept : ∀ key protocol cell, cellAt rows key protocol = some cell →
    cellAt rows' key protocol = some cell
  added : ∀ binding ∈ bindings,
    (cellAt rows' (matrixKey model resolved binding) resolved.protocolIn).isSome = true
  only : ∀ key protocol cell, cellAt rows' key protocol = some cell →
    cellAt rows key protocol = some cell ∨ protocol = resolved.protocolIn ∧
      ∃ binding ∈ bindings, key = matrixKey model resolved binding ∧ IsCell resolved binding cell
  keyed : Keyed rows → Keyed rows'

def Free (model : PublishedModel) (resolved : ResolvedRoute) (bindings : List ResolvedBinding)
    (rows : MatrixRows) : Prop :=
  ∀ binding ∈ bindings, cellAt rows (matrixKey model resolved binding) resolved.protocolIn = none

section Insertions

variable {config : GatewayConfig} {model : PublishedModel} {resolved : ResolvedRoute}
  {rows : MatrixRows}

theorem runtimeMode_ok {mode : String} (h : isRuntimeMode mode = true) (routeId : String)
    (bindingId : Int) : ∃ found, runtimeMode routeId bindingId mode = .ok found := by
  rw [isRuntimeMode, Bool.or_eq_true, decide_eq_true_iff, decide_eq_true_iff] at h
  rw [runtimeMode]
  split
  · exact ⟨_, rfl⟩
  · rename_i hNative
    rw [if_pos (h.resolve_left hNative)]
    exact ⟨_, rfl⟩

theorem cells_getD (key : MatrixKey) (binding : ResolvedBinding) (protocol : Protocol) :
    ((rows.get key).getD (newRow config model resolved binding)).protocols.get protocol =
      cellAt rows key protocol := by
  rw [cellAt]
  cases rows.get key with
  | none => rfl
  | some row => rfl

theorem cellAt_insert (key : MatrixKey) (row : RouteMatrixBuilder) (other : MatrixKey)
    (protocol : Protocol) : cellAt (rows.insert key row) other protocol =
      if other = key then row.protocols.get protocol else cellAt rows other protocol := by
  rw [cellAt, Table.get_insert]
  split
  · rfl
  · rfl

theorem insertBinding_ok (config : GatewayConfig) (selection : CapabilityBindingSelection)
    (rank : Nat) {binding : ResolvedBinding} (hMode : isRuntimeMode binding.mode = true)
    (hFree : cellAt rows (matrixKey model resolved binding) resolved.protocolIn = none) :
    ∃ rows', insertBinding config model resolved selection rank binding rows = .ok rows' ∧
      Inserted model resolved [binding] rows rows' := by
  obtain ⟨mode, hFound⟩ := runtimeMode_ok hMode resolved.routeId binding.bindingId
  let key := matrixKey model resolved binding
  let row := (rows.get key).getD (newRow config model resolved binding)
  let cell := EffectiveProtocolCapability.routable resolved.protocolIn binding mode
    resolved.allowLossyConversion selection rank
  have hRow : ∀ protocol, row.protocols.get protocol = cellAt rows key protocol :=
    cells_getD key binding
  have hCells : ∀ other protocol, cellAt (rows.insert key
      { row with protocols := row.protocols.insert resolved.protocolIn cell }) other protocol =
        if other = key ∧ protocol = resolved.protocolIn then some cell
        else cellAt rows other protocol := by
    intro other protocol
    rw [cellAt_insert, Table.get_insert, hRow]
    by_cases hKey : other = key
    · simp [hKey]
    · simp [hKey]
  refine ⟨_, bind_eq_ok.mpr ⟨mode, hFound, bind_eq_ok.mpr ⟨(), ensure_eq_ok.mpr ?_, rfl⟩⟩, ?_⟩
  · rw [Option.isNone_iff_eq_none]
    exact (hRow resolved.protocolIn).trans hFree
  · constructor
    · intro other protocol old hOld
      refine (hCells other protocol).trans ?_
      rw [if_neg, hOld]
      rintro ⟨rfl, rfl⟩
      rw [hFree] at hOld
      cases hOld
    · intro found hBinding
      obtain rfl := List.mem_singleton.mp hBinding
      rw [hCells, if_pos ⟨rfl, rfl⟩]
      rfl
    · intro other protocol found hCell
      rw [hCells] at hCell
      split at hCell
      · rename_i hHere
        obtain rfl := Option.some.inj hCell
        exact .inr ⟨hHere.2, binding, List.mem_singleton_self _, hHere.1, rfl, rfl, rfl⟩
      · exact .inl hCell
    · intro hKeyed other found hGet
      rw [Table.get_insert] at hGet
      split at hGet
      · rename_i hHere
        obtain rfl := Option.some.inj hGet
        rw [hHere]
        refine ⟨?_, resolved.protocolIn, cell, ?_⟩
        · change row.key = key
          cases hOld : rows.get key with
          | none =>
            simp only [row, hOld, Option.getD_none]
            rfl
          | some old =>
            simp only [row, hOld, Option.getD_some]
            exact (hKeyed key old hOld).1
        · exact (Table.get_insert _ _ _ _).trans (if_pos rfl)
      · exact hKeyed other found hGet

theorem Inserted.nil (model : PublishedModel) (resolved : ResolvedRoute) (rows : MatrixRows) :
    Inserted model resolved [] rows rows where
  kept _ _ _ hCell := hCell
  added binding hBinding := by cases hBinding
  only _ _ _ hCell := .inl hCell
  keyed hKeyed := hKeyed

theorem Inserted.append {first rest : List ResolvedBinding} {rows' rows'' : MatrixRows}
    (hFirst : Inserted model resolved first rows rows')
    (hRest : Inserted model resolved rest rows' rows'') :
    Inserted model resolved (first ++ rest) rows rows'' where
  kept key protocol cell hCell := hRest.kept _ _ _ (hFirst.kept _ _ _ hCell)
  added := by
    intro binding hBinding
    obtain hHere | hLater := List.mem_append.mp hBinding
    · obtain ⟨cell, hCell⟩ := Option.isSome_iff_exists.mp (hFirst.added binding hHere)
      rw [hRest.kept _ _ _ hCell]
      rfl
    · exact hRest.added binding hLater
  only := by
    intro key protocol cell hCell
    obtain hOld | ⟨hProtocol, binding, hBinding, hNew⟩ := hRest.only _ _ _ hCell
    · obtain hOld | ⟨hProtocol, binding, hBinding, hNew⟩ := hFirst.only _ _ _ hOld
      · exact .inl hOld
      · exact .inr ⟨hProtocol, binding, List.mem_append_left _ hBinding, hNew⟩
    · exact .inr ⟨hProtocol, binding, List.mem_append_right _ hBinding, hNew⟩
  keyed hKeyed := hRest.keyed (hFirst.keyed hKeyed)

/-- A binding of another slot does not take the place of one still to come. -/
theorem free_of_inserted {binding : ResolvedBinding} {rest : List ResolvedBinding}
    {rows' : MatrixRows} (hSlot : slot binding ∉ rest.map slot)
    (hFree : Free model resolved (binding :: rest) rows)
    (hInserted : Inserted model resolved [binding] rows rows') :
    Free model resolved rest rows' := by
  intro other hOther
  rw [← Option.not_isSome_iff_eq_none]
  intro hSome
  obtain ⟨cell, hCell⟩ := Option.isSome_iff_exists.mp hSome
  obtain hOld | ⟨-, found, hFound, hKey, -⟩ := hInserted.only _ _ _ hCell
  · rw [hFree other (List.mem_cons_of_mem _ hOther)] at hOld
    cases hOld
  · obtain rfl := List.mem_singleton.mp hFound
    have hSame : slot other = slot found := by
      obtain ⟨-, -, hSource, hAccount, hModel⟩ := MatrixKey.mk.inj hKey
      rw [slot, slot, hSource, hAccount, hModel]
    exact hSlot (hSame ▸ List.mem_map_of_mem hOther)

theorem insertFallbacks_ok (config : GatewayConfig) :
    ∀ (rank : Nat) (bindings : List ResolvedBinding) (rows : MatrixRows),
      (bindings.map slot).Nodup → (∀ binding ∈ bindings, isRuntimeMode binding.mode = true) →
      Free model resolved bindings rows →
      ∃ rows', insertFallbacks config model resolved rank bindings rows = .ok rows' ∧
        Inserted model resolved bindings rows rows' := by
  intro rank bindings
  induction bindings generalizing rank with
  | nil =>
    rintro rows - - -
    exact ⟨rows, rfl, .nil model resolved rows⟩
  | cons binding rest ih =>
    rintro rows hSlots hModes hFree
    obtain ⟨hSlot, hSlots⟩ := List.nodup_cons.mp hSlots
    obtain ⟨hMode, hModes⟩ := List.forall_mem_cons.mp hModes
    obtain ⟨rows', hFirst, hInserted⟩ :=
      insertBinding_ok config .fallback rank hMode (hFree binding List.mem_cons_self)
    obtain ⟨rows'', hRest, hInsertedRest⟩ :=
      ih (rank + 1) rows' hSlots hModes (free_of_inserted hSlot hFree hInserted)
    exact ⟨rows'', bind_eq_ok.mpr ⟨rows', hFirst, hRest⟩, hInserted.append hInsertedRest⟩

/-- The bindings of a resolved route, the primary first. -/
def resolvedBindings (resolved : ResolvedRoute) : List ResolvedBinding :=
  match resolved.bindingId with
  | some bindingId => primaryBinding resolved bindingId :: resolved.fallbackBindings
  | none => []

/-- What a runtime route has to be for its bindings to fit into the matrix. -/
structure Offerable (protocol : Protocol) (resolved : ResolvedRoute) : Prop where
  protocolIn : resolved.protocolIn = protocol
  bound : resolved.bindingId.isSome = true
  slots : ((resolvedBindings resolved).map slot).Nodup
  modes : ∀ binding ∈ resolvedBindings resolved, isRuntimeMode binding.mode = true

theorem insertResolvedRoute_ok (config : GatewayConfig) {protocol : Protocol}
    (hResolved : Offerable protocol resolved)
    (hFree : Free model resolved (resolvedBindings resolved) rows) :
    ∃ rows', insertResolvedRoute config model resolved rows = .ok rows' ∧
      Inserted model resolved (resolvedBindings resolved) rows rows' := by
  obtain ⟨bindingId, hBound⟩ := Option.isSome_iff_exists.mp hResolved.bound
  have hBindings : resolvedBindings resolved =
      primaryBinding resolved bindingId :: resolved.fallbackBindings := by
    rw [resolvedBindings, hBound]
  have hSlots := hResolved.slots
  have hModes := hResolved.modes
  rw [hBindings] at hSlots hModes hFree ⊢
  obtain ⟨hSlot, hSlots⟩ := List.nodup_cons.mp hSlots
  obtain ⟨hMode, hModes⟩ := List.forall_mem_cons.mp hModes
  obtain ⟨rows', hFirst, hInserted⟩ :=
    insertBinding_ok config .primary 0 hMode (hFree _ List.mem_cons_self)
  obtain ⟨rows'', hRest, hInsertedRest⟩ := insertFallbacks_ok config 1 resolved.fallbackBindings
    rows' hSlots hModes (free_of_inserted hSlot hFree hInserted)
  refine ⟨rows'', ?_, hInserted.append hInsertedRest⟩
  exact bind_eq_ok.mpr ⟨bindingId, require_eq_ok.mpr hBound, bind_eq_ok.mpr ⟨rows', hFirst, hRest⟩⟩

end Insertions

/-! ## What the matrix shows -/

section Filled

variable (resolver : RouteResolver)

/-- The binding of the row is one of those of the route the resolver gives. -/
def Offers (key : MatrixKey) (protocol : Protocol) (binding : ResolvedBinding) : Prop :=
  ∃ resolved, resolver.resolveDetailed protocol key.model = .ok resolved ∧
    resolved.routeId = key.routeId ∧ binding ∈ resolvedBindings resolved ∧
    slot binding = (key.sourceId, key.accountId, key.upstreamModelId)

def askedKey (asked : PublishedModel × Protocol) : String × Protocol := (asked.1.id, asked.2)

/-- The rows after some models and protocols. -/
structure Filled (seen : List (String × Protocol)) (rows : MatrixRows) : Prop where
  keyed : Keyed rows
  shown : ∀ key protocol cell, cellAt rows key protocol = some cell →
    (key.model, protocol) ∈ seen ∧ cell.status = .routable ∧ cell.protocolIn = protocol ∧
      ∃ binding, Offers resolver key protocol binding ∧ cell.bindingId = some binding.bindingId
  filled : ∀ key protocol binding, (key.model, protocol) ∈ seen →
    Offers resolver key protocol binding → (cellAt rows key protocol).isSome = true

variable {resolver}

theorem filled_empty : Filled resolver [] .empty where
  keyed key row hRow := by cases hRow
  shown key protocol cell hCell := by cases hCell
  filled key protocol binding hSeen := by cases hSeen

theorem filled_step (config : GatewayConfig) {seen : List (String × Protocol)}
    {state : MatrixRows × Resolutions} (asked : PublishedModel × Protocol)
    (hResolver : ∀ protocol model resolved,
      resolver.resolveDetailed protocol model = .ok resolved → Offerable protocol resolved)
    (hNew : askedKey asked ∉ seen) (h : Filled resolver seen state.1) :
    ∃ state', matrixStep config resolver state asked = .ok state' ∧
      Filled resolver (seen ++ [askedKey asked]) state'.1 := by
  rw [matrixStep]
  cases hResolved : resolver.resolveDetailed asked.2 asked.1.id with
  | error error =>
    refine ⟨_, rfl, h.keyed, ?_, ?_⟩
    · intro key protocol cell hCell
      obtain ⟨hSeen, hShown⟩ := h.shown key protocol cell hCell
      exact ⟨List.mem_append_left _ hSeen, hShown⟩
    · rintro key protocol binding hSeen ⟨resolved, hOk, hOffer⟩
      obtain hOld | hHere := List.mem_append.mp hSeen
      · exact h.filled key protocol binding hOld ⟨resolved, hOk, hOffer⟩
      · obtain ⟨hModel, hProtocol⟩ := Prod.mk.inj (List.mem_singleton.mp hHere)
        rw [hModel, hProtocol, hResolved] at hOk
        cases hOk
  | ok resolved =>
    have hOfferable := hResolver _ _ _ hResolved
    have hProtocol := hOfferable.protocolIn
    have hFree : Free asked.1 resolved (resolvedBindings resolved) state.1 := by
      intro binding hBinding
      rw [← Option.not_isSome_iff_eq_none]
      intro hSome
      obtain ⟨cell, hCell⟩ := Option.isSome_iff_exists.mp hSome
      obtain ⟨hSeen, -⟩ := h.shown _ _ cell hCell
      rw [hProtocol] at hSeen
      exact hNew hSeen
    obtain ⟨rows', hRows, hInserted⟩ := insertResolvedRoute_ok config hOfferable hFree
    refine ⟨_, bind_eq_ok.mpr ⟨rows', hRows, rfl⟩, hInserted.keyed h.keyed, ?_, ?_⟩
    · intro key protocol cell hCell
      obtain hOld | ⟨rfl, binding, hBinding, rfl, hNewCell⟩ := hInserted.only key protocol cell hCell
      · obtain ⟨hSeen, hShown⟩ := h.shown key protocol cell hOld
        exact ⟨List.mem_append_left _ hSeen, hShown⟩
      · rw [hProtocol]
        refine ⟨List.mem_append_right _ (List.mem_singleton_self _), hNewCell.routable,
          hNewCell.protocolIn.trans hProtocol, binding, ?_, hNewCell.bindingId⟩
        exact ⟨resolved, hResolved, rfl, hBinding, rfl⟩
    · rintro key protocol binding hSeen ⟨found, hOk, hRoute, hBinding, hSlot⟩
      obtain hOld | hHere := List.mem_append.mp hSeen
      · obtain ⟨cell, hCell⟩ := Option.isSome_iff_exists.mp
          (h.filled key protocol binding hOld ⟨found, hOk, hRoute, hBinding, hSlot⟩)
        rw [hInserted.kept _ _ _ hCell]
        rfl
      · obtain ⟨hModel, hAsked⟩ := Prod.mk.inj (List.mem_singleton.mp hHere)
        rw [hModel, hAsked, hResolved] at hOk
        obtain rfl := Except.ok.inj hOk
        have hKey : key = matrixKey asked.1 resolved binding := by
          obtain ⟨model, routeId, sourceId, accountId, upstreamModelId⟩ := key
          obtain ⟨hSource, hRest⟩ := Prod.mk.inj hSlot
          obtain ⟨hAccount, hUpstream⟩ := Prod.mk.inj hRest
          rw [matrixKey, hSource, hAccount, hUpstream, hRoute, ← hModel]
        rw [hKey, hAsked, ← hProtocol]
        exact hInserted.added binding hBinding

theorem filled_foldl (config : GatewayConfig)
    (hResolver : ∀ protocol model resolved,
      resolver.resolveDetailed protocol model = .ok resolved → Offerable protocol resolved) :
    ∀ (asked : List (PublishedModel × Protocol)) (seen : List (String × Protocol))
      (state : MatrixRows × Resolutions),
      (seen ++ asked.map askedKey).Nodup → Filled resolver seen state.1 →
      ∃ last, asked.foldlM (matrixStep config resolver) state = .ok last ∧
        Filled resolver (seen ++ asked.map askedKey) last.1 := by
  intro asked
  induction asked with
  | nil =>
    rintro seen state - h
    rw [List.map_nil, List.append_nil]
    exact ⟨state, rfl, h⟩
  | cons pair asked ih =>
    rintro seen state hNodup h
    have hSplit : (seen ++ (pair :: asked).map askedKey) =
        (seen ++ [askedKey pair]) ++ asked.map askedKey := by
      rw [List.map_cons, List.append_assoc, List.singleton_append]
    have hNew : askedKey pair ∉ seen := by
      intro hOld
      exact (List.nodup_append.mp hNodup).2.2 _ hOld _ List.mem_cons_self rfl
    obtain ⟨next, hNext, hFilled⟩ := filled_step config pair hResolver hNew h
    rw [hSplit] at hNodup ⊢
    obtain ⟨last, hLast, hAll⟩ := ih _ next hNodup hFilled
    exact ⟨last, bind_eq_ok.mpr ⟨next, hNext, hLast⟩, hAll⟩

theorem asked_eq_product (models : List PublishedModel) :
    (askedOf models).map askedKey =
      (models.map PublishedModel.id).product Protocol.all := by
  rw [askedOf, List.map_flatMap, List.product, List.flatMap_map]
  exact List.flatMap_congr fun model _ => List.map_map

theorem mem_asked {models : List PublishedModel} {id : String} {protocol : Protocol} :
    (id, protocol) ∈ (askedOf models).map askedKey ↔
      id ∈ models.map PublishedModel.id := by
  rw [asked_eq_product, List.pair_mem_product]
  constructor
  · exact And.left
  · intro hModel
    exact ⟨hModel, by cases protocol <;> decide⟩

/-! ## The finished matrix -/

def RouteCapabilityMatrix.key (row : RouteCapabilityMatrix) : MatrixKey where
  model := row.model
  routeId := row.routeId
  sourceId := row.source.sourceId
  accountId := row.account.accountId
  upstreamModelId := row.upstreamModelId

/-- One cell for each protocol, routable if and only if the route the resolver
gives is that of the row and has the binding of the row. -/
structure Truthful (resolver : RouteResolver) (row : RouteCapabilityMatrix) : Prop where
  columns : row.protocols.map EffectiveProtocolCapability.protocolIn = Protocol.all
  cells : ∀ cell ∈ row.protocols,
    cell.status = .routable ↔ ∃ binding, Offers resolver row.key cell.protocolIn binding
  bindings : ∀ cell ∈ row.protocols, cell.status = .routable →
    ∃ binding, Offers resolver row.key cell.protocolIn binding ∧
      cell.bindingId = some binding.bindingId

theorem mem_sortedRows {rows : MatrixRows} {row : RouteMatrixBuilder} :
    row ∈ sortedRows rows ↔ ∃ key, rows.get key = some row := by
  rw [sortedRows, List.mem_map]
  constructor
  · rintro ⟨⟨key, row⟩, hEntry, rfl⟩
    exact ⟨key, rows.mem_entries_iff.mp (List.mem_insertionSort _ |>.mp hEntry)⟩
  · rintro ⟨key, hRow⟩
    exact ⟨(key, row), List.mem_insertionSort _ |>.mpr (rows.mem_entries_iff.mpr hRow), rfl⟩

theorem truthful_finish {models : List PublishedModel} {rows : MatrixRows}
    (h : Filled resolver ((askedOf models).map askedKey) rows)
    (resolutions : Resolutions) {key : MatrixKey} {row : RouteMatrixBuilder}
    (hRow : rows.get key = some row) : Truthful resolver (row.finish resolutions) := by
  obtain ⟨rfl, found, cell, hFound⟩ := h.keyed key row hRow
  have hCells : ∀ protocol, cellAt rows row.key protocol = row.protocols.get protocol := by
    intro protocol
    rw [cellAt, hRow, Option.bind_some]
  have hModel : row.model ∈ models.map PublishedModel.id := by
    rw [← hCells] at hFound
    exact mem_asked.mp (h.shown _ _ _ hFound).1
  have hOfCell : ∀ protocol cell, row.protocols.get protocol = some cell →
      cell.status = .routable ∧ cell.protocolIn = protocol ∧
        ∃ binding, Offers resolver row.key protocol binding ∧
          cell.bindingId = some binding.bindingId := by
    intro protocol cell hCell
    rw [← hCells] at hCell
    exact (h.shown _ _ _ hCell).2
  have hFilled : ∀ protocol binding, Offers resolver row.key protocol binding →
      row.protocols.get protocol ≠ none := by
    intro protocol binding hOffers hNone
    have hSome := h.filled _ _ binding (mem_asked.mpr hModel) hOffers
    rw [hCells, hNone] at hSome
    cases hSome
  refine ⟨?_, ?_, ?_⟩
  · rw [RouteMatrixBuilder.finish, List.map_map]
    refine (List.map_congr_left fun protocol _ => ?_).trans (List.map_id _)
    rw [Function.comp_apply]
    cases hCell : row.protocols.get protocol with
    | none => rfl
    | some cell => exact (hOfCell protocol cell hCell).2.1
  · intro shown hShown
    obtain ⟨protocol, -, rfl⟩ := List.mem_map.mp hShown
    cases hCell : row.protocols.get protocol with
    | none =>
      refine iff_of_false (by nofun) ?_
      rintro ⟨binding, hOffers⟩
      exact hFilled protocol binding hOffers hCell
    | some cell =>
      obtain ⟨hStatus, hProtocol, binding, hOffers, -⟩ := hOfCell protocol cell hCell
      refine iff_of_true hStatus ⟨binding, ?_⟩
      rw [Option.getD_some, hProtocol]
      exact hOffers
  · intro shown hShown hStatus
    obtain ⟨protocol, -, rfl⟩ := List.mem_map.mp hShown
    cases hCell : row.protocols.get protocol with
    | none =>
      rw [hCell] at hStatus
      cases hStatus
    | some cell =>
      obtain ⟨-, hProtocol, binding, hOffers, hId⟩ := hOfCell protocol cell hCell
      rw [Option.getD_some, hProtocol]
      exact ⟨binding, hOffers, hId⟩

theorem truthful_of_resolver {config : GatewayConfig} {models : List PublishedModel}
    (hResolver : ∀ protocol model resolved,
      resolver.resolveDetailed protocol model = .ok resolved → Offerable protocol resolved)
    (hRuntime : resolver.runtimeRoutes.isSome = true)
    (hModels : (models.map PublishedModel.id).Nodup) (revision : Int) (generatedAt : DateTime) :
    ∃ matrix, fromRuntimeSnapshot config resolver models revision generatedAt = .ok matrix ∧
      ∀ row ∈ matrix.data, Truthful resolver row := by
  have hAsked : ([] ++ (askedOf models).map askedKey).Nodup := by
    rw [List.nil_append, asked_eq_product]
    exact hModels.product (by decide)
  obtain ⟨last, hLast, hFilled⟩ :=
    filled_foldl config hResolver (askedOf models) [] (.empty, .empty) hAsked filled_empty
  refine ⟨_, bind_eq_ok.mpr ⟨(), ensure_eq_ok.mpr hRuntime, bind_eq_ok.mpr ⟨last, hLast, rfl⟩⟩, ?_⟩
  intro row hRow
  obtain ⟨built, hBuilt, rfl⟩ := List.mem_map.mp hRow
  obtain ⟨key, hKey⟩ := mem_sortedRows.mp hBuilt
  exact truthful_finish hFilled last.2 hKey

end Filled

end AiGateway.Matrix
