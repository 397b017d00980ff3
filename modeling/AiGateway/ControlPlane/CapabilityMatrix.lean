import AiGateway.ControlPlane.Closed
import AiGateway.ControlPlane.Runs
import AiGateway.Domain.CapabilityRows

/-!
# The matrix of a published snapshot

No two rows of the snapshot query agree in route, protocol, source, account and
upstream model, since no two bindings of a logical model do.  The bindings of a
runtime route therefore fit into the matrix.
-/

namespace AiGateway.ControlPlane

set_option autoImplicit false

open AiGateway.Catalog AiGateway.Checked AiGateway.Config AiGateway.Matrix AiGateway.Routing

/-! ## Rows of the query -/

/-- The cell of the matrix a row stands for. -/
def SnapshotRow.cell (row : SnapshotRow) :
    (String × String × Protocol) × String × String × String :=
  ((row.routeId, row.publicName, row.protocol), row.sourceId, row.accountId, row.upstreamModelId)

section Rows

variable {usable : String → String → Bool} {t : Tables}

theorem cells_of_route (hKeys : t.Keys) (route : RouteRow) :
    (t.bindings.filterMap (joinedRow usable t route)).Pairwise fun a b => a.cell ≠ b.cell := by
  have hTuples := List.pairwise_map.mp hKeys.bindingTuples
  apply List.pairwise_filterMap.mpr
  refine hTuples.imp ?_
  rintro binding binding' hOther row hRow row' hRow' hSame
  obtain ⟨lm, source, account, capability, hJoins, rfl⟩ := joinedRow_eq_some_iff.mp hRow
  obtain ⟨lm', source', account', capability', hJoins', rfl⟩ := joinedRow_eq_some_iff.mp hRow'
  have hModel : lm = lm' := Option.some.inj (hJoins.foundModel.symm.trans hJoins'.foundModel)
  obtain ⟨hKey, hSource, hAccount, hUpstream⟩ : _ ∧ binding.sourceId = binding'.sourceId ∧
      binding.accountId = binding'.accountId ∧
      binding.upstreamModelId = binding'.upstreamModelId := by
    simpa only [SnapshotRow.cell, rowOf, Prod.mk.injEq] using hSame
  apply hOther
  rw [BindingRow.tuple, BindingRow.tuple, hJoins.sameModel, hJoins'.sameModel, hModel, hSource,
    hAccount, hUpstream, hKey.2.2]

theorem routeId_of_joinedRow {route : RouteRow} {binding : BindingRow} {row : SnapshotRow}
    (h : joinedRow usable t route binding = some row) : row.routeId = route.id := by
  obtain ⟨lm, source, account, capability, -, rfl⟩ := joinedRow_eq_some_iff.mp h
  rfl

theorem cells_joinedRows (hKeys : t.Keys) :
    ((joinedRows usable t).map SnapshotRow.cell).Nodup := by
  apply List.pairwise_map.mpr
  rw [joinedRows, List.pairwise_flatMap]
  refine ⟨fun route _ => cells_of_route hKeys route, ?_⟩
  refine (List.pairwise_map.mp hKeys.routes).imp ?_
  rintro route route' hOther row hRow row' hRow' hSame
  obtain ⟨binding, -, hJoined⟩ := List.mem_filterMap.mp hRow
  obtain ⟨binding', -, hJoined'⟩ := List.mem_filterMap.mp hRow'
  apply hOther
  rw [← routeId_of_joinedRow hJoined, ← routeId_of_joinedRow hJoined']
  exact congrArg (fun cell => cell.1.1) hSame

theorem cells_snapshotRows (hKeys : t.Keys) (service : Service) :
    ((snapshotRows service t).map SnapshotRow.cell).Nodup := by
  have hPerm := (List.perm_insertionSort
    (fun a b => SnapshotRow.before service.collation a b) (joinedRows t.isUsable t)).map
      SnapshotRow.cell
  exact hPerm.nodup_iff.mpr (cells_joinedRows hKeys)

end Rows

/-! ## Routes of the builder -/

/-- The bindings of the routes come from the rows already met. -/
structure Recorded (seen : List SnapshotRow) (routes : List RuntimeRoute) : Prop where
  slots : ∀ route ∈ routes, (route.bindings.map slot).Nodup
  modes : ∀ route ∈ routes, ∀ binding ∈ route.bindings, isRuntimeMode binding.mode = true
  met : ∀ route ∈ routes, ∀ binding ∈ route.bindings,
    (routeKey route, slot binding) ∈ seen.map SnapshotRow.cell

namespace Recorded

variable {seen : List SnapshotRow} {routes : List RuntimeRoute} {row : SnapshotRow}

theorem later (h : Recorded seen routes) (row : SnapshotRow) : Recorded (seen ++ [row]) routes where
  slots := h.slots
  modes := h.modes
  met := by
    intro route hRoute binding hBinding
    rw [List.map_append]
    exact List.mem_append_left _ (h.met route hRoute binding hBinding)

theorem mode_runtimeBinding (row : SnapshotRow) (plan : RowPlan) :
    isRuntimeMode (Builder.runtimeBinding row plan).mode = true := by
  rw [Builder.runtimeBinding]
  dsimp only
  split
  · decide
  · decide

theorem addRoute (h : Recorded seen routes) (hNew : row.cell ∉ seen.map SnapshotRow.cell)
    (plan : RowPlan) :
    Recorded (seen ++ [row]) (Builder.addRoute row (Builder.runtimeBinding row plan) routes) := by
  have hRow : row.cell ∈ (seen ++ [row]).map SnapshotRow.cell := by simp
  have hCases : ∀ route ∈ Builder.addRoute row (Builder.runtimeBinding row plan) routes,
      route ∈ routes ∨
      routeKey route = (row.routeId, row.publicName, row.protocol) ∧
        ((route.bindings = [Builder.runtimeBinding row plan]) ∨
          ∃ old ∈ routes, routeKey old = routeKey route ∧
            route.bindings = old.bindings ++ [Builder.runtimeBinding row plan]) := by
    intro route hRoute
    rw [Builder.addRoute_eq_upsert] at hRoute
    obtain hOld | rfl | ⟨old, hOld, ⟨hId, hModel, hProtocol⟩, rfl⟩ := mem_upsert hRoute
    · exact .inl hOld
    · exact .inr ⟨rfl, .inl rfl⟩
    · refine .inr ⟨?_, .inr ⟨old, hOld, rfl, rfl⟩⟩
      rw [routeKey, hId, hModel, hProtocol]
  have hLater := h.later row
  constructor
  · intro route hRoute
    obtain hOld | ⟨hKey, hBindings | ⟨old, hOld, hSame, hBindings⟩⟩ := hCases route hRoute
    · exact h.slots route hOld
    · rw [hBindings]
      exact List.nodup_singleton _
    · rw [hBindings, List.map_append, List.map_singleton, ← List.concat_eq_append,
        List.nodup_concat]
      refine ⟨?_, h.slots old hOld⟩
      intro hSlot
      obtain ⟨binding, hBinding, hSame'⟩ := List.mem_map.mp hSlot
      have hMet := h.met old hOld binding hBinding
      rw [hSame, hKey, hSame'] at hMet
      exact hNew hMet
  · intro route hRoute binding hBinding
    obtain hOld | ⟨-, hBindings | ⟨old, hOld, -, hBindings⟩⟩ := hCases route hRoute
    · exact h.modes route hOld binding hBinding
    · rw [hBindings, List.mem_singleton] at hBinding
      rw [hBinding]
      exact mode_runtimeBinding row plan
    · rw [hBindings, List.mem_append, List.mem_singleton] at hBinding
      obtain hBinding | rfl := hBinding
      · exact h.modes old hOld binding hBinding
      · exact mode_runtimeBinding row plan
  · intro route hRoute binding hBinding
    obtain hOld | ⟨hKey, hBindings | ⟨old, hOld, hSame, hBindings⟩⟩ := hCases route hRoute
    · exact hLater.met route hOld binding hBinding
    · rw [hBindings, List.mem_singleton] at hBinding
      rw [hKey, hBinding]
      exact hRow
    · rw [hBindings, List.mem_append, List.mem_singleton] at hBinding
      obtain hBinding | rfl := hBinding
      · rw [← hSame]
        exact hLater.met old hOld binding hBinding
      · rw [hKey]
        exact hRow

end Recorded

theorem routes_of_addRow (service : Service) (builder : Builder) (row : SnapshotRow) :
    (builder.addRow service row).routes = builder.routes ∨ ∃ plan,
      (builder.addRow service row).routes =
        Builder.addRoute row (Builder.runtimeBinding row plan) builder.routes := by
  rw [Builder.addRow]
  split
  · exact .inl rfl
  · exact .inl rfl
  · rename_i plan _
    rw [Builder.addPlanned]
    split
    · exact .inl rfl
    · rw [Builder.addAccount]
      dsimp only
      split
      · split
        · exact .inl rfl
        · exact .inr ⟨plan, rfl⟩
      · exact .inr ⟨plan, rfl⟩

theorem recorded_foldl (service : Service) :
    ∀ (rows seen : List SnapshotRow) (builder : Builder),
      ((seen ++ rows).map SnapshotRow.cell).Nodup → Recorded seen builder.routes →
      Recorded (seen ++ rows) (rows.foldl (Builder.addRow service) builder).routes := by
  intro rows
  induction rows with
  | nil =>
    rintro seen builder - h
    rw [List.append_nil]
    exact h
  | cons row rows ih =>
    rintro seen builder hCells h
    have hSplit : seen ++ row :: rows = (seen ++ [row]) ++ rows := by simp
    have hNew : row.cell ∉ seen.map SnapshotRow.cell := by
      rw [List.map_append, List.map_cons] at hCells
      intro hOld
      exact (List.nodup_append.mp hCells).2.2 _ hOld _ List.mem_cons_self rfl
    rw [hSplit] at hCells ⊢
    apply ih _ _ hCells
    obtain hSame | ⟨plan, hAdded⟩ := routes_of_addRow service builder row
    · rw [hSame]
      exact h.later row
    · rw [hAdded]
      exact h.addRoute hNew plan

theorem recorded_buildRows {t : Tables} (hKeys : t.Keys) (service : Service) :
    Recorded (snapshotRows service t) (buildRows service (snapshotRows service t)).routes := by
  have hStart : Recorded [] ({} : Builder).routes := by
    constructor
    · rintro route ⟨⟩
    · rintro route ⟨⟩
    · rintro route ⟨⟩
  exact recorded_foldl service (snapshotRows service t) [] {} (cells_snapshotRows hKeys service)
    hStart

/-! ## The matrix -/

theorem offerable_of_recorded {seen : List SnapshotRow} {routes : List RuntimeRoute}
    (h : Recorded seen routes) {protocol : Protocol} {model : String} {resolved : ResolvedRoute}
    (hResolved : resolveRuntimeRoute routes protocol model = .ok resolved) :
    Offerable protocol resolved := by
  rw [resolveRuntimeRoute] at hResolved
  split at hResolved
  · cases hResolved
  · rename_i route hFind
    have hRoute := List.mem_of_find?_eq_some hFind
    have hSlots := h.slots route hRoute
    have hModes := h.modes route hRoute
    split at hResolved
    · cases hResolved
    · rename_i primary fallbacks hBindings
      rw [hBindings] at hSlots hModes
      cases hResolved
      exact ⟨rfl, rfl, hSlots, hModes⟩

/-- The matrix the service shows of the snapshot it serves. -/
def matrixOf (snapshot : RuntimeSnapshot) :
    Except CapabilityMatrixBuildError CapabilityMatrixResponse :=
  fromRuntimeSnapshot snapshot.config snapshot.resolver snapshot.models snapshot.revision
    snapshot.generatedAt

/-- The matrix of a snapshot is always built, and its rows are truthful. -/
theorem built_matrix_truthful {service : Service} {db : Db} {snapshot : RuntimeSnapshot}
    (h : buildSnapshot service db.toTables = .ok snapshot) :
    ∃ matrix, matrixOf snapshot = .ok matrix ∧
      ∀ row ∈ matrix.data, Truthful snapshot.resolver row := by
  have hClosed := closed_of_buildSnapshot h
  have hRecorded := recorded_buildRows db.keys service
  apply truthful_of_resolver ?_ ?_ hClosed.distinctModels
  · intro protocol model resolved hResolved
    rw [hClosed.resolveDetailed_eq] at hResolved
    exact offerable_of_recorded hRecorded hResolved
  · rw [hClosed.runtimeRoutes]
    rfl

/-! ## Two routes of one model -/

namespace TwoRoutes

def source : SourceWrite :=
  { Relisted.source with
    endpoints := (Table.empty.insert .openAiChatCompletions "/v1/chat/completions").insert
      .openAiResponses "/v1/responses" }

def capability (protocol : Protocol) : Action :=
  .write (.upsertSourceModelCapability
    ⟨"s", "m", protocol, .confirmed, .native, none, none, .empty, .user, 0⟩)

def binding (protocol : Protocol) : Action :=
  .write (.createModelBinding ⟨"l", "s", "a", "m", protocol, .confirmed, true, 0⟩)

def route (id : String) (protocol : Protocol) : Action :=
  .write (.createRoute { id := id, logicalModelId := "l", protocols := [protocol] })

/-- One model bound on two protocols, each with a route of its own. -/
def actions : List Action :=
  [.write (.createSource source),
    .write (.createAccount
      { id := "a", sourceId := "s", displayName := "a", credentialEnv := some "KEY" }),
    Relisted.listing ["m"],
    .confirmSourceModels "s" [⟨"m", .empty⟩],
    capability .openAiChatCompletions,
    capability .openAiResponses,
    .write (.createLogicalModel
      { id := "l", publicName := "p", displayName := "p", status := .confirmed }),
    binding .openAiChatCompletions,
    binding .openAiResponses,
    route "chat" .openAiChatCompletions,
    route "responses" .openAiResponses]

/-- Whether the resolver gives a binding with the source, the account and the
upstream model of the row, on whatever route. -/
def isBound (resolver : RouteResolver) (row : RouteCapabilityMatrix) (protocol : Protocol) : Bool :=
  succeeds (resolver.resolveDetailed protocol row.model) fun resolved =>
    (resolvedBindings resolved).any fun binding =>
      slot binding = (row.source.sourceId, row.account.accountId, row.upstreamModelId)

def test (snapshot : RuntimeSnapshot) (matrix : CapabilityMatrixResponse) : Bool :=
  matrix.data.any fun row => row.protocols.any fun cell =>
    cell.status = .unroutable && isBound snapshot.resolver row cell.protocolIn

def runs (test : RuntimeSnapshot → CapabilityMatrixResponse → Bool) : Bool :=
  succeeds (perform Relisted.service Relisted.start (actions.map fun action => (0, action)))
    fun run => succeeds (buildSnapshot Relisted.service run.2.toTables) fun snapshot =>
      succeeds (matrixOf snapshot) fun matrix => test snapshot matrix

end TwoRoutes

theorem built_matrix_truthful_served :
    ∃ (db : Db) (snapshot : RuntimeSnapshot) (matrix : CapabilityMatrixResponse),
      buildSnapshot Relisted.service db.toTables = .ok snapshot ∧
      matrixOf snapshot = .ok matrix ∧ matrix.data.length = 2 ∧
      ∀ row ∈ matrix.data, Truthful snapshot.resolver row := by
  obtain ⟨run, -, hTest⟩ := exists_of_succeeds (show TwoRoutes.runs
    (fun _ matrix => matrix.data.length = 2) = true by decide)
  obtain ⟨snapshot, hBuilt, hTest⟩ := exists_of_succeeds hTest
  obtain ⟨matrix, hMatrix, hLength⟩ := exists_of_succeeds hTest
  obtain ⟨shown, hShown, hTruthful⟩ := built_matrix_truthful hBuilt
  obtain rfl := Except.ok.inj (hMatrix.symm.trans hShown)
  exact ⟨run.2, snapshot, matrix, hBuilt, hMatrix, of_decide_eq_true hLength, hTruthful⟩

/-- A model bound on two protocols has a row for each of its routes, and the row
of one route does not offer what the other serves. -/
theorem sibling_route_unroutable :
    ∃ (history : List (Db × Action)) (db : Db) (snapshot : RuntimeSnapshot)
      (matrix : CapabilityMatrixResponse),
      Run Relisted.service Relisted.start history db ∧
      buildSnapshot Relisted.service db.toTables = .ok snapshot ∧ matrixOf snapshot = .ok matrix ∧
      ∃ row ∈ matrix.data, ∃ cell ∈ row.protocols, cell.status = .unroutable ∧
        ∃ resolved, snapshot.resolver.resolveDetailed cell.protocolIn row.model = .ok resolved ∧
          ∃ binding ∈ resolvedBindings resolved,
            slot binding = (row.source.sourceId, row.account.accountId, row.upstreamModelId) := by
  obtain ⟨run, hRun, hTest⟩ := exists_of_succeeds (show TwoRoutes.runs TwoRoutes.test = true by
    decide)
  obtain ⟨snapshot, hBuilt, hTest⟩ := exists_of_succeeds hTest
  obtain ⟨matrix, hMatrix, hTest⟩ := exists_of_succeeds hTest
  obtain ⟨row, hRow, hTest⟩ := List.any_eq_true.mp hTest
  obtain ⟨cell, hCell, hTest⟩ := List.any_eq_true.mp hTest
  obtain ⟨hStatus, hBound⟩ := (Bool.and_eq_true _ _).mp hTest
  obtain ⟨resolved, hResolved, hAny⟩ := exists_of_succeeds hBound
  obtain ⟨binding, hBinding, hSlot⟩ := List.any_eq_true.mp hAny
  exact ⟨run.1, run.2, snapshot, matrix, run_of_perform run hRun, hBuilt, hMatrix, row, hRow, cell,
    hCell, of_decide_eq_true hStatus, resolved, hResolved, binding, hBinding,
    of_decide_eq_true hSlot⟩

end AiGateway.ControlPlane
