import AiGateway.Infra.Reproduced

/-!
# The statements of a restore, one after another

A restore goes through stages: the tables of earlier inserts are complete, one table
holds the rows inserted so far, later tables are empty.  Every stage of valid tables
is valid, so no insert of their rows is refused but by the trigger on bindings.
-/

namespace AiGateway.Ops

set_option autoImplicit false

open AiGateway.Catalog AiGateway.Checked AiGateway.ControlPlane AiGateway.Health AiGateway.Json

/-! ## Stages -/

/-- Part of some tables, closed under their references. -/
structure Stage (r t : Tables) : Prop where
  providerPresets : t.providerPresets = r.providerPresets
  modelPresets : t.modelPresets = r.modelPresets
  revision : t.revision = r.revision
  sources : t.sources.Sublist r.sources
  accounts : t.accounts.Sublist r.accounts
  sourceModels : t.sourceModels.Sublist r.sourceModels
  capabilities : t.capabilities.Sublist r.capabilities
  logicalModels : t.logicalModels.Sublist r.logicalModels
  bindings : t.bindings.Sublist r.bindings
  routes : t.routes.Sublist r.routes
  accountsAfter : t.accounts = [] ∨ t.sources = r.sources
  sourceModelsAfter : t.sourceModels = [] ∨ t.sources = r.sources
  capabilitiesAfter : t.capabilities = [] ∨ t.sourceModels = r.sourceModels
  bindingsAfter : t.bindings = [] ∨
    (t.logicalModels = r.logicalModels ∧ t.sourceModels = r.sourceModels ∧
      t.capabilities = r.capabilities ∧ t.accounts = r.accounts)
  routesAfter : t.routes = [] ∨ t.logicalModels = r.logicalModels

/-- A reference of a row that is there leads into a table that is complete. -/
theorem forall_of_after {α : Type} {rows all : List α} {full : Prop} {P : α → Prop}
    (hSub : rows.Sublist all) (hAfter : rows = [] ∨ full) (hAll : full → ∀ row ∈ all, P row) :
    ∀ row ∈ rows, P row := by
  intro row hRow
  obtain rfl | hFull := hAfter
  · cases hRow
  · exact hAll hFull row (hSub.subset hRow)

section Stage

variable {r t : Tables} (h : Stage r t)

include h

theorem Stage.keys (hKeys : r.Keys) : t.Keys where
  providerPresets := h.providerPresets ▸ hKeys.providerPresets
  modelPresets := h.modelPresets ▸ hKeys.modelPresets
  sources := hKeys.sources.sublist (h.sources.map _)
  accounts := hKeys.accounts.sublist (h.accounts.map _)
  sourceModels := hKeys.sourceModels.sublist (h.sourceModels.map _)
  capabilities := hKeys.capabilities.sublist (h.capabilities.map _)
  logicalModels := hKeys.logicalModels.sublist (h.logicalModels.map _)
  publicNames := hKeys.publicNames.sublist (h.logicalModels.map _)
  bindings := hKeys.bindings.sublist (h.bindings.map _)
  bindingTuples := hKeys.bindingTuples.sublist (h.bindings.map _)
  routes := hKeys.routes.sublist (h.routes.map _)

theorem Stage.references (hReferences : r.References) : t.References := by
  refine ⟨?_, ?_, ?_, ?_, ?_, ?_, ?_, ?_, ?_, ?_⟩
  · intro row hRow
    rw [h.providerPresets]
    exact hReferences.sourcePreset row (h.sources.subset hRow)
  · exact forall_of_after h.accounts h.accountsAfter fun hFull => hFull ▸ hReferences.accountSource
  · exact forall_of_after h.sourceModels h.sourceModelsAfter fun hFull =>
      hFull ▸ hReferences.sourceModelSource
  · intro row hRow
    rw [h.modelPresets]
    exact hReferences.matchedPreset row (h.sourceModels.subset hRow)
  · exact forall_of_after h.capabilities h.capabilitiesAfter fun hFull =>
      hFull ▸ hReferences.capabilityModel
  · exact forall_of_after h.bindings h.bindingsAfter fun hFull =>
      hFull.1 ▸ hReferences.bindingLogicalModel
  · exact forall_of_after h.bindings h.bindingsAfter fun hFull =>
      hFull.2.1 ▸ hReferences.bindingModel
  · exact forall_of_after h.bindings h.bindingsAfter fun hFull =>
      hFull.2.2.1 ▸ hReferences.bindingCapability
  · exact forall_of_after h.bindings h.bindingsAfter fun hFull =>
      hFull.2.2.2 ▸ hReferences.bindingAccount
  · exact forall_of_after h.routes h.routesAfter fun hFull => hFull ▸ hReferences.routeLogicalModel

theorem Stage.checks (hChecks : r.Checks) : t.Checks where
  accounts row hRow := hChecks.accounts row (h.accounts.subset hRow)
  sourceModels row hRow := hChecks.sourceModels row (h.sourceModels.subset hRow)
  capabilities row hRow := hChecks.capabilities row (h.capabilities.subset hRow)
  logicalModels row hRow := hChecks.logicalModels row (h.logicalModels.subset hRow)
  bindings row hRow := hChecks.bindings row (h.bindings.subset hRow)
  revision := h.revision ▸ hChecks.revision

end Stage

/-! ## One table -/

/-- A table is filled row by row if every insert comes down to adding its row. -/
theorem restoreTable_ok {α : Type} {insert : Db → α → Except DbError Db} {rows : List α}
    (tables : List α → Tables) {db : Db} (hDb : db.toTables = tables [])
    (hInsert : ∀ done row rest, rows = done ++ row :: rest → ∀ db : Db, db.toTables = tables done →
      insert db row = enforce (tables (done ++ [row])))
    (hValid : ∀ done rest, rows = done ++ rest →
      ∃ db : Db, enforce (tables done) = .ok db ∧ db.toTables = tables done) :
    ∃ db', restoreTable insert rows db = .ok db' ∧ db'.toTables = tables rows := by
  suffices hRest : ∀ rest done (db : Db), rows = done ++ rest → db.toTables = tables done →
      ∃ db', restoreTable insert rest db = .ok db' ∧ db'.toTables = tables rows from
    hRest rows [] db rfl hDb
  intro rest
  induction rest with
  | nil =>
    intro done db hRows hDone
    rw [List.append_nil] at hRows
    exact ⟨db, rfl, hRows ▸ hDone⟩
  | cons row rest ih =>
    intro done db hRows hDone
    have hSplit : rows = (done ++ [row]) ++ rest := by simp [hRows]
    obtain ⟨next, hEnforce, hNext⟩ := hValid (done ++ [row]) rest hSplit
    obtain ⟨db', hRest, hTables⟩ := ih (done ++ [row]) next hSplit hNext
    refine ⟨db', ?_, hTables⟩
    rw [restoreTable, List.foldlM_cons, bind_eq_ok]
    refine ⟨next, ?_, hRest⟩
    rw [opsStatement, mapError_ok, hInsert done row rest hRows db hDone, hEnforce]

/-- Rows whose keys are all taken change nothing. -/
theorem restoreTable_present {α : Type} {insert : Db → α → Except DbError Db} {rows : List α}
    {db : Db} (h : ∀ row ∈ rows, insert db row = .ok db) : restoreTable insert rows db = .ok db := by
  induction rows with
  | nil => rfl
  | cons row rest ih =>
    rw [restoreTable, List.foldlM_cons, bind_eq_ok]
    refine ⟨db, ?_, ih fun row hRow => h row (List.mem_cons_of_mem _ hRow)⟩
    rw [opsStatement, mapError_ok]
    exact h row List.mem_cons_self

/-- A key that comes up for the first time. -/
theorem not_mem_keys {α κ : Type} {rows done rest : List α} {row : α} {key : α → κ}
    (hNodup : (rows.map key).Nodup) (hRows : rows = done ++ row :: rest) :
    key row ∉ done.map key := by
  subst hRows
  rw [List.map_append, List.map_cons, List.nodup_append] at hNodup
  intro hMem
  exact hNodup.2.2 _ hMem _ List.mem_cons_self rfl

theorem onConflictDoNothing_new {check : Prop} [Decidable check] {db : Db}
    {insert : Except DbError Db} (hCheck : check) :
    onConflictDoNothing check false db insert = insert := by
  simp [onConflictDoNothing, hCheck]

theorem onConflictDoNothing_present {check : Prop} [Decidable check] {db : Db}
    {insert : Except DbError Db} (hCheck : check) :
    onConflictDoNothing check true db insert = .ok db := by
  simp [onConflictDoNothing, hCheck]

/-! ## Table after table -/

/-- The tables of a database with only the given rows. -/
def part (r : Tables) (sources : List SourceRow) (accounts : List AccountRow)
    (sourceModels : List SourceModelRow) (capabilities : List CapabilityRow)
    (logicalModels : List LogicalModelRow) (bindings : List BindingRow) (routes : List RouteRow) :
    Tables :=
  { r with
    sources := sources
    accounts := accounts
    sourceModels := sourceModels
    capabilities := capabilities
    logicalModels := logicalModels
    bindings := bindings
    routes := routes }

theorem exists_stage (r : Db) {t : Tables} (h : Stage r.toTables t) :
    ∃ db : Db, enforce t = .ok db ∧ db.toTables = t :=
  exists_enforce (h.keys r.keys) (h.references r.references) (h.checks r.checks)

theorem find_isSome_eq_false {α κ : Type} [DecidableEq κ] {key : α → κ} {k : κ} {rows : List α}
    (h : k ∉ rows.map key) : (Rows.find key k rows).isSome = false := by
  rw [Rows.find_eq_none_iff.mpr h]
  rfl

section Fill

variable (r : Db) {db : Db}

theorem fill_sources (hDb : db.toTables = part r.toTables [] [] [] [] [] [] []) :
    ∃ db', restoreTable Restore.insertSource r.sources db = .ok db' ∧
      db'.toTables = part r.toTables r.sources [] [] [] [] [] [] := by
  refine restoreTable_ok (fun done => part r.toTables done [] [] [] [] [] []) hDb ?_ ?_
  · intro done row rest hRows db hDb
    have hNew : (db.source? row.id).isSome = false := by
      rw [Tables.source?, hDb]
      exact find_isSome_eq_false (not_mem_keys r.keys.sources hRows)
    rw [Restore.insertSource, hNew, onConflictDoNothing_new trivial, Db.insertSource, hDb]
    rfl
  · intro done rest hRows
    apply exists_stage r
    constructor <;> simp [part, hRows]

theorem fill_accounts (hDb : db.toTables = part r.toTables r.sources [] [] [] [] [] []) :
    ∃ db', restoreTable Restore.insertAccount r.accounts db = .ok db' ∧
      db'.toTables = part r.toTables r.sources r.accounts [] [] [] [] [] := by
  refine restoreTable_ok (fun done => part r.toTables r.sources done [] [] [] [] []) hDb ?_ ?_
  · intro done row rest hRows db hDb
    have hNew : (db.account? row.id).isSome = false := by
      rw [Tables.account?, hDb]
      exact find_isSome_eq_false (not_mem_keys r.keys.accounts hRows)
    have hCheck : row.Check := r.checks.accounts row (by simp [hRows])
    rw [Restore.insertAccount, hNew, onConflictDoNothing_new hCheck, Db.insertAccount, hDb]
    rfl
  · intro done rest hRows
    apply exists_stage r
    constructor <;> simp [part, hRows]

theorem fill_sourceModels
    (hDb : db.toTables = part r.toTables r.sources r.accounts [] [] [] [] []) :
    ∃ db', restoreTable Restore.insertSourceModel r.sourceModels db = .ok db' ∧
      db'.toTables = part r.toTables r.sources r.accounts r.sourceModels [] [] [] [] := by
  refine restoreTable_ok (fun done => part r.toTables r.sources r.accounts done [] [] [] []) hDb
    ?_ ?_
  · intro done row rest hRows db hDb
    have hNew : (db.sourceModel? row.sourceId row.upstreamModelId).isSome = false := by
      rw [Tables.sourceModel?, hDb]
      exact find_isSome_eq_false (not_mem_keys r.keys.sourceModels hRows)
    have hCheck : row.Check := r.checks.sourceModels row (by simp [hRows])
    rw [Restore.insertSourceModel, hNew, onConflictDoNothing_new hCheck, Db.insertSourceModel, hDb]
    rfl
  · intro done rest hRows
    apply exists_stage r
    constructor <;> simp [part, hRows]

theorem fill_capabilities
    (hDb : db.toTables = part r.toTables r.sources r.accounts r.sourceModels [] [] [] []) :
    ∃ db', restoreTable Restore.insertCapability r.capabilities db = .ok db' ∧
      db'.toTables =
        part r.toTables r.sources r.accounts r.sourceModels r.capabilities [] [] [] := by
  refine restoreTable_ok
    (fun done => part r.toTables r.sources r.accounts r.sourceModels done [] [] []) hDb ?_ ?_
  · intro done row rest hRows db hDb
    have hNew : (db.capability? row.sourceId row.upstreamModelId row.protocol).isSome = false := by
      rw [Tables.capability?, hDb]
      exact find_isSome_eq_false (not_mem_keys r.keys.capabilities hRows)
    have hCheck : row.Check := r.checks.capabilities row (by simp [hRows])
    rw [Restore.insertCapability, hNew, onConflictDoNothing_new hCheck, Db.insertCapability, hDb]
    rfl
  · intro done rest hRows
    apply exists_stage r
    constructor <;> simp [part, hRows]

theorem fill_logicalModels
    (hDb : db.toTables =
      part r.toTables r.sources r.accounts r.sourceModels r.capabilities [] [] []) :
    ∃ db', restoreTable Restore.insertLogicalModel r.logicalModels db = .ok db' ∧
      db'.toTables = part r.toTables r.sources r.accounts r.sourceModels r.capabilities
        r.logicalModels [] [] := by
  refine restoreTable_ok
    (fun done => part r.toTables r.sources r.accounts r.sourceModels r.capabilities done [] [])
    hDb ?_ ?_
  · intro done row rest hRows db hDb
    have hNew : (db.logicalModel? row.id).isSome = false := by
      rw [Tables.logicalModel?, hDb]
      exact find_isSome_eq_false (not_mem_keys r.keys.logicalModels hRows)
    have hCheck : row.Check := r.checks.logicalModels row (by simp [hRows])
    rw [Restore.insertLogicalModel, hNew, onConflictDoNothing_new hCheck, Db.insertLogicalModel,
      hDb]
    rfl
  · intro done rest hRows
    apply exists_stage r
    constructor <;> simp [part, hRows]

/-- The tables a binding refers to are complete, so the trigger sees what it would
see in the whole database. -/
theorem isRoutable_part (bindings : List BindingRow) (row : BindingRow) :
    (part r.toTables r.sources r.accounts r.sourceModels r.capabilities r.logicalModels bindings
      []).isRoutable row = r.isRoutable row :=
  rfl

theorem fill_bindings
    (hDb : db.toTables = part r.toTables r.sources r.accounts r.sourceModels r.capabilities
      r.logicalModels [] [])
    (hLive : ∀ row ∈ r.bindings, row.isLive = true → r.isRoutable row = true) :
    ∃ db', restoreTable Restore.insertBinding r.bindings db = .ok db' ∧
      db'.toTables = part r.toTables r.sources r.accounts r.sourceModels r.capabilities
        r.logicalModels r.bindings [] := by
  refine restoreTable_ok
    (fun done => part r.toTables r.sources r.accounts r.sourceModels r.capabilities
      r.logicalModels done []) hDb ?_ ?_
  · intro done row rest hRows db hDb
    have hMem : row ∈ r.bindings := by simp [hRows]
    have hNew : (db.binding? row.id).isSome = false := by
      rw [Tables.binding?, hDb]
      exact find_isSome_eq_false (not_mem_keys r.keys.bindings hRows)
    have hTrigger : ¬ (row.isLive = true ∧ db.isRoutable row = false) := by
      rintro ⟨hIsLive, hRefused⟩
      rw [hDb, isRoutable_part, hLive row hMem hIsLive] at hRefused
      cases hRefused
    rw [Restore.insertBinding, if_neg hTrigger, hNew,
      onConflictDoNothing_new (r.checks.bindings row hMem), hDb]
    rfl
  · intro done rest hRows
    apply exists_stage r
    constructor <;> simp [part, hRows]

theorem fill_routes
    (hDb : db.toTables = part r.toTables r.sources r.accounts r.sourceModels r.capabilities
      r.logicalModels r.bindings []) :
    ∃ db', restoreTable Restore.insertRoute r.routes db = .ok db' ∧ db'.toTables = r.toTables := by
  refine restoreTable_ok
    (fun done => part r.toTables r.sources r.accounts r.sourceModels r.capabilities
      r.logicalModels r.bindings done) hDb ?_ ?_
  · intro done row rest hRows db hDb
    have hNew : (db.route? row.id).isSome = false := by
      rw [Tables.route?, hDb]
      exact find_isSome_eq_false (not_mem_keys r.keys.routes hRows)
    rw [Restore.insertRoute, hNew, onConflictDoNothing_new trivial, Db.insertRoute, hDb]
    rfl
  · intro done rest hRows
    apply exists_stage r
    constructor <;> simp [part, hRows]

/-- A restore of bindings has passed the trigger with every row. -/
theorem routable_of_restore {rows : List BindingRow} {db db' : Db}
    (h : restoreTable Restore.insertBinding rows db = .ok db') :
    ∀ row ∈ rows, row.isLive = true → db.isRoutable row = true := by
  induction rows generalizing db with
  | nil =>
    intro row hRow
    cases hRow
  | cons head rest ih =>
    rw [restoreTable, List.foldlM_cons, bind_eq_ok] at h
    obtain ⟨next, hInsert, hRest⟩ := h
    rw [opsStatement, mapError_ok, Restore.insertBinding] at hInsert
    split at hInsert
    · cases hInsert
    · next hTrigger =>
      have hSame : ∀ row, next.isRoutable row = db.isRoutable row := by
        intro row
        unfold onConflictDoNothing at hInsert
        split at hInsert
        · split at hInsert
          · cases hInsert
            rfl
          · rw [enforce_ok hInsert]
            rfl
        · cases hInsert
      intro row hRow hLive
      obtain rfl | hTail := List.mem_cons.mp hRow
      · simpa [hLive] using hTrigger
      · rw [← hSame]
        exact ih hRest row hTail hLive

end Fill

end AiGateway.Ops
