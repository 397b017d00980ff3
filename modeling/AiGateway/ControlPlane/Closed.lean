import AiGateway.Base.Upsert
import AiGateway.ControlPlane.SnapshotRows

/-!
# Snapshots are closed under reference

The builder meets the rows of the query one by one and stops in several places
between its collections.  Whatever it has kept, the providers and accounts of its
bindings are there, and its routes and published models name the same models and
accounts.
-/

namespace AiGateway.ControlPlane

set_option autoImplicit false

open AiGateway.Catalog AiGateway.Checked AiGateway.Config AiGateway.Health AiGateway.Routing

/-- What a row finds its runtime route by. -/
def routeKey (route : RuntimeRoute) : String × String × Protocol :=
  (route.routeId, route.model, route.protocol)

/-- The binding belongs to a runtime route of the model. -/
def Bound (routes : List RuntimeRoute) (model : String) (binding : RuntimeBinding) : Prop :=
  ∃ route ∈ routes, route.model = model ∧ binding ∈ route.bindings

/-- The account is listed under the published model. -/
def Lists (models : List PublishedModel) (id accountId : String) : Prop :=
  ∃ model ∈ models, model.id = id ∧ accountId ∈ model.accountIds

namespace Builder

/-! ## Routes of the builder -/

section Routes

variable {row : SnapshotRow} {binding : RuntimeBinding} {routes : List RuntimeRoute}

theorem addRoute_eq_upsert :
    addRoute row binding routes =
      upsert (fun route => route.routeId = row.routeId ∧ route.model = row.publicName ∧
          route.protocol = row.protocol)
        (fun route => { route with bindings := route.bindings ++ [binding] })
        { routeId := row.routeId, model := row.publicName, protocol := row.protocol,
          strategy := row.strategy, requestTimeoutMs := row.requestTimeoutMs,
          maxRetries := row.maxRetries, allowLossyConversion := row.allowLossyConversion,
          bindings := [binding] } routes := by
  induction routes with
  | nil => rfl
  | cons route rest ih => rw [addRoute, upsert, ih]

theorem bound_addRoute {model : String} {found : RuntimeBinding} :
    Bound (addRoute row binding routes) model found ↔
      Bound routes model found ∨ model = row.publicName ∧ found = binding := by
  rw [addRoute_eq_upsert]
  apply exists_upsert
  · simp only [List.mem_singleton, eq_comm (a := row.publicName)]
  · rintro route ⟨-, hModel, -⟩
    simp only [List.mem_append, List.mem_singleton, hModel, eq_comm (a := row.publicName)]
    exact and_or_left

theorem served_addRoute (h : ∀ route ∈ routes, route.bindings ≠ []) :
    ∀ route ∈ addRoute row binding routes, route.bindings ≠ [] := by
  rw [addRoute_eq_upsert]
  apply forall_upsert h
  · exact List.cons_ne_nil binding []
  · intro route _
    exact List.append_ne_nil_of_right_ne_nil route.bindings (List.cons_ne_nil binding [])

theorem distinct_addRoute (h : (routes.map routeKey).Nodup) :
    ((addRoute row binding routes).map routeKey).Nodup := by
  rw [addRoute_eq_upsert]
  refine nodup_upsert (k := (row.routeId, row.publicName, row.protocol)) ?_ rfl (fun _ => rfl) h
  intro route
  simp only [routeKey, Prod.mk.injEq]

end Routes

/-! ## Published models of the builder -/

section Models

variable {row : SnapshotRow} {models : List PublishedModel}

theorem addModel_eq_upsert :
    addModel row models =
      upsert (fun model => model.id = row.publicName)
        (fun model => if model.accountIds.contains row.accountId then model
          else { model with accountIds := model.accountIds ++ [row.accountId] })
        ⟨row.publicName, row.displayName, [row.accountId]⟩ models := by
  induction models with
  | nil => rfl
  | cons model rest ih => rw [addModel, upsert, ih]

theorem lists_addModel {id accountId : String} :
    Lists (addModel row models) id accountId ↔
      Lists models id accountId ∨ id = row.publicName ∧ accountId = row.accountId := by
  rw [addModel_eq_upsert]
  apply exists_upsert
  · simp only [List.mem_singleton, eq_comm (a := row.publicName)]
  · intro model hId
    split
    · next hHere =>
      have hIn : row.accountId ∈ model.accountIds := List.contains_iff_mem.mp hHere
      refine ⟨.inl, ?_⟩
      rintro (hOld | ⟨rfl, rfl⟩)
      · exact hOld
      · exact ⟨hId, hIn⟩
    · simp only [List.mem_append, List.mem_singleton, hId, eq_comm (a := row.publicName)]
      exact and_or_left

theorem accounts_addModel
    (h : ∀ model ∈ models, model.accountIds ≠ [] ∧ model.accountIds.Nodup) :
    ∀ model ∈ addModel row models, model.accountIds ≠ [] ∧ model.accountIds.Nodup := by
  rw [addModel_eq_upsert]
  apply forall_upsert h
  · exact ⟨List.cons_ne_nil _ [], List.nodup_singleton _⟩
  · intro model hOld
    split
    · exact hOld
    · next hNew =>
      refine ⟨List.append_ne_nil_of_right_ne_nil _ (List.cons_ne_nil _ []), ?_⟩
      rw [← List.concat_eq_append, List.nodup_concat]
      exact ⟨fun hIn => hNew (List.contains_iff_mem.mpr hIn), hOld.2⟩

theorem distinct_addModel (h : (models.map PublishedModel.id).Nodup) :
    ((addModel row models).map PublishedModel.id).Nodup := by
  rw [addModel_eq_upsert]
  refine nodup_upsert (fun _ => Iff.rfl) rfl ?_ h
  intro model
  split <;> rfl

end Models

/-! ## The invariant of the loop -/

/-- What the builder has kept, where `owner` gives the source of each account. -/
structure Closed (owner : String → String) (builder : Builder) : Prop where
  providerIds : ∀ id provider, builder.providers.get id = some provider → provider.id = id
  accountIds : ∀ id account, builder.accounts.get id = some account →
    account.id = id ∧ account.providerId = owner id
  bound : ∀ model binding, Bound builder.routes model binding →
    (builder.providers.get binding.sourceId).isSome ∧
    (builder.accounts.get binding.accountId).isSome ∧
    owner binding.accountId = binding.sourceId
  served : ∀ route ∈ builder.routes, route.bindings ≠ []
  distinctRoutes : (builder.routes.map routeKey).Nodup
  listed : ∀ id accountId, Lists builder.models id accountId ↔
    ∃ binding, Bound builder.routes id binding ∧ binding.accountId = accountId
  accounts : ∀ model ∈ builder.models, model.accountIds ≠ [] ∧ model.accountIds.Nodup
  distinctModels : (builder.models.map PublishedModel.id).Nodup

namespace Closed

variable {owner : String → String} {builder : Builder}

theorem empty : Closed owner {} where
  providerIds id provider h := by cases h
  accountIds id account h := by cases h
  bound model binding h := by
    obtain ⟨route, ⟨⟩, -⟩ := h
  served route h := by cases h
  distinctRoutes := List.nodup_nil
  listed id accountId := by
    constructor
    · rintro ⟨model, ⟨⟩, -⟩
    · rintro ⟨binding, ⟨route, ⟨⟩, -⟩, -⟩
  accounts model h := by cases h
  distinctModels := List.nodup_nil

theorem fail (h : Closed owner builder) (error : String) : Closed owner (builder.fail error) :=
  ⟨h.providerIds, h.accountIds, h.bound, h.served, h.distinctRoutes, h.listed, h.accounts,
    h.distinctModels⟩

theorem withProvider (h : Closed owner builder) {provider : ProviderConfig} {id : String}
    (hId : provider.id = id) :
    Closed owner { builder with providers := builder.providers.insert id provider } where
  providerIds key found hFound := by
    rw [Table.get_insert] at hFound
    split at hFound
    · next hKey =>
      cases hFound
      rw [hId, hKey]
    · exact h.providerIds key found hFound
  accountIds := h.accountIds
  bound model binding hBound := by
    obtain ⟨hProvider, hRest⟩ := h.bound model binding hBound
    refine ⟨?_, hRest⟩
    rw [Table.get_insert]
    split
    · rfl
    · exact hProvider
  served := h.served
  distinctRoutes := h.distinctRoutes
  listed := h.listed
  accounts := h.accounts
  distinctModels := h.distinctModels

theorem withAccount (h : Closed owner builder) {account : AccountConfig} {id : String}
    (hId : account.id = id) (hOwner : account.providerId = owner id) :
    Closed owner (builder.withAccount id account) where
  providerIds := h.providerIds
  accountIds key found hFound := by
    rw [Builder.withAccount, Table.get_insert] at hFound
    split at hFound
    · next hKey =>
      cases hFound
      rw [hKey]
      exact ⟨hId, hOwner⟩
    · exact h.accountIds key found hFound
  bound model binding hBound := by
    obtain ⟨hProvider, hAccount, hSource⟩ := h.bound model binding hBound
    refine ⟨hProvider, ?_, hSource⟩
    rw [Builder.withAccount, Table.get_insert]
    split
    · rfl
    · exact hAccount
  served := h.served
  distinctRoutes := h.distinctRoutes
  listed := h.listed
  accounts := h.accounts
  distinctModels := h.distinctModels

/-- Routes and models take the same binding, whose source and account are there. -/
theorem addBinding (h : Closed owner builder) {row : SnapshotRow} (plan : RowPlan)
    (hProvider : (builder.providers.get row.sourceId).isSome)
    (hAccount : (builder.accounts.get row.accountId).isSome)
    (hOwner : owner row.accountId = row.sourceId) :
    Closed owner (builder.addBinding row plan) where
  providerIds := h.providerIds
  accountIds := h.accountIds
  bound model binding hBound := by
    obtain hOld | ⟨-, rfl⟩ := bound_addRoute.mp hBound
    · exact h.bound model binding hOld
    · exact ⟨hProvider, hAccount, hOwner⟩
  served := served_addRoute h.served
  distinctRoutes := distinct_addRoute h.distinctRoutes
  listed id accountId := by
    change Lists (addModel row builder.models) id accountId ↔
      ∃ binding, Bound (addRoute row (runtimeBinding row plan) builder.routes) id binding ∧
        binding.accountId = accountId
    rw [lists_addModel, h.listed]
    simp only [bound_addRoute]
    constructor
    · rintro (⟨binding, hBound, hAccount⟩ | ⟨rfl, rfl⟩)
      · exact ⟨binding, .inl hBound, hAccount⟩
      · exact ⟨_, .inr ⟨rfl, rfl⟩, rfl⟩
    · rintro ⟨binding, hBound | ⟨rfl, rfl⟩, hAccount⟩
      · exact .inl ⟨binding, hBound, hAccount⟩
      · exact .inr ⟨rfl, hAccount.symm⟩
  accounts := accounts_addModel h.accounts
  distinctModels := distinct_addModel h.distinctModels

theorem providerOf_id (h : Closed owner builder) (row : SnapshotRow) (plan : RowPlan) :
    (builder.providerOf row plan).id = row.sourceId := by
  unfold providerOf
  cases hFound : builder.providers.get row.sourceId with
  | none =>
    dsimp only [Option.getD]
    split <;> rfl
  | some provider =>
    have hId := h.providerIds row.sourceId provider hFound
    dsimp only [Option.getD]
    split <;> exact hId

theorem accountOf_owner (h : Closed owner builder) {row : SnapshotRow}
    (hOwner : owner row.accountId = row.sourceId) :
    (builder.accountOf row).id = row.accountId ∧
    (builder.accountOf row).providerId = owner row.accountId := by
  unfold accountOf
  cases hFound : builder.accounts.get row.accountId with
  | none => exact ⟨rfl, hOwner.symm⟩
  | some account => exact h.accountIds row.accountId account hFound

theorem addAccount (h : Closed owner builder) {row : SnapshotRow} (plan : RowPlan)
    (hProvider : (builder.providers.get row.sourceId).isSome)
    (hOwner : owner row.accountId = row.sourceId) :
    Closed owner (builder.addAccount row plan) := by
  obtain ⟨hId, hSource⟩ := h.accountOf_owner hOwner
  have hHere : ∀ account, ((builder.withAccount row.accountId account).accounts.get
      row.accountId).isSome := by
    intro account
    rw [Builder.withAccount, Table.get_insert, if_pos rfl]
    rfl
  unfold Builder.addAccount
  dsimp only
  split
  · split
    · exact (h.withAccount hId hSource).fail _
    · exact (h.withAccount hId hSource).addBinding plan hProvider (hHere _) hOwner
  · refine addBinding (h.withAccount ?_ ?_) plan hProvider (hHere _) hOwner
    · exact hId
    · exact hSource

theorem addRow (h : Closed owner builder) (service : Service) {row : SnapshotRow}
    (hOwner : owner row.accountId = row.sourceId) :
    Closed owner (builder.addRow service row) := by
  unfold Builder.addRow
  split
  · exact h.fail _
  · exact h
  · next plan _ =>
    have hEntered := h.withProvider (h.providerOf_id row plan)
    unfold addPlanned
    dsimp only
    split
    · exact hEntered.fail _
    · refine hEntered.addAccount plan ?_ hOwner
      rw [Table.get_insert, if_pos rfl]
      rfl

end Closed

theorem closed_foldl {owner : String → String} (service : Service) {rows : List SnapshotRow}
    (hOwner : ∀ row ∈ rows, owner row.accountId = row.sourceId) {builder : Builder}
    (h : Closed owner builder) : Closed owner (rows.foldl (Builder.addRow service) builder) := by
  induction rows generalizing builder with
  | nil => exact h
  | cons row rest ih =>
    rw [List.forall_mem_cons] at hOwner
    exact ih hOwner.2 (h.addRow service hOwner.1)

end Builder

/-! ## The rows of the database -/

/-- The source of an account in the database. -/
def Tables.ownerOf (t : Tables) (accountId : String) : String :=
  ((t.account? accountId).map AccountRow.sourceId).getD ""

theorem owner_of_joinedRow {usable : String → String → Bool} {t : Tables} {route : RouteRow}
    {binding : BindingRow} {row : SnapshotRow} (h : joinedRow usable t route binding = some row) :
    t.ownerOf row.accountId = row.sourceId := by
  obtain ⟨lm, source, account, capability, hJoins, rfl⟩ := joinedRow_eq_some_iff.mp h
  simp only [Tables.ownerOf, rowOf, hJoins.foundAccount, Option.map_some, Option.getD_some,
    hJoins.owner]

theorem owner_of_mem {service : Service} {t : Tables} {row : SnapshotRow}
    (h : row ∈ snapshotRows service t) : t.ownerOf row.accountId = row.sourceId := by
  rw [snapshotRows, orderedRows, List.mem_insertionSort] at h
  simp only [joinedRows, List.mem_flatMap, List.mem_filterMap] at h
  obtain ⟨route, -, binding, -, hRow⟩ := h
  exact owner_of_joinedRow hRow

/-! ## Closed snapshots -/

/-- The configuration finds the source, and the account as one of that source. -/
def Known (config : GatewayConfig) (sourceId accountId : String) : Prop :=
  ∃ provider account, config.provider sourceId = some provider ∧
    config.account accountId = some account ∧ account.providerId = sourceId

structure RuntimeSnapshot.Closed (snapshot : RuntimeSnapshot) (routes : List RuntimeRoute) :
    Prop where
  runtimeRoutes : snapshot.resolver.runtimeRoutes = some routes
  known : ∀ route ∈ routes, ∀ binding ∈ route.bindings,
    Known snapshot.config binding.sourceId binding.accountId
  distinctRoutes : (routes.map routeKey).Nodup
  served : ∀ route ∈ routes, route.bindings ≠ []
  published : ∀ id, id ∈ snapshot.models.map PublishedModel.id ↔
    id ∈ routes.map RuntimeRoute.model
  distinctModels : (snapshot.models.map PublishedModel.id).Nodup
  accounts : ∀ model ∈ snapshot.models, model.accountIds.Nodup ∧ ∀ accountId,
    accountId ∈ model.accountIds ↔
      ∃ binding, Bound routes model.id binding ∧ binding.accountId = accountId

/-- What a loop has put into a table under its own id is found in the sorted list. -/
theorem exists_find_sortedById {α : Type} {id : α → String} {entries : Table String α}
    {key : String} (hIds : ∀ k a, entries.get k = some a → id a = k)
    (h : (entries.get key).isSome) :
    ∃ a, (sortedById id (entries.entries.map Prod.snd)).find? (fun a => id a = key) = some a ∧
      entries.get key = some a := by
  obtain ⟨a, hFound⟩ := Option.isSome_iff_exists.mp h
  have hMem : ∀ b, b ∈ sortedById id (entries.entries.map Prod.snd) ↔
      ∃ k, entries.get k = some b := by
    intro b
    rw [sortedById, List.mem_insertionSort, List.mem_map]
    constructor
    · rintro ⟨⟨k, b⟩, hIn, rfl⟩
      exact ⟨k, entries.mem_entries_iff.mp hIn⟩
    · rintro ⟨k, hGet⟩
      exact ⟨(k, b), entries.mem_entries_iff.mpr hGet, rfl⟩
  cases hFind : (sortedById id (entries.entries.map Prod.snd)).find? (fun a => id a = key) with
  | none =>
    rw [List.find?_eq_none] at hFind
    have hNot := hFind a ((hMem a).mpr ⟨key, hFound⟩)
    simp [hIds key a hFound] at hNot
  | some b =>
    obtain ⟨k, hGet⟩ := (hMem b).mp (List.mem_of_find?_eq_some hFind)
    have hKey := List.find?_some hFind
    rw [decide_eq_true_eq, hIds k b hGet] at hKey
    exact ⟨b, rfl, hKey ▸ hGet⟩

theorem closed_snapshotOf {owner : String → String} {builder : Builder}
    (h : builder.Closed owner) (service : Service) (revision : Int) (generatedAt : DateTime) :
    (snapshotOf service builder revision generatedAt).Closed builder.routes where
  runtimeRoutes := rfl
  known route hRoute binding hBinding := by
    obtain ⟨hProvider, hAccount, hSource⟩ :=
      h.bound route.model binding ⟨route, hRoute, rfl, hBinding⟩
    obtain ⟨provider, hFind, -⟩ := exists_find_sortedById h.providerIds hProvider
    obtain ⟨account, hFindAccount, hGet⟩ :=
      exists_find_sortedById (fun id a hGet => (h.accountIds id a hGet).1) hAccount
    refine ⟨provider, account, hFind, hFindAccount, ?_⟩
    rw [(h.accountIds binding.accountId account hGet).2, hSource]
  distinctRoutes := h.distinctRoutes
  served := h.served
  published id := by
    have hModels : id ∈ ((snapshotOf service builder revision generatedAt).models.map
        PublishedModel.id) ↔ ∃ accountId, Lists builder.models id accountId := by
      simp only [snapshotOf, sortedById, List.mem_map, List.mem_insertionSort]
      constructor
      · rintro ⟨model, hModel, rfl⟩
        obtain ⟨accountId, hIn⟩ := List.exists_mem_of_ne_nil _ (h.accounts model hModel).1
        exact ⟨accountId, model, hModel, rfl, hIn⟩
      · rintro ⟨accountId, model, hModel, hId, -⟩
        exact ⟨model, hModel, hId⟩
    rw [hModels, List.mem_map]
    constructor
    · rintro ⟨accountId, hLists⟩
      obtain ⟨binding, ⟨route, hRoute, hModel, -⟩, -⟩ := (h.listed id accountId).mp hLists
      exact ⟨route, hRoute, hModel⟩
    · rintro ⟨route, hRoute, hModel⟩
      obtain ⟨binding, hIn⟩ := List.exists_mem_of_ne_nil _ (h.served route hRoute)
      exact ⟨binding.accountId,
        (h.listed id binding.accountId).mpr ⟨binding, ⟨route, hRoute, hModel, hIn⟩, rfl⟩⟩
  distinctModels := by
    have hPerm := (List.perm_insertionSort
      (fun a b : PublishedModel => a.id ≤ b.id) builder.models).map PublishedModel.id
    exact hPerm.nodup_iff.mpr h.distinctModels
  accounts model hModel := by
    have hIn : model ∈ builder.models := by
      simpa only [snapshotOf, sortedById, List.mem_insertionSort] using hModel
    refine ⟨(h.accounts model hIn).2, ?_⟩
    intro accountId
    rw [← h.listed]
    constructor
    · intro hAccount
      exact ⟨model, hIn, rfl, hAccount⟩
    · rintro ⟨other, hOther, hId, hAccount⟩
      rwa [← List.inj_on_of_nodup_map h.distinctModels hOther hIn hId]

theorem closed_of_buildSnapshot {service : Service} {t : Tables} {snapshot : RuntimeSnapshot}
    (h : buildSnapshot service t = .ok snapshot) :
    snapshot.Closed (buildRows service (snapshotRows service t)).routes := by
  unfold buildSnapshot at h
  obtain ⟨-, -, hPure⟩ := bind_eq_ok.mp h
  rw [← pure_eq_ok.mp hPure]
  have hBuilt : (buildRows service (snapshotRows service t)).Closed t.ownerOf :=
    Builder.closed_foldl service (fun row hRow => owner_of_mem hRow) Builder.Closed.empty
  exact closed_snapshotOf hBuilt service t.revision t.snapshotUpdatedAt

/-! ## Resolving published models -/

namespace RuntimeSnapshot.Closed

variable {snapshot : RuntimeSnapshot} {routes : List RuntimeRoute}

theorem resolveDetailed_eq (h : snapshot.Closed routes) (protocol : Protocol) (model : String) :
    snapshot.resolver.resolveDetailed protocol model =
      resolveRuntimeRoute routes protocol model := by
  simp only [RouteResolver.resolveDetailed, h.runtimeRoutes]

/-- A resolved route takes its primary and its fallbacks from one runtime route. -/
theorem resolved_known (h : snapshot.Closed routes) {protocol : Protocol} {model : String}
    {route : ResolvedRoute}
    (hRoute : snapshot.resolver.resolveDetailed protocol model = .ok route) :
    Known snapshot.config route.sourceId route.primaryAccountId ∧
    ∀ binding ∈ route.fallbackBindings,
      Known snapshot.config binding.sourceId binding.accountId := by
  rw [h.resolveDetailed_eq] at hRoute
  unfold resolveRuntimeRoute at hRoute
  split at hRoute
  · cases hRoute
  · next found hFind =>
    have hKnown := h.known found (List.mem_of_find?_eq_some hFind)
    split at hRoute
    · cases hRoute
    · next primary fallbacks hBindings =>
      rw [hBindings, List.forall_mem_cons] at hKnown
      cases hRoute
      exact hKnown

/-- Every protocol of a published model resolves. -/
theorem exists_resolved (h : snapshot.Closed routes) {route : RuntimeRoute}
    (hRoute : route ∈ routes) :
    ∃ resolved, snapshot.resolver.resolveDetailed route.protocol route.model = .ok resolved := by
  rw [h.resolveDetailed_eq]
  unfold resolveRuntimeRoute
  split
  · next hNone =>
    rw [List.find?_eq_none] at hNone
    have hNot := hNone route hRoute
    simp at hNot
  · next found hFind =>
    have hServed := h.served found (List.mem_of_find?_eq_some hFind)
    split
    · next hNil => exact absurd hNil hServed
    · exact ⟨_, rfl⟩

end RuntimeSnapshot.Closed

end AiGateway.ControlPlane
