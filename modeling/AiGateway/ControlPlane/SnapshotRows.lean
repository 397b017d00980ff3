import AiGateway.ControlPlane.Service

/-!
# When a snapshot is built without errors

The loop over the query rows keeps one upstream model per account and public
name: that of the first row with both.  A list of rows is built without errors
exactly when every row can be planned, the accounts of the served rows have a
positive weight, and every served row of a route that is not tried in order has
the upstream model of the first one.
-/

namespace AiGateway.ControlPlane

set_option autoImplicit false

open AiGateway.Catalog AiGateway.Checked AiGateway.Config AiGateway.Json AiGateway.Routing
  AiGateway.Text

/-! ## Joined rows -/

section Joins

variable (usable : String → String → Bool) (t : Tables) (route : RouteRow) (binding : BindingRow)
  (lm : LogicalModelRow) (source : SourceRow) (account : AccountRow) (capability : CapabilityRow)

/-- The joins and the conditions of the query hold for these stored rows. -/
structure Joins : Prop where
  routeEnabled : route.enabled = true
  foundModel : route.logicalModelId.bind t.logicalModel? = some lm
  modelEnabled : lm.enabled = true
  modelConfirmed : lm.status = .confirmed
  sameModel : binding.logicalModelId = lm.id
  live : binding.isLive = true
  foundSource : t.source? binding.sourceId = some source
  foundAccount : t.account? binding.accountId = some account
  owner : account.sourceId = binding.sourceId
  usableModel : usable binding.sourceId binding.upstreamModelId = true
  foundCapability : t.capability? binding.sourceId binding.upstreamModelId binding.protocol =
    some capability
  capabilityConfirmed : capability.status = .confirmed
  routable : capability.mode.isRoutable = true

/-- The row that is read from them. -/
def rowOf : SnapshotRow where
  routeId := route.id
  strategy := route.strategy
  requestTimeoutMs := lm.requestTimeoutMs
  maxRetries := lm.maxRetries
  publicName := lm.publicName
  displayName := lm.displayName
  routeProtocols := route.protocols
  allowLossyConversion := route.allowLossyConversion
  bindingId := binding.id
  priority := binding.priority
  sourceId := binding.sourceId
  providerPresetId := source.providerPresetId
  sourceDisplayName := source.displayName
  baseUrl := source.baseUrl
  endpoints := source.endpoints
  accountId := binding.accountId
  accountDisplayName := account.displayName
  credentialEnv := account.credentialEnv
  credentialCiphertext := account.credentialCiphertext
  accountEnabled := account.enabled
  sourceEnabled := source.enabled
  weight := account.weight
  upstreamModelId := binding.upstreamModelId
  protocol := binding.protocol
  mode := capability.mode
  sourceProtocol := capability.sourceProtocol
  adapter := capability.adapter
  featureCapabilities := capability.featureCapabilities

variable {usable t route binding lm source account capability}

theorem joinedRow_eq_some_iff {row : SnapshotRow} :
    joinedRow usable t route binding = some row ↔ ∃ lm source account capability,
      Joins usable t route binding lm source account capability ∧
        row = rowOf route binding lm source account capability := by
  constructor
  · intro h
    unfold joinedRow at h
    simp only [Option.bind_eq_bind, Option.bind_eq_some_iff, Option.guard_eq_some',
      Option.pure_def, Option.some.injEq] at h
    obtain ⟨⟨⟩, hRoute, lm, hModel, ⟨⟩, ⟨hEnabled, hConfirmed, hBinding, hLive⟩, source, hSource,
      account, hAccount, ⟨⟩, ⟨hOwner, hUsable⟩, capability, hCapability, ⟨⟩, ⟨hStatus, hMode⟩,
      rfl⟩ := h
    refine ⟨lm, source, account, capability, ⟨hRoute, ?_, hEnabled, hConfirmed, hBinding, hLive,
      hSource, hAccount, hOwner, hUsable, hCapability, hStatus, hMode⟩, rfl⟩
    obtain ⟨modelId, hId, hFound⟩ := hModel
    rw [hId]
    exact hFound
  · rintro ⟨lm, source, account, capability, h, rfl⟩
    simp only [joinedRow, h.routeEnabled, h.foundModel, h.modelEnabled, h.modelConfirmed,
      h.sameModel, h.live, h.foundSource, h.foundAccount, h.owner, h.usableModel,
      h.foundCapability, h.capabilityConfirmed, h.routable, and_self, Option.bind_eq_bind,
      Option.bind_some, guard_true, Option.pure_def]
    rfl

end Joins

/-! ## Upstream models -/

/-- The upstream model the builder holds for an account and a public name. -/
def Builder.modelOf (builder : Builder) (accountId publicName : String) : Option String :=
  (builder.accounts.get accountId).bind fun account => account.modelMap.get publicName

/-- The first row of an account and a public name. -/
def leader (rows : List SnapshotRow) (accountId publicName : String) : Option SnapshotRow :=
  rows.find? fun row => row.accountId = accountId ∧ row.publicName = publicName

def leaderModel (rows : List SnapshotRow) (accountId publicName : String) : Option String :=
  (leader rows accountId publicName).map SnapshotRow.upstreamModelId

/-- Rows of routes that are not tried in order follow the first row of their
account and public name. -/
def Agreeing (rows : List SnapshotRow) : Prop :=
  ∀ row ∈ rows, row.strategy ≠ "ordered_fallback" →
    leaderModel rows row.accountId row.publicName = some row.upstreamModelId

def isServed (service : Service) (row : SnapshotRow) : Bool :=
  match planRow service row with
  | .ok (some _) => true
  | _ => false

namespace Builder

theorem modelMap_accountOf (builder : Builder) (row : SnapshotRow) (publicName : String) :
    (builder.accountOf row).modelMap.get publicName =
      builder.modelOf row.accountId publicName := by
  unfold accountOf modelOf
  cases builder.accounts.get row.accountId with
  | none => rfl
  | some account => rfl

/-- A row that does not conflict leaves its account with the model it had for
the name, or with the row's own. -/
def noted (seen : String → String → Option String) (row : SnapshotRow) :
    String → String → Option String := fun accountId publicName =>
  (seen accountId publicName).or
    (if row.accountId = accountId ∧ row.publicName = publicName
     then some row.upstreamModelId else none)

def Conflicts (builder : Builder) (row : SnapshotRow) : Prop :=
  ∃ existing ∈ builder.modelOf row.accountId row.publicName,
    existing ≠ row.upstreamModelId ∧ row.strategy ≠ "ordered_fallback"

theorem addAccount_of_conflicts {builder : Builder} {row : SnapshotRow} {plan : RowPlan}
    (h : builder.Conflicts row) : (builder.addAccount row plan).errors ≠ [] := by
  obtain ⟨existing, hModel, hNe⟩ := h
  have hMap := builder.modelMap_accountOf row row.publicName
  rw [Option.mem_def] at hModel
  rw [hModel] at hMap
  simp [addAccount, hMap, hNe, fail]

def withAccount (builder : Builder) (id : String) (account : AccountConfig) : Builder :=
  { builder with accounts := builder.accounts.insert id account }

theorem modelOf_withAccount (builder : Builder) (id : String) (account : AccountConfig)
    (accountId publicName : String) :
    (builder.withAccount id account).modelOf accountId publicName =
      if accountId = id then account.modelMap.get publicName
      else builder.modelOf accountId publicName := by
  simp only [modelOf, withAccount, Table.get_insert]
  split <;> rfl

theorem addAccount_of_agrees {builder : Builder} {row : SnapshotRow} (plan : RowPlan)
    (h : ¬ builder.Conflicts row) :
    (builder.addAccount row plan).errors = builder.errors ∧
    (builder.addAccount row plan).modelOf = noted builder.modelOf row := by
  have hMap := builder.modelMap_accountOf row
  cases hModel : builder.modelOf row.accountId row.publicName with
  | some existing =>
    have hAgree : ¬ (existing ≠ row.upstreamModelId ∧ row.strategy ≠ "ordered_fallback") :=
      fun hNe => h ⟨existing, hModel, hNe⟩
    have hEq : builder.addAccount row plan =
        (builder.withAccount row.accountId (builder.accountOf row)).addBinding row plan := by
      simp only [addAccount, hMap, hModel]
      rw [if_neg hAgree]
      rfl
    rw [hEq]
    refine ⟨rfl, ?_⟩
    funext accountId publicName
    change (builder.withAccount _ _).modelOf accountId publicName = _
    rw [modelOf_withAccount, noted]
    split
    · next hAccount =>
      subst hAccount
      rw [hMap publicName]
      cases hOld : builder.modelOf row.accountId publicName with
      | some model => rfl
      | none =>
        have hName : row.publicName ≠ publicName := by
          rintro rfl
          rw [hOld] at hModel
          cases hModel
        simp [hName]
    · next hAccount => simp [Ne.symm hAccount]
  | none =>
    have hEq : builder.addAccount row plan =
        (builder.withAccount row.accountId { builder.accountOf row with
          modelMap := (builder.accountOf row).modelMap.insert row.publicName
            row.upstreamModelId }).addBinding row plan := by
      simp only [addAccount, hMap, hModel]
      rfl
    rw [hEq]
    refine ⟨rfl, ?_⟩
    funext accountId publicName
    change (builder.withAccount _ _).modelOf accountId publicName = _
    rw [modelOf_withAccount, noted]
    split
    · next hAccount =>
      subst hAccount
      rw [Table.get_insert, hMap publicName]
      split
      · next hName =>
        subst hName
        simp [hModel]
      · next hName => simp [Ne.symm hName]
    · next hAccount => simp [Ne.symm hAccount]

/-- One row either adds an error, is skipped, or notes its model. -/
theorem addRow_cases (service : Service) (builder : Builder) (row : SnapshotRow)
    (hErrors : builder.errors = []) :
    ((∀ plan, planRow service row ≠ .ok plan) ∨
      (isServed service row = true ∧ (row.weight ≤ 0 ∨ builder.Conflicts row))) ∧
      (builder.addRow service row).errors ≠ [] ∨
    planRow service row = .ok none ∧ builder.addRow service row = builder ∨
    isServed service row = true ∧ 0 < row.weight ∧ ¬ builder.Conflicts row ∧
      (builder.addRow service row).errors = [] ∧
      (builder.addRow service row).modelOf = noted builder.modelOf row := by
  cases hPlan : planRow service row with
  | error error => exact .inl ⟨.inl (by simp), by simp [addRow, hPlan, fail]⟩
  | ok served =>
    cases served with
    | none => exact .inr (.inl ⟨rfl, by simp [addRow, hPlan]⟩)
    | some plan =>
      have hServed : isServed service row = true := by simp [isServed, hPlan]
      -- the provider entered before the checks on the account plays no part in them
      obtain ⟨entered, hAccounts, hKept, hEq⟩ : ∃ entered : Builder,
          entered.accounts = builder.accounts ∧ entered.errors = [] ∧
          builder.addRow service row = if row.weight ≤ 0
            then entered.fail ("account '" ++ row.accountId ++ "' has non-positive weight")
            else entered.addAccount row plan := by
        refine ⟨{ builder with
          providers := builder.providers.insert row.sourceId (builder.providerOf row plan) },
          rfl, hErrors, ?_⟩
        simp only [addRow, hPlan, addPlanned]
      have hModelOf : entered.modelOf = builder.modelOf := by
        funext accountId publicName
        rw [modelOf, modelOf, hAccounts]
      have hSame : entered.Conflicts row ↔ builder.Conflicts row := by
        simp only [Conflicts, hModelOf]
      rw [hEq]
      split
      · next hWeight => exact .inl ⟨.inr ⟨hServed, .inl hWeight⟩, by simp [fail]⟩
      · next hWeight =>
        rcases Classical.em (builder.Conflicts row) with hConflict | hAgree
        · exact .inl ⟨.inr ⟨hServed, .inr hConflict⟩,
            addAccount_of_conflicts (hSame.mpr hConflict)⟩
        · obtain ⟨hErrors', hNoted⟩ :=
            addAccount_of_agrees plan (fun h => hAgree (hSame.mp h))
          exact .inr (.inr ⟨hServed, by omega, hAgree, hErrors'.trans hKept,
            hNoted.trans (by rw [hModelOf])⟩)

theorem errors_addAccount (builder : Builder) (row : SnapshotRow) (plan : RowPlan) :
    builder.errors <+: (builder.addAccount row plan).errors := by
  unfold addAccount
  dsimp only
  split
  · split
    · exact List.prefix_append _ _
    · exact List.prefix_rfl
  · exact List.prefix_rfl

theorem errors_addRow (service : Service) (builder : Builder) (row : SnapshotRow) :
    builder.errors <+: (builder.addRow service row).errors := by
  unfold addRow
  split
  · exact List.prefix_append _ _
  · exact List.prefix_rfl
  · next plan _ =>
    unfold addPlanned
    dsimp only
    split
    · exact List.prefix_append _ _
    · exact errors_addAccount { builder with
        providers := builder.providers.insert row.sourceId (builder.providerOf row plan) } row plan

theorem errors_foldl_ne_nil (service : Service) (rows : List SnapshotRow) {builder : Builder}
    (h : builder.errors ≠ []) : (rows.foldl (addRow service) builder).errors ≠ [] := by
  induction rows generalizing builder with
  | nil => exact h
  | cons row rows ih =>
    apply ih
    intro hNil
    have hPrefix := errors_addRow service builder row
    rw [hNil] at hPrefix
    exact h (List.prefix_nil.mp hPrefix)

theorem leaderModel_append_singleton (seen : List SnapshotRow) (row : SnapshotRow) :
    leaderModel (seen ++ [row]) = noted (leaderModel seen) row := by
  funext accountId publicName
  simp only [leaderModel, leader, noted, List.find?_append, Option.map_or]
  congr 1
  simp only [List.find?_singleton, decide_eq_true_eq]
  split <;> rfl

theorem leaderModel_of_some {seen more : List SnapshotRow} {accountId publicName model : String}
    (h : leaderModel seen accountId publicName = some model) :
    leaderModel (seen ++ more) accountId publicName = some model := by
  simp only [leaderModel, leader, List.find?_append, Option.map_or] at h ⊢
  rw [h]
  rfl

/-- The rows still to come, after rows already seen. -/
structure Acceptable (service : Service) (seen rows : List SnapshotRow) : Prop where
  planned : ∀ row ∈ rows, ∃ plan, planRow service row = .ok plan
  weighted : ∀ row ∈ rows.filter (isServed service), 0 < row.weight
  agreeing : ∀ row ∈ rows.filter (isServed service), row.strategy ≠ "ordered_fallback" →
    leaderModel (seen ++ rows.filter (isServed service)) row.accountId row.publicName =
      some row.upstreamModelId

theorem acceptable_cons_skipped {service : Service} {seen rows : List SnapshotRow}
    {row : SnapshotRow} (hPlan : planRow service row = .ok none) :
    Acceptable service seen (row :: rows) ↔ Acceptable service seen rows := by
  have hServed : isServed service row = false := by simp [isServed, hPlan]
  have hFilter : (row :: rows).filter (isServed service) = rows.filter (isServed service) := by
    simp [hServed]
  constructor
  · rintro ⟨hPlanned, hWeighted, hAgreeing⟩
    rw [hFilter] at hWeighted hAgreeing
    exact ⟨fun r hr => hPlanned r (List.mem_cons_of_mem row hr), hWeighted, hAgreeing⟩
  · rintro ⟨hPlanned, hWeighted, hAgreeing⟩
    refine ⟨?_, by rwa [hFilter], by rwa [hFilter]⟩
    intro r hr
    obtain rfl | hr := List.mem_cons.mp hr
    · exact ⟨none, hPlan⟩
    · exact hPlanned r hr

theorem acceptable_cons_served {service : Service} {seen rows : List SnapshotRow}
    {row : SnapshotRow} (hServed : isServed service row = true) (hWeight : 0 < row.weight)
    (hAgree : row.strategy ≠ "ordered_fallback" →
      ∀ model ∈ leaderModel seen row.accountId row.publicName, model = row.upstreamModelId) :
    Acceptable service seen (row :: rows) ↔ Acceptable service (seen ++ [row]) rows := by
  have hFilter : (row :: rows).filter (isServed service) =
      row :: rows.filter (isServed service) := by
    simp [hServed]
  have hShift : seen ++ row :: rows.filter (isServed service) =
      seen ++ [row] ++ rows.filter (isServed service) := by
    simp
  constructor
  · rintro ⟨hPlanned, hWeighted, hAgreeing⟩
    rw [hFilter] at hWeighted
    rw [hFilter, hShift] at hAgreeing
    exact ⟨fun r hr => hPlanned r (List.mem_cons_of_mem row hr),
      fun r hr => hWeighted r (List.mem_cons_of_mem row hr),
      fun r hr => hAgreeing r (List.mem_cons_of_mem row hr)⟩
  · rintro ⟨hPlanned, hWeighted, hAgreeing⟩
    refine ⟨?_, ?_, ?_⟩
    · intro r hr
      obtain rfl | hr := List.mem_cons.mp hr
      · unfold isServed at hServed
        split at hServed
        · next plan hPlan => exact ⟨some plan, hPlan⟩
        · cases hServed
      · exact hPlanned r hr
    · rw [hFilter]
      intro r hr
      obtain rfl | hr := List.mem_cons.mp hr
      · exact hWeight
      · exact hWeighted r hr
    · rw [hFilter, hShift]
      intro r hr hStrategy
      obtain rfl | hr := List.mem_cons.mp hr
      · apply leaderModel_of_some
        rw [leaderModel_append_singleton, noted]
        cases hOld : leaderModel seen r.accountId r.publicName with
        | none => simp
        | some model =>
          rw [hAgree hStrategy model hOld]
          rfl
      · exact hAgreeing r hr hStrategy

/-- The loop ends without errors exactly on acceptable rows. -/
theorem errors_foldl_eq_nil_iff (service : Service) (rows : List SnapshotRow) :
    ∀ (seen : List SnapshotRow) (builder : Builder), builder.errors = [] →
      builder.modelOf = leaderModel seen →
      ((rows.foldl (addRow service) builder).errors = [] ↔ Acceptable service seen rows) := by
  induction rows with
  | nil =>
    intro seen builder hErrors _
    exact ⟨fun _ => ⟨by simp, by simp, by simp⟩, fun _ => hErrors⟩
  | cons row rows ih =>
    intro seen builder hErrors hModelOf
    rw [List.foldl_cons]
    obtain ⟨hBad, hStep⟩ | ⟨hPlan, hStep⟩ | ⟨hServed, hWeight, hAgree, hStep, hNoted⟩ :=
      addRow_cases service builder row hErrors
    · refine iff_of_false (errors_foldl_ne_nil service rows hStep) ?_
      rintro ⟨hPlanned, hWeighted, hAgreeing⟩
      obtain hUnplanned | ⟨hServed, hLight | ⟨existing, hModel, hNe, hStrategy⟩⟩ := hBad
      · obtain ⟨plan, hPlan⟩ := hPlanned row List.mem_cons_self
        exact hUnplanned plan hPlan
      · have hHeavy := hWeighted row (List.mem_filter.mpr ⟨List.mem_cons_self, hServed⟩)
        omega
      · have hLeader := hAgreeing row (List.mem_filter.mpr ⟨List.mem_cons_self, hServed⟩) hStrategy
        rw [hModelOf] at hModel
        rw [leaderModel_of_some hModel, Option.some_inj] at hLeader
        exact hNe hLeader
    · rw [hStep, ih seen builder hErrors hModelOf, acceptable_cons_skipped hPlan]
    · rw [acceptable_cons_served hServed hWeight]
      · apply ih (seen ++ [row]) _ hStep
        rw [hNoted, hModelOf, leaderModel_append_singleton]
      · intro hStrategy model hModel
        rw [← hModelOf] at hModel
        exact Classical.byContradiction fun hNe => hAgree ⟨model, hModel, hNe, hStrategy⟩

end Builder

/-- Rows that all can be planned and whose accounts have a positive weight are
built without errors exactly when the served ones agree. -/
theorem buildRows_errors_iff {service : Service} {rows : List SnapshotRow}
    (hPlanned : ∀ row ∈ rows, ∃ plan, planRow service row = .ok plan)
    (hWeighted : ∀ row ∈ rows, 0 < row.weight) :
    (buildRows service rows).errors = [] ↔ Agreeing (rows.filter (isServed service)) := by
  rw [buildRows, Builder.errors_foldl_eq_nil_iff service rows [] {} rfl rfl]
  constructor
  · intro h
    exact h.agreeing
  · intro h
    exact ⟨hPlanned, fun row hRow => hWeighted row (List.mem_filter.mp hRow).1, h⟩

end AiGateway.ControlPlane
