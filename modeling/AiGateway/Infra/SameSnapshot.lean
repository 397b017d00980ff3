import AiGateway.Base.Order
import AiGateway.ControlPlane.Loadable
import AiGateway.Infra.Reproduced
import Mathlib.Data.List.Perm.Basic

/-!
# The snapshot of reproduced tables

Tables reproduced by a restore produce the snapshot of the original tables, up to
the ciphertexts that are gone.  The documents a snapshot reads are unharmed by the
redaction, the query joins the same rows and sorts them the same way, and the
builder goes through the same steps.
-/

namespace AiGateway.Ops

set_option autoImplicit false

open AiGateway.Catalog AiGateway.Checked AiGateway.Config AiGateway.ControlPlane AiGateway.Health
  AiGateway.Json AiGateway.Order AiGateway.Routing

section Documents

variable {urls : Urls} (hUrls : urls.NeedsScheme)

/-! ## Documents that keep their meaning -/

theorem get_sanitizeFields {key : String} (hKey : isSensitiveKey key = false) (fields : Fields) :
    Fields.get (sanitizeFields urls fields) key =
      (Fields.get fields key).map (sanitizeMember urls) := by
  induction fields with
  | nil => rfl
  | cons head rest ih =>
    obtain ⟨name, value⟩ := head
    rw [sanitizeFields]
    rcases Decidable.em (name = key) with rfl | hNe
    · simp [Fields.get, hKey, sanitizeMember]
    · have hBeq : (name == key) = false := by simpa using hNe
      simp only [Fields.get, List.find?_cons, hBeq] at ih ⊢
      exact ih

theorem isPlainText_of_protocolOfName {name : String} {protocol : Protocol}
    (h : protocolOfName name = some protocol) :
    isPlainText name = true ∧ isSensitiveKey name = false := by
  have hName : protocol.toText = name := by
    simpa using List.find?_some h
  subst hName
  cases protocol <;> exact ⟨by decide, by decide⟩

include hUrls

theorem sanitizeMember_of_isPlainText {text : String} (h : isPlainText text = true) :
    sanitizeMember urls (.string text) = .string text := by
  have hSecret : looksLikeSecret text = false := by
    simp only [isPlainText, Bool.and_eq_true, Bool.not_eq_true'] at h
    exact h.1
  simp [sanitizeMember, sanitizeJson, hideSecret, sanitizeString_of_isPlainText hUrls h, hSecret]

/-- A support level that can be read is not redacted. -/
theorem modeFromCatalog_sanitizeMember {value : Option Value} {mode : CapabilityMode}
    (h : modeFromCatalog value = .ok mode) :
    modeFromCatalog (value.map (sanitizeMember urls)) = .ok mode := by
  match value, h with
  | none, h => exact h
  | some (.bool true), h => exact h
  | some (.bool false), h => exact h
  | some (.string text), h =>
    have hText : isPlainText text = true := by
      simp only [modeFromCatalog] at h
      split at h
      · next hName => obtain rfl | rfl := hName <;> decide
      · split at h
        · next hName => subst hName; decide
        · split at h
          · next hName => obtain rfl | rfl := hName <;> decide
          · cases h
    rw [Option.map_some, sanitizeMember_of_isPlainText hUrls hText]
    exact h
  | some .null, h => cases h
  | some (.number _), h => cases h
  | some (.array _), h => cases h
  | some (.object _), h => cases h

theorem capabilitiesFromCatalog_sanitizeMember {value : Value} {capabilities : Capabilities}
    (h : capabilitiesFromCatalog value = .ok capabilities) :
    capabilitiesFromCatalog (sanitizeMember urls value) = .ok capabilities := by
  cases value with
  | null => exact h
  | object fields =>
    have hMode : ∀ {key : String} {mode : CapabilityMode}, isSensitiveKey key = false →
        modeFromCatalog (Fields.get fields key) = .ok mode →
        modeFromCatalog (Fields.get (sanitizeFields urls fields) key) = .ok mode := by
      intro key mode hKey hMode
      rw [get_sanitizeFields hKey]
      exact modeFromCatalog_sanitizeMember hUrls hMode
    simp only [capabilitiesFromCatalog, bind_eq_ok, pure_eq_ok] at h
    obtain ⟨_, h1, _, h2, _, h3, _, h4, _, h5, _, h6, _, h7, _, h8, rfl⟩ := h
    simp only [sanitizeMember, sanitizeJson, hideSecret, capabilitiesFromCatalog, bind_eq_ok,
      pure_eq_ok]
    exact ⟨_, hMode (by decide) h1, _, hMode (by decide) h2, _, hMode (by decide) h3,
      _, hMode (by decide) h4, _, hMode (by decide) h5, _, hMode (by decide) h6,
      _, hMode (by decide) h7, _, hMode (by decide) h8, rfl⟩
  | bool b => cases h
  | number n => cases h
  | string text => cases h
  | array items => cases h

theorem capabilitiesFromCatalog_twice {value : Value} {capabilities : Capabilities}
    (h : capabilitiesFromCatalog value = .ok capabilities) :
    capabilitiesFromCatalog (twice urls value) = .ok capabilities := by
  rw [twice]
  exact capabilitiesFromCatalog_sanitizeMember hUrls
    (capabilitiesFromCatalog_sanitizeMember hUrls h)

theorem sanitizeJson_of_protocolOfValue {value : Value} {protocol : Protocol}
    (h : protocolOfValue value = some protocol) : sanitizeJson urls value = value := by
  match value, h with
  | .string name, h =>
    have hName := isPlainText_of_protocolOfName h
    rw [sanitizeJson, sanitizeString_of_isPlainText hUrls hName.1]
  | .object [(name, .null)], h =>
    have hName := isPlainText_of_protocolOfName h
    simp [sanitizeJson, sanitizeFields, hName.2, hideSecret]

theorem protocolsOfValue_twice {value : Value} {protocols : List Protocol}
    (h : protocolsOfValue value = some protocols) : twice urls value = value := by
  cases value with
  | array items =>
    have hItems : sanitizeItems urls items = items := by
      simp only [protocolsOfValue] at h
      induction items generalizing protocols with
      | nil => rfl
      | cons item rest ih =>
        rw [List.mapM_cons] at h
        obtain ⟨protocol, hItem, hRest⟩ := Option.bind_eq_some_iff.mp h
        obtain ⟨others, hOthers, -⟩ := Option.bind_eq_some_iff.mp hRest
        rw [sanitizeItems, sanitizeJson_of_protocolOfValue hUrls hItem, ih hOthers]
    simp [twice, sanitizeMember, sanitizeJson, hideSecret, hItems]
  | _ => cases h

end Documents

/-! ## The same rows -/

/-- What a restore changes in a row of the snapshot query. -/
def redactedRow (urls : Urls) (row : SnapshotRow) : SnapshotRow :=
  { row with
    credentialCiphertext := none
    featureCapabilities := twice urls row.featureCapabilities }

section Joined

variable {urls : Urls} {t t' : Tables} (hUrls : urls.NeedsScheme) (h : Reproduced urls t t')
  (hKeys : t.Keys) (hSound : t.Sound)

include hUrls h hKeys hSound

theorem Reproduced.joinedRow {route : RouteRow} (hRoute : route ∈ t.routes) (binding : BindingRow) :
    joinedRow t'.isUsable t' (redactedRoute urls route) binding =
      (joinedRow t.isUsable t route binding).map (redactedRow urls) := by
  obtain ⟨protocols, hProtocols⟩ := hSound.protocols route hRoute
  have hRead : twice urls route.protocols = route.protocols := protocolsOfValue_twice hUrls hProtocols
  have hUsable : t'.isUsable = t.isUsable := by
    funext sourceId upstreamModelId
    exact h.isUsable hKeys sourceId upstreamModelId
  have hLogical : (route.logicalModelId.bind t'.logicalModel?) =
      (route.logicalModelId.bind t.logicalModel?).map (redactedLogicalModel urls) := by
    cases route.logicalModelId with
    | none => rfl
    | some id => exact h.logicalModel? hKeys id
  simp only [ControlPlane.joinedRow, redactedRoute, hRead, hUsable, hLogical, h.source? hKeys,
    h.account? hKeys, h.capability? hKeys]
  cases route.logicalModelId.bind t.logicalModel? with
  | none => simp
  | some lm =>
    cases t.source? binding.sourceId with
    | none => simp
    | some source =>
      cases t.account? binding.accountId with
      | none => simp
      | some account =>
        cases t.capability? binding.sourceId binding.upstreamModelId binding.protocol with
        | none => simp
        | some capability =>
          simp only [Option.map_some, Option.bind_eq_bind, Option.bind_some, Option.map_bind,
            Function.comp_def]
          rfl

theorem Reproduced.joinedRows :
    (joinedRows t'.isUsable t').Perm ((joinedRows t.isUsable t).map (redactedRow urls)) := by
  have hRoute : ∀ route ∈ t.routes,
      (t'.bindings.filterMap (ControlPlane.joinedRow t'.isUsable t' (redactedRoute urls route))).Perm
        ((t.bindings.filterMap (ControlPlane.joinedRow t.isUsable t route)).map
          (redactedRow urls)) := by
    intro route hRoute
    rw [List.map_filterMap]
    refine (h.bindings.filterMap _).trans (.of_eq ?_)
    exact List.filterMap_congr fun binding _ => h.joinedRow hUrls hKeys hSound hRoute binding
  unfold ControlPlane.joinedRows
  rw [List.map_flatMap]
  refine (h.routes.flatMap_right _).trans ?_
  rw [List.flatMap_map]
  exact List.Perm.flatMap_left _ hRoute

end Joined

/-! ## The same order -/

/-- Native before adapter. -/
def nativeFirst (a b : Bool) : Bool := a || !b

def bindingOrder (a b : SnapshotRow) : Bool := a.bindingId ≤ b.bindingId

theorem before_eq_thenBy (collation : String → String → Bool) :
    SnapshotRow.before collation =
      thenBy SnapshotRow.routeId collation
        (thenBy SnapshotRow.protocol (fun a b => protocolRank a ≤ protocolRank b)
          (thenBy SnapshotRow.priority (fun a b => b ≤ a)
            (thenBy (fun row => decide (row.mode = .native)) nativeFirst bindingOrder))) := by
  funext a b
  simp only [SnapshotRow.before, thenBy, nativeFirst, bindingOrder]
  rcases Decidable.em (a.mode = .native) with hA | hA
  · rcases Decidable.em (b.mode = .native) with hB | hB
    · simp [hA, hB]
    · simp [hA, hB]
  · rcases Decidable.em (b.mode = .native) with hB | hB
    · simp [hA, hB]
    · simp [hA, hB]

theorem linear_protocolRank :
    Linear fun a b : Protocol => decide (protocolRank a ≤ protocolRank b) := by
  refine ⟨⟨?_, ?_⟩, ?_⟩
  · intro a b
    simp only [decide_eq_true_eq]
    omega
  · intro a b c
    simp only [decide_eq_true_eq]
    omega
  · intro a b
    cases a <;> cases b <;> decide

theorem linear_falling : Linear fun a b : Int => decide (b ≤ a) := by
  refine ⟨⟨?_, ?_⟩, ?_⟩
  · intro a b
    simp only [decide_eq_true_eq]
    omega
  · intro a b c
    simp only [decide_eq_true_eq]
    omega
  · intro a b
    simp only [decide_eq_true_eq]
    omega

theorem linear_nativeFirst : Linear nativeFirst := by
  refine ⟨⟨?_, ?_⟩, ?_⟩
  · decide
  · decide
  · decide

theorem preorder_bindingOrder : Preorder bindingOrder := by
  constructor
  · intro a b
    simp only [bindingOrder, decide_eq_true_eq]
    omega
  · intro a b c
    simp only [bindingOrder, decide_eq_true_eq]
    omega

theorem preorder_before {collation : String → String → Bool} (h : Linear collation) :
    Preorder (SnapshotRow.before collation) := by
  rw [before_eq_thenBy]
  exact h.thenBy (linear_protocolRank.thenBy (linear_falling.thenBy
    (linear_nativeFirst.thenBy preorder_bindingOrder)))

theorem ids_of_before {collation : String → String → Bool} (h : Linear collation)
    {a b : SnapshotRow} (hAB : SnapshotRow.before collation a b = true)
    (hBA : SnapshotRow.before collation b a = true) :
    a.routeId = b.routeId ∧ a.bindingId = b.bindingId := by
  rw [before_eq_thenBy] at hAB hBA
  obtain ⟨hRoute, hAB, hBA⟩ := h.eq_of_thenBy hAB hBA
  obtain ⟨-, hAB, hBA⟩ := linear_protocolRank.eq_of_thenBy hAB hBA
  obtain ⟨-, hAB, hBA⟩ := linear_falling.eq_of_thenBy hAB hBA
  obtain ⟨-, hAB, hBA⟩ := linear_nativeFirst.eq_of_thenBy hAB hBA
  simp only [bindingOrder, decide_eq_true_eq] at hAB hBA
  exact ⟨hRoute, le_antisymm hAB hBA⟩

/-- A row is determined by its route and its binding. -/
theorem joinedRows_eq_of_ids {usable : String → String → Bool} {t : Tables} (hKeys : t.Keys)
    {a b : SnapshotRow} (hA : a ∈ joinedRows usable t) (hB : b ∈ joinedRows usable t)
    (hRoute : a.routeId = b.routeId) (hBinding : a.bindingId = b.bindingId) : a = b := by
  have hIds : ∀ {route : RouteRow} {binding : BindingRow} {row : SnapshotRow},
      joinedRow usable t route binding = some row →
      row.routeId = route.id ∧ row.bindingId = binding.id := by
    intro route binding row hRow
    simp only [joinedRow, Option.bind_eq_bind, Option.bind_eq_some_iff, Option.guard_eq_some',
      Option.pure_def, Option.some.injEq] at hRow
    obtain ⟨⟨⟩, -, lm, -, ⟨⟩, -, source, -, account, -, ⟨⟩, -, capability, -, ⟨⟩, -, rfl⟩ := hRow
    exact ⟨rfl, rfl⟩
  simp only [joinedRows, List.mem_flatMap, List.mem_filterMap] at hA hB
  obtain ⟨routeA, hRouteA, bindingA, hBindingA, hRowA⟩ := hA
  obtain ⟨routeB, hRouteB, bindingB, hBindingB, hRowB⟩ := hB
  obtain ⟨hRouteIdA, hBindingIdA⟩ := hIds hRowA
  obtain ⟨hRouteIdB, hBindingIdB⟩ := hIds hRowB
  obtain rfl : routeA = routeB := List.inj_on_of_nodup_map hKeys.routes hRouteA hRouteB
    (hRouteIdA ▸ hRouteIdB ▸ hRoute)
  obtain rfl : bindingA = bindingB := List.inj_on_of_nodup_map hKeys.bindings hBindingA hBindingB
    (hBindingIdA ▸ hBindingIdB ▸ hBinding)
  exact Option.some.inj (hRowA.symm.trans hRowB)

theorem Reproduced.snapshotRows {urls : Urls} {t t' : Tables} (hUrls : urls.NeedsScheme)
    (h : Reproduced urls t t') (hKeys : t.Keys) (hSound : t.Sound) {service : Service}
    (hCollation : Linear service.collation) :
    snapshotRows service t' = (snapshotRows service t).map (redactedRow urls) := by
  unfold ControlPlane.snapshotRows orderedRows
  rw [List.map_insertionSort _ (fun a b => SnapshotRow.before service.collation a b = true)]
  · refine insertionSort_eq_of_perm (preorder_before hCollation) ?_
      (h.joinedRows hUrls hKeys hSound)
    intro a hA b hB hAB hBA
    obtain ⟨oldA, hOldA, rfl⟩ := List.mem_map.mp hA
    obtain ⟨oldB, hOldB, rfl⟩ := List.mem_map.mp hB
    obtain ⟨hRoute, hBinding⟩ := ids_of_before hCollation hAB hBA
    rw [joinedRows_eq_of_ids hKeys hOldA hOldB hRoute hBinding]
  · exact fun _ _ _ _ => Iff.rfl

/-! ## The same steps of the builder -/

def withoutCiphertexts (builder : Builder) : Builder :=
  { builder with accounts := builder.accounts.mapValues AccountConfig.withoutCiphertext }

section Build

variable {urls : Urls} {service : Service}

theorem planRow_redactedRow (hUrls : urls.NeedsScheme) {row : SnapshotRow}
    (h : readableFeatures row.featureCapabilities) :
    planRow service (redactedRow urls row) = planRow service row := by
  obtain ⟨capabilities, hRead⟩ := h
  have hTwice := capabilitiesFromCatalog_twice hUrls hRead
  have hPlan : planUpstream (redactedRow urls row) = planUpstream row := by
    funext endpoints upstream
    unfold planUpstream
    rw [show capabilitiesFromCatalog (redactedRow urls row).featureCapabilities = .ok capabilities
      from hTwice, hRead]
    rfl
  unfold planRow
  rw [hPlan]
  rfl

theorem accountOf_redactedRow (builder : Builder) (row : SnapshotRow) :
    (withoutCiphertexts builder).accountOf (redactedRow urls row) =
      AccountConfig.withoutCiphertext (builder.accountOf row) := by
  simp only [Builder.accountOf, withoutCiphertexts, redactedRow, Table.get_mapValues]
  cases builder.accounts.get row.accountId with
  | none => rfl
  | some account => rfl

theorem addRoute_redactedRow (row : SnapshotRow) (binding : RuntimeBinding)
    (routes : List RuntimeRoute) :
    Builder.addRoute (redactedRow urls row) binding routes = Builder.addRoute row binding routes := by
  induction routes with
  | nil => rfl
  | cons route rest ih =>
    rw [Builder.addRoute, Builder.addRoute, ih]
    rfl

theorem addModel_redactedRow (row : SnapshotRow) (models : List PublishedModel) :
    Builder.addModel (redactedRow urls row) models = Builder.addModel row models := by
  induction models with
  | nil => rfl
  | cons model rest ih =>
    rw [Builder.addModel, Builder.addModel, ih]
    rfl

theorem addBinding_redactedRow (builder : Builder) (row : SnapshotRow) (plan : RowPlan) :
    (withoutCiphertexts builder).addBinding (redactedRow urls row) plan =
      withoutCiphertexts (builder.addBinding row plan) := by
  simp only [Builder.addBinding, addRoute_redactedRow, addModel_redactedRow]
  rfl

theorem withAccount_withoutCiphertexts (builder : Builder) (id : String) (account : AccountConfig) :
    (withoutCiphertexts builder).withAccount id (AccountConfig.withoutCiphertext account) =
      withoutCiphertexts (builder.withAccount id account) := by
  simp only [Builder.withAccount, withoutCiphertexts, Table.insert_mapValues]

theorem addAccount_redactedRow (builder : Builder) (row : SnapshotRow) (plan : RowPlan) :
    (withoutCiphertexts builder).addAccount (redactedRow urls row) plan =
      withoutCiphertexts (builder.addAccount row plan) := by
  have hModel : ∀ account : AccountConfig,
      (AccountConfig.withoutCiphertext account).modelMap = account.modelMap := fun _ => rfl
  unfold Builder.addAccount
  dsimp only
  rw [accountOf_redactedRow, hModel, show (redactedRow urls row).publicName = row.publicName from rfl]
  cases (builder.accountOf row).modelMap.get row.publicName with
  | none =>
    exact (congrArg (fun b : Builder => b.addBinding (redactedRow urls row) plan)
      (withAccount_withoutCiphertexts builder row.accountId { builder.accountOf row with
        modelMap := (builder.accountOf row).modelMap.insert row.publicName
          row.upstreamModelId })).trans (addBinding_redactedRow _ row plan)
  | some existing =>
    have hAccount := withAccount_withoutCiphertexts builder row.accountId (builder.accountOf row)
    have hBinding := (congrArg (fun b : Builder => b.addBinding (redactedRow urls row) plan)
      hAccount).trans (addBinding_redactedRow _ row plan)
    dsimp only
    rw [apply_ite withoutCiphertexts]
    exact if_congr Iff.rfl (congrArg (Builder.fail · _) hAccount) hBinding

theorem addRow_redactedRow (hUrls : urls.NeedsScheme) (builder : Builder) {row : SnapshotRow}
    (h : readableFeatures row.featureCapabilities) :
    (withoutCiphertexts builder).addRow service (redactedRow urls row) =
      withoutCiphertexts (builder.addRow service row) := by
  unfold Builder.addRow
  rw [planRow_redactedRow hUrls h]
  cases planRow service row with
  | error error => rfl
  | ok served =>
    cases served with
    | none => rfl
    | some plan =>
      dsimp only [Builder.addPlanned]
      rw [show (redactedRow urls row).weight = row.weight from rfl]
      split
      · rfl
      · exact addAccount_redactedRow { builder with
          providers := builder.providers.insert row.sourceId (builder.providerOf row plan) } row plan

theorem buildRows_redactedRow (hUrls : urls.NeedsScheme) {rows : List SnapshotRow}
    (h : ∀ row ∈ rows, readableFeatures row.featureCapabilities) :
    buildRows service (rows.map (redactedRow urls)) =
      withoutCiphertexts (buildRows service rows) := by
  suffices hFold : ∀ builder : Builder,
      (rows.map (redactedRow urls)).foldl (Builder.addRow service) (withoutCiphertexts builder) =
        withoutCiphertexts (rows.foldl (Builder.addRow service) builder) from hFold {}
  induction rows with
  | nil => exact fun _ => rfl
  | cons row rest ih =>
    intro builder
    rw [List.map_cons, List.foldl_cons, List.foldl_cons,
      addRow_redactedRow hUrls builder (h row List.mem_cons_self)]
    exact ih (fun row hRow => h row (List.mem_cons_of_mem _ hRow)) _

end Build

/-! ## The same snapshot -/

theorem fingerprintInput_withoutCiphertexts (service : Service) (builder : Builder)
    (revision revision' : Int) (generatedAt generatedAt' : DateTime) :
    fingerprintInput (snapshotOf service (withoutCiphertexts builder) revision' generatedAt') =
      fingerprintInput (snapshotOf service builder revision generatedAt) := by
  have hValues : (builder.accounts.mapValues AccountConfig.withoutCiphertext).entries.map Prod.snd =
      (builder.accounts.entries.map Prod.snd).map AccountConfig.withoutCiphertext := by
    simp [Table.mapValues]
  have hSorted : sortedById AccountConfig.id
        ((builder.accounts.entries.map Prod.snd).map AccountConfig.withoutCiphertext) =
      (sortedById AccountConfig.id (builder.accounts.entries.map Prod.snd)).map
        AccountConfig.withoutCiphertext := by
    unfold sortedById
    rw [List.map_insertionSort _ (fun a b => a.id ≤ b.id)]
    exact fun _ _ _ _ => Iff.rfl
  have hTwice : ∀ accounts : List AccountConfig,
      (accounts.map AccountConfig.withoutCiphertext).map AccountConfig.withoutCiphertext =
        accounts.map AccountConfig.withoutCiphertext := by
    intro accounts
    rw [List.map_map]
    rfl
  simp only [fingerprintInput, snapshotOf, withoutCiphertexts, hValues, hSorted, hTwice]

theorem validatePersistedSourceUrls_eq_ok {service : Service} {t : Tables} :
    validatePersistedSourceUrls service t = .ok () ↔
      ∀ row ∈ t.sources, service.validateBaseUrl row.baseUrl = .ok () := by
  unfold validatePersistedSourceUrls
  rw [collected_eq_ok, List.filterMap_eq_nil_iff]
  simp only [List.mem_insertionSort]
  refine forall₂_congr fun row _ => ?_
  cases service.validateBaseUrl row.baseUrl with
  | ok _ => simp
  | error error => simp

theorem validateCapabilityChains_eq_ok {service : Service} {t : Tables} :
    validateCapabilityChains service t = .ok () ↔
      ∀ row ∈ t.capabilities, row.status = .confirmed → row.mode.isRoutable = true →
        ∀ source, t.source? row.sourceId = some source →
          capabilityChainErrors service t row source = [] := by
  constructor
  · exact fun h row hRow hStatus hMode source hSource =>
      chainErrors_of_validate h hRow hStatus hMode hSource
  · intro h
    unfold validateCapabilityChains
    rw [collected_eq_ok, List.flatMap_eq_nil_iff]
    intro row hRow
    rw [List.mem_insertionSort, List.mem_filter] at hRow
    simp only [Bool.and_eq_true, decide_eq_true_eq] at hRow
    split
    · rfl
    · next source hSource => exact h row hRow.1 hRow.2.1 hRow.2.2 source hSource

section Load

variable {urls : Urls} {service : Service} {t t' : Tables} (h : Reproduced urls t t')
  (hKeys : t.Keys)

include h

theorem Reproduced.policy (hUrls : validatePersistedSourceUrls service t = .ok ()) :
    validatePersistedSourceUrls service t' = .ok () := by
  rw [validatePersistedSourceUrls_eq_ok] at hUrls ⊢
  exact forall_reproduced h.sources hUrls

include hKeys

theorem Reproduced.chains (hChains : validateCapabilityChains service t = .ok ()) :
    validateCapabilityChains service t' = .ok () := by
  rw [validateCapabilityChains_eq_ok] at hChains ⊢
  refine forall_reproduced h.capabilities fun row hRow hStatus hMode source hSource => ?_
  have hFind : (t.source? row.sourceId).map (redactedSource urls) = some source :=
    (h.source? hKeys row.sourceId).symm.trans hSource
  obtain ⟨old, hOld, rfl⟩ := Option.map_eq_some_iff.mp hFind
  have hSame : capabilityChainErrors service t' (redactedCapability urls row)
      (redactedSource urls old) = capabilityChainErrors service t row old := by
    simp only [capabilityChainErrors, adapterChainErrors, h.capability? hKeys, Option.any_map]
    rfl
  rw [hSame]
  exact hChains row hRow hStatus hMode old hOld

theorem Reproduced.loadSnapshot (hUrls : urls.NeedsScheme) (hSound : t.Sound)
    (hCollation : Linear service.collation) {snapshot : RuntimeSnapshot}
    (hLoad : loadSnapshot service t = .ok snapshot) :
    ∃ snapshot', loadSnapshot service t' = .ok snapshot' ∧
      fingerprintInput snapshot' = fingerprintInput snapshot := by
  simp only [ControlPlane.loadSnapshot, buildSnapshot, bind_eq_ok, collected_eq_ok, pure_eq_ok]
    at hLoad ⊢
  obtain ⟨⟨⟩, hPolicy, ⟨⟩, hChains, ⟨⟩, hErrors, rfl⟩ := hLoad
  have hReadable : ∀ row ∈ ControlPlane.snapshotRows service t,
      readableFeatures row.featureCapabilities := by
    intro row hRow
    rw [ControlPlane.snapshotRows, orderedRows, List.mem_insertionSort] at hRow
    obtain ⟨capability, hCapability, -, -, -, -, hFeatures, -⟩ := (rowOrigin_of_mem hRow).capability
    rw [hFeatures]
    exact hSound.features capability hCapability
  have hRows : buildRows service (ControlPlane.snapshotRows service t') =
      withoutCiphertexts (buildRows service (ControlPlane.snapshotRows service t)) := by
    rw [h.snapshotRows hUrls hKeys hSound hCollation]
    exact buildRows_redactedRow hUrls hReadable
  rw [hRows]
  refine ⟨_, ⟨(), h.policy hPolicy, (), h.chains hKeys hChains, (), hErrors, rfl⟩, ?_⟩
  exact fingerprintInput_withoutCiphertexts service _ _ _ _ _

end Load

end AiGateway.Ops
