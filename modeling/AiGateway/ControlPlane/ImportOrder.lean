import AiGateway.ControlPlane.Import
import AiGateway.Domain.Overrides

/-!
# Importing a configuration whose maps have no order

An import looks overrides up for the models of its routes, and reads everything
else of the configuration as it stands.
-/

namespace AiGateway.ControlPlane

set_option autoImplicit false

open AiGateway.Checked AiGateway.Config AiGateway.Config.GatewayConfig AiGateway.Health
  AiGateway.Json

section Steps

variable {α σ ε : Type}

theorem foldlM_forall₂ {R : α → α → Prop} {f g : σ → α → Except ε σ} {l l' : List α}
    (h : List.Forall₂ R l l') (hStep : ∀ s a b, R a b → f s a = g s b) (s : σ) :
    l.foldlM f s = l'.foldlM g s := by
  induction h generalizing s with
  | nil => rfl
  | cons hHead _ ih =>
    rw [List.foldlM_cons, List.foldlM_cons, hStep s _ _ hHead]
    exact congrArg _ (funext ih)

theorem foldlM_congr {f g : σ → α → Except ε σ} {l : List α}
    (hStep : ∀ s, ∀ a ∈ l, f s a = g s a) (s : σ) : l.foldlM f s = l.foldlM g s := by
  induction l generalizing s with
  | nil => rfl
  | cons a l ih =>
    rw [List.foldlM_cons, List.foldlM_cons, hStep s a List.mem_cons_self]
    exact congrArg _ (funext fun s => ih (fun s b hb => hStep s b (List.mem_cons_of_mem a hb)) s)

end Steps

section Import

variable {now : DateTime} {readAuth : Value → Option Value} {c c' : GatewayConfig}

theorem routeModels_reordered (h : Reordered c c') (route : RouteConfig) :
    routeModels c route = routeModels c' route := by
  have hProvider := provider_reordered h route.providerId
  unfold routeModels
  generalize c.provider route.providerId = p at hProvider ⊢
  generalize c'.provider route.providerId = p' at hProvider ⊢
  cases hProvider with
  | none => rfl
  | some hBoth =>
    obtain ⟨-, _, -, rfl⟩ := hBoth
    rfl

theorem expandRouteModels_reordered (h : Reordered c c') (route : RouteConfig) :
    expandRouteModels c route = expandRouteModels c' route := by
  have hProvider := provider_reordered h route.providerId
  unfold expandRouteModels
  rw [routeModels_reordered h]
  generalize c.provider route.providerId = p at hProvider ⊢
  generalize c'.provider route.providerId = p' at hProvider ⊢
  cases hProvider with
  | none => rfl
  | some hBoth => rfl

theorem importAccountProtocol_reordered (h : Reordered c c') {model : String}
    (hSettled : c.SettledFor model) (storedId : String) (account : AccountConfig)
    (order : Overrides) (upstreamModelId : String) (priority : Int) (db : Db)
    (protocol : Protocol) :
    importAccountProtocol now c storedId model account upstreamModelId priority db protocol =
      importAccountProtocol now c' storedId model { account with modelOverrides := order }
        upstreamModelId priority db protocol := by
  unfold importAccountProtocol ensureImportedCapability
  simp only [protocolCapability_reordered h hSettled, capabilities_reordered h hSettled]
  rfl

theorem importRouteAccount_reordered (h : Reordered c c') {model : String}
    (hSettled : c.SettledFor model) (route : RouteConfig) (storedId : String) (db : Db)
    (entry : String × Nat) :
    importRouteAccount now c route storedId model db entry =
      importRouteAccount now c' route storedId model db entry := by
  obtain ⟨accountId, index⟩ := entry
  have hAccount := account_reordered h accountId
  unfold importRouteAccount
  dsimp only
  generalize c.account accountId = a at hAccount ⊢
  generalize c'.account accountId = a' at hAccount ⊢
  cases hAccount with
  | none => rfl
  | @some account _ hBoth =>
    obtain ⟨-, order, -, rfl⟩ := hBoth
    have hStep (upstreamModelId : String) (priority : Int) :
        importAccountProtocol now c storedId model account upstreamModelId priority =
          importAccountProtocol now c' storedId model { account with modelOverrides := order }
            upstreamModelId priority :=
      funext fun db => funext fun protocol =>
        importAccountProtocol_reordered h hSettled storedId account order upstreamModelId priority
          db protocol
    simp only [require, bind, Except.bind, hStep]

theorem importRouteModel_reordered (h : Reordered c c') (route : RouteConfig)
    (models : List String) (db : Db) {entry : String × Nat} (hSettled : c.SettledFor entry.1) :
    importRouteModel now c route models db entry =
      importRouteModel now c' route models db entry := by
  have hAccounts (storedId : String) : importRouteAccount now c route storedId entry.1 =
      importRouteAccount now c' route storedId entry.1 :=
    funext fun db => funext fun pair => importRouteAccount_reordered h hSettled route storedId db pair
  unfold importRouteModel
  simp only [hAccounts]

/-- Every model that the routes stand for is looked up alike in every order. -/
def ImportSettled (c : GatewayConfig) : Prop :=
  ∀ route ∈ c.routes, ∀ model ∈ routeModels c route, c.SettledFor model

theorem models_of_expandRouteModels {route : RouteConfig} {models : List String}
    (h : expandRouteModels c route = .ok models) : models = routeModels c route := by
  rw [expandRouteModels] at h
  obtain ⟨_, -, h⟩ := bind_eq_ok.mp h
  obtain ⟨_, -, h⟩ := bind_eq_ok.mp h
  exact (pure_eq_ok.mp h).symm

theorem importRoute_reordered (h : Reordered c c') {route : RouteConfig}
    (hSettled : ∀ model ∈ routeModels c route, c.SettledFor model) (db : Db) :
    importRoute now c db route = importRoute now c' db route := by
  rw [importRoute, importRoute, ← expandRouteModels_reordered h]
  -- the error is taken out first: the loops of both sides are not to be compared
  cases hModels : expandRouteModels c route with
  | error error => simp only [bind, Except.bind]
  | ok models =>
    simp only [bind, Except.bind]
    refine foldlM_congr (fun db entry hEntry => ?_) db
    apply importRouteModel_reordered h
    rw [models_of_expandRouteModels hModels] at hEntry
    exact hSettled entry.1 (List.fst_mem_of_mem_zipIdx hEntry)

theorem importGatewayConfig_reordered (h : Reordered c c') (hSettled : ImportSettled c)
    (db : Db) : importGatewayConfig now readAuth c db = importGatewayConfig now readAuth c' db := by
  have hSources (db : Db) : c.providers.foldlM (importSource now readAuth) db =
      c'.providers.foldlM (importSource now readAuth) db := by
    apply foldlM_forall₂ h.providers
    rintro db p _ ⟨order, -, rfl⟩
    rfl
  have hAccounts (db : Db) : c.accounts.foldlM (importAccount now) db =
      c'.accounts.foldlM (importAccount now) db := by
    apply foldlM_forall₂ h.accounts
    rintro db a _ ⟨order, -, rfl⟩
    rfl
  have hRoutes (db : Db) : c.routes.foldlM (importRoute now c) db =
      c'.routes.foldlM (importRoute now c') db := by
    rw [h.routes]
    exact foldlM_congr (fun db route hRoute => importRoute_reordered h (hSettled route hRoute) db)
      db
  simp only [importGatewayConfig, hSources, hAccounts, hRoutes]

theorem configErrors_reordered (h : Reordered c c') (service : Service)
    (hSettled : ∀ route ∈ c.routes, c.SettledFor route.model) :
    (configErrors service c).Perm (configErrors service c') := by
  refine (validationErrors_reordered h hSettled).append ?_
  apply flatten_mapIdx_perm h.providers
  rintro i p _ ⟨order, -, rfl⟩
  exact .refl _

theorem credentials_reordered (h : Reordered c c') :
    (c.accounts.all fun account => account.credential.isNone) =
      c'.accounts.all fun account => account.credential.isNone := by
  have hAccounts := h.accounts
  generalize c.accounts = accounts at hAccounts ⊢
  generalize c'.accounts = accounts' at hAccounts ⊢
  induction hAccounts with
  | nil => rfl
  | cons hHead _ ih =>
    obtain ⟨order, -, rfl⟩ := hHead
    rw [List.all_cons, List.all_cons, ih]

theorem initializeFromConfig_reordered (h : Reordered c c')
    (hRoutes : ∀ route ∈ c.routes, c.SettledFor route.model) (hSettled : ImportSettled c)
    (service : Service) (force : Bool) (db : Db) (result : Option Committed) :
    initializeFromConfig now service readAuth c force db = .ok result ↔
      initializeFromConfig now service readAuth c' force db = .ok result := by
  have hErrors := configErrors_reordered h service hRoutes
  unfold initializeFromConfig
  rw [credentials_reordered h]
  simp only [importGatewayConfig_reordered h hSettled]
  by_cases hNone : configErrors service c = []
  · have hNone' : configErrors service c' = [] := (hNone ▸ hErrors).nil_eq.symm
    rw [collected, collected, if_pos hNone, if_pos hNone']
  · have hNone' : configErrors service c' ≠ [] := fun hNil => hNone (hNil ▸ hErrors).eq_nil
    rw [collected, collected, if_neg hNone, if_neg hNone']
    constructor
    · intro hResult
      cases hResult
    · intro hResult
      cases hResult

end Import

/-! ## Readings of one configuration -/

/-- What two readings of a configuration agree on, where the lookups are settled. -/
structure SameReadings (c c' : GatewayConfig) : Prop where
  capability : ∀ model, c.SettledFor model → ∀ providerId accountId protocol,
    c.protocolCapability providerId accountId model protocol =
      c'.protocolCapability providerId accountId model protocol
  validate : (∀ route ∈ c.routes, c.SettledFor route.model) →
    (c.validate = .ok () ↔ c'.validate = .ok ()) ∧ c.validationErrors.Perm c'.validationErrors
  imports : (∀ route ∈ c.routes, c.SettledFor route.model) → ImportSettled c →
    ∀ now service readAuth force db result,
      initializeFromConfig now service readAuth c force db = .ok result ↔
        initializeFromConfig now service readAuth c' force db = .ok result

theorem override_order (overrides : Overrides) (model : String) (c c' : GatewayConfig) :
    (OrderFree overrides model ↔ Settled overrides model) ∧
      (Reordered c c' → SameReadings c c') := by
  refine ⟨orderFree_iff, fun h => ?_⟩
  constructor
  · intro model hSettled providerId accountId protocol
    exact protocolCapability_reordered h hSettled providerId accountId protocol
  · intro hSettled
    have hErrors := validationErrors_reordered h hSettled
    refine ⟨?_, hErrors⟩
    simp only [GatewayConfig.validate, hErrors.isEmpty_eq]
    split
    · exact Iff.rfl
    · constructor
      · intro hResult
        cases hResult
      · intro hResult
        cases hResult
  · intro hRoutes hSettled now service readAuth force db result
    exact initializeFromConfig_reordered h hRoutes hSettled service force db result

namespace Overlapping

def chat (capability : ProtocolCapability) : ModelCapabilityOverride :=
  { protocolCapabilities := Table.empty.insert .openAiChatCompletions capability }

/-- Both patterns match the model, and the longer one makes it native. -/
def overrides : Overrides :=
  (Table.empty.insert "m*" (chat .native)).insert "*" (chat .unsupported)

def reversed : Overrides :=
  (Table.empty.insert "*" (chat .unsupported)).insert "m*" (chat .native)

def config (overrides : Overrides) : GatewayConfig where
  listenAddr := "127.0.0.1:8080"
  providers := [
    { id := "p"
      name := "p"
      baseUrl := "https://upstream"
      models := ["m1"]
      endpoints := Table.empty.insert .openAiChatCompletions "/v1/chat/completions"
      modelOverrides := overrides }]
  accounts := [{ id := "a", providerId := "p", displayName := "a" }]
  routes := [
    { id := "r"
      model := "m1"
      providerId := "p"
      protocols := [.openAiChatCompletions]
      primaryAccountId := "a" }]

theorem reordered : Config.Reordered overrides reversed := List.Perm.swap _ _ _

theorem config_reordered {t u : Overrides} (h : Config.Reordered t u) :
    Reordered (config t) (config u) where
  listenAddr := rfl
  providers := .cons ⟨u, h, rfl⟩ .nil
  accounts := .cons ⟨.empty, .refl _, rfl⟩ .nil
  routes := rfl

end Overlapping

/-- One reading accepts the configuration and the other rejects it. -/
theorem overlapping_overrides :
    ¬ OrderFree Overlapping.overrides "m1" ∧
      ∃ c c' : GatewayConfig, Reordered c c' ∧
        c.protocolCapability "p" (some "a") "m1" .openAiChatCompletions ≠
          c'.protocolCapability "p" (some "a") "m1" .openAiChatCompletions ∧
        c.validate = .ok () ∧ c'.validate ≠ .ok () := by
  have hCapability : (Overlapping.config Overlapping.overrides).protocolCapability "p" (some "a")
      "m1" .openAiChatCompletions ≠
        (Overlapping.config Overlapping.reversed).protocolCapability "p" (some "a") "m1"
          .openAiChatCompletions := by decide
  have hAccepted : (Overlapping.config Overlapping.overrides).validate = .ok () := by
    decide
  have hRejected : (Overlapping.config Overlapping.reversed).validate ≠ .ok () := by
    decide
  constructor
  · intro hFree
    have hFirst := hFree Overlapping.overrides (List.Perm.refl _)
    have hSecond := hFree Overlapping.reversed Overlapping.reordered
    have hModes := congrArg (Option.map fun entry : ModelCapabilityOverride =>
      (entry.protocolCapabilities.get .openAiChatCompletions).map ProtocolCapability.mode)
      (hFirst.unique hSecond)
    exact absurd hModes (by decide)
  · exact ⟨Overlapping.config Overlapping.overrides, Overlapping.config Overlapping.reversed,
      Overlapping.config_reordered Overlapping.reordered, hCapability, hAccepted, hRejected⟩

theorem override_order_exact :
    SameReadings
      (Overlapping.config ((Table.empty.insert "m1" (Overlapping.chat .native)).insert "*"
        (Overlapping.chat .unsupported)))
      (Overlapping.config ((Table.empty.insert "*" (Overlapping.chat .unsupported)).insert "m1"
        (Overlapping.chat .native))) :=
  (override_order Overlapping.overrides "m1" _ _).2
    (Overlapping.config_reordered (List.Perm.swap _ _ _))

end AiGateway.ControlPlane
