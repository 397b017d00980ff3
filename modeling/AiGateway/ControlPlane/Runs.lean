import AiGateway.ControlPlane.Loadable

/-!
# Runs of the control plane

Every operation that commits, the states a sequence of them goes through, and
when all of these states can be loaded.
-/

namespace AiGateway.ControlPlane

set_option autoImplicit false

open AiGateway.Catalog AiGateway.Checked AiGateway.Health AiGateway.Json

/-- The operations that commit through a snapshot. -/
inductive Write where
  | createSource (input : SourceWrite)
  | updateSource (id : String) (input : SourceWrite)
  | setSourceEnabled (id : String) (enabled : Bool)
  | deleteSource (id : String)
  | createAccount (input : AccountWrite)
  | updateAccount (id : String) (input : AccountWrite)
  | setAccountEnabled (id : String) (enabled : Bool)
  | rotateAccountCredential (rotate : String → String → String → Option String) (id : String)
  | deleteAccount (id : String)
  | createLogicalModel (input : LogicalModelWrite)
  | updateLogicalModel (id : String) (input : LogicalModelWrite)
  | setLogicalModelEnabled (id : String) (enabled : Bool)
  | deleteLogicalModel (id : String)
  | createModelBinding (input : ModelBindingWrite)
  | updateModelBinding (id : Int) (input : ModelBindingWrite)
  | setModelBindingEnabled (id : Int) (enabled : Bool)
  | deleteModelBinding (id : Int)
  | createRoute (input : RouteWrite)
  | updateRoute (id : String) (input : RouteWrite)
  | setRouteEnabled (id : String) (enabled : Bool)
  | deleteRoute (id : String)
  | upsertSourceModelCapability (input : SourceModelCapabilityInput)
  | createModelRouting (input : ModelRoutingWrite) (modelUuid routeUuid : String)
  | putModelRouting (id : String) (input : ModelRoutingWrite) (routeUuid : String)

def commitWrite (service : Service) (now : DateTime) (db : Db) :
    Write → Except ControlPlaneError Committed
  | .createSource input => createSource service now input db
  | .updateSource id input => updateSource service now id input db
  | .setSourceEnabled id enabled => setSourceEnabled service now id enabled db
  | .deleteSource id => deleteSource service now id db
  | .createAccount input => createAccount service now input db
  | .updateAccount id input => updateAccount service now id input db
  | .setAccountEnabled id enabled => setAccountEnabled service now id enabled db
  | .rotateAccountCredential rotate id => rotateAccountCredential service now rotate id db
  | .deleteAccount id => deleteAccount service now id db
  | .createLogicalModel input => createLogicalModel service now input db
  | .updateLogicalModel id input => updateLogicalModel service now id input db
  | .setLogicalModelEnabled id enabled => setLogicalModelEnabled service now id enabled db
  | .deleteLogicalModel id => deleteLogicalModel service now id db
  | .createModelBinding input => createModelBinding service now input db
  | .updateModelBinding id input => updateModelBinding service now id input db
  | .setModelBindingEnabled id enabled => setModelBindingEnabled service now id enabled db
  | .deleteModelBinding id => deleteModelBinding service now id db
  | .createRoute input => createRoute service now input db
  | .updateRoute id input => updateRoute service now id input db
  | .setRouteEnabled id enabled => setRouteEnabled service now id enabled db
  | .deleteRoute id => deleteRoute service now id db
  | .upsertSourceModelCapability input => upsertSourceModelCapability now service input db
  | .createModelRouting input modelUuid routeUuid =>
    createModelRouting service now input modelUuid routeUuid db
  | .putModelRouting id input routeUuid => putModelRouting service now id input routeUuid db

theorem commitWrite_from {service : Service} {now : DateTime} {db : Db} {P : Db → Prop}
    (hP : StatementInvariant P) (h : P db) (write : Write) :
    Ensures (commitWrite service now db write) (CommitsFrom service now P) := by
  cases write with
  | createSource input => exact createSource_from hP h input
  | updateSource id input => exact updateSource_from hP h id input
  | setSourceEnabled id enabled => exact setSourceEnabled_from hP h id enabled
  | deleteSource id => exact deleteSource_from hP h id
  | createAccount input => exact createAccount_from hP h input
  | updateAccount id input => exact updateAccount_from hP h id input
  | setAccountEnabled id enabled => exact setAccountEnabled_from hP h id enabled
  | rotateAccountCredential rotate id => exact rotateAccountCredential_from hP h rotate id
  | deleteAccount id => exact deleteAccount_from hP h id
  | createLogicalModel input => exact createLogicalModel_from hP h input
  | updateLogicalModel id input => exact updateLogicalModel_from hP h id input
  | setLogicalModelEnabled id enabled => exact setLogicalModelEnabled_from hP h id enabled
  | deleteLogicalModel id => exact deleteLogicalModel_from hP h id
  | createModelBinding input => exact createModelBinding_from hP h input
  | updateModelBinding id input => exact updateModelBinding_from hP h id input
  | setModelBindingEnabled id enabled => exact setModelBindingEnabled_from hP h id enabled
  | deleteModelBinding id => exact deleteModelBinding_from hP h id
  | createRoute input => exact createRoute_from hP h input
  | updateRoute id input => exact updateRoute_from hP h id input
  | setRouteEnabled id enabled => exact setRouteEnabled_from hP h id enabled
  | deleteRoute id => exact deleteRoute_from hP h id
  | upsertSourceModelCapability input => exact upsertSourceModelCapability_from hP h input
  | createModelRouting input modelUuid routeUuid => exact writeModelRouting_from hP h _ input true _
  | putModelRouting id input routeUuid => exact writeModelRouting_from hP h id input false routeUuid

theorem commitWrite_good {service : Service} {now : DateTime} {db : Db} (h : db.Sound)
    (write : Write) :
    Ensures (commitWrite service now db write) fun committed => Good service committed.db := by
  intro committed hCommit
  obtain ⟨edited, hSound, hFinish⟩ :=
    commitWrite_from statementInvariant_sound h write committed hCommit
  exact finishWrite_good hSound committed hFinish

inductive Action where
  | write (request : Write)
  | updateSourceModelUserOverrides (sourceId upstreamModelId : String)
      (overrides : MetadataValues)
  | confirmSourceModels (sourceId : String) (confirmations : List SourceModelConfirmation)
  | applyDiscovery (input : DiscoveryApplyInput)
  /-- A rejected transaction leaves the rows alone, but the binding numbers it
  drew are gone. -/
  | rejected (drawn : Nat)

def Action.run (service : Service) (now : DateTime) (db : Db) :
    Action → Except ControlPlaneError Db
  | .write request => Committed.db <$> commitWrite service now db request
  | .updateSourceModelUserOverrides sourceId upstreamModelId overrides =>
    (ControlPlane.updateSourceModelUserOverrides now sourceId upstreamModelId overrides
      db).mapError .ofCatalog
  | .confirmSourceModels sourceId confirmations =>
    (ControlPlane.confirmSourceModels now sourceId confirmations db).mapError .ofCatalog
  | .applyDiscovery input => (ControlPlane.applyDiscovery now input db).mapError .ofCatalog
  | .rejected drawn =>
    statement (enforce { db.toTables with nextBindingId := db.nextBindingId + drawn })

/-- What an action can do: commit a write, change source models, or use up binding
numbers. -/
theorem Action.run_cases {service : Service} {now : DateTime} {db db' : Db} {action : Action}
    (h : action.run service now db = .ok db') :
    (∃ request committed, action = .write request ∧
        commitWrite service now db request = .ok committed ∧ db' = committed.db) ∨
      ((∀ request, action ≠ .write request) ∧ (OnlyModels db db' ∨ ∃ drawn : Nat,
        db'.toTables = { db.toTables with nextBindingId := db.nextBindingId + drawn })) := by
  cases action with
  | write request =>
    left
    cases hCommit : commitWrite service now db request with
    | error error =>
      rw [Action.run, hCommit] at h
      cases h
    | ok committed =>
      rw [Action.run, hCommit] at h
      cases h
      exact ⟨request, committed, rfl, hCommit, rfl⟩
  | updateSourceModelUserOverrides sourceId upstreamModelId overrides =>
    have hStep := updateSourceModelUserOverrides_confirming now db _ _ _ db' (mapError_ok.mp h)
    exact .inr ⟨fun _ => Action.noConfusion, .inl hStep.only⟩
  | confirmSourceModels sourceId confirmations =>
    have hStep := confirmSourceModels_confirming now db _ _ db' (mapError_ok.mp h)
    exact .inr ⟨fun _ => Action.noConfusion, .inl hStep.only⟩
  | applyDiscovery input =>
    have hStep := applyDiscovery_listed now input db db' (mapError_ok.mp h)
    exact .inr ⟨fun _ => Action.noConfusion, .inl hStep.only⟩
  | rejected drawn =>
    have hTables := enforce_ok (mapError_ok.mp h)
    exact .inr ⟨fun _ => Action.noConfusion, .inr ⟨drawn, hTables⟩⟩

/-- A run and its steps, each with the state it was taken in. -/
inductive Run (service : Service) (start : Db) : List (Db × Action) → Db → Prop where
  | start : Run service start [] start
  | step {history : List (Db × Action)} {db db' : Db} {now : DateTime} {action : Action}
      (before : Run service start history db) (next : action.run service now db = .ok db') :
      Run service start (history ++ [(db, action)]) db'

/-- The control plane before its first write: only presets are there. -/
structure Tables.IsEmpty (t : Tables) : Prop where
  sources : t.sources = []
  accounts : t.accounts = []
  sourceModels : t.sourceModels = []
  capabilities : t.capabilities = []
  logicalModels : t.logicalModels = []
  bindings : t.bindings = []
  routes : t.routes = []

theorem good_of_isEmpty {service : Service} {db : Db} (h : db.IsEmpty) : Good service db := by
  have hJoined : snapshotRows service db.toTables = [] := by
    simp [snapshotRows, joinedRows, h.routes, orderedRows]
  refine ⟨⟨?_, ?_, ?_, ?_⟩, loadable_iff.mpr ⟨?_, ?_, ?_⟩⟩
  · simp [h.accounts]
  · simp [h.capabilities]
  · simp [h.routes]
  · simp [h.bindings]
  · simp [validatePersistedSourceUrls, h.sources, collected]
  · simp [validateCapabilityChains, h.capabilities, collected]
  · rw [hJoined]
    rfl

/-- What an action must meet to leave a loadable state. -/
def Action.Safe (service : Service) (db : Db) : Action → Prop
  | .applyDiscovery input => NoModelConflict service db.toTables input
  | _ => True

theorem Action.run_good {service : Service} {now : DateTime} {db db' : Db} {action : Action}
    (hGood : Good service db) (h : action.run service now db = .ok db') :
    db'.Sound ∧ (Loadable service db'.toTables ↔ action.Safe service db) := by
  have hSafe : ∀ {db' : Db}, Good service db' →
      db'.Sound ∧ (Loadable service db'.toTables ↔ True) :=
    fun hGood' => ⟨hGood'.sound, iff_true_intro hGood'.loadable⟩
  cases action with
  | write request =>
    apply hSafe
    cases hCommit : commitWrite service now db request with
    | error error => rw [Action.run, hCommit] at h; cases h
    | ok committed =>
      rw [Action.run, hCommit] at h
      cases h
      exact commitWrite_good hGood.sound request committed hCommit
  | updateSourceModelUserOverrides sourceId upstreamModelId overrides =>
    have hStep := updateSourceModelUserOverrides_confirming now db _ _ _ db' (mapError_ok.mp h)
    exact hSafe (hStep.good hGood)
  | confirmSourceModels sourceId confirmations =>
    have hStep := confirmSourceModels_confirming now db _ _ db' (mapError_ok.mp h)
    exact hSafe (hStep.good hGood)
  | applyDiscovery input =>
    have hStep := applyDiscovery_listed now input db db' (mapError_ok.mp h)
    exact ⟨hStep.sound hGood, hStep.loadable_iff hGood⟩
  | rejected drawn =>
    have hTables := enforce_ok (mapError_ok.mp h)
    apply hSafe
    refine ⟨by rw [hTables]; exact ⟨hGood.sound.1, hGood.sound.2, hGood.sound.3, hGood.sound.4⟩, ?_⟩
    have hLoadable := loadable_iff.mp hGood.loadable
    rw [loadable_iff, hTables]
    exact hLoadable

/-- The states a run went through, the last one included. -/
def visited (history : List (Db × Action)) (db : Db) : List Db := history.map Prod.fst ++ [db]

/-- A run in which every discovery finds no conflicting models. -/
def NoDiscoveryConflict (service : Service) (history : List (Db × Action)) : Prop :=
  ∀ db input, (db, Action.applyDiscovery input) ∈ history →
    NoModelConflict service db.toTables input

theorem noDiscoveryConflict_concat {service : Service} {history : List (Db × Action)} {db : Db}
    {action : Action} :
    NoDiscoveryConflict service (history ++ [(db, action)]) ↔
      NoDiscoveryConflict service history ∧ action.Safe service db := by
  constructor
  · intro h
    refine ⟨fun db input hMem => h db input (List.mem_append_left _ hMem), ?_⟩
    cases action with
    | applyDiscovery input => exact h db input (by simp)
    | _ => trivial
  · rintro ⟨hHistory, hLast⟩ db' input hMem
    obtain hOld | hNew := List.mem_append.mp hMem
    · exact hHistory db' input hOld
    · obtain ⟨rfl, rfl⟩ := Prod.mk.inj (List.mem_singleton.mp hNew)
      exact hLast

theorem visited_concat {history : List (Db × Action)} {db db' : Db} {action : Action} :
    visited (history ++ [(db, action)]) db' = visited history db ++ [db'] := by
  simp [visited]

theorem Run.sound_and_loadable_iff {service : Service} {start db : Db}
    {history : List (Db × Action)} (hEmpty : start.IsEmpty)
    (hRun : Run service start history db) :
    (NoDiscoveryConflict service history → db.Sound) ∧
      ((∀ state ∈ visited history db, Loadable service state.toTables) ↔
        NoDiscoveryConflict service history) := by
  induction hRun with
  | start =>
    have hGood : Good service start := good_of_isEmpty hEmpty
    refine ⟨fun _ => hGood.sound, ?_⟩
    simp [visited, NoDiscoveryConflict, hGood.loadable]
  | @step history db db' now action before next ih =>
    obtain ⟨hSound, hIff⟩ := ih
    -- up to here every state is loadable, so the step starts from a good one
    have hStep : NoDiscoveryConflict service history →
        db'.Sound ∧ (Loadable service db'.toTables ↔ action.Safe service db) := by
      intro hHistory
      have hLoadable := hIff.mpr hHistory db (by simp [visited])
      exact action.run_good ⟨hSound hHistory, hLoadable⟩ next
    rw [noDiscoveryConflict_concat]
    refine ⟨fun h => (hStep h.1).1, ?_⟩
    constructor
    · intro hAll
      rw [visited_concat] at hAll
      have hHistory := hIff.mp fun state hState => hAll state (List.mem_append_left _ hState)
      exact ⟨hHistory, (hStep hHistory).2.mp (hAll db' (by simp))⟩
    · rintro ⟨hHistory, hSafe⟩ state hState
      rw [visited_concat] at hState
      obtain hOld | hNew := List.mem_append.mp hState
      · exact hIff.mpr hHistory state hOld
      · rw [List.mem_singleton.mp hNew]
        exact (hStep hHistory).2.mpr hSafe

/-- Every state of a run from the empty control plane can be loaded exactly when
no discovery of the run makes conflicting models visible. -/
theorem committed_states_loadable_iff {service : Service} {start db : Db}
    {history : List (Db × Action)} (hEmpty : start.IsEmpty)
    (hRun : Run service start history db) :
    (∀ state ∈ visited history db, Loadable service state.toTables) ↔
      NoDiscoveryConflict service history :=
  (hRun.sound_and_loadable_iff hEmpty).2

/-! ## A relisted model -/

/-- The history and the last state of a list of actions taken at given times. -/
def perform (service : Service) (start : Db) (actions : List (DateTime × Action)) :
    Except ControlPlaneError (List (Db × Action) × Db) :=
  actions.foldlM (fun run action => do
    let db ← action.2.run service action.1 run.2
    return (run.1 ++ [(run.2, action.2)], db)) ([], start)

theorem run_of_perform {service : Service} {start : Db} {actions : List (DateTime × Action)} :
    Ensures (perform service start actions) fun run => Run service start run.1 run.2 := by
  refine ensures_foldlM (fun run hRun action _ => ?_) .start
  exact ensures_bind fun db hNext => ensures_pure (hRun.step hNext)

namespace Relisted

def service : Service where
  listenAddr := "127.0.0.1:8080"
  validateBaseUrl _ := .ok ()
  collation a b := a ≤ b
  limitOne := List.head?
  jsonError _ := ""

def start : Db where
  providerPresets := [⟨"custom", 1, "Custom", .object [], 0⟩]
  keys := by decide
  references := by decide
  checks := by decide

def source : SourceWrite :=
  { id := "s"
    displayName := "s"
    baseUrl := "https://upstream"
    endpoints := Table.empty.insert .openAiChatCompletions "/v1/chat/completions"
    protocolCapabilities := .object [] }

def listing (models : List String) : Action :=
  .applyDiscovery
    { sourceId := "s"
      accountId := none
      rawSnapshot := .object []
      models := models.map fun model => ⟨"s", model, .object [], .empty, none, none, 0⟩
      httpStatus := 200
      latencyMs := 0
      startedAt := 0
      completedAt := 0 }

def capability (model : String) : Write :=
  .upsertSourceModelCapability
    ⟨"s", model, .openAiChatCompletions, .confirmed, .native, none, none, .empty, .user, 0⟩

def binding (model : String) : Write :=
  .createModelBinding ⟨"l", "s", "a", model, .openAiChatCompletions, .confirmed, true, 0⟩

/-- One account, two confirmed models, and a route over the first of them. -/
def served : List Action :=
  [.write (.createSource source),
    .write (.createAccount
      { id := "a", sourceId := "s", displayName := "a", credentialEnv := some "KEY" }),
    listing ["m", "n"],
    .confirmSourceModels "s" [⟨"m", .empty⟩, ⟨"n", .empty⟩],
    .write (capability "m"),
    .write (capability "n"),
    .write (.createLogicalModel
      { id := "l", publicName := "p", displayName := "p", status := .confirmed }),
    .write (binding "m"),
    .write (.createRoute
      { id := "r", logicalModelId := "l", protocols := [.openAiChatCompletions] })]

/-- The first model disappears, the second takes its place, and the first is
listed again. -/
def relisted : List Action :=
  served ++ [listing ["n"], .write (binding "n"), listing ["m", "n"]]

end Relisted

theorem committed_states_loadable_iff_served :
    ∃ history db, Run Relisted.service Relisted.start history db ∧ db.routes.length = 1 ∧
      ((∀ state ∈ visited history db, Loadable Relisted.service state.toTables) ↔
        NoDiscoveryConflict Relisted.service history) := by
  obtain ⟨run, hRun, hRoutes⟩ := exists_of_succeeds (show succeeds
      (perform Relisted.service Relisted.start (Relisted.served.map fun action => (0, action)))
      (fun run => run.2.routes.length = 1) = true by decide)
  have hRun := run_of_perform run hRun
  exact ⟨run.1, run.2, hRun, by simpa using hRoutes,
    committed_states_loadable_iff (by constructor <;> rfl) hRun⟩

/-- Listing a model again brings back a binding that conflicts with the one
created meanwhile. -/
theorem relisted_not_loadable :
    ∃ history db, Relisted.start.IsEmpty ∧ Run Relisted.service Relisted.start history db ∧
      ¬ Loadable Relisted.service db.toTables := by
  obtain ⟨run, hRun, hFails⟩ := exists_of_succeeds (show succeeds
      (perform Relisted.service Relisted.start (Relisted.relisted.map fun action => (0, action)))
      (fun run => !(loadSnapshot Relisted.service run.2.toTables).isOk) = true by decide)
  refine ⟨run.1, run.2, by constructor <;> rfl, run_of_perform run hRun, ?_⟩
  rintro ⟨snapshot, hLoads⟩
  rw [hLoads] at hFails
  cases hFails

end AiGateway.ControlPlane
